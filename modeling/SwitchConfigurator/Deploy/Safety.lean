import SwitchConfigurator.Deploy.Discipline

/-!
# Deployments that can be relied on

Over every run of a deployment: the discipline that it keeps to, what its result says about the
switch, and that a dry run leaves the switch as it was.
-/

namespace SwitchConfigurator.Deploy

open Dialogue

section Phases

variable {hardwareWarnings : List Char → List String} {lowercase : List Char → List Char}
variable {printable : Char → Bool} {switch read : VendorSwitch} {current : SwitchState}
variable {purpose : Purpose} {tr : List Exchange}

/-- Reading the state gives commands of reading only. -/
theorem given_reads {r : Except String (VendorSwitch × SwitchState)}
    (h : Run (stateToChange hardwareWarnings switch) tr r) (hpurpose : purpose ≠ .read) :
    given purpose tr = [] := by
  refine given_eq_nil fun call hcall command heq => ?_
  obtain ⟨command', -, rfl⟩ := calls_of_gives gives_stateToChange h call hcall
  cases heq
  exact hpurpose rfl

theorem given_rereads {r : Except String (VendorSwitch × SwitchState)}
    (h : Run (parseCurrentState hardwareWarnings read) tr r) (hpurpose : purpose ≠ .read) :
    given purpose tr = [] := by
  refine given_eq_nil fun call hcall command heq => ?_
  obtain ⟨command', -, rfl⟩ := calls_of_gives gives_parseCurrentState h call hcall
  cases heq
  exact hpurpose rfl

/-- Writing gives lines of the apply only. -/
theorem given_lines {lines : Steps String} {r : Except String (List (List String))}
    (h : Run (applySteps lines) tr r) (hpurpose : purpose ≠ .apply) : given purpose tr = [] := by
  refine given_eq_nil fun call hcall command heq => ?_
  obtain ⟨command', -, rfl⟩ := calls_of_gives (gives_applySteps lines) h call hcall
  cases heq
  exact hpurpose rfl

/-- Testing gives commands of tests only. -/
theorem given_tests (h : ∀ call ∈ calls tr, IsTest call) (hpurpose : purpose ≠ .test) :
    given purpose tr = [] := by
  refine given_eq_nil fun call hcall command heq => ?_
  have htest := h call hcall
  rw [heq] at htest
  exact hpurpose htest

/-- A rollback gives its own commands only. -/
theorem given_rollback {method : RollbackMethod} {r : Except String Unit}
    (h : Run (rollbackConfiguration switch method) tr r) (hpurpose : purpose ≠ .rollback) :
    given purpose tr = [] := by
  refine given_eq_nil fun call hcall command heq => ?_
  obtain ⟨command', -, rfl⟩ := calls_of_gives gives_rollbackConfiguration h call hcall
  cases heq
  exact hpurpose rfl

/-- So does a save. -/
theorem given_save {r : Except String Unit} (h : Run (saveConfiguration switch) tr r)
    (hpurpose : purpose ≠ .save) : given purpose tr = [] := by
  obtain ⟨command, output, rfl, -⟩ := run_saveConfiguration h
  refine given_eq_nil fun call hcall command heq => ?_
  obtain rfl := List.mem_singleton.mp hcall
  cases heq
  exact hpurpose rfl

/-- The commands of a phase of the apply are the first of its lines, or all of them. -/
theorem given_apply {lines : Steps String} {r : Except String (List (List String))}
    (h : Run (applySteps lines) tr r) : given .apply tr <+: lines.sent ∧
      ∀ results, r = .ok results → given .apply tr = lines.sent := by
  obtain ⟨sent, hcalls, hleading, hwhole⟩ := gives_applySteps lines tr r h
  rw [given_eq_of_calls hcalls]
  exact ⟨hleading, hwhole⟩

end Phases

/-! ## Discipline -/

section Discipline

variable (hardwareWarnings : List Char → List String) (lowercase : List Char → List Char)
variable (printable : Char → Bool) (switch : VendorSwitch) (dryRun : Bool)

/-- The state was read, and all the lines that its difference needs were taken. -/
structure Completed (reads lines : List Exchange) : Prop where
  whole : ∃ read current, ReadState hardwareWarnings switch reads read current ∧
    given .apply lines = (steps read (diffOf read current)).sent
  taken : ∀ e ∈ lines, accepted e = true

/-- What a run keeps to, whatever it is answered. -/
structure Disciplined (tr : List Exchange) (outcome : Except String Unit) : Prop where
  written : given .apply tr ≠ [] → ∃ reads rest read current,
    tr = ⟨.connect, .ok ()⟩ :: (reads ++ rest) ∧
      ReadState hardwareWarnings switch reads read current ∧
      given .apply tr <+: (steps read (diffOf read current)).sent
  saved : given .save tr ≠ [] → dryRun = false ∧ given .rollback tr = [] ∧
    ∃ reads lines rereads tests command output bye,
      tr = ⟨.connect, .ok ()⟩ :: (reads ++ lines ++ rereads ++ tests ++
        [⟨.execute .save command, output⟩] ++ [⟨.disconnect, bye⟩]) ∧
      Completed hardwareWarnings switch reads lines ∧
      Approved lowercase printable switch tests ∧ (outcome = .ok () ↔ ∃ text, output = .ok text)
  rolledBack : given .rollback tr ≠ [] → dryRun = false ∧ given .save tr = [] ∧
    outcome = .error "Validation failed" ∧
    ∃ reads lines rereads tests closing bye,
      tr = ⟨.connect, .ok ()⟩ :: (reads ++ lines ++ rereads ++ tests ++ closing ++
        [⟨.disconnect, bye⟩]) ∧
      Completed hardwareWarnings switch reads lines ∧
      Failed lowercase printable switch .rollback tests

end Discipline

section Runs

variable {hardwareWarnings : List Char → List String} {lowercase : List Char → List Char}
variable {printable : Char → Bool} {switch : VendorSwitch} {dryRun : Bool}
variable {tr session reads lines rereads tests closing : List Exchange}
variable {outcome : Except String Unit}

/-- To connect and disconnect gives nothing. -/
theorem given_session {purpose : Purpose} {connected bye : Except String Unit} :
    given purpose (⟨.connect, connected⟩ :: (session ++ [⟨.disconnect, bye⟩])) =
      given purpose session := by
  show given purpose (session ++ [⟨.disconnect, bye⟩]) = _
  rw [given_append]
  exact List.append_nil _

/-- What is given of a session that applies the lines, for a purpose behind the apply. -/
theorem given_applied (closing : List Exchange) {read : VendorSwitch} {current : SwitchState}
    {results : List (List String)} {r : Except String (VendorSwitch × SwitchState)}
    (hread : ReadState hardwareWarnings switch reads read current)
    (happly : Run (applySteps (steps read (diffOf read current))) lines (.ok results))
    (hreread : Run (parseCurrentState hardwareWarnings read) rereads r)
    (htests : ∀ call ∈ calls tests, IsTest call) :
    (∀ purpose, purpose = .save ∨ purpose = .rollback →
      given purpose (reads ++ lines ++ rereads ++ tests ++ closing) = given purpose closing) ∧
    given .apply (reads ++ lines ++ rereads ++ tests ++ closing) =
      (steps read (diffOf read current)).sent ++ given .apply closing := by
  simp only [given_append]
  constructor
  · intro purpose hpurpose
    rw [given_reads hread, given_lines happly, given_rereads hreread, given_tests htests]
    · rfl
    all_goals
      rintro rfl
      rcases hpurpose with h | h <;> cases h
  · rw [given_reads hread (by decide), given_rereads hreread (by decide),
      given_tests htests (by decide), (given_apply happly).2 results rfl]
    simp

/-- An apply that comes out well has written every line. -/
theorem completed_of_run {read : VendorSwitch} {current : SwitchState}
    {results : List (List String)} (hread : ReadState hardwareWarnings switch reads read current)
    (happly : Run (applySteps (steps read (diffOf read current))) lines (.ok results)) :
    Completed hardwareWarnings switch reads lines :=
  ⟨⟨read, current, hread, (given_apply happly).2 results rfl⟩, (applySteps_ok happly).2⟩

theorem Concluded.isTest (h : Concluded lowercase printable switch dryRun tests closing outcome) :
    ∀ call ∈ calls tests, IsTest call := by
  cases h with
  | saved hdry htests hsave => exact htests.isTest
  | rolledBack hdry htests hrollback => exact htests.isTest
  | left hdry htests => exact htests.isTest
  | dry hdry => exact fun call hcall => absurd hcall List.not_mem_nil

/-- Nothing is applied behind the tests. -/
theorem Concluded.given_apply (h :
    Concluded lowercase printable switch dryRun tests closing outcome) :
    given .apply closing = [] := by
  cases h with
  | saved hdry htests hsave => exact given_save hsave (by decide)
  | rolledBack hdry htests hrollback => exact given_rollback hrollback (by decide)
  | left hdry htests => rfl
  | dry hdry => rfl

/-- A session that never gets behind its apply. -/
theorem disciplined_of_unsaved {rest : List Exchange} {read : VendorSwitch}
    {current : SwitchState} {bye : Except String Unit}
    (hread : ReadState hardwareWarnings switch reads read current)
    (happly : given .apply rest <+: (steps read (diffOf read current)).sent)
    (hsave : given .save rest = []) (hrollback : given .rollback rest = []) :
    Disciplined hardwareWarnings lowercase printable switch dryRun
      (⟨.connect, .ok ()⟩ :: (reads ++ rest ++ [⟨.disconnect, bye⟩])) outcome where
  written _ := by
    refine ⟨reads, rest ++ [⟨.disconnect, bye⟩], read, current, ?_, hread, ?_⟩
    · rw [List.append_assoc]
    · rwa [given_session, given_append, given_reads hread (by decide)]
  saved h := by
    rw [given_session, given_append, given_reads hread (by decide), hsave] at h
    exact absurd rfl h
  rolledBack h := by
    rw [given_session, given_append, given_reads hread (by decide), hrollback] at h
    exact absurd rfl h

/-- If the state cannot be read nothing is written. -/
theorem disciplined_of_unread {e : String} {bye : Except String Unit}
    (hread : Run (stateToChange hardwareWarnings switch) reads (.error e)) :
    Disciplined hardwareWarnings lowercase printable switch dryRun
      (⟨.connect, .ok ()⟩ :: (reads ++ [⟨.disconnect, bye⟩])) outcome where
  written h := by
    rw [given_session, given_reads hread (by decide)] at h
    exact absurd rfl h
  saved h := by
    rw [given_session, given_reads hread (by decide)] at h
    exact absurd rfl h
  rolledBack h := by
    rw [given_session, given_reads hread (by decide)] at h
    exact absurd rfl h

/-- If it can, all that is written belongs to the difference. -/
theorem disciplined_of_applied {read : VendorSwitch} {current : SwitchState}
    {results : List (List String)} {r : Except String (VendorSwitch × SwitchState)}
    {bye : Except String Unit} (hread : ReadState hardwareWarnings switch reads read current)
    (happly : Run (applySteps (steps read (diffOf read current))) lines (.ok results))
    (hreread : Run (parseCurrentState hardwareWarnings read) rereads r)
    (hrest : Concluded lowercase printable switch dryRun tests closing outcome) :
    Disciplined hardwareWarnings lowercase printable switch dryRun
      (⟨.connect, .ok ()⟩ :: (reads ++ lines ++ rereads ++ tests ++ closing ++
        [⟨.disconnect, bye⟩])) outcome := by
  obtain ⟨hlater, happlied⟩ := given_applied closing hread happly hreread hrest.isTest
  have hcompleted := completed_of_run hread happly
  refine ⟨fun _ => ?_, fun hsave => ?_, fun hroll => ?_⟩
  · refine ⟨reads, lines ++ rereads ++ tests ++ closing ++ [⟨.disconnect, bye⟩], read, current,
      by simp only [List.append_assoc], hread, ?_⟩
    rw [given_session, happlied, hrest.given_apply, List.append_nil]
  -- a save can only come after the apply
  · rw [given_session, hlater .save (.inl rfl)] at hsave
    cases hrest with
    | saved hdry htests hrun =>
      obtain ⟨command, output, rfl, hr⟩ := run_saveConfiguration hrun
      refine ⟨hdry, ?_, reads, lines, rereads, tests, command, output, bye, rfl, hcompleted,
        htests, ?_⟩
      · rw [given_session, hlater .rollback (.inr rfl)]
        rfl
      · rw [hr]
        cases output with
        | error message => exact iff_of_false (fun h => by cases h) fun ⟨_, h⟩ => by cases h
        | ok text => exact iff_of_true rfl ⟨text, rfl⟩
    | rolledBack hdry htests hrollback =>
      rw [given_rollback hrollback (by decide)] at hsave
      exact absurd rfl hsave
    | left hdry htests => exact absurd rfl hsave
    | dry hdry => exact absurd rfl hsave
  -- so can a rollback, and only where the tests failed
  · rw [given_session, hlater .rollback (.inr rfl)] at hroll
    cases hrest with
    | saved hdry htests hrun =>
      rw [given_save hrun (by decide)] at hroll
      exact absurd rfl hroll
    | rolledBack hdry htests hrollback =>
      refine ⟨hdry, ?_, rfl, reads, lines, rereads, tests, closing, bye, rfl, hcompleted, htests⟩
      rw [given_session, hlater .save (.inl rfl)]
      exact given_rollback hrollback (by decide)
    | left hdry htests => exact absurd rfl hroll
    | dry hdry => exact absurd rfl hroll

end Runs

/-- Over every run of a deployment: what is written are the lines for the difference that was read,
one behind the other; it is saved only behind all of them, taken one by one, and behind tests that
allow it; and it is rolled back only behind tests that ask for it, and then never saved. -/
theorem deployment_disciplined {hardwareWarnings : List Char → List String}
    {lowercase : List Char → List Char} {printable : Char → Bool} {switch : VendorSwitch}
    {dryRun : Bool} {tr : List Exchange} {outcome : Except String Unit}
    (h : Run (configureSwitchOnce hardwareWarnings lowercase printable switch dryRun) tr outcome) :
    Disciplined hardwareWarnings lowercase printable switch dryRun tr outcome := by
  rcases run_configureSwitchOnce h with ⟨message, rfl, rfl⟩ | ⟨session, bye, rfl, hsession⟩
  · exact ⟨fun h => absurd rfl h, fun h => absurd rfl h, fun h => absurd rfl h⟩
  cases hsession with
  | unread hread => exact disciplined_of_unread hread
  | unchanged hread hdiff =>
    rw [← List.append_nil session]
    exact disciplined_of_unsaved hread List.nil_prefix rfl rfl
  | broken hread happly =>
    exact disciplined_of_unsaved hread (given_apply happly).1 (given_lines happly (by decide))
      (given_lines happly (by decide))
  | idle hread hdiff hsteps hreread =>
    refine disciplined_of_unsaved hread ?_ (given_rereads hreread (by decide))
      (given_rereads hreread (by decide))
    rw [given_rereads hreread (by decide)]
    exact List.nil_prefix
  | applied hread hdiff happly hresults hreread hrest =>
    exact disciplined_of_applied hread happly hreread hrest

/-- A switch that lacks a VLAN, takes every command and passes its test. -/
def edge : VendorSwitch := .aruba { config :=
  { id := "edge"
    hostname := some "edge1"
    vlans := [{ id := 1, name := "DEFAULT_VLAN" }, { id := 10, name := "office" }]
    validation := some
      { enabled := true
        timeout := 60
        tests := [⟨.commandExecution "show version", 10, true⟩] } } }

def taking : List Exchange → (call : Call) → Answer call
  | _, .execute .read "show running-config" => .ok "vlan 1\n   name \"DEFAULT_VLAN\"\n   exit\n"
  | _, .execute .test _ => .ok "Image stamp"
  | _, .execute _ _ => .ok ""
  | _, .ping _ _ => .error ""
  | _, .resolve _ => .ok none
  | _, .tcpConnect _ => .error ""
  | _, .overtime _ => false
  | _, .connect | _, .disconnect => .ok ()

def edgeRun (dryRun : Bool) : List Exchange × Except String Unit :=
  exec taking [] (configureSwitchOnce (fun _ => []) id (fun _ => true) edge dryRun)

theorem deployment_disciplined_edge : given .save (edgeRun false).1 = ["write memory"] ∧
    given .rollback (edgeRun false).1 = [] := by
  have hsave : given .save (edgeRun false).1 = ["write memory"] := by decide +kernel
  have hdisciplined := deployment_disciplined (run_exec taking []
    (configureSwitchOnce (fun _ => []) id (fun _ => true) edge false))
  exact ⟨hsave, (hdisciplined.saved (by decide +kernel)).2.1⟩

/-! ## What is reported -/

section Reported

variable (hardwareWarnings : List Char → List String) (switch : VendorSwitch) (dryRun : Bool)

/-- A success means that the switch has the configuration, as far as it told. Where nothing was to
be done nothing was; or all lines were taken one by one, the state was read again, whatever came of
that, and outside of a dry run it was saved. -/
def Settled (tr : List Exchange) : Prop :=
  ∃ reads rest read current, tr = ⟨.connect, .ok ()⟩ :: (reads ++ rest) ∧
    ReadState hardwareWarnings switch reads read current ∧
    ((diffOf read current).hasChanges = false → ∃ bye, rest = [⟨.disconnect, bye⟩]) ∧
    ((diffOf read current).hasChanges = true → ∃ lines rereads later reread,
      rest = lines ++ rereads ++ later ∧
      calls lines = (steps read (diffOf read current)).sent.map (.execute .apply) ∧
      (∀ e ∈ lines, accepted e = true) ∧
      Run (parseCurrentState hardwareWarnings read) rereads reread ∧
      given .apply later = [] ∧
      (∀ e ∈ later, accepted e = false → ∃ command, e.1 = .execute .test command) ∧
      (steps read (diffOf read current) ≠ [] → dryRun = false →
        given .save later = switch.saveCommands))

end Reported

section Runs

variable {hardwareWarnings : List Char → List String} {lowercase : List Char → List Char}
variable {printable : Char → Bool} {switch : VendorSwitch} {dryRun : Bool}
variable {tr session reads lines rereads tests closing : List Exchange}
variable {outcome : Except String Unit}

/-- A call that neither opens nor closes a session. -/
def InSession (call : Call) : Prop := call ≠ .connect ∧ call ≠ .disconnect

end Runs

/-- All that is given to the client. -/
def commands (tr : List Exchange) : List String :=
  (calls tr).filterMap fun call =>
    match call with
    | .execute _ command => some command
    | _ => none

theorem Steps.sent_map {α β : Type} {f : α → β} (steps : Steps α) :
    Steps.sent (steps.map (Except.map (List.map f))) = (Steps.sent steps).map f := by
  induction steps with
  | nil => rfl
  | cons step steps ih =>
    cases step with
    | error e => rfl
    | ok commands =>
      show commands.map f ++ Steps.sent (steps.map (Except.map (List.map f))) = _
      rw [ih, ← List.map_append]
      rfl

/-- What is sent for a difference is what the preview of the vendor's apply renders. -/
theorem sent_steps (switch : VendorSwitch) (diff : StateDiff) :
    (steps switch diff).sent = (switch.applyCommands diff).map Cli.render := by
  cases switch <;> rw [steps, VendorSwitch.applyCommands, Steps.sent_map, List.map_map] <;> rfl

section DryRuns

variable {hardwareWarnings : List Char → List String} {lowercase : List Char → List Char}
variable {printable : Char → Bool} {switch : VendorSwitch} {sends : String → Bool}
variable {tr session : List Exchange} {outcome : Except String Unit}

/-- A call of a dry run: what it gives to the client is held back there, or is neutral. -/
def Inert : Call → Prop
  | .execute purpose command => (purpose = .read ∨ purpose = .apply) ∧
    (serialSends command = true → Neutral command)
  | _ => False

/-- Reading is inert. -/
theorem inert_of_reads {α : Type} {p : Session α} {r : Except String α}
    (hgives : Gives .read (switch.readCommands .currentState) p) (h : Run p tr r) :
    ∀ call ∈ calls tr, Inert call := by
  intro call hcall
  obtain ⟨command, hcommand, rfl⟩ := calls_of_gives hgives h call hcall
  exact ⟨.inl rfl, neutral_readCommands switch .currentState command hcommand⟩

/-- Lines of an apply are inert in a dry run. -/
theorem inert_of_lines {diff : StateDiff} {r : Except String (List (List String))}
    (h : Run (applySteps (steps switch diff)) tr r) : ∀ call ∈ calls tr, Inert call := by
  intro call hcall
  obtain ⟨command, hcommand, rfl⟩ := calls_of_gives (gives_applySteps _) h call hcall
  rw [sent_steps] at hcommand
  obtain ⟨words, hwords, rfl⟩ := List.mem_map.mp hcommand
  exact ⟨.inr rfl, (switch.written_applyCommands diff words hwords).neutral⟩

/-- All of a dry run is inert. -/
theorem inert_of_conducted
    (h : Conducted hardwareWarnings lowercase printable switch true session outcome) :
    ∀ call ∈ calls session, Inert call := by
  have happend : ∀ {tr₁ tr₂ : List Exchange}, (∀ call ∈ calls tr₁, Inert call) →
      (∀ call ∈ calls tr₂, Inert call) → ∀ call ∈ calls (tr₁ ++ tr₂), Inert call := by
    intro tr₁ tr₂ h₁ h₂ call hcall
    rw [calls_append] at hcall
    exact (List.mem_append.mp hcall).elim (h₁ call) (h₂ call)
  cases h with
  | unread hread => exact inert_of_reads gives_stateToChange hread
  | unchanged hread hdiff => exact inert_of_reads gives_stateToChange hread
  | broken hread happly =>
    exact happend (inert_of_reads gives_stateToChange hread) (inert_of_lines happly)
  | idle hread hdiff hsteps hreread =>
    exact happend (inert_of_reads gives_stateToChange hread)
      (inert_of_reads gives_parseCurrentState hreread)
  | applied hread hdiff happly hresults hreread hrest =>
    cases hrest with
    | saved hdry htests hsave => cases hdry
    | rolledBack hdry htests hrollback => cases hdry
    | left hdry htests => cases hdry
    | dry hdry =>
      rw [List.append_nil, List.append_nil]
      exact happend (happend (inert_of_reads gives_stateToChange hread) (inert_of_lines happly))
        (inert_of_reads gives_parseCurrentState hreread)

/-- Inert commands leave the switch as it was. -/
theorem harmless_of_inert (hsends : Strict sends) (h : ∀ call ∈ calls tr, call = .connect ∨
    call = .disconnect ∨ Inert call) : Harmless sends (commands tr) := by
  refine harmless_of_neutral fun command hcommand hsent => ?_
  obtain ⟨call, hcall, heq⟩ := List.mem_filterMap.mp hcommand
  rcases h call hcall with rfl | rfl | hinert
  · cases heq
  · cases heq
  · cases call with
    | execute purpose command' =>
      obtain rfl := Option.some.inj heq
      exact hinert.2 (hsends _ hsent)
    | _ => cases hinert

end DryRuns

/-- A dry run of a deployment gives nothing to the client but what reads and what would be applied,
and what its gate lets through of all this, with what connects, leads a switch that stands at its
prompt back there with its configuration unchanged; whatever it answers, on both connections. -/
theorem dryRun_deployment_harmless {hardwareWarnings : List Char → List String}
    {lowercase : List Char → List Char} {printable : Char → Bool} {switch : VendorSwitch}
    {tr : List Exchange} {outcome : Except String Unit}
    (h : Run (configureSwitchOnce hardwareWarnings lowercase printable switch true) tr outcome) :
    (∀ call ∈ calls tr, call = .connect ∨ call = .disconnect ∨
      ∃ command, call = .execute .read command ∨ call = .execute .apply command) ∧
    Harmless sshSends (switch.connectCommands ++ commands tr) ∧
    Harmless serialSends (switch.connectCommands ++ commands tr) := by
  have hcalls : ∀ call ∈ calls tr, call = .connect ∨ call = .disconnect ∨ Inert call := by
    rcases run_configureSwitchOnce h with ⟨message, rfl, rfl⟩ | ⟨session, bye, rfl, hsession⟩
    · intro call hcall
      exact .inl (List.mem_singleton.mp hcall)
    · intro call hcall
      rw [calls_cons, calls_append] at hcall
      rcases List.mem_cons.mp hcall with rfl | hcall
      · exact .inl rfl
      rcases List.mem_append.mp hcall with hcall | hcall
      · exact .inr (.inr (inert_of_conducted hsession call hcall))
      · exact .inr (.inl (List.mem_singleton.mp hcall))
  refine ⟨fun call hcall => ?_, ?_, ?_⟩
  · refine (hcalls call hcall).imp_right (Or.imp_right fun hinert => ?_)
    cases call with
    | execute purpose command =>
      refine ⟨command, hinert.1.imp (fun h => ?_) fun h => ?_⟩
      · rw [h]
      · rw [h]
    | _ => cases hinert
  · exact (harmless_connect (by decide)).append (harmless_of_inert strict_sshSends hcalls)
  · exact (harmless_connect (by decide)).append (harmless_of_inert strict_serialSends hcalls)

theorem dryRun_deployment_harmless_edge :
    Harmless serialSends (edge.connectCommands ++ commands (edgeRun true).1) :=
  (dryRun_deployment_harmless (run_exec taking []
    (configureSwitchOnce (fun _ => []) id (fun _ => true) edge true))).2.2

end SwitchConfigurator.Deploy
