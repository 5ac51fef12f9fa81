import SwitchConfigurator.Deploy.Once

/-!
# The phases of a deployment

What a run of each operation gives to the client, whatever is answered, and of what phases a whole
deployment is made up.
-/

namespace SwitchConfigurator.Deploy

open Dialogue

/-! ## Commands in order -/

def calls (tr : List Exchange) : List Call := tr.map Sigma.fst

@[simp] theorem calls_nil : calls [] = [] := rfl

@[simp] theorem calls_append (tr₁ tr₂ : List Exchange) :
    calls (tr₁ ++ tr₂) = calls tr₁ ++ calls tr₂ := List.map_append

@[simp] theorem calls_cons (e : Exchange) (tr : List Exchange) :
    calls (e :: tr) = e.1 :: calls tr := rfl

/-- A command is sent once, and the session goes on with its output or fails. -/
theorem run_execute_iff {error : String → String} {purpose : Purpose} {command : String}
    {tr : List Exchange} {r : Except String String} : Run (execute error purpose command) tr r ↔
      ∃ output : Except String String,
        tr = [⟨.execute purpose command, output⟩] ∧ r = output.mapError error := by
  rw [execute, run_ask_iff]
  constructor
  · rintro ⟨output, tr', rfl, h⟩
    obtain ⟨rfl, rfl⟩ := run_ofExcept_iff.mp h
    exact ⟨output, rfl, rfl⟩
  · rintro ⟨output, rfl, rfl⟩
    exact ⟨output, [], rfl, run_ofExcept_iff.mpr ⟨rfl, rfl⟩⟩

/-- The commands are given to the client in this order, up to an error. -/
def Gives {α : Type} (purpose : Purpose) (commands : List String) (p : Session α) : Prop :=
  ∀ tr r, Run p tr r → ∃ sent, calls tr = sent.map (.execute purpose) ∧ sent <+: commands ∧
    ∀ a, r = .ok a → sent = commands

section Gives

variable {α β : Type} {purpose : Purpose} {commands commands' : List String}

theorem gives_pure (a : α) : Gives purpose [] (pure a : Session α) := by
  intro tr r h
  obtain ⟨rfl, rfl⟩ := run_pure_iff.mp h
  exact ⟨[], rfl, List.prefix_rfl, fun _ _ => rfl⟩

theorem gives_execute {error : String → String} {command : String} :
    Gives purpose [command] (execute error purpose command) := by
  intro tr r h
  obtain ⟨output, rfl, -⟩ := run_execute_iff.mp h
  exact ⟨[command], rfl, List.prefix_rfl, fun _ _ => rfl⟩

/-- What two parts give is given in order. -/
theorem Gives.bind {p : Session β} {f : β → Session α} (hp : Gives purpose commands p)
    (hf : ∀ b, Gives purpose commands' (f b)) : Gives purpose (commands ++ commands') (p >>= f) :=
      by
  intro tr r h
  rcases run_bind_iff.mp h with ⟨e, hrun, rfl⟩ | ⟨b, tr₁, tr₂, rfl, hrun, hrest⟩
  · obtain ⟨sent, hcalls, hleading, -⟩ := hp tr _ hrun
    exact ⟨sent, hcalls, hleading.trans (List.prefix_append _ _), fun _ hr => by cases hr⟩
  · obtain ⟨sent, hcalls, -, hwhole⟩ := hp tr₁ _ hrun
    obtain rfl := hwhole b rfl
    obtain ⟨sent', hcalls', hleading', hwhole'⟩ := hf b tr₂ _ hrest
    refine ⟨sent ++ sent', ?_, (List.prefix_append_right_inj _).mpr hleading', fun a hr => ?_⟩
    · rw [calls_append, hcalls, hcalls', List.map_append]
    · rw [hwhole' a hr]

theorem Gives.map {p : Session β} {f : β → α} (hp : Gives purpose commands p) :
    Gives purpose commands (p >>= fun b => pure (f b)) := by
  have hbind : Gives purpose (commands ++ []) (p >>= fun b => pure (f b)) :=
    hp.bind fun b => gives_pure (f b)
  rwa [List.append_nil] at hbind

/-- One command is given whatever comes of it. -/
theorem gives_attempt {p : Session β} {f : Except String β → Session α} {command : String}
    (hp : ∀ tr r, Run p tr r → calls tr = [.execute purpose command])
    (hf : ∀ b, Gives purpose commands (f b)) :
    Gives purpose (command :: commands) (p.attempt >>= f) := by
  have hattempt : Gives purpose [command] (p.attempt (E := String)) := by
    intro tr r h
    obtain ⟨r', hrun, rfl⟩ := run_attempt_iff.mp h
    exact ⟨[command], hp tr r' hrun, List.prefix_rfl, fun _ _ => rfl⟩
  exact hattempt.bind hf

/-- Commands are given one after another. -/
theorem gives_executeCommands (commands : List String) :
    Gives purpose commands (executeCommands purpose commands) := by
  induction commands with
  | nil => exact gives_pure ()
  | cons command commands ih => exact gives_execute.bind fun _ => ih

end Gives

/-! ## Reading -/

section Reading

variable {hardwareWarnings : List Char → List String} {switch : VendorSwitch}

theorem gives_read {command : String} : Gives .read [command] (read command) := gives_execute.map

theorem calls_read {command : String} {tr : List Exchange} {r : Except String (List Char)}
    (h : Run (read command) tr r) : calls tr = [.execute .read command] := by
  rcases run_bind_iff.mp h with ⟨e, hrun, -⟩ | ⟨output, tr₁, tr₂, rfl, hrun, hrest⟩
  · obtain ⟨output, rfl, -⟩ := run_execute_iff.mp hrun
    rfl
  · obtain ⟨output, rfl, -⟩ := run_execute_iff.mp hrun
    obtain ⟨rfl, -⟩ := run_pure_iff.mp hrest
    rfl

theorem gives_readOr {fallback : List Char} {command : String} :
    Gives .read [command] (readOr fallback command) := by
  refine gives_attempt (fun _ _ => calls_read) fun text => ?_
  cases text <;> exact gives_pure _

theorem gives_detectHardwareModel :
    Gives .read ["get system status"] (detectHardwareModel hardwareWarnings) := by
  refine gives_attempt (fun _ _ => calls_read) fun status => ?_
  cases status <;> exact gives_pure _

/-- A FortiSwitch is read block by block. -/
theorem gives_getRunningConfigBlocks :
    Gives .read (fortiswitchBlocks.dropLast) getRunningConfigBlocks := by
  refine gives_read.bind fun _ => gives_read.bind fun _ => gives_read.bind fun _ => ?_
  refine gives_read.bind fun _ => gives_read.bind fun _ => gives_read.bind fun _ => ?_
  exact gives_read.bind fun _ => gives_readOr.map

/-- The state is read with the commands that read it. -/
theorem gives_parseCurrentState : Gives .read (switch.readCommands .currentState)
    (parseCurrentState hardwareWarnings switch) := by
  cases switch with
  | aruba switch => exact gives_read.bind fun _ => gives_read.map
  | cisco switch => exact gives_read.map
  | fortiswitch switch =>
    exact gives_getRunningConfigBlocks.bind fun _ => gives_detectHardwareModel.map

end Reading

/-! ## Applying -/

/-- Was the command taken? -/
def accepted : Exchange → Bool
  | ⟨.execute _ _, output⟩ => output.isOk
  | _ => true

section Applying

variable {purpose : Purpose} {commands : List String} {tr : List Exchange} {r : Except String Unit}

theorem isOk_of_mapError_ok {α : Type} {x : Except String α} {error : String → String} {a : α}
    (h : x.mapError error = .ok a) : x = .ok a := by
  cases x with
  | error e => cases h
  | ok b => exact h

/-- If commands come out well, each of them was taken. -/
theorem accepted_of_executeCommands (h : Run (executeCommands purpose commands) tr (.ok ())) :
    ∀ e ∈ tr, accepted e = true := by
  induction commands generalizing tr with
  | nil =>
    obtain ⟨rfl, -⟩ := run_pure_iff.mp h
    exact fun _ he => absurd he List.not_mem_nil
  | cons command commands ih =>
    rcases run_bind_iff.mp h with ⟨e, -, hr⟩ | ⟨text, tr₁, tr₂, rfl, hrun, hrest⟩
    · cases hr
    · obtain ⟨output, rfl, houtput⟩ := run_execute_iff.mp hrun
      rintro e (- | he)
      · rw [accepted, isOk_of_mapError_ok houtput.symm]
        rfl
      · exact ih hrest e (by assumption)

/-- Steps give what they send. -/
theorem gives_applySteps (steps : Steps String) : Gives .apply steps.sent (applySteps steps) := by
  induction steps with
  | nil => exact gives_pure []
  | cons step steps ih =>
    cases step with
    | error e =>
      intro tr r h
      obtain ⟨rfl, rfl⟩ := run_fail_iff.mp h
      exact ⟨[], rfl, List.prefix_rfl, fun _ hr => by cases hr⟩
    | ok commands => exact (gives_executeCommands commands).bind fun _ => ih.map

/-- An apply is through when all its steps are, and every command was taken. -/
theorem applySteps_ok {steps : Steps String} {results : List (List String)}
    (h : Run (applySteps steps) tr (.ok results)) :
    steps = results.map .ok ∧ ∀ e ∈ tr, accepted e = true := by
  induction steps generalizing tr results with
  | nil =>
    obtain ⟨rfl, hr⟩ := run_pure_iff.mp h
    obtain rfl := Except.ok.inj hr
    exact ⟨rfl, fun _ he => absurd he List.not_mem_nil⟩
  | cons step steps ih =>
    cases step with
    | error e =>
      obtain ⟨-, hr⟩ := run_fail_iff.mp h
      cases hr
    | ok commands =>
      rcases run_bind_iff.mp h with ⟨e, -, hr⟩ | ⟨_, tr₁, tr₂, rfl, hfirst, hrest⟩
      · cases hr
      rcases run_bind_iff.mp hrest with ⟨e, -, hr⟩ | ⟨results', tr₃, tr₄, rfl, hlater, hpure⟩
      · cases hr
      obtain ⟨rfl, hr⟩ := run_pure_iff.mp hpure
      obtain rfl := Except.ok.inj hr
      obtain ⟨rfl, haccepted⟩ := ih hlater
      refine ⟨rfl, fun e he => ?_⟩
      rw [List.append_nil] at he
      rcases List.mem_append.mp he with he | he
      · exact accepted_of_executeCommands hfirst e he
      · exact haccepted e he

end Applying

/-! ## Testing -/

/-- What a test may ask, of the switch or of the host. -/
def IsTest : Call → Prop
  | .execute purpose _ => purpose = .test
  | .ping _ _ | .resolve _ | .tcpConnect _ | .overtime _ => True
  | .connect | .disconnect => False

/-- Only such calls are made. -/
def OnlyTests {α : Type} (p : Session α) : Prop :=
  ∀ tr r, Run p tr r → ∀ call ∈ calls tr, IsTest call

section Testing

variable {α β : Type} {lowercase : List Char → List Char} {printable : Char → Bool}

theorem onlyTests_pure {a : α} : OnlyTests (pure a : Session α) := by
  intro tr r h call hcall
  obtain ⟨rfl, -⟩ := run_pure_iff.mp h
  cases hcall

theorem onlyTests_fail {message : String} : OnlyTests (fail message : Session α) := by
  intro tr r h call hcall
  obtain ⟨rfl, -⟩ := run_fail_iff.mp h
  cases hcall

/-- A question that tests and what comes behind it only test. -/
theorem onlyTests_ask {c : Call} {k : Answer c → Session α} (hc : IsTest c)
    (hk : ∀ a, OnlyTests (k a)) : OnlyTests (.ask c k) := by
  intro tr r h call hcall
  obtain ⟨a, tr', rfl, hrun⟩ := run_ask_iff.mp h
  rcases List.mem_cons.mp hcall with rfl | hcall
  · exact hc
  · exact hk a tr' r hrun call hcall

/-- Two parts that only test do so together. -/
theorem OnlyTests.bind {p : Session β} {f : β → Session α} (hp : OnlyTests p)
    (hf : ∀ b, OnlyTests (f b)) : OnlyTests (p >>= f) := by
  intro tr r h call hcall
  rcases run_bind_iff.mp h with ⟨e, hrun, -⟩ | ⟨b, tr₁, tr₂, rfl, hrun, hrest⟩
  · exact hp tr _ hrun call hcall
  · rw [calls_append] at hcall
    rcases List.mem_append.mp hcall with hcall | hcall
    · exact hp tr₁ _ hrun call hcall
    · exact hf b tr₂ r hrest call hcall

theorem OnlyTests.attempt {p : Session β} (hp : OnlyTests p) :
    OnlyTests (p.attempt (E := String)) := by
  intro tr r h call hcall
  obtain ⟨r', hrun, -⟩ := run_attempt_iff.mp h
  exact hp tr r' hrun call hcall

theorem onlyTests_ite {c : Prop} [Decidable c] {p q : Session α} (hp : OnlyTests p)
    (hq : OnlyTests q) : OnlyTests (if c then p else q) := by
  by_cases hc : c
  · rwa [if_pos hc]
  · rwa [if_neg hc]

theorem onlyTests_execute {error : String → String} {command : String} :
    OnlyTests (execute error .test command) := by
  refine onlyTests_ask rfl fun output => ?_
  cases output with
  | error message => exact onlyTests_fail
  | ok text => exact onlyTests_pure

theorem onlyTests_askEither {error command other : String} :
    OnlyTests (askEither error command other) := by
  refine onlyTests_execute.attempt.bind fun output => ?_
  cases output with
  | error message => exact onlyTests_execute
  | ok text => exact onlyTests_pure

theorem onlyTests_unreachablePorts {managementIp : String} (ports : List ℕ) :
    OnlyTests (unreachablePorts managementIp ports) := by
  induction ports with
  | nil => exact onlyTests_pure
  | cons port ports ih =>
    refine onlyTests_ask trivial fun resolved => ?_
    match resolved with
    | .error message => exact onlyTests_fail
    | .ok none => exact onlyTests_fail
    | .ok (some address) =>
      exact onlyTests_ask trivial fun _ => ih.bind fun _ => onlyTests_pure

/-- Every kind of test only tests. -/
theorem onlyTests_testProgram {managementIp : String} (test : TestType) :
    OnlyTests (testProgram lowercase printable managementIp test) := by
  cases test with
  | commandExecution command =>
    refine onlyTests_execute.bind fun output => onlyTests_ite onlyTests_fail ?_
    exact onlyTests_ite onlyTests_fail onlyTests_pure
  | pingManagementIp count =>
    refine onlyTests_ask trivial fun output => ?_
    cases output with
    | error message => exact onlyTests_fail
    | ok output =>
      exact onlyTests_ite onlyTests_fail (onlyTests_ite onlyTests_fail onlyTests_pure)
  | tcpPortCheck ports =>
    exact (onlyTests_unreachablePorts ports).bind fun _ =>
      onlyTests_ite onlyTests_pure onlyTests_fail
  | gatewayReachable target sourceVlan =>
    refine onlyTests_execute.bind fun output => onlyTests_ite onlyTests_fail ?_
    exact onlyTests_ite onlyTests_fail onlyTests_pure
  | deviceReachable deviceIp deviceName count =>
    refine onlyTests_execute.bind fun output => onlyTests_ite onlyTests_fail ?_
    exact onlyTests_ite onlyTests_fail onlyTests_pure
  | portStatus criticalPorts =>
    refine onlyTests_ite onlyTests_pure (onlyTests_askEither.bind fun output => ?_)
    exact onlyTests_ite onlyTests_pure onlyTests_fail
  | vlanMembership =>
    refine onlyTests_askEither.bind fun output => onlyTests_ite onlyTests_fail ?_
    exact onlyTests_ite onlyTests_fail onlyTests_pure

/-- So do all of them together. -/
theorem onlyTests_runTests {managementIp : String} {timeout : ℕ} (tests : List ValidationTest)
    (result : ValidationResult) :
    OnlyTests (runTests lowercase printable managementIp timeout tests result) := by
  induction tests generalizing result with
  | nil => exact onlyTests_pure
  | cons test tests ih =>
    have htest : OnlyTests (executeTest lowercase printable managementIp test) :=
      (onlyTests_testProgram test.testType).attempt.bind fun _ => onlyTests_pure
    refine htest.bind fun outcome => onlyTests_ite (ih _) ?_
    refine onlyTests_ask trivial fun overtime => ?_
    cases overtime with
    | true => exact onlyTests_pure
    | false => exact ih _

end Testing

end SwitchConfigurator.Deploy
