import SwitchConfigurator.Deploy.Phases

/-!
# What a deployment writes, and when

Whatever a switch answers: nothing is written but the commands for the difference that was read, the
configuration is saved only behind all of them, and it is never both saved and rolled back.
-/

namespace SwitchConfigurator.Deploy

open Dialogue

section Conducted

variable (hardwareWarnings : List Char → List String) (lowercase : List Char → List Char)
variable (printable : Char → Bool) (switch : VendorSwitch) (dryRun : Bool)

/-! ## Phases -/

/-- What was read is the state that the apply starts from. -/
abbrev ReadState (reads : List Exchange) (read : VendorSwitch) (current : SwitchState) : Prop :=
  Run (stateToChange hardwareWarnings switch) reads (.ok (read, current))

/-- There are no tests, or they are such that the configuration may be saved. -/
def Approved (tests : List Exchange) : Prop :=
  (tests = [] ∧ ∀ validation ∈ (desired switch).validation, validation.enabled = false) ∨
  ∃ validation ∈ (desired switch).validation, validation.enabled = true ∧
    ∃ result, Run (runValidationTests lowercase printable ((desired switch).managementIp.getD "")
        validation) tests (.ok result) ∧
      (result.passed = true ∨ validation.onFailure = .saveAnyway)

/-- The tests failed, and the action is what is to be done about it. -/
def Failed (action : FailureAction) (tests : List Exchange) : Prop :=
  ∃ validation ∈ (desired switch).validation, validation.enabled = true ∧
    validation.onFailure = action ∧
    ∃ result, Run (runValidationTests lowercase printable ((desired switch).managementIp.getD "")
      validation) tests (.ok result) ∧ result.passed = false

/-- What is done to find out whether it may be saved. -/
inductive Validated : List Exchange → Except String Bool → Prop
  | approved {tests : List Exchange} (hdry : dryRun = false)
      (htests : Approved lowercase printable switch tests) : Validated tests (.ok true)
  | failed {tests : List Exchange} (hdry : dryRun = false)
      (htests : Failed lowercase printable switch .manual tests) : Validated tests (.ok false)
  | rolledBack {tests closing : List Exchange} {method : RollbackMethod} {r : Except String Unit}
      (hdry : dryRun = false) (htests : Failed lowercase printable switch .rollback tests)
      (hrollback : Run (rollbackConfiguration switch method) closing r) :
      Validated (tests ++ closing) (.ok false)
  | dry (hdry : dryRun = true) : Validated [] (.ok true)

/-- What follows an apply: the tests, and what they lead to. -/
inductive Concluded : List Exchange → List Exchange → Except String Unit → Prop
  | saved {tests closing : List Exchange} {r : Except String Unit} (hdry : dryRun = false)
      (htests : Approved lowercase printable switch tests)
      (hsave : Run (saveConfiguration switch) closing r) :
      Concluded tests closing (r.mapError ("Failed to save configuration: " ++ ·))
  | rolledBack {tests closing : List Exchange} {r : Except String Unit} {method : RollbackMethod}
      (hdry : dryRun = false) (htests : Failed lowercase printable switch .rollback tests)
      (hrollback : Run (rollbackConfiguration switch method) closing r) :
      Concluded tests closing (.error "Validation failed")
  | left {tests : List Exchange} (hdry : dryRun = false)
      (htests : Failed lowercase printable switch .manual tests) :
      Concluded tests [] (.error "Validation failed")
  | dry (hdry : dryRun = true) : Concluded [] [] (.ok ())

/-- The phases of a session, from the reading of the state on. -/
inductive Conducted : List Exchange → Except String Unit → Prop
  | unread {reads : List Exchange} {e : String}
      (hread : Run (stateToChange hardwareWarnings switch) reads (.error e)) :
      Conducted reads (.error ("Failed to apply configuration: " ++ e))
  | unchanged {reads : List Exchange} {read : VendorSwitch} {current : SwitchState}
      (hread : ReadState hardwareWarnings switch reads read current)
      (hdiff : (diffOf read current).hasChanges = false) : Conducted reads (.ok ())
  | broken {reads applied : List Exchange} {read : VendorSwitch} {current : SwitchState} {e :
    String}
      (hread : ReadState hardwareWarnings switch reads read current)
      (happly : Run (applySteps (steps read (diffOf read current))) applied (.error e)) :
      Conducted (reads ++ applied) (.error ("Failed to apply configuration: " ++ e))
  /-- There are differences that need no command. -/
  | idle {reads rereads : List Exchange} {read : VendorSwitch} {current : SwitchState}
      {r : Except String (VendorSwitch × SwitchState)}
      (hread : ReadState hardwareWarnings switch reads read current)
      (hdiff : (diffOf read current).hasChanges = true)
      (hsteps : steps read (diffOf read current) = [])
      (hreread : Run (parseCurrentState hardwareWarnings read) rereads r) :
      Conducted (reads ++ rereads) (.ok ())
  | applied {reads applied rereads tests closing : List Exchange} {read : VendorSwitch}
      {current : SwitchState} {results : List (List String)}
      {r : Except String (VendorSwitch × SwitchState)} {outcome : Except String Unit}
      (hread : ReadState hardwareWarnings switch reads read current)
      (hdiff : (diffOf read current).hasChanges = true)
      (happly : Run (applySteps (steps read (diffOf read current))) applied (.ok results))
      (hresults : results ≠ [])
      (hreread : Run (parseCurrentState hardwareWarnings read) rereads r)
      (hrest : Concluded lowercase printable switch dryRun tests closing outcome) :
      Conducted (reads ++ applied ++ rereads ++ tests ++ closing) outcome

end Conducted

/-! ## Every run has these phases -/

section Runs

variable {hardwareWarnings : List Char → List String} {lowercase : List Char → List Char}
variable {printable : Char → Bool} {switch : VendorSwitch} {dryRun : Bool}
variable {tr : List Exchange} {outcome : Except String Unit}

/-- The tests always come to a result. -/
theorem run_runTests_ok {managementIp : String} {timeout : ℕ} (tests : List ValidationTest)
    {result : ValidationResult} {r : Except String ValidationResult}
    (h : Run (runTests lowercase printable managementIp timeout tests result) tr r) :
    ∃ result', r = .ok result' := by
  induction tests generalizing tr result with
  | nil =>
    obtain ⟨-, rfl⟩ := run_pure_iff.mp h
    exact ⟨result, rfl⟩
  | cons test tests ih =>
    rcases run_bind_iff.mp h with ⟨e, hrun, -⟩ | ⟨test', tr₁, tr₂, rfl, -, hrest⟩
    · -- the error of a test is its result
      rcases run_bind_iff.mp hrun with ⟨e', hrun, -⟩ | ⟨r', tr₃, tr₄, -, -, hpure⟩
      · obtain ⟨r', -, hr⟩ := run_attempt_iff.mp hrun
        cases hr
      · obtain ⟨-, hr⟩ := run_pure_iff.mp hpure
        cases hr
    · dsimp only at hrest
      split at hrest
      · exact ih hrest
      · obtain ⟨overtime, tr', rfl, hlater⟩ := run_ask_iff.mp hrest
        cases overtime with
        | true =>
          obtain ⟨-, rfl⟩ := run_pure_iff.mp hlater
          exact ⟨_, rfl⟩
        | false => exact ih hlater

/-- What a failed test leads to is what the validation says. -/
theorem run_afterFailure {validation : ValidationConfig} {r : Except String Bool}
    (h : Run (afterFailure switch validation) tr r) :
    (validation.onFailure = .saveAnyway ∧ tr = [] ∧ r = .ok true) ∨
    (validation.onFailure = .manual ∧ tr = [] ∧ r = .ok false) ∨
    (validation.onFailure = .rollback ∧ r = .ok false ∧
      ∃ r', Run (rollbackConfiguration switch validation.rollbackMethod) tr r') := by
  rw [afterFailure] at h
  cases haction : validation.onFailure with
  | rollback =>
    rw [haction] at h
    rcases run_bind_iff.mp h with ⟨e, hroll, -⟩ | ⟨r', tr₁, tr₂, rfl, hroll, hpure⟩
    · obtain ⟨r', -, hr⟩ := run_attempt_iff.mp hroll
      cases hr
    · obtain ⟨r'', hroll, -⟩ := run_attempt_iff.mp hroll
      obtain ⟨rfl, rfl⟩ := run_pure_iff.mp hpure
      rw [List.append_nil]
      exact .inr (.inr ⟨rfl, rfl, r'', hroll⟩)
  | saveAnyway =>
    rw [haction] at h
    obtain ⟨rfl, rfl⟩ := run_pure_iff.mp h
    exact .inl ⟨rfl, rfl, rfl⟩
  | manual =>
    rw [haction] at h
    obtain ⟨rfl, rfl⟩ := run_pure_iff.mp h
    exact .inr (.inl ⟨rfl, rfl, rfl⟩)

/-- How the tests of a switch come out. -/
theorem validated_of_tests {validation : ValidationConfig} {r : Except String Bool}
    (hvalidation : (desired switch).validation = some validation)
    (henabled : validation.enabled = true) (hdry : dryRun = false)
    (h : Run (do
      match ← (runValidationTests lowercase printable ((desired switch).managementIp.getD "")
        validation).attempt (E := String) with
      | .ok result => if result.passed then pure true else afterFailure switch validation
      | .error _ => pure false) tr r) :
    Validated lowercase printable switch dryRun tr r := by
  -- tests that passed, or whose failures are to be ignored
  have happroved : ∀ {tests : List Exchange} {result : ValidationResult},
      Run (runValidationTests lowercase printable ((desired switch).managementIp.getD "")
        validation) tests (.ok result) →
      result.passed = true ∨ validation.onFailure = .saveAnyway →
      Approved lowercase printable switch tests := by
    intro tests result htests hresult
    exact .inr ⟨validation, hvalidation, henabled, result, htests, hresult⟩
  rcases run_bind_iff.mp h with ⟨e, hrun, -⟩ | ⟨outcome, tests, closing, rfl, hrun, hrest⟩
  · obtain ⟨r', -, hr⟩ := run_attempt_iff.mp hrun
    cases hr
  obtain ⟨r', htests, hr⟩ := run_attempt_iff.mp hrun
  obtain rfl := Except.ok.inj hr
  obtain ⟨result, rfl⟩ := run_runTests_ok _ htests
  dsimp only at hrest
  split at hrest
  · next hpassed =>
    obtain ⟨rfl, rfl⟩ := run_pure_iff.mp hrest
    rw [List.append_nil]
    exact .approved hdry (happroved htests (.inl hpassed))
  · next hpassed =>
    rw [Bool.not_eq_true] at hpassed
    rcases run_afterFailure hrest with ⟨haction, rfl, rfl⟩ | ⟨haction, rfl, rfl⟩ |
      ⟨haction, rfl, r', hroll⟩
    · rw [List.append_nil]
      exact .approved hdry (happroved htests (.inr haction))
    · rw [List.append_nil]
      exact .failed hdry ⟨validation, hvalidation, henabled, haction, result, htests, hpassed⟩
    · exact .rolledBack hdry ⟨validation, hvalidation, henabled, haction, result, htests, hpassed⟩
        hroll

/-- How validation comes out, with or without tests. -/
theorem validated_of_run {r : Except String Bool}
    (h : Run (validationPassed lowercase printable switch dryRun) tr r) :
    Validated lowercase printable switch dryRun tr r := by
  rw [validationPassed] at h
  have huntested : ∀ {tr : List Exchange} {r : Except String Bool},
      (∀ validation ∈ (desired switch).validation, dryRun = false → validation.enabled = false) →
      Run (pure true : Session Bool) tr r → Validated lowercase printable switch dryRun tr r := by
    intro tr r hnone h
    obtain ⟨rfl, rfl⟩ := run_pure_iff.mp h
    cases hdry : dryRun with
    | true => exact .dry rfl
    | false => exact .approved rfl (.inl ⟨rfl, fun validation hmem => hnone validation hmem hdry⟩)
  cases hvalidation : (desired switch).validation with
  | none =>
    rw [hvalidation] at h
    refine huntested (fun validation hmem => ?_) h
    rw [hvalidation] at hmem
    cases hmem
  | some validation =>
    rw [hvalidation] at h
    dsimp only at h
    split at h
    · next hcond =>
      rw [Bool.and_eq_true, Bool.not_eq_true'] at hcond
      exact validated_of_tests hvalidation hcond.1 hcond.2 h
    · next hcond =>
      refine huntested (fun validation' hmem hdry => ?_) h
      rw [hvalidation] at hmem
      obtain rfl := Option.some.inj hmem
      rw [hdry, Bool.not_false, Bool.and_true, Bool.not_eq_true] at hcond
      exact hcond

/-- The end of a deployment is tests and what closes it. -/
theorem concluded_of_run (h : Run (conclude lowercase printable switch dryRun) tr outcome) :
    ∃ tests closing, tr = tests ++ closing ∧
      Concluded lowercase printable switch dryRun tests closing outcome := by
  rcases run_bind_iff.mp h with ⟨e, hrun, rfl⟩ | ⟨passed, tr₁, tr₂, rfl, hrun, hrest⟩
  · cases validated_of_run hrun
  · have hstopped : passed = false → tr₂ = [] ∧ outcome = .error "Validation failed" := by
      rintro rfl
      exact run_fail_iff.mp hrest
    cases validated_of_run hrun with
    | approved hdry htests =>
      rw [hdry] at hrest
      obtain ⟨r, hsave, rfl⟩ := run_mapError_iff.mp hrest
      exact ⟨tr₁, tr₂, rfl, .saved hdry htests hsave⟩
    | failed hdry htests =>
      obtain ⟨rfl, rfl⟩ := hstopped rfl
      exact ⟨tr₁, [], rfl, .left hdry htests⟩
    | rolledBack hdry htests hrollback =>
      obtain ⟨rfl, rfl⟩ := hstopped rfl
      rw [List.append_nil]
      exact ⟨_, _, rfl, .rolledBack hdry htests hrollback⟩
    | dry hdry =>
      rw [hdry] at hrest
      obtain ⟨rfl, rfl⟩ := run_pure_iff.mp hrest
      exact ⟨[], [], rfl, .dry hdry⟩

/-- What an apply found, up to its end or up to an error. -/
inductive AppliedRun (hardwareWarnings : List Char → List String) (switch : VendorSwitch) :
    List Exchange → Except String Applied → Prop
  | unread {reads : List Exchange} {e : String}
      (hread : Run (stateToChange hardwareWarnings switch) reads (.error e)) :
      AppliedRun hardwareWarnings switch reads (.error e)
  | unchanged {reads : List Exchange} {read : VendorSwitch} {current : SwitchState}
      {applied : Applied} (hread : ReadState hardwareWarnings switch reads read current)
      (hdiff : (diffOf read current).hasChanges = false) (happlied : applied.results = []) :
      AppliedRun hardwareWarnings switch reads (.ok applied)
  | broken {reads lines : List Exchange} {read : VendorSwitch} {current : SwitchState} {e : String}
      (hread : ReadState hardwareWarnings switch reads read current)
      (happly : Run (applySteps (steps read (diffOf read current))) lines (.error e)) :
      AppliedRun hardwareWarnings switch (reads ++ lines) (.error e)
  | whole {reads lines rereads : List Exchange} {read : VendorSwitch} {current : SwitchState}
      {applied : Applied} {r : Except String (VendorSwitch × SwitchState)}
      (hread : ReadState hardwareWarnings switch reads read current)
      (hdiff : (diffOf read current).hasChanges = true)
      (happly : Run (applySteps (steps read (diffOf read current))) lines (.ok applied.results))
      (hreread : Run (parseCurrentState hardwareWarnings read) rereads r) :
      AppliedRun hardwareWarnings switch (reads ++ lines ++ rereads) (.ok applied)

/-- An apply reads, writes lines and reads again. -/
theorem appliedRun_of_run {r : Except String Applied}
    (h : Run (applyConfiguration hardwareWarnings switch) tr r) :
    AppliedRun hardwareWarnings switch tr r := by
  rcases run_bind_iff.mp h with ⟨e, hread, rfl⟩ | ⟨⟨read, current⟩, reads, tr₂, rfl, hread, hrest⟩
  · exact .unread hread
  dsimp only at hrest
  split at hrest
  · next hdiff =>
    obtain ⟨rfl, rfl⟩ := run_pure_iff.mp hrest
    rw [List.append_nil]
    exact .unchanged hread (by simpa using hdiff) rfl
  · next hdiff =>
    rcases run_bind_iff.mp hrest with ⟨e, happly, rfl⟩ | ⟨results, lines, tr₃, rfl, happly, hrest⟩
    · exact .broken hread happly
    rcases run_bind_iff.mp hrest with ⟨e, hreread, -⟩ | ⟨r', rereads, tr₄, rfl, hreread, hpure⟩
    · obtain ⟨r', -, hr⟩ := run_attempt_iff.mp hreread
      cases hr
    obtain ⟨r'', hreread, hr⟩ := run_attempt_iff.mp hreread
    obtain rfl := Except.ok.inj hr
    -- the state that is read again only tells of warnings
    have hend : ∃ warnings, tr₄ = [] ∧ r = .ok { results, warnings } := by
      cases r' with
      | error e => exact ⟨_, run_pure_iff.mp hpure⟩
      | ok reread => exact ⟨_, run_pure_iff.mp hpure⟩
    obtain ⟨warnings, rfl, rfl⟩ := hend
    rw [List.append_nil, ← List.append_assoc]
    exact .whole hread (by simpa using hdiff) happly hreread

/-- A session is an apply and its end. -/
theorem conducted_of_run
    (h : Run (conduct hardwareWarnings lowercase printable switch dryRun) tr outcome) :
    Conducted hardwareWarnings lowercase printable switch dryRun tr outcome := by
  -- the first bind fails, or the deployment goes on behind the apply
  rcases run_bind_iff.mp h with ⟨e, hrun, rfl⟩ | ⟨applied, tr₁, tr₂, rfl, hrun, hrest⟩
  · obtain ⟨r, hrun, hr⟩ := run_mapError_iff.mp hrun
    cases appliedRun_of_run hrun with
    | unread hread =>
      obtain rfl := Except.error.inj hr
      exact .unread hread
    | broken hread happly =>
      obtain rfl := Except.error.inj hr
      exact .broken hread happly
    | unchanged hread hdiff happlied => cases hr
    | whole hread hdiff happly hreread => cases hr
  · obtain ⟨r, hrun, hr⟩ := run_mapError_iff.mp hrun
    obtain rfl : r = .ok applied := isOk_of_mapError_ok hr.symm
    cases appliedRun_of_run hrun with
    | unchanged hread hdiff happlied =>
      rw [happlied] at hrest
      obtain ⟨rfl, rfl⟩ := run_pure_iff.mp hrest
      rw [List.append_nil]
      exact .unchanged hread hdiff
    | whole hread hdiff happly hreread =>
      split at hrest
      · next hempty =>
        rw [List.isEmpty_iff] at hempty
        obtain ⟨rfl, rfl⟩ := run_pure_iff.mp hrest
        obtain ⟨hsteps, -⟩ := applySteps_ok happly
        rw [hempty] at hsteps happly
        rw [hsteps] at happly
        obtain ⟨rfl, -⟩ := run_pure_iff.mp happly
        rw [List.append_nil, List.append_nil]
        -- there was a diff, but no command came of it
        exact .idle hread hdiff hsteps hreread
      · next hempty =>
        obtain ⟨tests, closing, rfl, hconcluded⟩ := concluded_of_run hrest
        rw [← List.append_assoc]
        refine .applied hread hdiff happly (fun hnil => hempty ?_) hreread hconcluded
        rw [hnil]
        rfl

/-- A switch that is connected is worked on, and disconnected at the very end. -/
theorem run_configureSwitchOnce
    (h : Run (configureSwitchOnce hardwareWarnings lowercase printable switch dryRun) tr outcome) :
    (∃ message, tr = [⟨.connect, .error message⟩] ∧
      outcome = .error ("Failed to connect: " ++ message)) ∨
    ∃ session bye, tr = ⟨.connect, .ok ()⟩ :: (session ++ [⟨.disconnect, bye⟩]) ∧
      Conducted hardwareWarnings lowercase printable switch dryRun session outcome := by
  obtain ⟨connected, tr', rfl, hrest⟩ := run_ask_iff.mp h
  match connected with
  | .error message =>
    obtain ⟨rfl, rfl⟩ := run_fail_iff.mp hrest
    exact .inl ⟨message, rfl, rfl⟩
  | .ok () =>
    rcases run_bind_iff.mp hrest with ⟨e, hrun, -⟩ | ⟨r, session, tr₂, rfl, hrun, hbye⟩
    · obtain ⟨r', -, hr⟩ := run_attempt_iff.mp hrun
      cases hr
    obtain ⟨r', hrun, hr⟩ := run_attempt_iff.mp hrun
    obtain rfl := Except.ok.inj hr
    obtain ⟨bye, tr₃, rfl, hend⟩ := run_ask_iff.mp hbye
    obtain ⟨rfl, rfl⟩ := run_ofExcept_iff.mp hend
    exact .inr ⟨session, bye, rfl, conducted_of_run hrun⟩

/-! ## What the phases are made of -/

/-- What is given to the client in the course of a phase, besides tests. -/
theorem calls_of_gives {α : Type} {purpose : Purpose} {commands : List String} {p : Session α}
    {r : Except String α} (hgives : Gives purpose commands p) (h : Run p tr r) :
    ∀ call ∈ calls tr, ∃ command ∈ commands, call = .execute purpose command := by
  obtain ⟨sent, hcalls, hleading, -⟩ := hgives tr r h
  intro call hcall
  rw [hcalls] at hcall
  obtain ⟨command, hcommand, rfl⟩ := List.mem_map.mp hcall
  exact ⟨command, hleading.subset hcommand, rfl⟩

/-- Reading the state sends the commands of reading. -/
theorem gives_stateToChange : Gives .read (switch.readCommands .currentState)
    (stateToChange hardwareWarnings switch) := by
  have hcheck : ∀ read : VendorSwitch × SwitchState, Gives .read [] (do
      let config := desired read.1
      .ofExcept (Except.mapError shownError (checkEmptyStateSafety read.2 config.vlans.length
        config.ports.length (config.hostname.getD "")))
      return (withState read.1 read.2, read.2)) := by
    intro read tr r h
    rcases run_bind_iff.mp h with ⟨e, hrun, rfl⟩ | ⟨_, tr₁, tr₂, rfl, hrun, hpure⟩
    · obtain ⟨rfl, -⟩ := run_ofExcept_iff.mp hrun
      exact ⟨[], rfl, List.prefix_rfl, fun _ hr => by cases hr⟩
    · obtain ⟨rfl, -⟩ := run_ofExcept_iff.mp hrun
      obtain ⟨rfl, rfl⟩ := run_pure_iff.mp hpure
      exact ⟨[], rfl, List.prefix_rfl, fun _ _ => rfl⟩
  have hparse : Gives .read (switch.readCommands .currentState)
      (parseCurrentState hardwareWarnings switch) := gives_parseCurrentState
  have hbind := hparse.bind hcheck
  rwa [List.append_nil] at hbind

/-- One command saves. -/
theorem exists_saveCommands (switch : VendorSwitch) :
    ∃ command, switch.saveCommands = [command] := by
  cases switch <;> exact ⟨_, rfl⟩

theorem run_saveConfiguration {r : Except String Unit} (h : Run (saveConfiguration switch) tr r) :
    ∃ command output, tr = [⟨.execute .save command, output⟩] ∧
      r = (output.mapError commandError).map fun _ => () := by
  obtain ⟨command, hcommand⟩ := exists_saveCommands switch
  rw [saveConfiguration, hcommand] at h
  rcases run_bind_iff.mp h with ⟨e, hrun, rfl⟩ | ⟨text, tr₁, tr₂, rfl, hrun, hpure⟩
  · obtain ⟨output, rfl, hr⟩ := run_execute_iff.mp hrun
    exact ⟨command, output, rfl, by rw [← hr]; rfl⟩
  · obtain ⟨output, rfl, hr⟩ := run_execute_iff.mp hrun
    obtain ⟨rfl, rfl⟩ := run_pure_iff.mp hpure
    exact ⟨command, output, rfl, by rw [← hr]; rfl⟩

/-- A rollback sends the commands of rolling back. -/
theorem gives_rollbackConfiguration {method : RollbackMethod} :
    Gives .rollback (switch.rollbackCommands method) (rollbackConfiguration switch method) := by
  have hone : ∃ command, switch.rollbackCommands method = [command] := by
    cases switch <;> cases method <;> exact ⟨_, rfl⟩
  obtain ⟨command, hcommand⟩ := hone
  rw [rollbackConfiguration, hcommand]
  exact (gives_execute.map (f := fun _ => ())).bind fun _ => gives_pure ()

/-- Tests only test. -/
theorem calls_of_tests {validation : ValidationConfig} {managementIp : String}
    {result : Except String ValidationResult}
    (h : Run (runValidationTests lowercase printable managementIp validation) tr result) :
    ∀ call ∈ calls tr, IsTest call :=
  onlyTests_runTests _ _ tr _ h

theorem Approved.isTest {tests : List Exchange}
    (h : Approved lowercase printable switch tests) : ∀ call ∈ calls tests, IsTest call := by
  rcases h with ⟨rfl, -⟩ | ⟨validation, -, -, result, hrun, -⟩
  · exact fun call hcall => absurd hcall List.not_mem_nil
  · exact calls_of_tests hrun

theorem Failed.isTest {tests : List Exchange} {action : FailureAction}
    (h : Failed lowercase printable switch action tests) : ∀ call ∈ calls tests, IsTest call := by
  obtain ⟨validation, -, -, -, result, hrun, -⟩ := h
  exact calls_of_tests hrun

/-- What is given to the client for a purpose. -/
def given (purpose : Purpose) (tr : List Exchange) : List String :=
  (calls tr).filterMap fun call =>
    match call with
    | .execute purpose' command => if purpose' = purpose then some command else none
    | _ => none

/-- What is given over a session is given part by part. -/
theorem given_append {purpose : Purpose} (tr₁ tr₂ : List Exchange) :
    given purpose (tr₁ ++ tr₂) = given purpose tr₁ ++ given purpose tr₂ := by
  rw [given, calls_append, List.filterMap_append]
  rfl

/-- What is called is what is given. -/
theorem given_eq_of_calls {purpose : Purpose} {sent : List String}
    (h : calls tr = sent.map (.execute purpose)) : given purpose tr = sent := by
  rw [given, h, List.filterMap_map]
  simp

/-- Without such a call nothing is given. -/
theorem given_eq_nil {purpose : Purpose}
    (h : ∀ call ∈ calls tr, ∀ command, call ≠ .execute purpose command) :
    given purpose tr = [] := by
  refine List.filterMap_eq_nil_iff.mpr fun call hcall => ?_
  split
  · next purpose' command =>
    refine if_neg fun heq => h _ hcall command ?_
    rw [heq]
  · rfl

end Runs

end SwitchConfigurator.Deploy
