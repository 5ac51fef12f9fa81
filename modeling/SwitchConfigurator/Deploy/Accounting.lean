import SwitchConfigurator.Deploy.Discipline

/-!
# The accounts of a validation

What the result of the tests says of them: which were run, which failed, and that all of them were
run where the result is that they passed.
-/

namespace SwitchConfigurator.Deploy

open Dialogue

/-! ## Records -/

namespace ValidationResult

/-- The counts agree with the failures, and these with the verdict. -/
structure Accounts (result : ValidationResult) (outcomes : List (Except TestFailure Unit)) :
    Prop where
  run : result.testsRun = outcomes.length
  split : result.testsRun = result.testsPassed + result.testsFailed
  failures : result.failures = outcomes.filterMap fun outcome =>
    match outcome with
    | .ok () => none
    | .error failure => some failure
  failed : result.testsFailed = result.failures.length
  passed : result.passed = true ↔ ∀ failure ∈ result.failures, failure.required = false

theorem accounts_nil : Accounts {} [] :=
  ⟨rfl, rfl, rfl, rfl, iff_of_true rfl fun _ h => absurd h List.not_mem_nil⟩

variable {result : ValidationResult} {outcomes : List (Except TestFailure Unit)}

/-- Another outcome is counted, and listed if it is a failure. -/
theorem Accounts.record (h : result.Accounts outcomes) (outcome : Except TestFailure Unit) :
    (result.record outcome).Accounts (outcomes ++ [outcome]) := by
  obtain ⟨hrun, hsplit, hfailures, hfailed, hpassed⟩ := h
  cases outcome with
  | ok _ =>
    refine ⟨?_, ?_, ?_, hfailed, hpassed⟩
    · rw [List.length_append, ← hrun]
      rfl
    · show result.testsRun + 1 = result.testsPassed + 1 + result.testsFailed
      omega
    · rw [List.filterMap_append, ← hfailures]
      exact (List.append_nil _).symm
  | error failure =>
    refine ⟨?_, ?_, ?_, ?_, ?_⟩
    · rw [List.length_append, ← hrun]
      rfl
    · show result.testsRun + 1 = result.testsPassed + (result.testsFailed + 1)
      omega
    · rw [List.filterMap_append, ← hfailures]
      rfl
    · show result.testsFailed + 1 = (result.failures ++ [failure]).length
      rw [List.length_append, ← hfailed]
      rfl
    · show (if failure.required then false else result.passed) = true ↔
        ∀ f ∈ result.failures ++ [failure], f.required = false
      rw [List.forall_mem_append, List.forall_mem_singleton, ← hpassed]
      cases failure.required <;> simp

/-- So are several. -/
theorem Accounts.foldl (h : result.Accounts outcomes) (later : List (Except TestFailure Unit)) :
    (later.foldl ValidationResult.record result).Accounts (outcomes ++ later) := by
  induction later generalizing result outcomes with
  | nil =>
    rw [List.append_nil]
    exact h
  | cons outcome later ih =>
    have hlater := ih (h.record outcome)
    rwa [List.append_assoc] at hlater

end ValidationResult

/-! ## Runs -/

section Runs

variable {lowercase : List Char → List Char} {printable : Char → Bool} {managementIp : String}
variable {timeout : ℕ} {tr : List Exchange}

/-- A test always comes to an outcome, with its own name and weight if it failed. -/
theorem run_executeTest_ok {test : ValidationTest} {r : Except String (Except TestFailure Unit)}
    (h : Run (executeTest lowercase printable managementIp test) tr r) :
    ∃ outcome, r = .ok outcome ∧
      ∀ failure, outcome = .error failure →
        failure.test = test.testType ∧ failure.required = test.required := by
  rcases run_bind_iff.mp h with ⟨e, hrun, -⟩ | ⟨outcome, tr₁, tr₂, rfl, -, hpure⟩
  · obtain ⟨r', -, hr⟩ := run_attempt_iff.mp hrun
    cases hr
  · obtain ⟨rfl, rfl⟩ := run_pure_iff.mp hpure
    refine ⟨_, rfl, fun failure hfailure => ?_⟩
    cases outcome with
    | ok _ => cases hfailure
    | error e =>
      obtain rfl := Except.error.inj hfailure
      exact ⟨rfl, rfl⟩

/-- The dialogue is that of one test behind the other, each with its outcome. Behind a test it may
be asked whether the time is over, and nothing else stands between them. -/
inductive TestedInOrder (lowercase : List Char → List Char) (printable : Char → Bool)
    (managementIp : String) (timeout : ℕ) :
    List Exchange → List ValidationTest → List (Except TestFailure Unit) → Prop
  | nil : TestedInOrder lowercase printable managementIp timeout [] [] []
  | cons {part clock later : List Exchange} {test : ValidationTest} {tests : List ValidationTest}
      {outcome : Except TestFailure Unit} {outcomes : List (Except TestFailure Unit)}
      (htest : Run (executeTest lowercase printable managementIp test) part (.ok outcome))
      (hclock : clock = [] ∨ ∃ overtime, clock = [⟨.overtime timeout, overtime⟩])
      (hlater : TestedInOrder lowercase printable managementIp timeout later tests outcomes) :
      TestedInOrder lowercase printable managementIp timeout (part ++ (clock ++ later))
        (test :: tests) (outcome :: outcomes)

/-- The first of the tests are run, one by one, and all of them unless one of them failed. -/
theorem tests_of_run {tests : List ValidationTest} {result result' : ValidationResult}
    (h : Run (runTests lowercase printable managementIp timeout tests result) tr (.ok result')) :
    ∃ done rest outcomes, tests = done ++ rest ∧
      TestedInOrder lowercase printable managementIp timeout tr done outcomes ∧
      result' = outcomes.foldl ValidationResult.record result ∧
      (rest ≠ [] → result'.passed = false) := by
  induction tests generalizing tr result with
  | nil =>
    obtain ⟨rfl, hr⟩ := run_pure_iff.mp h
    obtain rfl := Except.ok.inj hr
    exact ⟨[], [], [], rfl, .nil, rfl, fun hne => absurd rfl hne⟩
  | cons test tests ih =>
    rcases run_bind_iff.mp h with ⟨e, -, hr⟩ | ⟨outcome, part, tr₂, rfl, htest, hrest⟩
    · cases hr
    -- behind this test the others run, with or without a look at the clock
    have hlater : ∀ {clock later : List Exchange},
        clock = [] ∨ (∃ overtime, clock = [⟨.overtime timeout, overtime⟩]) →
        Run (runTests lowercase printable managementIp timeout tests (result.record outcome)) later
          (.ok result') →
        ∃ done rest outcomes, test :: tests = done ++ rest ∧
          TestedInOrder lowercase printable managementIp timeout (part ++ (clock ++ later)) done
            outcomes ∧
          result' = outcomes.foldl ValidationResult.record result ∧
          (rest ≠ [] → result'.passed = false) := by
      intro clock later hclock hlater
      obtain ⟨done, rest, outcomes, rfl, horder, rfl, hpassed⟩ := ih hlater
      exact ⟨test :: done, rest, outcome :: outcomes, rfl, .cons htest hclock horder, rfl, hpassed⟩
    dsimp only at hrest
    split at hrest
    · exact hlater (.inl rfl) hrest
    · next hfailed =>
      obtain ⟨overtime, later, rfl, hend⟩ := run_ask_iff.mp hrest
      cases overtime with
      -- out of time after a failure: the remaining tests are left out
      | true =>
        obtain ⟨rfl, hr⟩ := run_pure_iff.mp hend
        obtain rfl := Except.ok.inj hr
        refine ⟨[test], tests, [outcome], rfl, ?_, rfl, fun _ => ?_⟩
        · exact .cons htest (.inr ⟨true, rfl⟩) .nil
        · exact Bool.not_eq_true _ ▸ hfailed
      | false => exact @hlater [⟨.overtime timeout, false⟩] later (.inr ⟨false, rfl⟩) hend

/-- No failure is of a required test exactly if every required test succeeded. -/
theorem required_iff {done : List ValidationTest} {outcomes : List (Except TestFailure Unit)}
    (h : TestedInOrder lowercase printable managementIp timeout tr done outcomes) :
    (∀ failure ∈ outcomes.filterMap fun outcome =>
        match outcome with
        | .ok () => none
        | .error failure => some failure, failure.required = false) ↔
      ∀ p ∈ done.zip outcomes, p.1.required = true → p.2 = .ok () := by
  induction h with
  | nil => simp
  | @cons part clock later test done outcome outcomes htest hclock hlater ih =>
    rw [List.zip_cons_cons, List.forall_mem_cons, ← ih]
    obtain ⟨outcome', heq, hfailure⟩ := run_executeTest_ok htest
    obtain rfl := Except.ok.inj heq
    cases outcome with
    | ok _ => exact (and_iff_right fun _ => rfl).symm
    | error failure =>
      rw [List.filterMap_cons]
      dsimp only
      rw [List.forall_mem_cons, (hfailure failure rfl).2]
      refine and_congr_left fun _ => ?_
      cases test.required <;> simp

end Runs

/-- The result of a validation accounts for its tests: the dialogue is that of the first of them, in
their order and one after the other; the numbers and the failures are those of the tests that were
run; it passed exactly if no required test among these failed, and then none was left out. -/
theorem validation_accounts {lowercase : List Char → List Char} {printable : Char → Bool}
    {managementIp : String} {validation : ValidationConfig} {tr : List Exchange}
    {r : Except String ValidationResult}
    (h : Run (runValidationTests lowercase printable managementIp validation) tr r) :
    ∃ result done rest outcomes, r = .ok result ∧ validation.tests = done ++ rest ∧
      TestedInOrder lowercase printable managementIp validation.timeout tr done outcomes ∧
      result.Accounts outcomes ∧
      (result.passed = true ↔ ∀ p ∈ done.zip outcomes, p.1.required = true → p.2 = .ok ()) ∧
      (result.passed = true → rest = []) := by
  obtain ⟨result, rfl⟩ := run_runTests_ok _ h
  obtain ⟨done, rest, outcomes, htests, horder, rfl, hrest⟩ := tests_of_run h
  have haccounts := ValidationResult.accounts_nil.foldl outcomes
  rw [List.nil_append] at haccounts
  refine ⟨_, done, rest, outcomes, rfl, htests, horder, haccounts, ?_, fun hpassed => ?_⟩
  · rw [haccounts.passed, haccounts.failures]
    exact required_iff horder
  · by_contra hne
    rw [hrest hne] at hpassed
    cases hpassed

/-- A switch that answers nothing fails the first of two tests, and the other one is still run. -/
def silent : List Exchange → (call : Call) → Answer call
  | _, .execute _ _ => .ok ""
  | _, .ping _ _ => .error "unreachable"
  | _, .resolve _ => .ok none
  | _, .tcpConnect _ => .error "refused"
  | _, .overtime _ => true
  | _, .connect | _, .disconnect => .ok ()

def silentRun : List Exchange × Except String ValidationResult :=
  exec silent [] (runValidationTests id (fun _ => true) ""
    { timeout := 60, tests := [⟨.vlanMembership, 10, false⟩, ⟨.portStatus [], 10, true⟩] })

theorem validation_accounts_silent : ∃ result, silentRun.2 = .ok result ∧
    result.testsFailed = 1 ∧ result.testsRun = result.testsPassed + 1 := by
  obtain ⟨result, done, rest, outcomes, hresult, -, -, haccounts, -⟩ :=
    validation_accounts (run_exec silent [] (runValidationTests id (fun _ => true) ""
      { timeout := 60, tests := [⟨.vlanMembership, 10, false⟩, ⟨.portStatus [], 10, true⟩] }))
  have hfailed : silentRun.2.map ValidationResult.testsFailed = .ok 1 := by decide +kernel
  have hone : result.testsFailed = 1 := by
    rw [show silentRun.2 = .ok result from hresult] at hfailed
    exact Except.ok.inj hfailed
  exact ⟨result, hresult, hone, hone ▸ haccounts.split⟩

end SwitchConfigurator.Deploy
