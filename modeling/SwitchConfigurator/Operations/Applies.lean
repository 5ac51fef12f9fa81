import SwitchConfigurator.Deploy.Safety
import SwitchConfigurator.Operations.PowerLines

/-!
# Applies in the background

An apply that a request asks for and one that a changed file leads to are two copies of one text.
What they give to the switch, what they leave behind of it, and that they agree.
-/

namespace SwitchConfigurator.Operations

open Dialogue Deploy

/-! ## One apply -/

/-- How an apply ended, and whether it could be saved. -/
inductive Outcome where
  | unreachable (e : String)
  | refused (e : String)
  | applied (applied : Applied) (saved : Except String Unit)

section Applying

variable (hardwareWarnings : List Char → List String) (switch : VendorSwitch)

/-- What is said with the switch: it is left in any case, and saved behind a whole apply. -/
inductive Applying : List Deploy.Exchange → Outcome → Prop
  | unreachable {e : String} : Applying [⟨.connect, .error e⟩] (.unreachable e)
  | refused {work : List Deploy.Exchange} {e : String} {bye : Except String Unit}
      (hwork : Run (applyConfiguration hardwareWarnings switch) work (.error e)) :
      Applying (⟨.connect, .ok ()⟩ :: (work ++ [⟨.disconnect, bye⟩])) (.refused e)
  | applied {work saving : List Deploy.Exchange} {applied : Applied}
      {saved bye : Except String Unit}
      (hwork : Run (applyConfiguration hardwareWarnings switch) work (.ok applied))
      (hsave : Run (saveConfiguration switch) saving saved) :
      Applying (⟨.connect, .ok ()⟩ :: (work ++ (saving ++ [⟨.disconnect, bye⟩])))
        (.applied applied saved)

end Applying

/-- What a request says of a save that failed. -/
def unsaved : Except String Unit → List Record
  | .error e => [.error "SaveConfiguration" e "apply_config"]
  | .ok () => []

namespace Outcome

/-- What a request leaves behind. -/
def requestRecords : Outcome → List Record
  | .unreachable e =>
    [.error "Connection" e "apply_config", .applyFailure ("Connection failed: " ++ e)]
  | .refused e => [.error "ApplyConfiguration" e "apply_config", .applyFailure e]
  | .applied result saved => unsaved saved ++ [.warnings result.warnings, .applySuccess]

def requested : Outcome → Except String (List (List String))
  | .unreachable e => .error ("Connection failed: " ++ e)
  | .refused e => .error ("Configuration failed: " ++ e)
  | .applied result _ => .ok result.results

/-- How the watcher sees it, to whom a failure to save is no failure. -/
def reloaded : Outcome → Except String (List String)
  | .unreachable e => .error ("Failed to connect: " ++ e)
  | .refused e => .error ("Failed to apply configuration: " ++ e)
  | .applied result _ => .ok result.warnings

end Outcome

/-- What the watcher leaves behind. -/
def applyRecords : Except String (List String) → List Record
  | .error e => [.applyFailure e]
  | .ok warnings => [.warnings warnings, .applySuccess]

/-! ## What it gives to the switch -/

section Worked

variable (hardwareWarnings : List Char → List String) (switch : VendorSwitch)

end Worked

section Runs

variable {α : Type} {hardwareWarnings : List Char → List String} {switch : VendorSwitch}
variable {session : List Deploy.Exchange} {tr : List Exchange} {outcome : Outcome}

/-- What is said to the switch is a session with it. -/
theorem run_onSwitch_iff {p : Session α} {r : Except String α} :
    Run (onSwitch p) tr r ↔ ∃ given, Run p given r ∧ tr = ofSwitch given := run_embed_iff

theorem ofSwitch_append {first second : List Deploy.Exchange} :
    ofSwitch (first ++ second) = ofSwitch first ++ ofSwitch second := List.map_append

def recorded (r : Record) : Exchange := ⟨.record r, ()⟩

@[simp] theorem records_recorded (l : List Record) : records (l.map recorded) = l := by
  rw [records, List.filterMap_map]
  exact List.filterMap_some

@[simp] theorem switchPart_recorded (l : List Record) : switchPart (l.map recorded) = [] := by
  rw [switchPart, List.filterMap_map]
  exact List.filterMap_eq_nil_iff.mpr fun _ _ => rfl

/-- A reload of one switch is one apply. -/
theorem run_applySingleSwitch_iff {r : Except String (List String)} :
    Run (applySingleSwitch hardwareWarnings switch) tr r ↔ ∃ session outcome,
      Applying hardwareWarnings switch session outcome ∧ tr = ofSwitch session ∧
        r = outcome.reloaded := by
  constructor
  · intro h
    obtain ⟨connected, tr₁, rfl, hrest⟩ := run_call_bind_iff.mp h
    cases connected with
    | error e =>
      -- no connection, so no disconnect either
      obtain ⟨rfl, rfl⟩ := run_fail_iff.mp hrest
      exact ⟨_, _, .unreachable, rfl, rfl⟩
    | ok _ =>
      obtain ⟨result, tr₂, tr₃, rfl, hwork, hlater⟩ := run_attempt_bind_iff.mp hrest
      obtain ⟨work, hwork', rfl⟩ := run_onSwitch_iff.mp hwork
      cases result with
      | error e =>
        obtain ⟨bye, tr₄, rfl, hend⟩ := run_call_bind_iff.mp hlater
        obtain ⟨rfl, rfl⟩ := run_fail_iff.mp hend
        -- the error of the work is kept, whatever the disconnect answers
        have happlying : Applying hardwareWarnings switch
            (⟨.connect, .ok ()⟩ :: (work ++ [⟨.disconnect, bye⟩])) (.refused e) := .refused hwork'
        refine ⟨_, _, happlying, ?_, rfl⟩
        show _ = _ :: ofSwitch (work ++ [⟨.disconnect, bye⟩])
        rw [ofSwitch_append]
        rfl
      | ok applied =>
        -- a save that fails does not undo the apply: the result carries both
        obtain ⟨saved, tr₄, tr₅, rfl, hsave, hbye⟩ := run_attempt_bind_iff.mp hlater
        obtain ⟨saving, hsave', rfl⟩ := run_onSwitch_iff.mp hsave
        obtain ⟨bye, tr₆, rfl, hend⟩ := run_call_bind_iff.mp hbye
        obtain ⟨rfl, rfl⟩ := run_pure_iff.mp hend
        have happlying : Applying hardwareWarnings switch (⟨.connect, .ok ()⟩ ::
            (work ++ (saving ++ [⟨.disconnect, bye⟩]))) (.applied applied saved) :=
          .applied hwork' hsave'
        refine ⟨_, _, happlying, ?_, rfl⟩
        show _ = _ :: ofSwitch (work ++ (saving ++ [⟨.disconnect, bye⟩]))
        rw [ofSwitch_append, ofSwitch_append]
        rfl
  · rintro ⟨session, outcome, happlying, rfl, rfl⟩
    cases happlying with
    | unreachable => exact run_call_bind_iff.mpr ⟨_, _, rfl, run_fail_iff.mpr ⟨rfl, rfl⟩⟩
    | @refused work e bye hwork =>
      refine run_call_bind_iff.mpr ⟨.ok (), ofSwitch (work ++ [⟨.disconnect, bye⟩]), rfl, ?_⟩
      rw [ofSwitch_append]
      refine run_attempt_bind_iff.mpr ⟨_, _, _, rfl, run_onSwitch_iff.mpr ⟨_, hwork, rfl⟩, ?_⟩
      exact run_call_bind_iff.mpr ⟨_, _, rfl, run_fail_iff.mpr ⟨rfl, rfl⟩⟩
    | @applied work saving result saved bye hwork hsave =>
      refine run_call_bind_iff.mpr
        ⟨.ok (), ofSwitch (work ++ (saving ++ [⟨.disconnect, bye⟩])), rfl, ?_⟩
      rw [ofSwitch_append, ofSwitch_append]
      refine run_attempt_bind_iff.mpr ⟨_, _, _, rfl, run_onSwitch_iff.mpr ⟨_, hwork, rfl⟩, ?_⟩
      refine run_attempt_bind_iff.mpr ⟨_, _, _, rfl, run_onSwitch_iff.mpr ⟨_, hsave, rfl⟩, ?_⟩
      exact run_call_bind_iff.mpr ⟨_, _, rfl, run_pure_iff.mpr ⟨rfl, rfl⟩⟩

/-- An outcome leaves its records. -/
theorem run_recordApply {result : Except String (List String)} {r : Except String Unit}
    (h : Run (recordApply result) tr r) :
    tr = (applyRecords result).map recorded ∧ r = .ok () := by
  cases result with
  | error e =>
    obtain ⟨_, rfl, rfl⟩ := run_call_iff.mp h
    exact ⟨rfl, rfl⟩
  | ok warnings =>
    obtain ⟨_, tr₁, rfl, hrest⟩ := run_call_bind_iff.mp h
    obtain ⟨_, rfl, rfl⟩ := run_call_iff.mp hrest
    exact ⟨rfl, rfl⟩

/-- A queued reload is not taken by talking to the switch. -/
theorem notMem_ofSwitch {answer : Bool} : ⟨.takePendingReload, answer⟩ ∉ ofSwitch session := by
  rw [ofSwitch, List.mem_map]
  rintro ⟨e, -, heq⟩
  cases heq

theorem notMem_recorded {answer : Bool} {l : List Record} :
    ⟨.takePendingReload, answer⟩ ∉ l.map recorded := by
  rw [List.mem_map]
  rintro ⟨e, -, heq⟩
  cases heq

section Frame

variable {answer : Bool} {u : Unit} {entry : Record} {call : Deploy.Call}
variable {said : Deploy.Answer call}

@[simp] theorem records_takeTurn : records (⟨.takeTurn, answer⟩ :: tr) = records tr := rfl

@[simp] theorem records_releaseTurn : records (⟨.releaseTurn, u⟩ :: tr) = records tr := rfl

@[simp] theorem records_takePending :
    records (⟨.takePendingReload, answer⟩ :: tr) = records tr := rfl

@[simp] theorem records_closeIdle : records (⟨.closeIdle, u⟩ :: tr) = records tr := rfl

@[simp] theorem switchPart_takeTurn :
    switchPart (⟨.takeTurn, answer⟩ :: tr) = switchPart tr := rfl

@[simp] theorem switchPart_releaseTurn :
    switchPart (⟨.releaseTurn, u⟩ :: tr) = switchPart tr := rfl

@[simp] theorem switchPart_takePending :
    switchPart (⟨.takePendingReload, answer⟩ :: tr) = switchPart tr := rfl

@[simp] theorem switchPart_closeIdle : switchPart (⟨.closeIdle, u⟩ :: tr) = switchPart tr := rfl

@[simp] theorem records_switch : records (⟨.switch call, said⟩ :: tr) = records tr := rfl

@[simp] theorem records_record :
    records (⟨.record entry, u⟩ :: tr) = entry :: records tr := rfl

@[simp] theorem switchPart_record :
    switchPart (⟨.record entry, u⟩ :: tr) = switchPart tr := rfl

@[simp] theorem records_cons_recorded : records (recorded entry :: tr) = entry :: records tr := rfl

@[simp] theorem switchPart_switch :
    switchPart (⟨.switch call, said⟩ :: tr) = ⟨call, said⟩ :: switchPart tr := rfl

@[simp] theorem switchPart_cons_recorded : switchPart (recorded entry :: tr) = switchPart tr := rfl

end Frame

/-- An apply with what it leaves behind, in front of something else. -/
theorem run_recorded {rest : Except String (List String) → Task Unit} {r : Except String Unit}
    (h : Run (do
      let result ← (applySingleSwitch hardwareWarnings switch).attempt (E := String)
      recordApply result
      rest result) tr r) :
    ∃ session outcome tr', Applying hardwareWarnings switch session outcome ∧
      tr = ofSwitch session ++ ((applyRecords outcome.reloaded).map recorded ++ tr') ∧
      Run (rest outcome.reloaded) tr' r := by
  obtain ⟨result, tr₁, tr₂, rfl, happly, hlater⟩ := run_attempt_bind_iff.mp h
  obtain ⟨session, outcome, happlying, rfl, rfl⟩ := run_applySingleSwitch_iff.mp happly
  rcases run_bind_iff.mp hlater with ⟨e, hrecord, -⟩ | ⟨_, tr₃, tr₄, rfl, hrecord, hrest⟩
  · cases (run_recordApply hrecord).2
  · obtain ⟨rfl, -⟩ := run_recordApply hrecord
    exact ⟨session, outcome, tr₄, happlying, rfl, hrest⟩

end Runs

/-- A reload applies once, or twice where another one was queued by then; each apply leaves its own
records behind, and the first one is the outcome. -/
theorem applying_of_reload {hardwareWarnings : List Char → List String} {switch : VendorSwitch}
    {tr : List Exchange} {r : Except String Unit}
    (h : Run ((Job.reload switch).task hardwareWarnings) tr r) :
    ∃ session outcome, Applying hardwareWarnings switch session outcome ∧
      (r = .ok () ↔ ∃ result saved, outcome = .applied result saved) ∧
      ((⟨.takePendingReload, false⟩ ∈ tr ∧ ⟨.takePendingReload, true⟩ ∉ tr ∧
        switchPart tr = session ∧ records tr = applyRecords outcome.reloaded) ∨
      ⟨.takePendingReload, false⟩ ∉ tr ∧ ⟨.takePendingReload, true⟩ ∈ tr ∧ ∃ session' outcome',
        Applying hardwareWarnings switch session' outcome' ∧ switchPart tr = session ++ session' ∧
        records tr = applyRecords outcome.reloaded ++ applyRecords outcome'.reloaded) := by
  obtain ⟨_, tr₁, rfl, hfirst⟩ := run_call_bind_iff.mp h
  obtain ⟨session, outcome, tr₂, happlying, rfl, hrest⟩ := run_recorded hfirst
  obtain ⟨pending, tr₃, rfl, hlater⟩ := run_call_bind_iff.mp hrest
  -- whatever came before, the turn is given back last
  have hend : ∀ {tr : List Exchange}, Run (do
      releaseTurn
      (.ofExcept (outcome.reloaded.map fun _ => ()) : Task Unit)) tr r →
      tr = [⟨.releaseTurn, ()⟩] ∧
        (r = .ok () ↔ ∃ result saved, outcome = .applied result saved) := by
    intro tr hrun
    obtain ⟨_, tr₄, rfl, hresult⟩ := run_call_bind_iff.mp hrun
    obtain ⟨rfl, rfl⟩ := run_ofExcept_iff.mp hresult
    refine ⟨rfl, ?_⟩
    cases outcome <;> simp [Outcome.reloaded, Except.map]
  refine ⟨session, outcome, happlying, ?_⟩
  cases pending with
  | false =>
    obtain ⟨rfl, hr⟩ := hend hlater
    exact ⟨hr, .inl ⟨by simp, by simp [notMem_ofSwitch, notMem_recorded], by simp, by simp⟩⟩
  | true =>
    obtain ⟨session', outcome', tr₄, happlying', rfl, hlast⟩ := run_recorded hlater
    obtain ⟨rfl, hr⟩ := hend hlast
    refine ⟨hr, .inr ⟨?_, by simp, session', outcome', happlying', by simp, by simp⟩⟩
    simp [notMem_ofSwitch, notMem_recorded]

/-! ## Requests -/

section Requests

variable {hardwareWarnings : List Char → List String} {switch : VendorSwitch}
variable {session : List Deploy.Exchange} {tr : List Exchange} {outcome : Outcome}
variable {r : Except String (List (List String))}

/-- An apply that failed, with what it leaves behind. -/
theorem run_failApply {kind message reason e : String}
    (h : Run (failApply kind message reason e) tr r) :
    tr = [recorded (.error kind message "apply_config"), recorded (.applyFailure reason),
      ⟨.releaseTurn, ()⟩] ∧ r = .error e := by
  obtain ⟨_, tr₁, rfl, h₁⟩ := run_call_bind_iff.mp h
  obtain ⟨_, tr₂, rfl, h₂⟩ := run_call_bind_iff.mp h₁
  obtain ⟨_, tr₃, rfl, h₃⟩ := run_call_bind_iff.mp h₂
  obtain ⟨rfl, rfl⟩ := run_fail_iff.mp h₃
  exact ⟨rfl, rfl⟩

/-- How a request leaves a switch that its configuration was applied to. -/
def leave (result : Applied) : Task (List (List String)) := do
  disconnect
  record (.warnings result.warnings)
  record .applySuccess
  releaseTurn
  return result.results

/-- An apply that came out well is recorded, and gives the turn back. -/
theorem run_leave {result : Applied} (h : Run (leave result) tr r) : ∃ bye : Except String Unit,
    tr = [⟨.switch .disconnect, bye⟩, recorded (.warnings result.warnings),
      recorded .applySuccess, ⟨.releaseTurn, ()⟩] ∧ r = .ok result.results := by
  obtain ⟨bye, tr₁, rfl, h₁⟩ := run_call_bind_iff.mp h
  obtain ⟨_, tr₂, rfl, h₂⟩ := run_call_bind_iff.mp h₁
  obtain ⟨_, tr₃, rfl, h₃⟩ := run_call_bind_iff.mp h₂
  obtain ⟨_, tr₄, rfl, h₄⟩ := run_call_bind_iff.mp h₃
  obtain ⟨rfl, rfl⟩ := run_pure_iff.mp h₄
  exact ⟨bye, rfl, rfl⟩

/-- The apply of a request is one apply; the reloads that are queued are not looked at. -/
theorem applying_of_run (h : Run (applyConfigImpl hardwareWarnings switch) tr r) :
    ∃ outcome, Applying hardwareWarnings switch (switchPart tr) outcome ∧
      records tr = outcome.requestRecords ∧ r = outcome.requested ∧
      ∀ answer, ⟨.takePendingReload, answer⟩ ∉ tr := by
  obtain ⟨_, tr₁, rfl, hfirst⟩ := run_call_bind_iff.mp h
  obtain ⟨connected, tr₂, rfl, hrest⟩ := run_call_bind_iff.mp hfirst
  cases connected with
  | error e =>
    obtain ⟨rfl, rfl⟩ := run_failApply hrest
    exact ⟨.unreachable e, .unreachable, rfl, rfl, by simp [recorded]⟩
  | ok _ =>
    obtain ⟨worked, tr₃, tr₄, rfl, hwork, hlater⟩ := run_attempt_bind_iff.mp hrest
    obtain ⟨work, hwork', rfl⟩ := run_onSwitch_iff.mp hwork
    cases worked with
    | error e =>
      obtain ⟨bye, tr₅, rfl, hfail⟩ := run_call_bind_iff.mp hlater
      obtain ⟨rfl, rfl⟩ := run_failApply hfail
      have happlying : Applying hardwareWarnings switch
          (⟨.connect, .ok ()⟩ :: (work ++ [⟨.disconnect, bye⟩])) (.refused e) := .refused hwork'
      exact ⟨.refused e, by simpa using happlying, by simp [Outcome.requestRecords], rfl,
        by simp [recorded, notMem_ofSwitch]⟩
    | ok result =>
      obtain ⟨saved, tr₅, tr₆, rfl, hsave, hleave⟩ := run_attempt_bind_iff.mp hlater
      obtain ⟨saving, hsave', rfl⟩ := run_onSwitch_iff.mp hsave
      -- whether it was saved or not, what was applied is what is recorded
      have happlying : ∀ bye : Except String Unit, Applying hardwareWarnings switch
          (⟨.connect, .ok ()⟩ :: (work ++ (saving ++ [⟨.disconnect, bye⟩])))
          (.applied result saved) := fun bye => .applied hwork' hsave'
      refine ⟨.applied result saved, ?_⟩
      cases saved with
      | ok _ =>
        have hleft : Run (leave result) _ _ := hleave
        obtain ⟨bye, rfl, rfl⟩ := run_leave hleft
        exact ⟨by simpa using happlying bye, by simp [Outcome.requestRecords, unsaved], rfl,
          by simp [recorded, notMem_ofSwitch]⟩
      | error e =>
        obtain ⟨_, tr₇, rfl, hleave'⟩ := run_call_bind_iff.mp hleave
        have hleft : Run (leave result) _ _ := hleave'
        obtain ⟨bye, rfl, rfl⟩ := run_leave hleft
        exact ⟨by simpa using happlying bye, by simp [Outcome.requestRecords, unsaved], rfl,
          by simp [recorded, notMem_ofSwitch]⟩

/-- Whatever can be said with a switch is said by some run. -/
theorem run_of_applying (h : Applying hardwareWarnings switch session outcome) :
    ∃ tr, Run (applyConfigImpl hardwareWarnings switch) tr outcome.requested ∧
      switchPart tr = session ∧ records tr = outcome.requestRecords := by
  have hfail : ∀ {kind message reason e : String}, Run (failApply kind message reason e)
      [recorded (.error kind message "apply_config"), recorded (.applyFailure reason),
        ⟨.releaseTurn, ()⟩] (.error e) :=
    .ask (.ask (.ask (.fail _)))
  have hleave : ∀ (result : Applied) (bye : Except String Unit), Run (leave result)
      [⟨.switch .disconnect, bye⟩, recorded (.warnings result.warnings), recorded .applySuccess,
        ⟨.releaseTurn, ()⟩] (.ok result.results) :=
    fun _ _ => .ask (.ask (.ask (.ask (.ok _))))
  cases h with
  | @unreachable e =>
    exact ⟨_, run_call_bind_iff.mpr ⟨(), _, rfl, run_call_bind_iff.mpr ⟨.error e, _, rfl, hfail⟩⟩,
      rfl, rfl⟩
  | @refused work e bye hwork =>
    refine ⟨_, run_call_bind_iff.mpr ⟨(), _, rfl, run_call_bind_iff.mpr ⟨.ok (), _, rfl,
      run_attempt_bind_iff.mpr ⟨_, _, _, rfl, run_onSwitch_iff.mpr ⟨_, hwork, rfl⟩,
        run_call_bind_iff.mpr ⟨bye, _, rfl, hfail⟩⟩⟩⟩, ?_, ?_⟩
    · simp
    · simp [Outcome.requestRecords]
  | @applied work saving result saved bye hwork hsave =>
    -- a failure to save leaves a record of its own
    have hsaving : ∃ tr, switchPart tr = saving ++ [⟨.disconnect, bye⟩] ∧
        records tr = (Outcome.applied result saved).requestRecords ∧ Run (do
          match ← (onSwitch (saveConfiguration switch)).attempt (E := String) with
          | .error e => record (.error "SaveConfiguration" e "apply_config")
          | .ok () => pure ()
          leave result) tr (.ok result.results) := by
      cases saved with
      | ok _ =>
        refine ⟨_, ?_, ?_, run_attempt_bind_iff.mpr ⟨_, _, _, rfl,
          run_onSwitch_iff.mpr ⟨_, hsave, rfl⟩, hleave result bye⟩⟩
        · simp
        · simp [Outcome.requestRecords, unsaved]
      | error e =>
        refine ⟨_, ?_, ?_, run_attempt_bind_iff.mpr ⟨_, _, _, rfl,
          run_onSwitch_iff.mpr ⟨_, hsave, rfl⟩, run_call_bind_iff.mpr ⟨(), _, rfl,
            hleave result bye⟩⟩⟩
        · simp
        · simp [Outcome.requestRecords, unsaved]
    obtain ⟨tr, hpart, hrecords, hrun⟩ := hsaving
    refine ⟨_, run_call_bind_iff.mpr ⟨(), _, rfl, run_call_bind_iff.mpr ⟨.ok (), _, rfl,
      run_attempt_bind_iff.mpr ⟨_, _, _, rfl, run_onSwitch_iff.mpr ⟨_, hwork, rfl⟩, hrun⟩⟩⟩,
      ?_, ?_⟩
    · simp [hpart]
    · simp [hrecords]

/-- A reload with nothing queued says the same. -/
theorem reload_of_applying (h : Applying hardwareWarnings switch session outcome) :
    ∃ tr r, Run ((Job.reload switch).task hardwareWarnings) tr r ∧
      ⟨.takePendingReload, false⟩ ∈ tr ∧ switchPart tr = session ∧
      records tr = applyRecords outcome.reloaded := by
  have hrecord : Run (recordApply outcome.reloaded) ((applyRecords outcome.reloaded).map recorded)
      (.ok ()) := by
    cases outcome.reloaded with
    | error e => exact .ask (.ok ())
    | ok warnings => exact .ask (.ask (.ok ()))
  have hend : Run (do
      releaseTurn
      (.ofExcept (outcome.reloaded.map fun _ => ()) : Task Unit)) [⟨.releaseTurn, ()⟩]
        (outcome.reloaded.map fun _ => ()) :=
    run_call_bind_iff.mpr ⟨(), _, rfl, run_ofExcept_iff.mpr ⟨rfl, rfl⟩⟩
  refine ⟨_, _, run_call_bind_iff.mpr ⟨(), _, rfl, run_attempt_bind_iff.mpr ⟨_, _, _, rfl,
    run_applySingleSwitch_iff.mpr ⟨session, outcome, h, rfl, rfl⟩, run_bind_iff.mpr (.inr
      ⟨(), _, _, rfl, hrecord, run_call_bind_iff.mpr ⟨false, _, rfl, hend⟩⟩)⟩⟩, ?_, ?_, ?_⟩
  · simp
  · simp
  · simp

end Requests

/-- An apply of a request leaves behind that its turn did not come, or what became of one apply. -/
theorem applying_of_request {hardwareWarnings : List Char → List String} {switch : VendorSwitch}
    {tr : List Exchange} {r : Except String Unit}
    (h : Run ((Job.apply switch).task hardwareWarnings) tr r) : r = .ok () ∧
      ((tr = [⟨.takeTurn, false⟩, recorded (.applyFailure gaveUp)]) ∨
        (∀ answer, ⟨.takePendingReload, answer⟩ ∉ tr) ∧
        ∃ outcome, Applying hardwareWarnings switch (switchPart tr) outcome ∧
          records tr = outcome.requestRecords) := by
  obtain ⟨granted, tr₁, rfl, hrest⟩ := run_call_bind_iff.mp h
  cases granted with
  | false =>
    obtain ⟨_, rfl, rfl⟩ := run_call_iff.mp hrest
    exact ⟨rfl, .inl rfl⟩
  | true =>
    obtain ⟨result, tr₂, tr₃, rfl, hrun, hpure⟩ := run_attempt_bind_iff.mp hrest
    obtain ⟨rfl, rfl⟩ := run_pure_iff.mp hpure
    obtain ⟨outcome, happlying, hrecords, -, hpending⟩ := applying_of_run hrun
    rw [List.append_nil]
    refine ⟨rfl, .inr ⟨fun answer hmem => ?_, outcome, happlying, hrecords⟩⟩
    rcases List.mem_cons.mp hmem with heq | hmem
    · cases heq
    · exact hpending answer hmem

/-- What a request may say to a switch the watcher may say to it as well, and the other way round;
each leaves its own records behind, of the same outcome. -/
theorem applies_agree {hardwareWarnings : List Char → List String} {switch : VendorSwitch} :
    (∀ tr r, Run ((Job.apply switch).task hardwareWarnings) (⟨.takeTurn, true⟩ :: tr) r →
      ∃ tr' r', ∃ outcome : Outcome, Run ((Job.reload switch).task hardwareWarnings) tr' r' ∧
        ⟨.takePendingReload, false⟩ ∈ tr' ∧ switchPart tr' = switchPart tr ∧
        records tr = outcome.requestRecords ∧ records tr' = applyRecords outcome.reloaded) ∧
    ∀ tr' r', Run ((Job.reload switch).task hardwareWarnings) tr' r' →
      ⟨.takePendingReload, false⟩ ∈ tr' →
      ∃ tr r, ∃ outcome : Outcome,
        Run ((Job.apply switch).task hardwareWarnings) (⟨.takeTurn, true⟩ :: tr) r ∧
        switchPart tr = switchPart tr' ∧
        records tr = outcome.requestRecords ∧ records tr' = applyRecords outcome.reloaded := by
  constructor
  · intro tr r h
    rcases (applying_of_request h).2 with heq | ⟨-, outcome, happlying, hrecords⟩
    · cases heq
    · obtain ⟨tr', r', hrun, hpending, hpart, hrecords'⟩ := reload_of_applying happlying
      exact ⟨tr', r', outcome, hrun, hpending, hpart, hrecords, hrecords'⟩
  · intro tr' r' h hpending
    obtain ⟨session, outcome, happlying, -, ⟨-, -, hpart, hrecords'⟩ | ⟨hnot, -⟩⟩ :=
      applying_of_reload h
    · obtain ⟨tr, hrun, hpart', hrecords⟩ := run_of_applying happlying
      have htask : Run ((Job.apply switch).task hardwareWarnings) (⟨.takeTurn, true⟩ :: tr)
          (.ok ()) := by
        refine run_call_bind_iff.mpr ⟨true, tr, rfl, run_attempt_bind_iff.mpr ?_⟩
        exact ⟨_, tr, [], (List.append_nil _).symm, hrun, run_pure_iff.mpr ⟨rfl, rfl⟩⟩
      exact ⟨tr, .ok (), outcome, htask, hpart'.trans hpart.symm, hrecords, hrecords'⟩
    · exact absurd hpending hnot

/-- The turn comes and the switch takes all commands. -/
def takingTask (queued : Bool) : List Exchange → (call : Call) → Answer call
  | _, .takeTurn => true
  | _, .releaseTurn => ()
  | _, .takePendingReload => queued
  | _, .closeIdle => ()
  | _, .checkout => .ok ()
  | _, .endSession _ => ()
  | _, .switch call => taking [] call
  | _, .emit _ _ => ()
  | _, .sleep => ()
  | _, .record _ => ()

/-- A request for a switch that lacks a VLAN and takes all commands. -/
def edgeApply : List Exchange × Except String Unit :=
  exec (takingTask false) [] ((Job.apply edge).task fun _ => [])

theorem applies_agree_edge : given .save (switchPart edgeApply.1) = ["write memory"] ∧
    ∃ tr' r', Run ((Job.reload edge).task fun _ => []) tr' r' ∧
      switchPart tr' = switchPart edgeApply.1 := by
  have hrun : Run ((Job.apply edge).task fun _ => []) (⟨.takeTurn, true⟩ :: edgeApply.1.tail)
      edgeApply.2 := run_exec (takingTask false) [] _
  obtain ⟨tr', r', outcome, hreload, -, hpart, -⟩ := applies_agree.1 _ _ hrun
  exact ⟨by decide +kernel, tr', r', hreload, hpart⟩

end SwitchConfigurator.Operations
