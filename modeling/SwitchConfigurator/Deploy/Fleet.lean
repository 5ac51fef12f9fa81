import SwitchConfigurator.Deploy.Safety

/-!
# Several switches

One session for each switch that is meant, one behind the other, and what is counted and recorded of
them.
-/

namespace SwitchConfigurator.Deploy

open Dialogue
open Lookup (SwitchStatus recordChange)

/-! ## Records of outcomes -/

/-- What is recorded of a switch, and when. -/
structure Recorded where
  id : String
  outcome : Except String Unit
  now : ℤ

def recordAll (status : List SwitchStatus) (records : List Recorded) : List SwitchStatus :=
  records.foldl (fun status record =>
    recordOutcome status record.id record.now record.outcome) status

/-- How often a switch was configured, and how often with and without success. -/
structure Counted (records : List Recorded) (old new : SwitchStatus) : Prop where
  id : new.id = old.id
  applied : new.applyCount = old.applyCount + records.countP fun record => record.id = old.id
  succeeded : new.successCount =
    old.successCount + records.countP fun record => record.id = old.id ∧ record.outcome.isOk
  failed : new.failureCount =
    old.failureCount + records.countP fun record => record.id = old.id ∧ !record.outcome.isOk

section Records

variable {status : List SwitchStatus} {records : List Recorded}

/-- Recording an outcome counts for its own switch. -/
theorem counted_recordOutcome (record : Recorded) (status : List SwitchStatus) :
    List.Forall₂ (Counted [record]) status
      (recordOutcome status record.id record.now record.outcome) := by
  obtain ⟨id, outcome, now⟩ := record
  induction status with
  | nil => cases outcome <;> exact .nil
  | cons old status ih =>
    cases outcome with
    | ok _ =>
      refine .cons ?_ ih
      by_cases h : old.id = id
      · simp only [if_pos h]
        constructor <;> simp [Lookup.Change.apply, h, Except.isOk, Except.toBool]
      · simp only [if_neg h]
        constructor <;> simp [Ne.symm h]
    | error reason =>
      refine .cons ?_ ih
      by_cases h : old.id = id
      · simp only [if_pos h]
        constructor <;> simp [Lookup.Change.apply, h, Except.isOk, Except.toBool]
      · simp only [if_neg h]
        constructor <;> simp [Ne.symm h]

/-- Counts add up. -/
theorem Counted.trans {first : Recorded} {old mid new : SwitchStatus}
    (h : Counted [first] old mid) (h' : Counted records mid new) :
    Counted (first :: records) old new := by
  obtain ⟨hid, happlied, hsucceeded, hfailed⟩ := h
  obtain ⟨hid', happlied', hsucceeded', hfailed'⟩ := h'
  rw [hid] at happlied' hsucceeded' hfailed'
  rw [← List.singleton_append]
  refine ⟨hid'.trans hid, ?_, ?_, ?_⟩
  · rw [List.countP_append, happlied', happlied]
    omega
  · rw [List.countP_append, hsucceeded', hsucceeded]
    omega
  · rw [List.countP_append, hfailed', hfailed]
    omega

/-- Several outcomes count each for its own switch. -/
theorem counted_recordAll (records : List Recorded) (status : List SwitchStatus) :
    List.Forall₂ (Counted records) status (recordAll status records) := by
  induction records generalizing status with
  | nil =>
    refine List.forall₂_same.mpr fun record _ => ?_
    constructor <;> simp
  | cons first records ih =>
    have hfirst := counted_recordOutcome first status
    have hrest := ih (recordOutcome status first.id first.now first.outcome)
    -- the two relations one behind the other
    have htrans : ∀ {l l' l'' : List SwitchStatus}, List.Forall₂ (Counted [first]) l l' →
        List.Forall₂ (Counted records) l' l'' → List.Forall₂ (Counted (first :: records)) l l'' :=
          by
      intro l l' l'' h h'
      induction h generalizing l'' with
      | nil =>
        cases h'
        exact .nil
      | cons hhead _ ih =>
        cases h' with
        | cons hhead' htail' => exact .cons (hhead.trans hhead') (ih htail')
    exact htrans hfirst hrest

end Records

/-! ## Sessions -/

/-- A switch that was configured: its session, what came of it, and when that was recorded. -/
structure Configured where
  switch : VendorSwitch
  session : List Exchange
  outcome : Except String Unit
  now : ℤ

namespace Configured

def recorded (configured : Configured) : Recorded :=
  ⟨(desired configured.switch).id, configured.outcome, configured.now⟩

/-- What was asked and answered meanwhile. -/
def exchanges (tracked : Bool) (configured : Configured) : List (Event FleetAnswer) :=
  configured.session.map (fun e => ⟨.switch (desired configured.switch).id e.1, e.2⟩) ++
    if tracked then [⟨.now, configured.now⟩] else []

end Configured

section Runs

variable {hardwareWarnings : List Char → List String} {lowercase : List Char → List Char}
variable {printable : Char → Bool} {dryRun : Bool}
variable {tr : List (Event FleetAnswer)}

/-- A record is made only where there is a tracker. -/
theorem run_record {id : String} {outcome : Except String Unit} {status :
    Option (List SwitchStatus)}
    {r : Except String (Option (List SwitchStatus))} (h : Run (record id outcome status) tr r) :
    ∃ now, tr = (if status.isSome then [⟨.now, now⟩] else []) ∧
      r = .ok (status.map fun status => recordAll status [⟨id, outcome, now⟩]) := by
  cases status with
  | none =>
    obtain ⟨rfl, rfl⟩ := run_pure_iff.mp h
    exact ⟨0, rfl, rfl⟩
  | some status =>
    obtain ⟨now, tr', rfl, hrest⟩ := run_ask_iff.mp h
    obtain ⟨rfl, rfl⟩ := run_pure_iff.mp hrest
    exact ⟨now, rfl, rfl⟩

/-- Every switch has a session of its own, whatever became of the ones before. -/
theorem run_configureAll {switches : List VendorSwitch} {summary : Summary}
    {status : Option (List SwitchStatus)}
    {r : Except String (Summary × Option (List SwitchStatus))}
    (h : Run (configureAll hardwareWarnings lowercase printable dryRun switches summary status)
      tr r) :
    ∃ configured : List Configured, configured.map Configured.switch = switches ∧
      (∀ c ∈ configured, Run (configureSwitchOnce hardwareWarnings lowercase printable c.switch
        dryRun) c.session c.outcome) ∧
      tr = configured.flatMap (Configured.exchanges status.isSome) ∧
      r = .ok ((configured.map Configured.outcome).foldl Summary.count summary,
        status.map fun status => recordAll status (configured.map Configured.recorded)) := by
  -- on the switches; each outcome is recorded and the rest is run in any case
  induction switches generalizing tr summary status with
  | nil =>
    obtain ⟨rfl, rfl⟩ := run_pure_iff.mp h
    refine ⟨[], rfl, fun _ h => absurd h List.not_mem_nil, rfl, ?_⟩
    cases status <;> rfl
  | cons switch switches ih =>
    rcases run_bind_iff.mp h with ⟨e, hrun, -⟩ | ⟨outcome, tr₁, tr₂, rfl, hrun, hrest⟩
    · obtain ⟨r', -, hr⟩ := run_attempt_iff.mp hrun
      cases hr
    obtain ⟨r', hrun, hr⟩ := run_attempt_iff.mp hrun
    obtain rfl := Except.ok.inj hr
    obtain ⟨session, hsession, rfl⟩ := run_embed_iff.mp hrun
    rcases run_bind_iff.mp hrest with ⟨e, hrecord, -⟩ | ⟨status', tr₃, tr₄, rfl, hrecord, hrest⟩
    · obtain ⟨now, -, hr⟩ := run_record hrecord
      cases hr
    obtain ⟨now, rfl, hstatus⟩ := run_record hrecord
    obtain rfl := Except.ok.inj hstatus
    obtain ⟨configured, rfl, hruns, rfl, rfl⟩ := ih hrest
    refine ⟨⟨switch, session, outcome, now⟩ :: configured, rfl, ?_, ?_, ?_⟩
    · exact List.forall_mem_cons.mpr ⟨hsession, hruns⟩
    · rw [List.flatMap_cons, Configured.exchanges, List.append_assoc, Option.isSome_map]
    · cases status <;> rfl

/-- The summary counts successes and failures. -/
theorem foldl_count (outcomes : List (Except String Unit)) (summary : Summary) :
    outcomes.foldl Summary.count summary =
      ⟨summary.successCount + outcomes.countP (·.isOk),
        summary.failureCount + outcomes.countP (!·.isOk)⟩ := by
  induction outcomes generalizing summary with
  | nil => rfl
  | cons outcome outcomes ih =>
    rw [List.foldl_cons, ih, List.countP_cons, List.countP_cons]
    cases outcome <;> simp [Summary.count, Except.isOk, Except.toBool] <;> omega

end Runs

/-- One session for each of the switches, in their order, each as if it was the only one; all are
counted, and the status of a tracked switch is changed by as many successes and failures as it had
sessions. -/
structure Accounted (hardwareWarnings : List Char → List String) (lowercase : List Char → List Char)
    (printable : Char → Bool) (dryRun : Bool) (switches : List VendorSwitch)
    (configured : List Configured) (tr : List (Event FleetAnswer)) (summary : Summary)
    (status status' : List SwitchStatus) : Prop where
  meant : configured.map Configured.switch = switches
  sessions : ∀ c ∈ configured, Run (configureSwitchOnce hardwareWarnings lowercase printable
    c.switch dryRun) c.session c.outcome
  exchanges : tr = configured.flatMap (Configured.exchanges true)
  successes : summary.successCount = configured.countP (·.outcome.isOk)
  all : summary.successCount + summary.failureCount = switches.length
  statuses : List.Forall₂ (Counted (configured.map Configured.recorded)) status status'

/-- A run over the fleet is the runs of its switches, in order and counted. -/
theorem accounted_of_run {hardwareWarnings : List Char → List String}
    {lowercase : List Char → List Char} {printable : Char → Bool} {dryRun : Bool}
    {switches : List VendorSwitch} {status : List SwitchStatus} {tr : List (Event FleetAnswer)}
    {r : Except String (Summary × Option (List SwitchStatus))}
    (h : Run (configureAll hardwareWarnings lowercase printable dryRun switches {} (some status))
      tr r) :
    ∃ configured summary status', r = .ok (summary, some status') ∧
      Accounted hardwareWarnings lowercase printable dryRun switches configured tr summary status
        status' := by
  obtain ⟨configured, rfl, hruns, htr, rfl⟩ := run_configureAll h
  refine ⟨configured, _, _, rfl, rfl, hruns, htr, ?_, ?_, counted_recordAll _ status⟩
  · rw [foldl_count, List.countP_map, Nat.zero_add]
    rfl
  · have hlength := List.length_eq_countP_add_countP (l := configured.map Configured.outcome)
      (p := fun outcome => outcome.isOk)
    rw [foldl_count, List.length_map, Nat.zero_add, Nat.zero_add]
    rw [List.length_map] at hlength
    simpa using hlength.symm

/-- A target that names no switch ends a run before any session; else every switch is tried. -/
theorem run_applyConfigurationOnce {hardwareWarnings : List Char → List String}
    {lowercase : List Char → List Char} {printable : Char → Bool} {runtime : RuntimeConfig}
    {switches : List VendorSwitch} {status : Option (List SwitchStatus)}
    {tr : List (Event FleetAnswer)} {r : Except String (Summary × Option (List SwitchStatus))}
    (h : Run (applyConfigurationOnce hardwareWarnings lowercase printable runtime switches status)
      tr r) :
    (tr = [] ∧ r = .error "Target switch not found" ∧ runtime.targetSwitch.isSome = true ∧
      switchesToConfigure runtime switches = []) ∨
    Run (configureAll hardwareWarnings lowercase printable runtime.dryRun
      (switchesToConfigure runtime switches) {} status) tr r := by
  rw [applyConfigurationOnce] at h
  split at h
  · next hempty =>
    rw [List.isEmpty_iff] at hempty
    split at h
    · next htarget =>
      obtain ⟨rfl, rfl⟩ := run_fail_iff.mp h
      exact .inl ⟨rfl, rfl, htarget, hempty⟩
    · rw [hempty]
      exact .inr h
  · exact .inr h

/-- A run over the switches that are meant accounts for all of them, unless there is none where one
was asked for by its name. -/
theorem fleet_accounts {hardwareWarnings : List Char → List String}
    {lowercase : List Char → List Char} {printable : Char → Bool} {runtime : RuntimeConfig}
    {switches : List VendorSwitch} {status : List SwitchStatus} {tr : List (Event FleetAnswer)}
    {r : Except String (Summary × Option (List SwitchStatus))}
    (h : Run (applyConfigurationOnce hardwareWarnings lowercase printable runtime switches
      (some status)) tr r) :
    (tr = [] ∧ r = .error "Target switch not found" ∧ runtime.targetSwitch.isSome = true ∧
      switchesToConfigure runtime switches = []) ∨
    ∃ configured summary status', r = .ok (summary, some status') ∧
      Accounted hardwareWarnings lowercase printable runtime.dryRun
        (switchesToConfigure runtime switches) configured tr summary status status' :=
  (run_applyConfigurationOnce h).imp_right accounted_of_run

/-- A switch that is not there, besides the one above. -/
def remote : VendorSwitch := .aruba { config :=
  { id := "remote"
    hostname := some "remote1"
    vlans := [{ id := 1, name := "DEFAULT_VLAN" }] } }

def takingAll : List (Event FleetAnswer) → (call : FleetCall) → FleetAnswer call
  | _, .switch id call =>
    match call with
    | .connect => if id = "remote" then .error "Connection timed out" else .ok ()
    | call => taking [] call
  | _, .now => 1000

def fleetRun : List (Event FleetAnswer) ×
    Except String (Summary × Option (List SwitchStatus)) :=
  exec takingAll [] (applyConfigurationOnce (fun _ => []) id (fun _ => true) {} [remote, edge]
    (some [.ofConfig (desired remote), .ofConfig (desired edge)]))

/-- The second switch is configured though the first one was not. -/
theorem fleet_accounts_edge : ∃ configured summary status',
    fleetRun.2 = .ok (summary, some status') ∧
    Accounted (fun _ => []) id (fun _ => true) false [remote, edge] configured fleetRun.1 summary
      [.ofConfig (desired remote), .ofConfig (desired edge)] status' ∧
    summary.successCount = 1 ∧ summary.failureCount = 1 := by
  have haccounts := fleet_accounts (run_exec takingAll [] (applyConfigurationOnce (fun _ => []) id
    (fun _ => true) {} [remote, edge]
    (some [.ofConfig (desired remote), .ofConfig (desired edge)])))
  obtain ⟨configured, summary, status', hr, haccounted⟩ :=
    haccounts.resolve_left fun h => by cases h.2.2.1
  have hfailures : fleetRun.2.map (fun result => result.1.failureCount) = .ok 1 := by
    decide +kernel
  have hone : summary.failureCount = 1 := by
    rw [show fleetRun.2 = .ok (summary, some status') from hr] at hfailures
    exact Except.ok.inj hfailures
  refine ⟨configured, summary, status', hr, haccounted, ?_, hone⟩
  have hall := haccounted.all
  rw [hone] at hall
  exact Nat.add_right_cancel hall

end SwitchConfigurator.Deploy
