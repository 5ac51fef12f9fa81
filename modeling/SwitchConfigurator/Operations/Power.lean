import SwitchConfigurator.Operations.Protocol

/-!
# Power, on and off

How the operations on the power of a port go, what they tell of it, and what the switch may have
taken of the lines by then.
-/

namespace SwitchConfigurator.Operations

open Dialogue Deploy

/-! ## What is told -/

def stages (tr : List Exchange) : List (String × Option String) :=
  tr.filterMap fun e =>
    match e.1 with
    | .emit stage detail => some (stage, detail)
    | _ => none

def records (tr : List Exchange) : List Record :=
  tr.filterMap fun e =>
    match e.1 with
    | .record r => some r
    | _ => none

def said (stage : String) (detail : Option String) : Exchange := ⟨.emit stage detail, ()⟩

def slept : Exchange := ⟨.sleep, ()⟩

def ended (healthy : Bool) : Exchange := ⟨.endSession healthy, ()⟩

/-- What was said with the switch, as a part of the task. -/
def ofSwitch (tr : List Deploy.Exchange) : List Exchange := tr.map fun e => ⟨.switch e.1, e.2⟩

section Told

variable {stage : String} {detail : Option String} {healthy : Bool} {tr tr' : List Exchange}

@[simp] theorem stages_nil : stages [] = [] := rfl

@[simp] theorem stages_said :
    stages (said stage detail :: tr) = (stage, detail) :: stages tr := rfl

@[simp] theorem stages_slept : stages (slept :: tr) = stages tr := rfl

@[simp] theorem stages_ended : stages (ended healthy :: tr) = stages tr := rfl

@[simp] theorem records_nil : records [] = [] := rfl

@[simp] theorem records_said : records (said stage detail :: tr) = records tr := rfl

@[simp] theorem records_slept : records (slept :: tr) = records tr := rfl

@[simp] theorem records_ended : records (ended healthy :: tr) = records tr := rfl

@[simp] theorem stages_append : stages (tr ++ tr') = stages tr ++ stages tr' :=
  List.filterMap_append

@[simp] theorem records_append : records (tr ++ tr') = records tr ++ records tr' :=
  List.filterMap_append

/-- Talking to the switch tells nothing. -/
@[simp] theorem stages_ofSwitch (lines : List Deploy.Exchange) : stages (ofSwitch lines) = [] := by
  rw [stages, ofSwitch, List.filterMap_map]
  exact List.filterMap_eq_nil_iff.mpr fun _ _ => rfl

/-- Nor does it leave records. -/
@[simp] theorem records_ofSwitch (lines : List Deploy.Exchange) :
    records (ofSwitch lines) = [] := by
  rw [records, ofSwitch, List.filterMap_map]
  exact List.filterMap_eq_nil_iff.mpr fun _ _ => rfl

theorem ended_notMem_ofSwitch {given : List Deploy.Exchange} :
    ended healthy ∉ ofSwitch given := by
  rw [ofSwitch, List.mem_map]
  rintro ⟨e, -, heq⟩
  cases heq

end Told

/-! ## The ways it can go -/

/-- Up to the first line. -/
def opening (stage : String) : List Exchange :=
  [said "connecting" none, ⟨.checkout, .ok ()⟩, said stage none]

def waited (seconds : List ℕ) : List Exchange :=
  seconds.flatMap fun n => [said "waiting" (some (toString n)), slept]

/-- The two halves of a reset have this between them. -/
def waiting : List Exchange := waited [3, 2, 1]

@[simp] theorem stages_opening {stage : String} :
    stages (opening stage) = [("connecting", none), (stage, none)] := rfl

@[simp] theorem records_opening {stage : String} : records (opening stage) = [] := rfl

@[simp] theorem stages_waiting :
    stages waiting = [3, 2, 1].map fun n => ("waiting", some (toString n)) := rfl

@[simp] theorem records_waiting : records waiting = [] := rfl

def PoeCommands.lines (commands : PoeCommands) (turnOn : Bool) : List String :=
  if turnOn then commands.enable else commands.disable

/-- The lines were given to the switch, up to one that failed. -/
abbrev Given (lines : List String) (given : List Deploy.Exchange) (r : Except String Unit) : Prop :=
  Run (executeCommands .apply lines) given r

inductive PowerRun (portId : String) (commands : PoeCommands) :
    PowerChange → List Exchange → Except String Unit → Prop
  | unconnected {change : PowerChange} {e : String} : PowerRun portId commands change
      [said "connecting" none, ⟨.checkout, .error e⟩] (.error ("Connection failed: " ++ e))
  | set {turnOn : Bool} {given : List Deploy.Exchange}
      (hset : Given (commands.lines turnOn) given (.ok ())) :
      PowerRun portId commands (.set turnOn) (opening "setting" ++ ofSwitch given ++ [ended true])
        (.ok ())
  | notSet {turnOn : Bool} {given : List Deploy.Exchange} {e : String}
      (hset : Given (commands.lines turnOn) given (.error e)) :
      PowerRun portId commands (.set turnOn) (opening "setting" ++ ofSwitch given ++ [ended false])
        (.error s!"Failed to turn PoE {actionName turnOn} on port {portId}: {e}")
  | notDisabled {off : List Deploy.Exchange} {e : String}
      (hoff : Given commands.disable off (.error e)) :
      PowerRun portId commands .reset (opening "disabling" ++ ofSwitch off ++ [ended false])
        (.error s!"Failed to disable PoE: {e}")
  | restored {off on : List Deploy.Exchange} (hoff : Given commands.disable off (.ok ()))
      (hon : Given commands.enable on (.ok ())) :
      PowerRun portId commands .reset (opening "disabling" ++ ofSwitch off ++
        (waiting ++ said "enabling" none :: (ofSwitch on ++ [ended true]))) (.ok ())
  | retried {off cut on : List Deploy.Exchange} {e : String}
      (hoff : Given commands.disable off (.ok ())) (hcut : Given commands.enable cut (.error e))
      (hon : Given commands.enable on (.ok ())) :
      PowerRun portId commands .reset (opening "disabling" ++ ofSwitch off ++
        (waiting ++ said "enabling" none :: (ofSwitch cut ++ slept ::
          (ofSwitch on ++ [ended true])))) (.ok ())
  | leftOff {off cut cut' : List Deploy.Exchange} {e e' : String}
      (hoff : Given commands.disable off (.ok ())) (hcut : Given commands.enable cut (.error e))
      (hcut' : Given commands.enable cut' (.error e')) :
      PowerRun portId commands .reset (opening "disabling" ++ ofSwitch off ++
        (waiting ++ said "enabling" none :: (ofSwitch cut ++ slept ::
          (ofSwitch cut' ++ [ended false])))) (.error (Operations.leftOff portId e'))

section Runs

variable {config : SwitchConfig} {portId : String} {commands : PoeCommands} {turnOn : Bool}
variable {change : PowerChange} {lines : List String} {tr : List Exchange} {r : Except String Unit}

theorem run_checkout_iff : Run checkout tr r ↔ ∃ lent : Except String Unit,
    tr = [⟨.checkout, lent⟩] ∧ r = lent.mapError ("Connection failed: " ++ ·) := by
  rw [checkout, run_call_bind_iff]
  constructor
  · rintro ⟨lent, tr', rfl, h⟩
    obtain ⟨rfl, rfl⟩ := run_ofExcept_iff.mp h
    exact ⟨lent, rfl, rfl⟩
  · rintro ⟨lent, rfl, rfl⟩
    exact ⟨lent, [], rfl, run_ofExcept_iff.mpr ⟨rfl, rfl⟩⟩

/-- Raw commands are given one after another, until one is refused. -/
theorem run_executeRawCommands_iff :
    Run (executeRawCommands lines) tr r ↔ ∃ given, Given lines given r ∧ tr = ofSwitch given :=
  run_embed_iff

theorem run_endSession_iff {healthy : Bool} :
    Run (endSession healthy) tr r ↔ tr = [ended healthy] ∧ r = .ok () := by
  rw [endSession, run_call_iff]
  constructor
  · rintro ⟨-, rfl, rfl⟩
    exact ⟨rfl, rfl⟩
  · rintro ⟨rfl, rfl⟩
    exact ⟨(), rfl, rfl⟩

/-- A session that is given up, with the reason. -/
theorem run_giveUp_iff {message : String} :
    Run (do endSession false; (.fail message : Task Unit)) tr r ↔
      tr = [ended false] ∧ r = .error message := by
  rw [endSession, run_call_bind_iff]
  constructor
  · rintro ⟨-, tr', rfl, h⟩
    obtain ⟨rfl, rfl⟩ := run_fail_iff.mp h
    exact ⟨rfl, rfl⟩
  · rintro ⟨rfl, rfl⟩
    exact ⟨(), [], rfl, run_fail_iff.mpr ⟨rfl, rfl⟩⟩

/-- A countdown waits and tells so. -/
theorem run_countdown {seconds : List ℕ} (h : Run (countdown seconds) tr r) :
    tr = waited seconds ∧ r = .ok () := by
  induction seconds generalizing tr with
  | nil => exact run_pure_iff.mp h
  | cons n seconds ih =>
    obtain ⟨-, tr', rfl, h⟩ := run_call_bind_iff.mp h
    obtain ⟨-, tr', rfl, h⟩ := run_call_bind_iff.mp h
    obtain ⟨rfl, rfl⟩ := ih h
    exact ⟨rfl, rfl⟩

/-- What an operation begins with: a session, or it is at its end. -/
theorem run_opening {stage : String} {rest : Task Unit}
    (h : Run (do emit "connecting" none; checkout; emit stage none; rest) tr r) :
    (∃ e, tr = [said "connecting" none, ⟨.checkout, .error e⟩] ∧
      r = .error ("Connection failed: " ++ e)) ∨
    ∃ tr', tr = opening stage ++ tr' ∧ Run rest tr' r := by
  obtain ⟨-, tr₁, rfl, hfirst⟩ := run_call_bind_iff.mp h
  rcases run_bind_iff.mp hfirst with ⟨e, hlent, rfl⟩ | ⟨_, tr₂, tr₃, rfl, hlent, hlater⟩
  · obtain ⟨lent, rfl, hr⟩ := run_checkout_iff.mp hlent
    cases lent with
    | ok _ => cases hr
    | error e =>
      obtain rfl := Except.error.inj hr
      exact .inl ⟨e, rfl, rfl⟩
  · obtain ⟨lent, rfl, hr⟩ := run_checkout_iff.mp hlent
    cases lent with
    | error e => cases hr
    | ok _ =>
      obtain ⟨-, tr₄, rfl, hrest⟩ := run_call_bind_iff.mp hlater
      exact .inr ⟨tr₄, rfl, hrest⟩

/-- A change of power is one of the ways it can go. -/
theorem powerRun_of_poeSetImpl (h : Run (poeSetImpl config portId turnOn) tr r) :
    PowerRun portId (poeCommandsFor config portId) (.set turnOn) tr r := by
  rcases run_opening h with ⟨e, rfl, rfl⟩ | ⟨tr', rfl, hrest⟩
  · exact .unconnected
  obtain ⟨r', tr₁, tr₂, rfl, hlines, hend⟩ := run_attempt_bind_iff.mp hrest
  obtain ⟨given, hset, rfl⟩ := run_executeRawCommands_iff.mp hlines
  rw [← List.append_assoc]
  cases r' with
  | ok _ =>
    obtain ⟨rfl, rfl⟩ := run_endSession_iff.mp hend
    exact .set hset
  | error e =>
    obtain ⟨rfl, rfl⟩ := run_giveUp_iff.mp hend
    exact .notSet hset

/-- The second half of a reset. -/
theorem run_reenable (h : Run (reenable portId lines) tr r) :
    (∃ on, Given lines on (.ok ()) ∧ r = .ok () ∧
      tr = said "enabling" none :: (ofSwitch on ++ [ended true])) ∨
    ∃ cut e, Given lines cut (.error e) ∧
      ((∃ on, Given lines on (.ok ()) ∧ r = .ok () ∧
        tr = said "enabling" none :: (ofSwitch cut ++ slept :: (ofSwitch on ++ [ended true]))) ∨
      ∃ cut' e', Given lines cut' (.error e') ∧ r = .error (leftOff portId e') ∧
        tr = said "enabling" none ::
          (ofSwitch cut ++ slept :: (ofSwitch cut' ++ [ended false]))) := by
  obtain ⟨-, tr₁, rfl, htry⟩ := run_call_bind_iff.mp h
  obtain ⟨r₁, tr₂, tr₃, rfl, hfirst, hrest⟩ := run_attempt_bind_iff.mp htry
  obtain ⟨on, hon, rfl⟩ := run_executeRawCommands_iff.mp hfirst
  cases r₁ with
  | ok _ =>
    obtain ⟨rfl, rfl⟩ := run_endSession_iff.mp hrest
    exact .inl ⟨on, hon, rfl, rfl⟩
  | error e =>
    obtain ⟨-, tr₄, rfl, hretry⟩ := run_call_bind_iff.mp hrest
    obtain ⟨r₂, tr₅, tr₆, rfl, hsecond, hend⟩ := run_attempt_bind_iff.mp hretry
    obtain ⟨on', hon', rfl⟩ := run_executeRawCommands_iff.mp hsecond
    cases r₂ with
    | ok _ =>
      obtain ⟨rfl, rfl⟩ := run_endSession_iff.mp hend
      exact .inr ⟨on, e, hon, .inl ⟨on', hon', rfl, rfl⟩⟩
    | error e' =>
      obtain ⟨rfl, rfl⟩ := run_giveUp_iff.mp hend
      exact .inr ⟨on, e, hon, .inr ⟨on', e', hon', rfl, rfl⟩⟩

/-- So is a reset. -/
theorem powerRun_of_poeResetImpl (h : Run (poeResetImpl config portId) tr r) :
    PowerRun portId (poeCommandsFor config portId) .reset tr r := by
  rcases run_opening h with ⟨e, rfl, rfl⟩ | ⟨tr', rfl, hrest⟩
  · exact .unconnected
  obtain ⟨r₁, tr₁, tr₂, rfl, hlines, hlater⟩ := run_attempt_bind_iff.mp hrest
  obtain ⟨off, hoff, rfl⟩ := run_executeRawCommands_iff.mp hlines
  rw [← List.append_assoc]
  cases r₁ with
  | error e =>
    obtain ⟨rfl, rfl⟩ := run_giveUp_iff.mp hlater
    exact .notDisabled hoff
  | ok _ =>
    rcases run_bind_iff.mp hlater with ⟨e, hwait, -⟩ | ⟨_, tr₃, tr₄, rfl, hwait, hsecond⟩
    · cases (run_countdown hwait).2
    obtain ⟨rfl, -⟩ := run_countdown hwait
    rcases run_reenable hsecond with ⟨on, hon, rfl, rfl⟩ |
      ⟨cut, e, hcut, ⟨on, hon, rfl, rfl⟩ | ⟨cut', e', hcut', rfl, rfl⟩⟩
    · exact .restored hoff hon
    · exact .retried hoff hcut hon
    · exact .leftOff hoff hcut hcut'

/-- So is either, by the kind of change. -/
theorem powerRun_of_impl (h : Run (change.impl config portId) tr r) :
    PowerRun portId (poeCommandsFor config portId) change tr r := by
  cases change with
  | set turnOn => exact powerRun_of_poeSetImpl h
  | reset => exact powerRun_of_poeResetImpl h

end Runs

/-! ## How it ended -/

/-- The last event of an operation. -/
def closing : Except String Unit → String × Option String
  | .ok () => ("done", none)
  | .error e => ("failed", some e)

namespace PowerChange

/-- The stages in front of it. -/
def plan : PowerChange → List (String × Option String)
  | set _ => [("connecting", none), ("setting", none)]
  | reset => [("connecting", none), ("disabling", none)] ++
      [3, 2, 1].map (fun n => ("waiting", some (toString n))) ++ [("enabling", none)]

def failures (change : PowerChange) : Except String Unit → List Record
  | .ok () => []
  | .error e => [.error change.kind e change.operation]

end PowerChange

section Ends

variable {config : SwitchConfig} {portId : String} {change : PowerChange} {commands : PoeCommands}
variable {hardwareWarnings : List Char → List String}
variable {tr : List Exchange} {r outcome : Except String Unit}

/-- How it ended, as it is told. -/
def told (change : PowerChange) (outcome : Except String Unit) : List Exchange :=
  said (closing outcome).1 (closing outcome).2 ::
    (change.failures outcome).map fun failure => ⟨.record failure, ()⟩

/-- An operation that gets its turn gives it back at the very end, and one that does not get it
does nothing. -/
theorem run_power (h : Run ((Job.power change config portId).task hardwareWarnings) tr r) :
    tr = ⟨.takeTurn, false⟩ :: told change (.error gaveUp) ∨
    ∃ body outcome, tr = ⟨.takeTurn, true⟩ :: (body ++ told change outcome ++
      [⟨.releaseTurn, ()⟩]) ∧
      PowerRun portId (poeCommandsFor config portId) change body outcome := by
  have htask : (Job.power change config portId).task hardwareWarnings =
      poeTask change.kind change.operation (change.impl config portId) := by
    cases change <;> rfl
  rw [htask] at h
  obtain ⟨granted, tr₁, rfl, hrest⟩ := run_call_bind_iff.mp h
  cases granted with
  | false =>
    obtain ⟨_, tr₂, rfl, hrecord⟩ := run_call_bind_iff.mp hrest
    obtain ⟨_, rfl, -⟩ := run_call_iff.mp hrecord
    exact .inl rfl
  | true =>
    obtain ⟨outcome, body, tr₂, rfl, himpl, hend⟩ := run_attempt_bind_iff.mp hrest
    refine .inr ⟨body, outcome, ?_, powerRun_of_impl himpl⟩
    cases outcome with
    | ok _ =>
      obtain ⟨_, tr₃, rfl, hrelease⟩ := run_call_bind_iff.mp hend
      obtain ⟨_, rfl, -⟩ := run_call_iff.mp hrelease
      simp [told, closing, PowerChange.failures, said]
    | error e =>
      obtain ⟨_, tr₃, rfl, hrecord⟩ := run_call_bind_iff.mp hend
      obtain ⟨_, tr₄, rfl, hrelease⟩ := run_call_bind_iff.mp hrecord
      obtain ⟨_, rfl, -⟩ := run_call_iff.mp hrelease
      simp [told, closing, PowerChange.failures, said]

/-- An operation names its stages one by one, and ends the session as healthy if all went well. -/
theorem stages_of_powerRun (h : PowerRun portId commands change tr outcome) :
    stages tr <+: change.plan ∧ (outcome = .ok () → stages tr = change.plan) ∧ records tr = [] ∧
      (ended true ∈ tr ↔ outcome = .ok ()) := by
  -- the report that ends a run well is none of the others
  have hopening : ∀ {stage : String}, ended true ∉ opening stage := by
    intro stage
    simp [opening, ended, said]
  have hwaiting : ended true ∉ waiting := by simp [waiting, waited, ended, said, slept]
  have hended : ended true ≠ ended false := by simp [ended]
  have hsaid : ∀ {stage : String} {detail : Option String}, ended true ≠ said stage detail := by
    simp [ended, said]
  have hslept : ended true ≠ slept := by simp [ended, slept]
  cases h with
  | unconnected =>
    refine ⟨?_, by simp, rfl, by simp [ended, said]⟩
    cases change with
    | set turnOn => exact ⟨[("setting", none)], rfl⟩
    | reset => exact ⟨_, rfl⟩
  | @set turnOn given hset =>
    have hstages : stages (opening "setting" ++ ofSwitch given ++ [ended true]) =
        (PowerChange.set turnOn).plan := by simp [PowerChange.plan]
    exact ⟨hstages ▸ List.prefix_rfl, fun _ => hstages, by simp, by simp⟩
  | @notSet turnOn given e hset =>
    have hstages : stages (opening "setting" ++ ofSwitch given ++ [ended false]) =
        (PowerChange.set turnOn).plan := by simp [PowerChange.plan]
    exact ⟨hstages ▸ List.prefix_rfl, by simp, by simp,
      by simp [ended_notMem_ofSwitch, hopening, hended]⟩
  | @notDisabled off e hoff =>
    have hstages : stages (opening "disabling" ++ ofSwitch off ++ [ended false]) =
        PowerChange.reset.plan.take 2 := by simp [PowerChange.plan]
    -- the port was not switched off, so the run ends before the wait
    exact ⟨hstages ▸ List.take_prefix _ _, by simp, by simp,
      by simp [ended_notMem_ofSwitch, hopening, hended]⟩
  | @restored off on hoff hon =>
    have hstages : stages (opening "disabling" ++ ofSwitch off ++
        (waiting ++ said "enabling" none :: (ofSwitch on ++ [ended true]))) =
          PowerChange.reset.plan := by simp [PowerChange.plan]
    exact ⟨hstages ▸ List.prefix_rfl, fun _ => hstages, by simp, by simp⟩
  | @retried off cut on e hoff hcut hon =>
    have hstages : stages (opening "disabling" ++ ofSwitch off ++
        (waiting ++ said "enabling" none :: (ofSwitch cut ++ slept ::
          (ofSwitch on ++ [ended true])))) = PowerChange.reset.plan := by simp [PowerChange.plan]
    exact ⟨hstages ▸ List.prefix_rfl, fun _ => hstages, by simp, by simp⟩
  | @leftOff off cut cut' e e' hoff hcut hcut' =>
    have hstages : stages (opening "disabling" ++ ofSwitch off ++
        (waiting ++ said "enabling" none :: (ofSwitch cut ++ slept ::
          (ofSwitch cut' ++ [ended false])))) = PowerChange.reset.plan := by
      simp [PowerChange.plan]
    exact ⟨hstages ▸ List.prefix_rfl, by simp, by simp,
      by simp [ended_notMem_ofSwitch, hopening, hwaiting, hended, hsaid, hslept]⟩

theorem stages_told : stages (told change outcome) = [closing outcome] := by
  cases outcome <;> rfl

theorem records_told : records (told change outcome) = change.failures outcome := by
  cases outcome <;> rfl

end Ends

/-- What is told of an operation on the power of a port, whatever fails: its stages in their order,
all of them if it is done; then once that it is done or why it failed, which is recorded too; and
the session is kept for others exactly if it is done. -/
theorem power_told {config : SwitchConfig} {portId : String} {change : PowerChange}
    {hardwareWarnings : List Char → List String} {tr : List Exchange} {r : Except String Unit}
    (h : Run ((Job.power change config portId).task hardwareWarnings) tr r) :
    ∃ outcome announced, stages tr = announced ++ [closing outcome] ∧
      announced <+: change.plan ∧ (outcome = .ok () → announced = change.plan) ∧
      records tr = change.failures outcome ∧ (ended true ∈ tr ↔ outcome = .ok ()) := by
  rcases run_power h with rfl | ⟨body, outcome, rfl, hbody⟩
  · refine ⟨.error gaveUp, [], rfl, List.nil_prefix, by simp, rfl, ?_⟩
    simp [told, closing, PowerChange.failures, ended, said]
  · obtain ⟨hinitial, hplan, hrecords, hended⟩ := stages_of_powerRun hbody
    refine ⟨outcome, stages body, ?_, hinitial, hplan, ?_, ?_⟩
    · show stages (body ++ told change outcome ++ [⟨.releaseTurn, ()⟩]) = _
      rw [stages_append, stages_append, stages_told]
      exact List.append_nil _
    · show records (body ++ told change outcome ++ [⟨.releaseTurn, ()⟩]) = _
      rw [records_append, records_append, hrecords, records_told]
      exact List.append_nil _
    · rw [← hended]
      simp [told, ended, said]

theorem power_told_reset : ∃ outcome announced,
    stages cameraReset.1 = announced ++ [closing outcome] ∧
    announced <+: PowerChange.reset.plan ∧
    (outcome = .ok () → announced = PowerChange.reset.plan) ∧
    records cameraReset.1 = PowerChange.reset.failures outcome ∧
    (ended true ∈ cameraReset.1 ↔ outcome = .ok ()) :=
  power_told (run_exec _ [] ((Job.power .reset camera "7").task fun _ => []))

end SwitchConfigurator.Operations
