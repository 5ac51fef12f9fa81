import SwitchConfigurator.Foundations.Component
import SwitchConfigurator.Service.Step

/-!
# The turn in the service

The calls and the guards of all tasks are a run of the tracker, so what holds of the turn in
every run of the tracker holds in every run of the service.
-/

namespace SwitchConfigurator.Service

open StatusTracker (Call TurnEvent turns inPhase inPhase_append inPhase_pos Balanced)

/-- The call on the tracker that a task waits for. -/
def Activity.calls : Activity → List Call
  | .turn c => [c]
  | _ => []

/-- What a task has on the tracker: its call and its guards. -/
def Task.calls (t : Task) : List Call := t.activity.calls ++ t.guards.map (⟨·, .holding⟩)

variable {hash : ConnectionKey → UInt64} {w w' : World} {t : Task} {e : Event} {new : List Task}
variable {initial : List SwitchConfig} {s : TaskState World Task}
variable {tr : List (TaskState World Task × TaskLabel Request Event)}

/-- Cleanups have the calls that they were started with. -/
theorem calls_cleanup (cs : List Call) : (cs.map Task.cleanup).flatMap Task.calls = cs := by
  induction cs with
  | nil => rfl
  | cons c cs ih =>
    have hc : (Task.cleanup c).calls = [c] := rfl
    rw [List.map_cons, List.flatMap_cons, ih, hc, List.singleton_append]

theorem calls_turn {c : Call} (h : t.activity = .turn c) :
    t.calls = c :: t.guards.map (⟨·, .holding⟩) := by
  rw [Task.calls, h]
  rfl

theorem calls_pool {op : SessionPool.Op} (h : t.activity = .pool op) :
    t.calls = t.guards.map (⟨·, .holding⟩) := by
  rw [Task.calls, h]
  rfl

theorem calls_idle (h : t.activity = .idle) : t.calls = t.guards.map (⟨·, .holding⟩) := by
  rw [Task.calls, h]
  rfl

section

variable {s s' : StatusTracker} {c : Call} {a : TurnEvent} {cs rest : List Call}

/-- A step that moves neither a call nor a guard. -/
theorem effect_same {t' : Task} (h : t'.calls = t.calls) :
    TaskSystem.Effect turns s t.calls s ([t'].flatMap Task.calls) := by
  rw [List.flatMap_singleton, h]
  exact .perm (.refl _)

/-- One call of a task goes on, the others stay. -/
theorem effect_go (hcalls : t.calls.Perm (c :: rest))
    (hadv : StatusTracker.advance s c a = some (s', cs))
    (hnew : (cs ++ rest).Perm (new.flatMap Task.calls)) :
    TaskSystem.Effect turns s t.calls s' (new.flatMap Task.calls) := by
  have hstep : TaskSystem.Effect turns s t.calls s' (cs ++ rest) := .go (T := turns) hcalls hadv
  exact hstep.trans (.perm hnew)

/-- A step of the call that the task waits for. -/
theorem effect_turn {t' : Task} (hc : t.activity = .turn c)
    (hadv : StatusTracker.advance s c a = some (s', cs))
    (h : t'.calls = cs ++ t.guards.map (⟨·, .holding⟩)) :
    TaskSystem.Effect turns s t.calls s' ([t'].flatMap Task.calls) := by
  refine effect_go (.of_eq (calls_turn hc)) hadv ?_
  rw [List.flatMap_singleton, h]

/-- A call that is made and answered in one step. -/
theorem effect_request {t' : Task} (hc : c.phase.isEntry = true)
    (hadv : StatusTracker.advance s c .go = some (s', [])) (h : t'.calls = t.calls) :
    TaskSystem.Effect turns s t.calls s' ([t'].flatMap Task.calls) := by
  have hcall : TaskSystem.Effect turns s t.calls s (c :: t.calls) :=
    .arrive (T := turns) c fun _ => hc
  have hanswer : TaskSystem.Effect turns s (c :: t.calls) s' ([] ++ t.calls) :=
    .go (T := turns) (e := .go) (.refl _) hadv
  rw [List.flatMap_singleton, h]
  exact hcall.trans hanswer

end

/-- What a step of a task is to the tracker. -/
theorem Steps.turnEffect (h : Steps hash w t e w' new) :
    TaskSystem.Effect turns w.tracker t.calls w'.tracker (new.flatMap Task.calls) := by
  cases h with
  | control | write | connected | disconnect | apply | deadline | inTime | dropSession | dropOwn =>
    exact effect_same rfl
  | @starts a hi hs =>
    generalize t.prog = p at hs
    cases hs with
    | tryAcquire id a k =>
      -- a call for the turn arrives at the tracker
      rw [List.flatMap_singleton, calls_idle hi]
      exact .arrive (T := turns) ⟨id, .trying⟩ fun _ => rfl
    | acquireQueued id a k =>
      rw [List.flatMap_singleton, calls_idle hi]
      exact .arrive (T := turns) ⟨id, .queueing⟩ fun _ => rfl
    | checkout | closeIdle => exact effect_same (calls_idle hi).symm
  | turnGoes hc hadv | turnGot hc _ hadv | turnLost hc _ hadv | released hc _ hadv
  | cleanedUp hc _ hadv => exact effect_turn hc hadv rfl
  | poolGoes hop | checkedOut hop | poolEnds hop | cancelPool hop =>
    exact effect_same (calls_pool hop).symm
  | elapsePool _ hop => exact effect_same (calls_pool hop).symm
  | cancelIdle hi => exact effect_same (calls_idle hi).symm
  | elapseIdle _ hi | elapseSession _ hi => exact effect_same (calls_idle hi).symm
  | queuePending => exact effect_request (c := ⟨_, .queueingReload⟩) rfl rfl rfl
  | takePending => exact effect_request (c := ⟨_, .takingReload⟩) rfl rfl rfl
  | endSession hi => exact effect_same (calls_idle hi).symm
  | kept hop =>
    rw [calls_pool hop]
    exact .perm (.of_eq (by simp [Task.calls, Activity.calls, Task.idleTimer]))
  | @release id k hi _ hmem =>
    have hguards : t.calls.Perm (⟨id, .holding⟩ :: (t.guards.erase id).map (⟨·, .holding⟩)) := by
      rw [calls_idle hi]
      exact (List.perm_cons_erase hmem).map _
    have hadv : StatusTracker.advance w.tracker ⟨id, .holding⟩ .go =
        some (w.tracker, [⟨id, .releasing⟩]) := rfl
    refine effect_go hguards hadv ?_
    rw [List.flatMap_singleton]
    exact .refl _
  | @spawn p k guard hi _ hmem =>
    -- the guards of a task are divided between it and its child
    have hguards : t.guards.Perm (t.guards.diff guard.toList ++ guard.toList) := by
      cases guard with
      | none => simp
      | some id =>
        have hid : id ∈ t.guards := hmem id rfl
        simpa using (List.perm_cons_erase hid).trans (List.perm_append_singleton id _).symm
    refine .perm ?_
    rw [calls_idle hi]
    simpa [Task.calls, hi, Activity.calls] using hguards.map (Call.mk · .holding)
  | @dropGuard id guards hi _ _ _ hguards =>
    have hcalls : t.calls.Perm (⟨id, .holding⟩ :: guards.map (⟨·, .holding⟩)) := by
      rw [calls_idle hi, hguards]
      exact .refl _
    have hadv : StatusTracker.advance w.tracker ⟨id, .holding⟩ .quit =
        some (w.tracker, [⟨id, .dropped⟩]) := rfl
    refine effect_go hcalls hadv ?_
    -- a guard that is dropped lives on as the call of its cleanup
    simpa [Task.calls, hi, Activity.calls, Task.cleanup] using
      (List.perm_append_singleton (α := Call) ⟨id, .dropped⟩ _).symm
  | exit hi _ _ _ hguards =>
    rw [calls_idle hi, hguards]
    exact .perm (.refl _)
  | @cancelTurn c tracker cs hc _ hadv =>
    refine effect_go (.of_eq (calls_turn hc)) hadv ?_
    rw [List.flatMap_cons, calls_cleanup]
    exact List.perm_append_comm

/-- The service simulates the tracker. -/
theorem service_simulates_turns : (service hash initial).system.Simulates turns.system
    (TaskSystem.Contains World.tracker Task.calls Task.Wf) := by
  refine TaskSystem.simulates_component (fun w r => ⟨rfl, .idle _, fun _ hop => nomatch hop⟩) ?_
  intro w t e w' new ht hadv
  have hstep := advance_steps ht hadv
  exact ⟨hstep.wf ht, hstep.turnEffect⟩

/-- The turns of a run of the service are a run of the tracker. -/
theorem contains_of_run (hrun : (service hash initial).Run tr s) :
    ∃ tr' a, turns.Run tr' a ∧ TaskSystem.Contains World.tracker Task.calls Task.Wf s a :=
  hrun.simulate service_simulates_turns (a := turns.system.init)
    ⟨rfl, .refl _, List.forall_mem_nil _⟩

/-- The permit, the flag and the count of waiters agree with what the tasks have. -/
theorem balanced_of_service_run (hrun : (service hash initial).Run tr s) (id : String) :
    Balanced ⟨s.shared.tracker, s.tasks.flatMap Task.calls⟩ id := by
  obtain ⟨tr', a, ha, hshared, htasks, _⟩ := contains_of_run hrun
  have hb := StatusTracker.balanced_of_run ha id
  obtain ⟨shared, tasks⟩ := a
  obtain rfl : shared = s.shared.tracker := hshared
  have hperm (p : StatusTracker.Phase → Bool) :
      inPhase p id tasks = inPhase p id (s.tasks.flatMap Task.calls) :=
    StatusTracker.inPhase_perm htasks
  exact ⟨hperm _ ▸ hb.turn, hperm _ ▸ hb.flag, hperm _ ▸ hb.waiting⟩

/-- No more guards are held than permits are out. -/
theorem count_guards_le (id : String) (tasks : List Task) :
    (tasks.flatMap Task.guards).count id ≤
      inPhase StatusTracker.Phase.hasPermit id (tasks.flatMap Task.calls) := by
  have hholding (guards : List String) : guards.count id =
      inPhase StatusTracker.Phase.hasPermit id (guards.map (Call.mk · .holding)) := by
    unfold inPhase List.count
    rw [List.countP_map]
    exact List.countP_congr fun _ _ => by simp
  induction tasks with
  | nil => exact Nat.zero_le _
  | cons t tasks ih =>
    have ht := hholding t.guards
    simp only [List.flatMap_cons, List.count_append, inPhase_append, Task.calls]
    omega

/-- A switch's guard is with one task, and once. -/
theorem guards_nodup (hrun : (service hash initial).Run tr s) :
    (s.tasks.flatMap Task.guards).Nodup := by
  refine List.nodup_iff_count_le_one.mpr fun id => ?_
  have hturn := (balanced_of_service_run hrun id).turn
  have hcount := count_guards_le id s.tasks
  have hpermit : inPhase StatusTracker.Phase.hasPermit id (s.tasks.flatMap Task.calls) ≤ 1 :=
    Nat.le.intro ((Nat.add_comm _ _).trans hturn)
  omega

/-- What is known of a step that a task takes in a run. -/
structure Reached (hash : ConnectionKey → UInt64) (w : World) (pre : List Task) (t : Task)
    (post : List Task) (e : Event) (w' : World) (new : List Task) : Prop where
  wf : t.Wf
  steps : Steps hash w t e w' new
  before : ((pre ++ t :: post).flatMap Task.guards).Nodup
  after : ((pre ++ new ++ post).flatMap Task.guards).Nodup

/-- What a run reaches was reached by a step of a sound task. -/
theorem reached_of_run {pre post : List Task}
    (hrun : (service hash initial).Run tr ⟨w, pre ++ t :: post⟩)
    (hadv : advance w t hash e = some (w', new)) : Reached hash w pre t post e w' new := by
  obtain ⟨_, _, _, hcontains⟩ := contains_of_run hrun
  have ht : t.Wf := hcontains.wf t (by simp)
  have hnext : (service hash initial).Run _ ⟨w', pre ++ new ++ post⟩ :=
    hrun.snoc (TaskSystem.step_go (S := service hash initial) hadv)
  exact ⟨ht, advance_steps ht hadv, guards_nodup hrun, guards_nodup hnext⟩

/-- What one task has the guard of, another has not. -/
theorem not_mem_guards {mid pre post : List Task} {t' : Task} {id : String}
    (h : ((pre ++ mid ++ post).flatMap Task.guards).Nodup) (ht : t ∈ mid) (hid : id ∈ t.guards)
    (ht' : t' ∈ pre ++ post) : id ∉ t'.guards := by
  intro hid'
  have hperm : ((pre ++ mid ++ post).flatMap Task.guards).Perm
      (mid.flatMap Task.guards ++ (pre ++ post).flatMap Task.guards) := by
    simp only [List.flatMap_append, List.append_assoc]
    exact List.perm_append_comm_assoc _ _ _
  have hdisjoint := List.disjoint_of_nodup_append (hperm.nodup_iff.mp h)
  exact hdisjoint (List.mem_flatMap.mpr ⟨t, ht, hid⟩) (List.mem_flatMap.mpr ⟨t', ht', hid'⟩)

end SwitchConfigurator.Service
