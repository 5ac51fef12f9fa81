import SwitchConfigurator.PoolExclusion
import SwitchConfigurator.Service.Ownership
import SwitchConfigurator.Service.PendingReload

/-!
# The console of a switch

A switch has one console. Whoever opens a session under the turn finds no session of another
holder of the turn; `get_config` and `preview_diff` open theirs without it.
-/

namespace SwitchConfigurator.Service

open SessionPool (Op PoolEvent openSlot openOps openOps_append openOps_nil openOps_cons opens
  advance_open)

/-- The live sessions that tasks have of a switch: opened and not yet disconnected. -/
def liveOf (id : String) (tasks : List Task) : ℕ :=
  openOps id (tasks.flatMap Task.ops) + (tasks.filterMap Task.own).count id

/-- The live sessions of a switch, the one kept in its slot included. -/
def liveSessions (s : TaskState World Task) (id : String) : ℕ :=
  openSlot s.shared.pool id + liveOf id s.tasks

/-- The switch of which the step opens a session. -/
def opened (t : Task) (e : Event) : Option String :=
  match t.activity, t.prog, e with
  | .pool op, _, .outcome true => if op.phase.isOpening then some op.switch else none
  | .idle, .connect config _, .outcome true => some config.id
  | _, _, _ => none

/-- A session is opened under the turn while no task without the turn has one, or without the
turn while nobody has one. -/
def OpensAlone (s : TaskState World Task) : TaskLabel Request Event → Prop
  | .arrive _ => True
  | .go i e => ∀ t ∈ s.tasks[i]?, ∀ id ∈ opened t e,
    if id ∈ t.guards then ∀ t' ∈ s.tasks, id ∉ t'.guards → liveOf id [t'] = 0
    else liveSessions s id = 0

section

variable {hash : ConnectionKey → UInt64} {w w' : World} {t t' : Task} {e : Event}
variable {pre post new tasks tasks' : List Task} {id : String} {Γ : Ctx}

@[simp] theorem liveOf_nil : liveOf id [] = 0 := by
  simp [liveOf]

@[simp] theorem liveOf_append : liveOf id (tasks ++ tasks') = liveOf id tasks + liveOf id tasks' := by
  simp only [liveOf, List.flatMap_append, List.filterMap_append, List.count_append, openOps_append]
  omega

theorem liveOf_cons : liveOf id (t :: tasks) = liveOf id [t] + liveOf id tasks := by
  rw [← List.singleton_append, liveOf_append]

theorem liveOf_singleton :
    liveOf id [t] = openOps id t.ops + (if t.own = some id then 1 else 0) := by
  have hown : ([t].filterMap Task.own).count id = if t.own = some id then 1 else 0 := by
    cases h : t.own with
    | none => simp [h]
    | some i => simp [h, List.count_singleton]
  rw [liveOf, hown, List.flatMap_singleton]

theorem liveOf_eq_zero : liveOf id tasks = 0 ↔ ∀ t ∈ tasks, liveOf id [t] = 0 := by
  induction tasks with
  | nil => simp
  | cons t tasks ih =>
    rw [liveOf_cons, Nat.add_eq_zero_iff, ih, List.forall_mem_cons]

/-- What opens a session: the pool's opener, or a vendor of the task's own. -/
theorem opened_cases (h : opened t e = some id) : e = .outcome true ∧
    ((∃ f, t.activity = .pool ⟨id, .opening f⟩) ∨
      t.activity = .idle ∧ ∃ config k, t.prog = .connect config k ∧ config.id = id) := by
  unfold opened at h
  split at h
  next op hop =>
    obtain ⟨switch, phase⟩ := op
    split_ifs at h with hopening
    cases h
    cases phase <;> cases hopening
    exact ⟨rfl, .inl ⟨_, hop⟩⟩
  next config k hi hprog =>
    cases h
    exact ⟨rfl, .inr ⟨hi, config, k, hprog, rfl⟩⟩
  next => cases h

/-- A session that is opened counts for its switch. -/
theorem opened_of_opens {op : Op} {b : Bool} (hop : t.activity = .pool op)
    (hopens : opens op (if b then .ok else .err) = true) : opened t (.outcome b) = some op.switch := by
  cases b with
  | true =>
    have hopening : op.phase.isOpening = true := (Bool.and_eq_true_iff.mp hopens).1
    simp [opened, hop, hopening]
  | false => simp [opens] at hopens

theorem count_own : ([t].filterMap Task.own).count id = if t.own = some id then 1 else 0 := by
  have h := @liveOf_singleton t id
  rw [liveOf, List.flatMap_singleton] at h
  omega

/-- A step of a task's operation on the pool. -/
theorem live_pool {op : Op} {a : PoolEvent} {pool : SessionPool} {ops : List Op}
    (hops : t.ops = [op]) (hadv : SessionPool.advance w.pool op a = some (pool, ops))
    (hnew : openOps id (new.flatMap Task.ops) ≤ openOps id ops)
    (hown : new.filterMap Task.own = [t].filterMap Task.own)
    (hopened : opens op a = true → opened t e = some op.switch) :
    openSlot pool id + liveOf id new ≤
      openSlot w.pool id + liveOf id [t] + if opened t e = some id then 1 else 0 := by
  have hopen := advance_open hadv id
  have hadd : (if op.switch = id ∧ opens op a = true then 1 else 0) ≤
      if opened t e = some id then 1 else 0 := by
    split_ifs with hopens hnot
    · exact le_rfl
    · exact absurd (hopens.1 ▸ hopened hopens.2) hnot
    · exact Nat.zero_le _
    · exact le_rfl
  rw [liveOf_singleton, hops, liveOf, hown, count_own]
  omega

/-- A task that goes on without a step on the pool has no more than before. -/
theorem live_same (hops : openOps id t'.ops ≤ openOps id t.ops)
    (hown : t'.own = some id → t.own = some id) : liveOf id [t'] ≤ liveOf id [t] := by
  rw [liveOf_singleton, liveOf_singleton]
  split_ifs <;> first | omega | tauto

/-- A cleanup has no session. -/
theorem live_cleanup (cs : List StatusTracker.Call) : liveOf id (cs.map Task.cleanup) = 0 := by
  refine liveOf_eq_zero.mpr fun t ht => ?_
  obtain ⟨c, _, rfl⟩ := List.mem_map.mp ht
  rfl

/-- A call on the pool starts without a session. -/
theorem open_starts {p : Prog} {a : Activity} (h : Starts hash p a) : openOps id a.ops = 0 := by
  cases h <;> simp [Activity.ops, openOps_cons, SessionPool.Phase.hasOpen,
    SessionPool.Phase.inHand, SessionPool.Phase.inClose]

/-- Only an opener adds a live session. -/
theorem Steps.live (hwf : t.Wf) (hf : t.Fits Γ) (h : Steps hash w t e w' new) (id : String) :
    openSlot w'.pool id + liveOf id new ≤
      openSlot w.pool id + liveOf id [t] + if opened t e = some id then 1 else 0 := by
  -- steps that open nothing and close nothing on the switch
  have hsame {t' : Task} {rest : List Task} (hops : openOps id t'.ops ≤ openOps id t.ops)
      (hown : t'.own = some id → t.own = some id) (hrest : liveOf id rest = 0) :
      openSlot w.pool id + liveOf id (t' :: rest) ≤
        openSlot w.pool id + liveOf id [t] + if opened t e = some id then 1 else 0 := by
    have hle := live_same hops hown
    rw [liveOf_cons, hrest]
    omega
  have hturn {c : StatusTracker.Call} (hc : t.activity = .turn c) :
      openOps id t.session.toList ≤ openOps id t.ops := by
    rw [Task.ops, hc]
    exact le_rfl
  have hidle (hi : t.activity = .idle) : openOps id t.session.toList ≤ openOps id t.ops := by
    rw [ops_idle hi]
  have hnone {op : Op} (hop : t.activity = .pool op) : t.session = none :=
    hf.alone op (by rw [hop]; exact List.mem_cons_self)
  have hsession {op : Op} (hi : t.activity = .idle) (hop : t.session = some op) : t.ops = [op] := by
    rw [ops_idle hi, hop]
    rfl
  have hdrop {op : Op} (hopens : opens op .drop = true) : opened t e = some op.switch := by
    simp [opens] at hopens
  cases h with
  | control | write | queuePending | takePending | apply | deadline | inTime =>
    exact hsame le_rfl (fun h => h) liveOf_nil
  | @starts a hi hs =>
    -- what a task starts waiting for holds no session yet
    refine hsame ?_ (fun h => h) liveOf_nil
    have hzero := @open_starts hash id t.prog a hs
    have hnew : openOps id (t.wait a).ops = openOps id a.ops + openOps id t.session.toList :=
      openOps_append
    have hold := hidle hi
    omega
  | turnGoes hc | turnGot hc | turnLost hc | released hc | cleanedUp hc =>
    exact hsame (hturn hc) (fun h => h) liveOf_nil
  | cancelTurn hc => exact hsame (hturn hc) (fun h => h) (live_cleanup _)
  | poolGoes hop hadv _ _ =>
    refine live_pool (ops_pool hf hop) hadv ?_ rfl (opened_of_opens hop)
    simp [Task.ops, hnone hop, Task.wait, Activity.ops]
  | checkedOut hop hprog hadv _ =>
    refine live_pool (ops_pool hf hop) hadv ?_ rfl (opened_of_opens hop)
    simp [Task.ops, Activity.ops]
  | kept hop hprog hadv _ =>
    refine live_pool (ops_pool hf hop) hadv ?_ ?_ (opened_of_opens hop)
    · simp [Task.ops, hnone hop, Task.idleTimer, Activity.ops]
    · simp [List.filterMap_cons, Task.idleTimer]
  | poolEnds hop _ hadv =>
    refine live_pool (ops_pool hf hop) hadv ?_ rfl (opened_of_opens hop)
    simp [Task.ops, hnone hop, Activity.ops]
  | release hi => exact hsame (hidle hi) (fun h => h) liveOf_nil
  | @endSession b healthy k op op' pool hi hprog hop hadv =>
    refine live_pool (hsession hi hop) hadv ?_ rfl fun hopens => ?_
    · simp [Task.ops, Activity.ops]
    -- the session was out, so this outcome opens no second one
    · have hout := hwf.session op hop
      have hopening := (Bool.and_eq_true_iff.mp hopens).1
      cases hphase : op.phase <;> simp_all [isOut, SessionPool.Phase.isOpening]
  | @connected config k hi hprog =>
    -- the one step outside the pool that opens a session
    have hopened : opened t (.outcome true) = some config.id := by simp [opened, hi, hprog]
    rw [liveOf_singleton, liveOf_singleton, hopened]
    show openSlot w.pool id + (openOps id t.ops + _) ≤ _
    split_ifs <;> omega
  | disconnect => exact hsame le_rfl (fun h => by cases h) liveOf_nil
  | spawn hi => exact hsame le_rfl (fun h => h) (by simp [liveOf_singleton, Task.ops, Activity.ops])
  | dropSession hi _ hop hadv =>
    refine live_pool (hsession hi hop) hadv ?_ rfl hdrop
    simp [Task.ops, hi, Activity.ops]
  | dropOwn => exact hsame le_rfl (fun h => by cases h) liveOf_nil
  | dropGuard => exact hsame le_rfl (fun h => h) rfl
  | exit => exact Nat.le_add_right_of_le (Nat.le_add_right _ _)
  | cancelIdle hi => exact hsame (hidle hi) (fun h => h) liveOf_nil
  | cancelPool hop _ hadv =>
    refine live_pool (ops_pool hf hop) hadv ?_ rfl hdrop
    simp [Task.ops, Task.ended, hnone hop, Activity.ops]
  | elapseIdle _ hi _ => exact hsame (by simp [Task.ops, Task.timedOut, Activity.ops]) (fun h => h) liveOf_nil
  | elapseSession _ hi hop hadv =>
    refine live_pool (hsession hi hop) hadv ?_ rfl hdrop
    simp [Task.ops, Task.timedOut, Activity.ops]
  | elapsePool _ hop _ hadv =>
    refine live_pool (ops_pool hf hop) hadv ?_ rfl hdrop
    simp [Task.ops, Task.timedOut, Activity.ops]

/-- The task that opens a session has none. -/
theorem live_opener (hwf : t.Wf) (hf : t.Fits Γ) (h : opened t e = some id) : liveOf id [t] = 0 := by
  obtain ⟨-, ⟨f, hop⟩ | ⟨hi, config, k, hprog, -⟩⟩ := opened_cases h
  · have hok := hf.ok
    have hawaits := hwf.awaits
    rw [Task.Ok, hop] at hok
    rw [hop] at hawaits
    have hown : t.own = none := by
      generalize t.prog = p at hok hawaits
      cases hawaits with
      | checkout config k _ => exact hf.own hok.2.2.1
      | closeIdle _ _ hphase | endSession _ _ _ hphase | timer _ hphase => cases hphase
    rw [liveOf_singleton, ops_pool hf hop, hown]
    simp [openOps_cons, SessionPool.Phase.hasOpen, SessionPool.Phase.inHand,
      SessionPool.Phase.inClose]
  · have hok := (ok_idle hi).mp hf.ok
    rw [hprog] at hok
    rw [liveOf_singleton, ops_idle hi, hf.session hok.1, hf.own hok.2.1]
    simp

/-- Under the turn it has seen that no session is kept. -/
theorem slot_opener {checked : Prop} (hf : t.Fits Γ) (hk : Knows checked w t Γ)
    (h : opened t e = some id) (hid : id ∈ t.guards) : openSlot w.pool id = 0 := by
  have hslot : w.pool.slots id = none := by
    obtain ⟨-, ⟨f, hop⟩ | ⟨hi, config, k, hprog, rfl⟩⟩ := opened_cases h
    · exact hk.slot ⟨id, .opening f⟩ (ops_pool hf hop ▸ List.mem_cons_self) hid rfl
    · have hok := (ok_idle hi).mp hf.ok
      rw [hprog] at hok
      exact hk.idle config.id hid (hok.2.2.2.1 (hf.guards ▸ hid))
  rw [openSlot, hslot]
  rfl

/-- Afterwards its session is live. -/
theorem live_opened (hadv : advance w t hash e = some (w', new)) (h : opened t e = some id) :
    openSlot w'.pool id = openSlot w.pool id ∧ 1 ≤ liveOf id new := by
  obtain ⟨rfl, ⟨f, hop⟩ | ⟨hi, config, k, hprog, rfl⟩⟩ := opened_cases h
  · simp [advance, hop, advancePool, SessionPool.advance, isOut] at hadv
    obtain ⟨rfl, rfl⟩ := hadv
    refine ⟨rfl, ?_⟩
    have hopen : 1 ≤ openOps id [⟨id, .out (w.pool.newSession id f) f⟩] := by
      simp [openOps_cons, SessionPool.Phase.hasOpen, SessionPool.Phase.inHand]
    rw [liveOf_singleton, Task.ops, openOps_append]
    exact Nat.le_add_right_of_le (Nat.le_add_left_of_le hopen)
  · simp [advance, hi, advanceProg, hprog] at hadv
    obtain ⟨rfl, rfl⟩ := hadv
    refine ⟨rfl, ?_⟩
    rw [liveOf_singleton]
    simp

end

section

variable {hash : ConnectionKey → UInt64} {initial : List SwitchConfig}
variable {w w' : World} {t : Task} {e : Event} {pre post new : List Task} {id : String}
variable {s : TaskState World Task}
variable {tr : List (TaskState World Task × TaskLabel Request Event)}

/-- Live sessions are counted in the pool, with the tasks that step and with the others. -/
theorem live_split : liveSessions ⟨w, pre ++ new ++ post⟩ id =
    openSlot w.pool id + liveOf id new + liveOf id (pre ++ post) := by
  simp only [liveSessions, liveOf_append]
  omega

/-- A step that opens a session meets the condition exactly if no session of the switch is live:
another task that has the turn there is none. -/
theorem opensAlone_iff (hs : AllSound False ⟨w, pre ++ t :: post⟩)
    (hr : Reached hash w pre t post e w' new) :
    OpensAlone ⟨w, pre ++ t :: post⟩ (.go pre.length e) ↔
      ∀ id, opened t e = some id → liveSessions ⟨w, pre ++ t :: post⟩ id = 0 := by
  have ht : Sound False w t := hs.tasks t (by simp)
  obtain ⟨Γ, hf, hk⟩ := ht
  have hat : OpensAlone ⟨w, pre ++ t :: post⟩ (.go pre.length e) ↔ ∀ id, opened t e = some id →
      if id ∈ t.guards then ∀ t' ∈ pre ++ t :: post, id ∉ t'.guards → liveOf id [t'] = 0
      else liveSessions ⟨w, pre ++ t :: post⟩ id = 0 := by
    simp [OpensAlone]
  rw [hat]
  refine forall₂_congr fun id hopened => ?_
  split_ifs with hid
  · constructor
    · intro halone
      have hslot := slot_opener hf hk hopened hid
      have hself := live_opener hr.wf hf hopened
      have hbefore : ((pre ++ [t] ++ post).flatMap Task.guards).Nodup := by
        rw [List.append_assoc]
        exact hr.before
      have hothers : liveOf id (pre ++ post) = 0 := liveOf_eq_zero.mpr fun t' ht' =>
        halone t' (by simp at ht' ⊢; tauto) (not_mem_guards hbefore List.mem_cons_self hid ht')
      rw [← List.singleton_append, ← List.append_assoc, live_split]
      omega
    · intro hzero t' ht' _
      have hall : liveOf id (pre ++ t :: post) = 0 := Nat.eq_zero_of_add_eq_zero_left hzero
      exact liveOf_eq_zero.mp hall t' ht'
  · exact Iff.rfl

/-- Every switch has one live session at most, in every state of the run, exactly if each
session is opened where no task without the turn has one, and by a task without the turn where
nobody has one. -/
theorem live_le_one_iff (hrun : (service hash initial).Run tr s) :
    TransitionSystem.Always (fun s => ∀ id, liveSessions s id ≤ 1) tr s ↔
      TransitionSystem.Along OpensAlone tr := by
  have hsound {tr : List (TaskState World Task × TaskLabel Request Event)}
      {s : TaskState World Task} (hrun : (service hash initial).Run tr s) : AllSound False s :=
    sound_of_run hrun fun _ _ hchecked => hchecked.elim
  constructor
  · intro halways p hp
    obtain ⟨tr₁, m, tr₂, hr, hstep, _, _⟩ := hrun.split hp
    obtain ⟨m', hstep', hm⟩ := hrun.always_next halways hp
    obtain rfl : m = m' := Option.some.inj (hstep.symm.trans hstep')
    obtain ⟨⟨w, tasks⟩, l⟩ := p
    obtain ⟨r, rfl, _, _⟩ | ⟨e, pre, t, post, w', new, rfl, rfl, hadv, rfl⟩ :=
      TaskSystem.step_cases hstep
    · trivial
    · refine (opensAlone_iff (hsound hr) (reached_of_run hr hadv)).mpr fun id hopened => ?_
      obtain ⟨Γ, hf, _⟩ := (hsound hr).tasks t (by simp)
      -- the opener's session is live after the step, so with the bound nothing else was
      have hself := live_opener (reached_of_run hr hadv).wf hf hopened
      obtain ⟨hslot, hnew⟩ : openSlot w'.pool id = openSlot w.pool id ∧ 1 ≤ liveOf id new :=
        live_opened hadv hopened
      have hone : liveSessions ⟨w', pre ++ new ++ post⟩ id ≤ 1 := hm id
      have hsplit := @live_split w pre post [t] id
      rw [live_split, hslot] at hone
      rw [List.append_assoc, List.singleton_append] at hsplit
      omega
  · intro halone
    refine hrun.always halone fun tr s hr hC => ?_
    -- conversely by the run: only a step that opens can raise the number
    refine @TaskSystem.run_invariant _ _ _ _ (service hash initial) OpensAlone
      (fun s => ∀ id, liveSessions s id ≤ 1) _ _ hr hC (fun _ => Nat.zero_le _) ?_ ?_
    · intro _ w tasks r _ _ _ _ hone id
      have hstart : liveOf id [(service hash initial).start w r] = 0 := rfl
      have hid := hone id
      simp only [liveSessions] at hid ⊢
      rw [liveOf_cons, hstart, Nat.zero_add]
      exact hid
    · intro _ w pre t post e w' new hr _ hc hadv hone id
      have hreached := reached_of_run hr hadv
      obtain ⟨Γ, hf, _⟩ := (hsound hr).tasks t (by simp)
      have hadd := hreached.steps.live hreached.wf hf id
      have hbefore := hone id
      have hsplit := @live_split w pre post [t] id
      rw [List.append_assoc, List.singleton_append] at hsplit
      rw [live_split]
      -- where it opens, the condition says that none was live
      split_ifs at hadd with hopened
      · have hzero := (opensAlone_iff (hsound hr) hreached).mp hc id hopened
        omega
      · omega

end

instance (s : TaskState World Task) : ∀ l : TaskLabel Request Event, Decidable (OpensAlone s l)
  | .arrive _ => .isTrue trivial
  | .go i e => inferInstanceAs (Decidable (∀ t ∈ s.tasks[i]?, ∀ id ∈ opened t e, ite _ _ _))

/-- The apply that has the turn connects. -/
def applyConnects : List (TaskLabel Request Event) :=
  [.go 0 .go, .go 0 (.outcome true), .go 0 (.outcome true), .go 0 (.outcome true)]

/-- A request for the configuration finds the switch not busy, up to its connect. -/
def getConfigLooks : List (TaskLabel Request Event) :=
  [.arrive (.getConfig "office"), .go 0 .go, .go 0 .go, .go 0 .go, .go 0 (.outcome true),
    .go 0 (.outcome true)]

/-- An apply has connected. -/
theorem live_le_one_iff_apply : ∃ tr s, (service (fun _ => 0) [{ id := "office" }]).Run tr s ∧
    TransitionSystem.Always (fun s => ∀ id, liveSessions s id ≤ 1) tr s ∧
      liveSessions s "office" = 1 := by
  have hrun := TransitionSystem.run_of_replay
    (show (service (fun _ => 0) [{ id := "office" }]).system.replay
      (service (fun _ => 0) [{ id := "office" }]).system.init
        (applyGetsTurn ++ applyConnects) = some (_, _) from rfl)
  exact ⟨_, _, hrun, (live_le_one_iff hrun).mpr (by decide), rfl⟩

/-- It does so between the look at the switch and the connect of a request without the turn. -/
theorem two_live_sessions : ∃ tr s, (service (fun _ => 0) [{ id := "office" }]).Run tr s ∧
    liveSessions s "office" = 2 := by
  have hrun := TransitionSystem.run_of_replay
    (show (service (fun _ => 0) [{ id := "office" }]).system.replay
      (service (fun _ => 0) [{ id := "office" }]).system.init
        (getConfigLooks ++ applyGetsTurn ++ applyConnects ++ [.go 1 (.outcome true)]) =
          some (_, _) from rfl)
  exact ⟨_, _, hrun, rfl⟩

end SwitchConfigurator.Service
