import SwitchConfigurator.SessionPool

/-!
# One session per switch

The console of a switch is exclusive. Callers of the pool hold the switch's turn, so they
do not meet each other; the idle timer holds no turn, and closes its session after it has
let go of the pool's lock.
-/

namespace SwitchConfigurator.SessionPool

section

variable {p p' : SessionPool} {op : Op} {e : PoolEvent} {new ops ops' : List Op} {id : String}

/-- The operations for a switch that have an open session. -/
def openOps (id : String) (ops : List Op) : ℕ :=
  ops.countP fun op => op.switch = id ∧ op.phase.hasOpen

/-- One if the slot of the switch holds a session. -/
def openSlot (p : SessionPool) (id : String) : ℕ := if (p.slots id).isSome then 1 else 0

/-- The open sessions of a switch: opened, and their close has not ended. -/
def openSessions (s : TaskState SessionPool Op) (id : String) : ℕ :=
  openSlot s.shared id + openOps id s.tasks

/-- The callers' operations for a switch, that is all but its timers. -/
def callers (id : String) (ops : List Op) : ℕ :=
  ops.countP fun op => op.switch = id ∧ !op.phase.isTimer

@[simp] theorem openOps_nil : openOps id [] = 0 := rfl

@[simp] theorem openOps_append : openOps id (ops ++ ops') = openOps id ops + openOps id ops' :=
  List.countP_append

theorem openOps_cons : openOps id (op :: ops) =
    openOps id ops + if op.switch = id ∧ op.phase.hasOpen then 1 else 0 := by
  unfold openOps
  simp [List.countP_cons]

@[simp] theorem callers_nil : callers id [] = 0 := rfl

@[simp] theorem callers_append : callers id (ops ++ ops') = callers id ops + callers id ops' :=
  List.countP_append

theorem callers_cons : callers id (op :: ops) =
    callers id ops + if op.switch = id ∧ op.phase.isTimer = false then 1 else 0 := by
  unfold callers
  simp [List.countP_cons]

/-- No operation has a session open exactly if each one of the switch has none. -/
theorem openOps_eq_zero : openOps id ops = 0 ↔
    ∀ op ∈ ops, op.switch = id → op.phase.hasOpen = false := by
  unfold openOps
  simp

/-- There is no caller exactly if only timers are under way. -/
theorem callers_eq_zero : callers id ops = 0 ↔
    ∀ op ∈ ops, op.switch = id → op.phase.isTimer = true := by
  unfold callers
  simp

@[simp] theorem openSlot_close {v : VendorSession} : openSlot (p.close v) id = openSlot p id := rfl

@[simp] theorem openSlot_recordOpen {v : VendorSession} :
    openSlot (p.recordOpen v) id = openSlot p id := rfl

/-- A slot that is taken is no longer open. -/
theorem openSlot_takeSlot {slot : Slot} {id' : String} (h : p.slots id' = some slot) :
    openSlot (p.takeSlot id') id + (if id' = id then 1 else 0) = openSlot p id := by
  unfold openSlot
  rw [slots_takeSlot]
  by_cases hid : id = id'
  · simp [hid, h]
  · simp [hid, Ne.symm hid]

/-- A session that is kept opens at most its own slot. -/
theorem openSlot_keep {v : VendorSession} {f : UInt64} {id' : String} :
    openSlot (p.keep id' v f) id ≤ openSlot p id + (if id' = id then 1 else 0) := by
  unfold openSlot
  rw [slots_keep]
  by_cases hid : id = id'
  · simp [hid]
  · simp [hid]

/-- The opener has returned a session. -/
def opens (op : Op) (e : PoolEvent) : Bool := op.phase.isOpening && e = .ok

/-- Who has a session in hand has it open. -/
theorem hasOpen_of_inHand {phase : Phase} {v : VendorSession} (h : phase.inHand = some v) :
    phase.hasOpen = true := by
  simp [Phase.hasOpen, h]

/-- Only the opener adds an open session. -/
theorem advance_open (h : advance p op e = some (p', new)) (id : String) :
    openSlot p' id + openOps id new ≤
      openSlot p id + openOps id [op] + if op.switch = id ∧ opens op e then 1 else 0 := by
  cases advance_effect h with
  | go phase hgo =>
    have hopen : phase.hasOpen = true → op.phase.hasOpen = true := by
      intro hphase
      simp only [Phase.hasOpen, hgo.inHand, hgo.inClose, Option.isSome_none, Bool.or_false]
        at hphase
      simp [Phase.hasOpen, hphase]
    have hle : openOps id [⟨op.switch, phase⟩] ≤ openOps id [op] := by
      simp only [openOps_cons, openOps_nil, Nat.zero_add]
      by_cases hphase : phase.hasOpen = true
      · simp [hphase, hopen hphase]
      · simp [hphase]
    omega
  | done _ =>
    rw [openOps_nil]
    omega
  | giveUp v phase hv _ _ _ _ =>
    have hle : openOps id [⟨op.switch, phase⟩] ≤ openOps id [op] := by
      simp only [openOps_cons, openOps_nil, Nat.zero_add, hasOpen_of_inHand hv, and_true]
      split_ifs <;> simp_all
    rw [openSlot_close]
    omega
  | dropped v _ =>
    rw [openOps_nil, openSlot_close]
    omega
  | take slot f hslot hphase _ =>
    -- the open session moves from the slot to the call: the sum stays
    have htake := @openSlot_takeSlot p id slot op.switch hslot
    have hnew : openOps id [⟨op.switch, .resuming slot.vendor f⟩] =
        if op.switch = id then 1 else 0 := by
      simp [openOps_cons, Phase.hasOpen, Phase.inHand]
    omega
  | takeClose slot phase hslot _ _ hclose _ _ =>
    have htake := @openSlot_takeSlot p id slot op.switch hslot
    have hnew : openOps id [⟨op.switch, phase⟩] = if op.switch = id then 1 else 0 := by
      simp [openOps_cons, Phase.hasOpen, hclose]
    rw [openSlot_close]
    omega
  | opened f hphase =>
    -- only this case may open a session, which the last summand counts
    have hopens : opens op .ok = true := by simp [opens, hphase, Phase.isOpening]
    have hnew : openOps id [⟨op.switch, .out (p.newSession op.switch f) f⟩] =
        if op.switch = id ∧ opens op .ok then 1 else 0 := by
      simp [openOps_cons, Phase.hasOpen, Phase.inHand, hopens]
    rw [openSlot_recordOpen]
    omega
  | keep v f hphase _ =>
    have hkeep := @openSlot_keep p id v f op.switch
    have hold : openOps id [op] = if op.switch = id then 1 else 0 := by
      simp [openOps_cons, hphase, Phase.hasOpen, Phase.inHand]
    have hnew : openOps id [⟨op.switch, .arming p.nextToken p.releases⟩] = 0 := by
      simp [openOps_cons, Phase.hasOpen, Phase.inHand, Phase.inClose]
    omega
  | replace v f old hphase hslot =>
    -- the slot was taken already; the replaced session is now the call's to close
    have hkeep : openSlot (p.keep op.switch v f) id = openSlot p id := by
      unfold openSlot
      rw [slots_keep]
      split_ifs <;> simp_all
    have hold : openOps id [op] = if op.switch = id then 1 else 0 := by
      simp [openOps_cons, hphase, Phase.hasOpen, Phase.inHand]
    have hnew : openOps id [⟨op.switch, .closingReplaced old.vendor p.nextToken p.releases⟩] =
        if op.switch = id then 1 else 0 := by
      simp [openOps_cons, Phase.hasOpen, Phase.inHand, Phase.inClose]
    rw [openSlot_close]
    omega

/-- No step adds a caller, and those of a timer stay timers. -/
theorem advance_callers (h : advance p op e = some (p', new)) (id : String) :
    callers id new ≤ callers id [op] := by
  have hone {phase : Phase} (htimer : phase.isTimer = false → op.phase.isTimer = false) :
      callers id [⟨op.switch, phase⟩] ≤ callers id [op] := by
    simp only [callers_cons, callers_nil, Nat.zero_add]
    by_cases hphase : phase.isTimer = false
    · simp [hphase, htimer hphase]
    · simp [hphase]
  cases advance_effect h with
  | go phase hgo => exact hone hgo.timer
  | done _ => exact Nat.zero_le _
  | giveUp v phase _ _ _ htimer _ => exact hone htimer.symm.trans
  | dropped v _ => exact Nat.zero_le _
  | take slot f _ hphase _ => exact hone fun _ => by rw [hphase]; rfl
  | takeClose slot phase _ _ _ _ htimer _ => exact hone htimer.symm.trans
  | opened f hphase => exact hone fun _ => by rw [hphase]; rfl
  | keep v f hphase _ => exact hone fun _ => by rw [hphase]; rfl
  | replace v f old hphase _ => exact hone fun _ => by rw [hphase]; rfl

/-- A step that leads to the opener is one that calls it. -/
theorem callsOpener_of_opening (h : advance p op e = some (p', new)) {op' : Op}
    (hop : op' ∈ new) (hopening : op'.phase.isOpening = true) : callsOpener p op e = true := by
  cases advance_effect h with
  | go phase hgo =>
    obtain rfl := List.mem_singleton.mp hop
    exact hgo.opening hopening
  | done _ => cases hop
  | giveUp v phase _ _ hclose _ _ =>
    obtain rfl := List.mem_singleton.mp hop
    cases phase <;> simp_all [Phase.isOpening, Phase.inClose]
  | dropped v _ => cases hop
  | takeClose slot phase _ _ _ hclose _ _ =>
    obtain rfl := List.mem_singleton.mp hop
    cases phase <;> simp_all [Phase.isOpening, Phase.inClose]
  | _ =>
    obtain rfl := List.mem_singleton.mp hop
    simp [Phase.isOpening] at hopening

/-- Before it calls the opener an operation has found the slot empty, or it has just closed
the session that it took from there. -/
theorem callsOpener_spec (h : callsOpener p op e = true) :
    (∃ f, advance p op e = some (p, [⟨op.switch, .opening f⟩])) ∧ op.phase.isTimer = false ∧
      (op.phase.hasOpen = true ∨ openSlot p op.switch = 0) := by
  obtain ⟨switch, phase⟩ := op
  cases e <;> try cases h
  cases phase <;> try cases h
  case requested f =>
    have hslot : p.slots switch = none := by simpa [callsOpener] using h
    exact ⟨⟨f, by simp [advance, hslot]⟩, rfl, .inr (by simp [openSlot, hslot])⟩
  case closingKept.refl v f => exact ⟨⟨f, rfl⟩, rfl, .inl rfl⟩

/-- A timer has none open unless it is expiring it. -/
theorem not_hasOpen_of_timer {phase : Phase} (htimer : phase.isTimer = true)
    (hexpiring : phase.isExpiring = false) : phase.hasOpen = false := by
  cases phase <;> simp_all [Phase.isTimer, Phase.isExpiring, Phase.hasOpen, Phase.inHand,
    Phase.inClose]

theorem not_isTimer_of_isOpening {phase : Phase} (h : phase.isOpening = true) :
    phase.isTimer = false := by
  cases phase <;> first | rfl | cases h

theorem not_isExpiring_of_not_isTimer {phase : Phase} (h : phase.isTimer = false) :
    phase.isExpiring = false := by
  cases phase <;> first | rfl | cases h

/-- A timer that expires a session has it open. -/
theorem hasOpen_of_isExpiring {phase : Phase} (h : phase.isExpiring = true) :
    phase.hasOpen = true := by
  cases phase <;> first | rfl | cases h

/-- One open session at most, and none while an operation is in the opener. -/
structure Exclusive (s : TaskState SessionPool Op) (id : String) : Prop where
  session : openSessions s id ≤ 1
  opener : ∀ op ∈ s.tasks, op.switch = id → op.phase.isOpening = true → openSessions s id = 0

/-- A step in the switch's turn keeps at most one session open. -/
theorem Exclusive.step {pre post : List Op} (hs : Exclusive ⟨p, pre ++ op :: post⟩ id)
    (hcallers : callers id (pre ++ op :: post) ≤ 1)
    (htimer : callsOpener p op e = true → op.switch = id →
      ∀ t ∈ pre ++ post, t.switch = id → t.phase.isExpiring = false)
    (h : advance p op e = some (p', new)) : Exclusive ⟨p', pre ++ new ++ post⟩ id := by
  have hopen := advance_open h id
  have hbefore : openSessions ⟨p, pre ++ op :: post⟩ id =
      openSlot p id + (openOps id pre + (openOps id [op] + openOps id post)) := by
    rw [openSessions, ← List.singleton_append, openOps_append, openOps_append]
  have hafter : openSessions ⟨p', pre ++ new ++ post⟩ id =
      openSlot p' id + (openOps id pre + openOps id new + openOps id post) := by
    rw [openSessions, openOps_append, openOps_append]
  have hone := hs.session
  have hcall : callers id pre + (callers id [op] + callers id post) ≤ 1 := by
    rwa [← List.singleton_append, callers_append, callers_append] at hcallers
  -- where this operation is the switch's caller, the others are its timers
  have hothers (hid : op.switch = id) (hop : op.phase.isTimer = false) :
      ∀ t ∈ pre ++ post, t.switch = id → t.phase.isTimer = true := by
    have hcaller : callers id [op] = 1 := by simp [callers_cons, hid, hop]
    have hzero : callers id (pre ++ post) = 0 := by
      rw [callers_append]
      omega
    exact callers_eq_zero.mp hzero
  have hopener : op.switch = id ∧ opens op e = true →
      openSessions ⟨p, pre ++ op :: post⟩ id = 0 := by
    intro hopens
    exact hs.opener op (by simp) hopens.1 (Bool.and_eq_true_iff.mp hopens.2).1
  refine ⟨?_, fun op' hop' hid hopening => ?_⟩
  · split_ifs at hopen with hopens
    · have hzero := hopener hopens
      omega
    · omega
  have hmem : op' ∈ pre ++ post ∨ op' ∈ new := by
    simp only [List.mem_append] at hop' ⊢
    tauto
  rcases hmem with hmem | hmem
  · -- another caller is in the opener, so this step is a timer's
    have hzero := hs.opener op' (by simp at hmem ⊢; tauto) hid hopening
    have hnot : ¬(op.switch = id ∧ opens op e = true) := by
      intro hopens
      have hop : op.phase.isTimer = false :=
        not_isTimer_of_isOpening (Bool.and_eq_true_iff.mp hopens.2).1
      have htwo := hothers hopens.1 hop op' hmem hid
      rw [not_isTimer_of_isOpening hopening] at htwo
      cases htwo
    rw [if_neg hnot] at hopen
    omega
  · -- this step calls the opener
    have hcalls := callsOpener_of_opening h hmem hopening
    obtain ⟨⟨f, hadv⟩, hop, hclosed⟩ := callsOpener_spec hcalls
    rw [h] at hadv
    cases hadv
    obtain rfl := List.mem_singleton.mp hmem
    have hnew : openOps id [⟨op.switch, .opening f⟩] = 0 := by
      simp [openOps_cons, Phase.hasOpen, Phase.inHand, Phase.inClose]
    rcases hclosed with hclosed | hslot
    · have hclosing : openOps id [op] = 1 := by
        have hid : op.switch = id := hid
        simp [openOps_cons, hid, hclosed]
      omega
    · have hid : op.switch = id := hid
      rw [hid] at hslot
      have hquiet : openOps id (pre ++ post) = 0 := openOps_eq_zero.mpr fun t ht htid =>
        not_hasOpen_of_timer (hothers hid hop t ht htid) (htimer hcalls hid t ht htid)
      rw [openOps_append] at hquiet
      omega

end

/-- Callers hold the turn of the switch: one starts an operation only where no other has
one in progress. -/
def TurnHeld (s : TaskState SessionPool Op) : TaskLabel PoolRequest PoolEvent → Prop
  | .arrive r => ∀ op ∈ s.tasks, op.switch = r.switch → op.phase.isTimer = true
  | .go _ _ => True

/-- The opener is not called while an idle timer is closing the session of the switch. -/
def TimerDone (s : TaskState SessionPool Op) : TaskLabel PoolRequest PoolEvent → Prop
  | .arrive _ => True
  | .go i e => ∀ op ∈ s.tasks[i]?, callsOpener s.shared op e = true →
    ∀ t ∈ s.tasks, t.switch = op.switch → t.phase.isExpiring = false

section

variable {hash : ConnectionKey → UInt64} {s : TaskState SessionPool Op}
variable {tr : List (TaskState SessionPool Op × TaskLabel PoolRequest PoolEvent)}

/-- Under the turn there is one caller at a time. -/
theorem callers_of_run (hrun : (ops hash).Run tr s) (hturn : TransitionSystem.Along TurnHeld tr)
    (id : String) : callers id s.tasks ≤ 1 := by
  refine @TaskSystem.run_invariant _ _ _ _ (ops hash) TurnHeld (callers id ·.tasks ≤ 1) _ _ hrun
    hturn (Nat.zero_le _) ?_ ?_
  · intro _ shared tasks r _ _ hheld _ hone
    rw [callers_cons]
    by_cases hid : ((ops hash).start shared r).switch = id
    · have hr : r.switch = id := by cases r <;> exact hid
      have hzero : callers id tasks = 0 :=
        callers_eq_zero.mpr fun op hop hopid => hheld op hop (hopid.trans hr.symm)
      rw [hzero]
      split_ifs <;> omega
    · simpa [hid] using hone
  · intro _ shared pre op post e shared' new _ _ _ hadv hone
    have hle := advance_callers hadv id
    have hsplit : callers id pre + (callers id [op] + callers id post) ≤ 1 := by
      rwa [← List.singleton_append, callers_append, callers_append] at hone
    simp only [callers_append]
    omega

/-- In every run under the turn at most one session is open. -/
theorem exclusive_of_run (hrun : (ops hash).Run tr s)
    (hturn : TransitionSystem.Along TurnHeld tr) (htimer : TransitionSystem.Along TimerDone tr)
    (id : String) : Exclusive s id := by
  have hboth : TransitionSystem.Along (fun s l => TurnHeld s l ∧ TimerDone s l) tr :=
    fun p hp => ⟨hturn p hp, htimer p hp⟩
  refine @TaskSystem.run_invariant _ _ _ _ (ops hash) (fun s l => TurnHeld s l ∧ TimerDone s l)
    (Exclusive · id) _ _ hrun hboth ⟨Nat.zero_le _, nofun⟩ ?_ ?_
  · intro _ shared tasks r _ _ _ _ hs
    have hentry : ((ops hash).start shared r).phase.hasOpen = false ∧
        ((ops hash).start shared r).phase.isOpening = false := by
      cases r <;> exact ⟨rfl, rfl⟩
    have hsame : openSessions ⟨shared, (ops hash).start shared r :: tasks⟩ id =
        openSessions ⟨shared, tasks⟩ id := by
      simp [openSessions, openOps_cons, hentry.1]
    refine ⟨hsame ▸ hs.session, fun op hop hid hopening => ?_⟩
    rw [hsame]
    rcases List.mem_cons.mp hop with rfl | hop
    · rw [hentry.2] at hopening
      cases hopening
    · exact hs.opener op hop hid hopening
  · intro _ shared pre op post e shared' new hr hC hc hadv hs
    have hcallers := callers_of_run hr (fun p hp => (hC p hp).1) id
    refine hs.step hcallers (fun hcalls hid t ht htid => ?_) hadv
    have hop : op ∈ (pre ++ op :: post)[pre.length]? := by simp
    exact hc.2 op hop hcalls t (by simp at ht ⊢; tauto) (htid.trans hid.symm)

/-- Where callers hold the turn, no switch has two open sessions and none is open while the
opener is called, in every state of the run, exactly if the opener is never called while an
idle timer is closing the session of that switch. -/
theorem exclusive_iff (hrun : (ops hash).Run tr s) (hturn : TransitionSystem.Along TurnHeld tr) :
    TransitionSystem.Always (fun s => ∀ id, Exclusive s id) tr s ↔
      TransitionSystem.Along TimerDone tr := by
  constructor
  · intro halways p hp
    obtain ⟨m, hstep, hm⟩ := hrun.always_next halways hp
    obtain ⟨_, hl, _, _⟩ | ⟨e, pre, op, post, shared, new, hl, htasks, hadv, rfl⟩ :=
      TaskSystem.step_cases hstep
    · rw [hl]
      trivial
    · rw [hl]
      intro op' hop' hcalls t ht hid
      have hop : op' = op := by
        rw [htasks] at hop'
        simpa using hop'.symm
      subst hop
      obtain ⟨⟨f, hopening⟩, htimer, _⟩ := callsOpener_spec hcalls
      have hnext : some (shared, new) = some (p.1.shared, [⟨op'.switch, .opening f⟩]) :=
        hadv.symm.trans hopening
      cases hnext
      rw [Bool.eq_false_iff]
      intro hexpiring
      -- the call that opens is not the timer itself
      have hne : t ≠ op' := by
        intro heq
        rw [heq, not_isExpiring_of_not_isTimer htimer] at hexpiring
        cases hexpiring
      have hrest : t ∈ pre ++ [⟨op'.switch, .opening f⟩] ++ post := by
        rw [htasks] at ht
        simp only [List.mem_append, List.mem_cons] at ht ⊢
        tauto
      -- while one call opens, the others have no open session, so no timer is closing one
      have hzero := (hm op'.switch).opener ⟨op'.switch, .opening f⟩ (by simp) rfl rfl
      have hops : openOps op'.switch (pre ++ [⟨op'.switch, .opening f⟩] ++ post) = 0 :=
        Nat.eq_zero_of_add_eq_zero_left hzero
      have hclosed := openOps_eq_zero.mp hops t hrest hid
      rw [hasOpen_of_isExpiring hexpiring] at hclosed
      cases hclosed
  · intro htimer
    have hboth : TransitionSystem.Along (fun s l => TurnHeld s l ∧ TimerDone s l) tr :=
      fun p hp => ⟨hturn p hp, htimer p hp⟩
    exact hrun.always hboth fun tr m hr hC id =>
      exclusive_of_run hr (fun p hp => (hC p hp).1) (fun p hp => (hC p hp).2) id

end

instance (s : TaskState SessionPool Op) (l : TaskLabel PoolRequest PoolEvent) :
    Decidable (TurnHeld s l) := by
  cases l
  · exact inferInstanceAs (Decidable (∀ op ∈ s.tasks, _ → _))
  · exact inferInstanceAs (Decidable True)

instance (s : TaskState SessionPool Op) (l : TaskLabel PoolRequest PoolEvent) :
    Decidable (TimerDone s l) := by
  cases l with
  | arrive r => exact inferInstanceAs (Decidable True)
  | go i e => exact inferInstanceAs (Decidable (∀ op ∈ s.tasks[i]?, _ → ∀ t ∈ s.tasks, _ → _))

/-- A session is used, kept, and taken from its slot by its idle timer. -/
def useThenExpire : List (TaskLabel PoolRequest PoolEvent) :=
  [.arrive (.checkout { id := "office" }), .go 0 .ok, .go 0 .ok, .go 0 .ok, .go 0 .ok, .go 0 .ok,
    .go 0 .ok]

/-- The next checkout comes when the timer has closed its session. -/
theorem exclusive_iff_afterExpiry : ∃ tr s, (ops fun _ => 0).Run tr s ∧
    TransitionSystem.Always (fun s => ∀ id, Exclusive s id) tr s ∧ openSessions s "office" = 1 := by
  have hrun := TransitionSystem.run_of_replay
    (show (ops fun _ => 0).system.replay (ops fun _ => 0).system.init
      (useThenExpire ++ [.go 0 .ok, .arrive (.checkout { id := "office" }), .go 0 .ok, .go 0 .ok]) =
        some (_, _) from rfl)
  exact ⟨_, _, hrun, (exclusive_iff hrun (by decide)).mpr (by decide), rfl⟩

/-- It comes before that: it finds the slot empty and opens a second session. -/
theorem two_open_sessions : ∃ tr s, (ops fun _ => 0).Run tr s ∧
    TransitionSystem.Along TurnHeld tr ∧ openSessions s "office" = 2 := by
  have hrun := TransitionSystem.run_of_replay
    (show (ops fun _ => 0).system.replay (ops fun _ => 0).system.init
      (useThenExpire ++ [.arrive (.checkout { id := "office" }), .go 0 .ok, .go 0 .ok]) =
        some (_, _) from rfl)
  exact ⟨_, _, hrun, by decide, rfl⟩

end SwitchConfigurator.SessionPool
