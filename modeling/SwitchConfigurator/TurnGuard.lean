import SwitchConfigurator.Foundations.Interleaving
import Mathlib.Data.Finset.Basic
import Mathlib.Logic.Function.Basic

/-!
# The turn of a switch

A switch serves one operation at a time. Whoever has its `ConfiguringGuard` has the one
permit of the switch's semaphore and has its id in `currently_configuring`. The permit, the
id and the count of waiters are three pieces of state under different locks, so a call goes
through several phases, and other calls may run between any two of them.
-/

namespace SwitchConfigurator

/-- The turnstile of a switch: the free permits of its semaphore and its waiters. -/
structure SwitchGate where
  turn : ℕ := 1
  waiting : ℕ := 0
  deriving DecidableEq, Repr

/-- What the guards use of `StatusTrackerInner`. A switch without an entry in `gates` gets
a new gate when it is first asked for. -/
structure StatusTracker where
  currentlyConfiguring : Finset String := ∅
  pendingConfigReload : Finset String := ∅
  gates : String → SwitchGate := fun _ => {}

namespace StatusTracker

def isSwitchBusy (s : StatusTracker) (id : String) : Bool :=
  id ∈ s.currentlyConfiguring ∨ id ∈ s.pendingConfigReload

def setCurrentlyConfiguring (s : StatusTracker) (id : String) : StatusTracker :=
  { s with currentlyConfiguring := insert id s.currentlyConfiguring }

def clearCurrentlyConfiguring (s : StatusTracker) (id : String) : StatusTracker :=
  { s with currentlyConfiguring := s.currentlyConfiguring.erase id }

def queuePendingReload (s : StatusTracker) (id : String) : StatusTracker :=
  { s with pendingConfigReload := insert id s.pendingConfigReload }

def takePendingReload (s : StatusTracker) (id : String) : StatusTracker :=
  { s with pendingConfigReload := s.pendingConfigReload.erase id }

/-- Change the gate of one switch. -/
def atGate (s : StatusTracker) (id : String) (f : SwitchGate → SwitchGate) : StatusTracker :=
  { s with gates := Function.update s.gates id (f (s.gates id)) }

@[simp] def takePermit (s : StatusTracker) (id : String) : StatusTracker :=
  s.atGate id fun gate => { gate with turn := gate.turn - 1 }

@[simp] def returnPermit (s : StatusTracker) (id : String) : StatusTracker :=
  s.atGate id fun gate => { gate with turn := gate.turn + 1 }

/-- `WaitingToken::new`. -/
@[simp] def newToken (s : StatusTracker) (id : String) : StatusTracker :=
  s.atGate id fun gate => { gate with waiting := gate.waiting + 1 }

/-- The drop of a `WaitingToken`. -/
@[simp] def dropToken (s : StatusTracker) (id : String) : StatusTracker :=
  s.atGate id fun gate => { gate with waiting := gate.waiting - 1 }

/-- How far a call on the tracker has come. -/
inductive Phase where
  /-- `try_acquire_configuring` has been called. -/
  | trying
  /-- `acquire_configuring_queued` has been called. -/
  | queueing
  /-- In the semaphore's line, with a live `WaitingToken`. -/
  | waiting
  /-- The semaphore has handed it the permit; it has not been polled since. -/
  | assigned
  /-- Its wait is over without a permit; its token is still to be dropped. -/
  | leaving
  /-- It has the permit and has yet to set the busy flag. -/
  | granted
  /-- It has returned a guard, which is alive. -/
  | holding
  /-- The guard is in `release`, before the flag is cleared. -/
  | releasing
  /-- The guard was dropped, and its cleanup task has been spawned. -/
  | dropped
  /-- The flag is cleared; the permit is next. -/
  | cleared
  /-- `queue_pending_reload` has been called. -/
  | queueingReload
  /-- `take_pending_reload` has been called. -/
  | takingReload
  deriving DecidableEq, Repr

namespace Phase

/-- The phases a call starts in. -/
def isEntry : Phase → Bool
  | trying | queueing | queueingReload | takingReload => true
  | _ => false

/-- The phases in which the call, its guard or its cleanup has the permit. -/
@[simp] def hasPermit : Phase → Bool
  | assigned | granted | holding | releasing | dropped | cleared => true
  | _ => false

/-- The phases of a guard and of a cleanup that has yet to clear the flag. -/
@[simp] def hasFlag : Phase → Bool
  | holding | releasing | dropped => true
  | _ => false

/-- The phases between the making and the drop of the `WaitingToken`. -/
@[simp] def isWaiting : Phase → Bool
  | waiting | assigned | leaving => true
  | _ => false

end Phase

structure Call where
  switch : String
  phase : Phase
  deriving DecidableEq, Repr

/-- A call goes on, or its owner lets go of it: its future is dropped, its wait has timed
out, or the guard it returned goes out of scope. -/
inductive TurnEvent where
  | go
  | quit
  deriving DecidableEq, Repr

/-- One atomic step of a call. -/
def advance (s : StatusTracker) (c : Call) : TurnEvent → Option (StatusTracker × List Call)
  | .go =>
    match c.phase with
    | .trying =>
      -- one write lock around the checks, the permit and the flag
      if s.isSwitchBusy c.switch ∨ (s.gates c.switch).turn = 0 then some (s, [])
      else some ((s.takePermit c.switch).setCurrentlyConfiguring c.switch, [⟨c.switch, .holding⟩])
    | .queueing => some (s.newToken c.switch, [⟨c.switch, .waiting⟩])
    | .waiting =>
      if 0 < (s.gates c.switch).turn then
        some (s.takePermit c.switch, [⟨c.switch, .assigned⟩])
      else none
    | .assigned => some (s.dropToken c.switch, [⟨c.switch, .granted⟩])
    | .leaving => some (s.dropToken c.switch, [])
    | .granted => some (s.setCurrentlyConfiguring c.switch, [⟨c.switch, .holding⟩])
    | .holding => some (s, [⟨c.switch, .releasing⟩])
    | .releasing | .dropped => some (s.clearCurrentlyConfiguring c.switch, [⟨c.switch, .cleared⟩])
    | .cleared => some (s.returnPermit c.switch, [])
    | .queueingReload => some (s.queuePendingReload c.switch, [])
    | .takingReload => some (s.takePendingReload c.switch, [])
  | .quit =>
    match c.phase with
    | .trying | .queueing | .queueingReload | .takingReload => some (s, [])
    | .waiting => some (s, [⟨c.switch, .leaving⟩])
    | .assigned => some (s.returnPermit c.switch, [⟨c.switch, .leaving⟩])
    | .granted => some (s.returnPermit c.switch, [])
    | .holding | .releasing => some (s, [⟨c.switch, .dropped⟩])
    -- nothing can be let go of here: no await is left before the end
    | .leaving | .dropped | .cleared => none

/-- All interleavings of calls on one tracker. -/
def turns : TaskSystem StatusTracker Call Call TurnEvent where
  init := {}
  admits _ _ c := c.phase.isEntry
  start _ c := c
  advance := advance

/-- The calls for a switch that are in one of the phases `p`. -/
def inPhase (p : Phase → Bool) (id : String) (calls : List Call) : ℕ :=
  calls.countP fun c => c.switch = id ∧ p c.phase

section inPhase

variable {p : Phase → Bool} {id : String} {calls calls' : List Call} {c : Call}

@[simp] theorem inPhase_nil : inPhase p id [] = 0 := rfl

theorem inPhase_cons : inPhase p id (c :: calls) =
    inPhase p id calls + if c.switch = id ∧ p c.phase then 1 else 0 := by
  unfold inPhase
  simp [List.countP_cons]

@[simp] theorem inPhase_append : inPhase p id (calls ++ calls') =
    inPhase p id calls + inPhase p id calls' := List.countP_append

/-- The order of calls has no part in the count. -/
theorem inPhase_perm (h : calls.Perm calls') : inPhase p id calls = inPhase p id calls' :=
  h.countP_eq _

/-- There is a call in the phase exactly if the count says so. -/
theorem inPhase_pos : 0 < inPhase p id calls ↔ ∃ c ∈ calls, c.switch = id ∧ p c.phase = true := by
  unfold inPhase
  simp [List.countP_pos_iff]

/-- Two different calls are counted twice. -/
theorem two_le_inPhase {c c' : Call} (hc : c ∈ calls) (hc' : c' ∈ calls) (hne : c ≠ c')
    (hid : c.switch = id) (hp : p c.phase = true) (hid' : c'.switch = id)
    (hp' : p c'.phase = true) : 2 ≤ inPhase p id calls := by
  obtain ⟨l, l', rfl⟩ := List.append_of_mem hc
  have hrest : c' ∈ l ++ l' := by
    simp only [List.mem_append, List.mem_cons] at hc' ⊢
    exact hc'.imp_right fun h => h.resolve_left hne.symm
  have hpos : 0 < inPhase p id (l ++ l') := inPhase_pos.mpr ⟨c', hrest, hid', hp'⟩
  rw [inPhase_perm List.perm_middle, inPhase_cons, if_pos ⟨hid, hp⟩]
  omega

/-- A weaker condition counts no less. -/
theorem inPhase_le {q : Phase → Bool} (h : ∀ phase, p phase = true → q phase = true) :
    inPhase p id calls ≤ inPhase q id calls :=
  List.countP_mono_left fun c _ hc => by
    have hp : c.switch = id ∧ p c.phase = true := by simpa using hc
    simpa using ⟨hp.1, h _ hp.2⟩

end inPhase

variable {s s' : StatusTracker} {c : Call} {e : TurnEvent} {new : List Call} {id id' : String}
variable {f : SwitchGate → SwitchGate}

/-- A change at one gate leaves the others as they are. -/
@[simp] theorem gates_atGate :
    (s.atGate id' f).gates id = if id = id' then f (s.gates id') else s.gates id := by
  unfold atGate
  exact Function.update_apply ..

@[simp] theorem gates_setCurrentlyConfiguring :
    (s.setCurrentlyConfiguring id').gates = s.gates := rfl

@[simp] theorem gates_clearCurrentlyConfiguring :
    (s.clearCurrentlyConfiguring id').gates = s.gates := rfl

@[simp] theorem gates_queuePendingReload : (s.queuePendingReload id').gates = s.gates := rfl

@[simp] theorem gates_takePendingReload : (s.takePendingReload id').gates = s.gates := rfl

@[simp] theorem currentlyConfiguring_atGate :
    (s.atGate id' f).currentlyConfiguring = s.currentlyConfiguring := rfl

/-- Only the one switch is marked. -/
@[simp] theorem mem_setCurrentlyConfiguring :
    id ∈ (s.setCurrentlyConfiguring id').currentlyConfiguring ↔
      id = id' ∨ id ∈ s.currentlyConfiguring := Finset.mem_insert

/-- Only the one switch is unmarked. -/
@[simp] theorem mem_clearCurrentlyConfiguring :
    id ∈ (s.clearCurrentlyConfiguring id').currentlyConfiguring ↔
      id ≠ id' ∧ id ∈ s.currentlyConfiguring := Finset.mem_erase

@[simp] theorem currentlyConfiguring_queuePendingReload :
    (s.queuePendingReload id').currentlyConfiguring = s.currentlyConfiguring := rfl

@[simp] theorem currentlyConfiguring_takePendingReload :
    (s.takePendingReload id').currentlyConfiguring = s.currentlyConfiguring := rfl

/-- What one step of a call does to the permit, the count of waiters and the flag of a
switch: each goes along with the calls that stand for it. -/
structure Moved (s s' : StatusTracker) (c : Call) (new : List Call) (id : String) : Prop where
  turn : (s'.gates id).turn + inPhase Phase.hasPermit id new =
    (s.gates id).turn + inPhase Phase.hasPermit id [c]
  waiting : inPhase Phase.isWaiting id [c] ≤ (s.gates id).waiting →
    (s'.gates id).waiting + inPhase Phase.isWaiting id [c] =
      (s.gates id).waiting + inPhase Phase.isWaiting id new
  flag : (0 < inPhase Phase.hasFlag id [c] → id ∈ s.currentlyConfiguring) →
    (id ∈ s'.currentlyConfiguring ↔ 0 < inPhase Phase.hasFlag id new ∨
      (id ∈ s.currentlyConfiguring ∧ inPhase Phase.hasFlag id [c] = 0))

/-- What one step of a call moves, for any switch. -/
theorem advance_moved (h : advance s c e = some (s', new)) (id : String) :
    Moved s s' c new id := by
  obtain ⟨switch, phase⟩ := c
  cases e <;> cases phase <;> simp only [advance] at h <;> try split_ifs at h
  all_goals cases h
  -- a step changes its own switch only
  all_goals
    by_cases hid : id = switch
    · subst hid
      constructor <;> simp_all [inPhase_cons] <;> omega
    · have hid' : switch ≠ id := Ne.symm hid
      constructor <;> simp [inPhase_cons, hid, hid']

/-- The permit, the flag and the count of waiters agree with the calls in progress. -/
structure Balanced (s : TaskState StatusTracker Call) (id : String) : Prop where
  turn : (s.shared.gates id).turn + inPhase Phase.hasPermit id s.tasks = 1
  flag : id ∈ s.shared.currentlyConfiguring ↔ 0 < inPhase Phase.hasFlag id s.tasks
  waiting : (s.shared.gates id).waiting = inPhase Phase.isWaiting id s.tasks

/-- Who is marked has the permit. -/
theorem hasFlag_le_hasPermit (id : String) (calls : List Call) :
    inPhase Phase.hasFlag id calls ≤ inPhase Phase.hasPermit id calls :=
  inPhase_le fun phase => by cases phase <;> decide

/-- A step keeps permits and calls in balance. -/
theorem Balanced.step {pre post : List Call} (hb : Balanced ⟨s, pre ++ c :: post⟩ id)
    (h : advance s c e = some (s', new)) : Balanced ⟨s', pre ++ new ++ post⟩ id := by
  have hm := advance_moved h id
  obtain ⟨hturn, hflag, hwaiting⟩ := hb
  rw [← List.singleton_append] at hturn hflag hwaiting
  simp only [inPhase_append] at hturn hflag hwaiting
  refine ⟨?_, ?_, ?_⟩
  · have := hm.turn
    simp only [inPhase_append]
    omega
  · -- while the flag is the step's own to clear, no other call has the permit
    have hc := hasFlag_le_hasPermit id [c]
    have hpre := hasFlag_le_hasPermit id pre
    have hpost := hasFlag_le_hasPermit id post
    simp only [inPhase_append]
    rw [hm.flag fun hpos => hflag.mpr (by omega), hflag]
    omega
  · have := hm.waiting (by omega)
    simp only [inPhase_append]
    omega

/-- So does a call that arrives. -/
theorem Balanced.arrive {calls : List Call} (hb : Balanced ⟨s, calls⟩ id)
    (hc : c.phase.isEntry = true) : Balanced ⟨s, c :: calls⟩ id := by
  obtain ⟨switch, phase⟩ := c
  obtain ⟨hturn, hflag, hwaiting⟩ := hb
  cases phase <;> cases hc <;> constructor <;> simpa [inPhase_cons]

/-- They are in balance in every run. -/
theorem balanced_of_run {tr : List (TaskState StatusTracker Call × TaskLabel Call TurnEvent)}
    {s : TaskState StatusTracker Call} (hrun : turns.Run tr s) (id : String) : Balanced s id := by
  refine @TaskSystem.run_invariant _ _ _ _ turns (fun _ _ => True) (Balanced · id) _ _ hrun
    (fun _ _ => trivial) ⟨rfl, ?_, rfl⟩ ?_ ?_
  · simp [turns]
  · intro _ shared calls c _ _ _ hentry hb
    exact hb.arrive hentry
  · intro _ shared pre c post e shared' new _ _ _ hadv hb
    exact hb.step hadv

/-- In every interleaving there is one permit for each switch, in the semaphore or with one
call, guard or cleanup. A live guard has its switch marked as busy, and no other guard is
about to clear the mark. The mark is gone when no guard and no cleanup is left, and the
counter counts the calls that wait. -/
theorem turn_guard_sound {tr : List (TaskState StatusTracker Call × TaskLabel Call TurnEvent)}
    {s : TaskState StatusTracker Call} (hrun : turns.Run tr s) (id : String) :
    (s.shared.gates id).turn + inPhase Phase.hasPermit id s.tasks = 1 ∧
    (⟨id, .holding⟩ ∈ s.tasks → id ∈ s.shared.currentlyConfiguring ∧
      ⟨id, .releasing⟩ ∉ s.tasks ∧ ⟨id, .dropped⟩ ∉ s.tasks) ∧
    ((∀ c ∈ s.tasks, c.switch = id → c.phase.hasFlag = false) →
      id ∉ s.shared.currentlyConfiguring) ∧
    (s.shared.gates id).waiting = inPhase Phase.isWaiting id s.tasks := by
  have hb := balanced_of_run hrun id
  refine ⟨hb.turn, ?_, ?_, hb.waiting⟩
  · intro hholding
    have hflag : 0 < inPhase Phase.hasFlag id s.tasks :=
      inPhase_pos.mpr ⟨_, hholding, rfl, rfl⟩
    have hone (phase : Phase) (hp : phase.hasPermit = true) (hne : phase ≠ .holding) :
        ⟨id, phase⟩ ∉ s.tasks := by
      intro hmem
      have htwo : 2 ≤ inPhase Phase.hasPermit id s.tasks :=
        two_le_inPhase hholding hmem (by simpa using hne.symm) rfl rfl rfl hp
      have := hb.turn
      omega
    exact ⟨hb.flag.mpr hflag, hone _ rfl (by decide), hone _ rfl (by decide)⟩
  · intro hnone hmem
    obtain ⟨c, hc, hid, hphase⟩ := inPhase_pos.mp (hb.flag.mp hmem)
    rw [hnone c hc hid] at hphase
    cases hphase

/-- A guard is dropped while another call waits: the cleanup runs before the waiter's turn. -/
def handover : List (TaskLabel Call TurnEvent) :=
  [.arrive ⟨"office", .trying⟩, .go 0 .go, .arrive ⟨"office", .queueing⟩, .go 0 .go,
    .go 1 .quit, .go 1 .go, .go 1 .go, .go 0 .go, .go 0 .go, .go 0 .go]

/-- A turn that was handed over. -/
theorem turn_guard_sound_handover : ∃ tr s, turns.Run tr s ∧ ⟨"office", .holding⟩ ∈ s.tasks ∧
    "office" ∈ s.shared.currentlyConfiguring := by
  have hrun := TransitionSystem.run_of_replay
    (show turns.system.replay turns.system.init handover = some (_, _) from rfl)
  have hholding : ⟨"office", .holding⟩ ∈ [(⟨"office", .holding⟩ : Call)] := List.mem_singleton_self _
  exact ⟨_, _, hrun, hholding, ((turn_guard_sound hrun "office").2.1 hholding).1⟩

end StatusTracker

end SwitchConfigurator
