import SwitchConfigurator.Service.Handlers

/-!
# The steps of a task

A task that waits for a call is at the node of its function that made the call, which
`Awaits` keeps. With that, `Steps` lists what one step of a task can be: one rule for each
kind of access or await, with the part of the function that comes next.
-/

namespace SwitchConfigurator.Service

open StatusTracker (Call TurnEvent)
open SessionPool (Op PoolEvent)

/-- The phases of `acquire_configuring_queued`. -/
def isQueued : StatusTracker.Phase → Bool
  | .queueing | .waiting | .assigned | .leaving | .granted => true
  | _ => false

/-- The phases of the release of a guard. -/
def isReleasing : StatusTracker.Phase → Bool
  | .releasing | .cleared => true
  | _ => false

/-- The phases of a task that cleans up after a drop. -/
def isCleanup : StatusTracker.Phase → Bool
  | .dropped | .cleared | .leaving => true
  | _ => false

def isCheckout : SessionPool.Phase → Bool
  | .requested _ | .resuming _ _ | .closingKept _ _ | .opening _ => true
  | _ => false

def isCloseIdle : SessionPool.Phase → Bool
  | .idleRequested | .closing _ => true
  | _ => false

/-- The phases of `Session::release` and `Session::discard`. -/
def isSessionEnd : SessionPool.Phase → Bool
  | .keeping _ _ | .closingReplaced _ _ _ | .arming _ _ | .closing _ => true
  | _ => false

/-- The function asks for the turn of a switch and goes on with `k`. -/
inductive Asks : Prog → StatusTracker.Phase → String → Option SwitchConfig → (Bool → Prog) → Prop
  | tries (id : String) (a : Option SwitchConfig) (k : Bool → Prog) :
      Asks (.tryAcquire id a k) .trying id a k
  | queues {phase : StatusTracker.Phase} (id : String) (a : Option SwitchConfig)
      (k : Bool → Prog) : isQueued phase = true → Asks (.acquireQueued id a k) phase id a k

/-- The node at which a function waits for a call. The task of a cleanup or of a timer has
no function of its own. -/
inductive Awaits : Prog → Activity → Prop
  | idle (p : Prog) : Awaits p .idle
  | asks {p : Prog} {phase : StatusTracker.Phase} {id : String} {a : Option SwitchConfig}
      {k : Bool → Prog} : Asks p phase id a k → Awaits p (.turn ⟨id, phase⟩)
  | releases {phase : StatusTracker.Phase} (id : String) (k : Prog) : isReleasing phase = true →
      Awaits (.releaseGuard id k) (.turn ⟨id, phase⟩)
  | cleansUp {phase : StatusTracker.Phase} (id : String) : isCleanup phase = true →
      Awaits .done (.turn ⟨id, phase⟩)
  | checkout {phase : SessionPool.Phase} (config : SwitchConfig) (k : Bool → Prog) :
      isCheckout phase = true → Awaits (.checkout config k) (.pool ⟨config.id, phase⟩)
  | closeIdle {phase : SessionPool.Phase} (id : String) (k : Prog) : isCloseIdle phase = true →
      Awaits (.closeIdle id k) (.pool ⟨id, phase⟩)
  | endSession {phase : SessionPool.Phase} (id : String) (healthy : Bool) (k : Prog) :
      isSessionEnd phase = true → Awaits (.endSession healthy k) (.pool ⟨id, phase⟩)
  | timer {phase : SessionPool.Phase} (id : String) : phase.isTimer = true →
      Awaits .done (.pool ⟨id, phase⟩)

/-- A task waits where its function does, and the session it has is checked out. -/
structure Task.Wf (t : Task) : Prop where
  awaits : Awaits t.prog t.activity
  session : ∀ op ∈ t.session, isOut op.phase = true

/-- Steps that only choose how the function goes on. -/
inductive Control (w : World) : Prog → Event → Prog → Prop
  | choose (k : Bool → Prog) (b : Bool) : Control w (.choose k) (.outcome b) (k b)
  | loadFiles (k : Option (List SwitchConfig) → Prog) (o : Option (List SwitchConfig)) :
      Control w (.loadFiles k) (.loaded o) (k o)
  | readConfig (k : List SwitchConfig → Prog) : Control w (.readConfig k) .go (k w.config)
  | isSwitchBusy (id : String) (k : Bool → Prog) :
      Control w (.isSwitchBusy id k) .go (k (w.tracker.isSwitchBusy id))
  | connectFailed (config : SwitchConfig) (k : Bool → Prog) :
      Control w (.connect config k) (.outcome false) (k false)

/-- The nodes at which a task starts to wait for a call on the tracker or the pool. -/
inductive Starts (hash : ConnectionKey → UInt64) : Prog → Activity → Prop
  | tryAcquire (id : String) (a : Option SwitchConfig) (k : Bool → Prog) :
      Starts hash (.tryAcquire id a k) (.turn ⟨id, .trying⟩)
  | acquireQueued (id : String) (a : Option SwitchConfig) (k : Bool → Prog) :
      Starts hash (.acquireQueued id a k) (.turn ⟨id, .queueing⟩)
  | checkout (config : SwitchConfig) (k : Bool → Prog) :
      Starts hash (.checkout config k) (.pool ⟨config.id, .requested (fingerprint hash config)⟩)
  | closeIdle (id : String) (k : Prog) : Starts hash (.closeIdle id k) (.pool ⟨id, .idleRequested⟩)

/-- A call on the pool has ended, and the function goes on with `p`. -/
inductive PoolEnds : Prog → String → Prog → Prop
  | checkoutFailed (config : SwitchConfig) (k : Bool → Prog) :
      PoolEnds (.checkout config k) config.id (k false)
  | closeIdle (id : String) (k : Prog) : PoolEnds (.closeIdle id k) id k
  | discarded (id : String) (healthy : Bool) (k : Prog) : PoolEnds (.endSession healthy k) id k
  | timer (id : String) : PoolEnds .done id .done

inductive Steps (hash : ConnectionKey → UInt64) (w : World) (t : Task) :
    Event → World → List Task → Prop
  | control {e : Event} {p : Prog} : t.activity = .idle → Control w t.prog e p →
      Steps hash w t e w [t.goTo p]
  | starts {a : Activity} : t.activity = .idle → Starts hash t.prog a →
      Steps hash w t .go w [t.wait a]
  | turnGoes {e : Event} {a : TurnEvent} {c c' : Call} {tracker : StatusTracker} :
      t.activity = .turn c → StatusTracker.advance w.tracker c a = some (tracker, [c']) →
      c'.phase ≠ .holding → (a = .quit → c'.phase = .leaving) →
      Steps hash w t e { w with tracker } [t.wait (.turn c')]
  | turnGot {id : String} {phase : StatusTracker.Phase} {a : Option SwitchConfig}
      {k : Bool → Prog} {tracker : StatusTracker} : t.activity = .turn ⟨id, phase⟩ →
      Asks t.prog phase id a k →
      StatusTracker.advance w.tracker ⟨id, phase⟩ .go = some (tracker, [⟨id, .holding⟩]) →
      Steps hash w t .go (w.gotTurn tracker id)
        [{ t with activity := .idle, prog := k true, guards := id :: t.guards }]
  | turnLost {id : String} {phase : StatusTracker.Phase} {a : Option SwitchConfig}
      {k : Bool → Prog} {tracker : StatusTracker} : t.activity = .turn ⟨id, phase⟩ →
      Asks t.prog phase id a k →
      StatusTracker.advance w.tracker ⟨id, phase⟩ .go = some (tracker, []) →
      Steps hash w t .go { w with tracker } [{ t with activity := .idle, prog := k false }]
  | released {id : String} {phase : StatusTracker.Phase} {k : Prog} {tracker : StatusTracker} :
      t.activity = .turn ⟨id, phase⟩ → t.prog = .releaseGuard id k →
      StatusTracker.advance w.tracker ⟨id, phase⟩ .go = some (tracker, []) →
      Steps hash w t .go { w with tracker } [{ t with activity := .idle, prog := k }]
  | cleanedUp {c : Call} {tracker : StatusTracker} : t.activity = .turn c → t.prog = .done →
      StatusTracker.advance w.tracker c .go = some (tracker, []) →
      Steps hash w t .go { w with tracker } [{ t with activity := .idle, prog := .done }]
  | poolGoes {b : Bool} {op op' : Op} {pool : SessionPool} : t.activity = .pool op →
      SessionPool.advance w.pool op (if b then .ok else .err) = some (pool, [op']) →
      isOut op'.phase = false → isSleeping op'.phase = false →
      Steps hash w t (.outcome b) { w with pool } [t.wait (.pool op')]
  | checkedOut {b : Bool} {op op' : Op} {pool : SessionPool} {config : SwitchConfig}
      {k : Bool → Prog} : t.activity = .pool op → t.prog = .checkout config k →
      SessionPool.advance w.pool op (if b then .ok else .err) = some (pool, [op']) →
      isOut op'.phase = true → Steps hash w t (.outcome b) { w with pool }
        [{ t with activity := .idle, prog := k true, session := some op' }]
  | kept {b healthy : Bool} {op op' : Op} {pool : SessionPool} {k : Prog} :
      t.activity = .pool op → t.prog = .endSession healthy k →
      SessionPool.advance w.pool op (if b then .ok else .err) = some (pool, [op']) →
      isSleeping op'.phase = true → Steps hash w t (.outcome b) { w with pool }
        [{ t with activity := .idle, prog := k }, Task.idleTimer op']
  | poolEnds {b : Bool} {op : Op} {pool : SessionPool} {p : Prog} : t.activity = .pool op →
      PoolEnds t.prog op.switch p →
      SessionPool.advance w.pool op (if b then .ok else .err) = some (pool, []) →
      Steps hash w t (.outcome b) { w with pool } [{ t with activity := .idle, prog := p }]
  | write {f : List SwitchConfig → List SwitchConfig} {k : Prog} : t.activity = .idle →
      t.prog = .writeConfig f k → Steps hash w t .go (w.write (f w.config)) [t.goTo k]
  | queuePending {id : String} {k : Prog} : t.activity = .idle →
      t.prog = .queuePendingReload id k →
      Steps hash w t .go { w with tracker := w.tracker.queuePendingReload id } [t.goTo k]
  | takePending {id : String} {k : Bool → Prog} : t.activity = .idle →
      t.prog = .takePendingReload id k →
      Steps hash w t .go { w with tracker := w.tracker.takePendingReload id }
        [t.goTo (k (id ∈ w.tracker.pendingConfigReload))]
  | release {id : String} {k : Prog} : t.activity = .idle → t.prog = .releaseGuard id k →
      id ∈ t.guards → Steps hash w t .go w
        [{ t with activity := .turn ⟨id, .releasing⟩, guards := t.guards.erase id }]
  | endSession {b healthy : Bool} {k : Prog} {op op' : Op} {pool : SessionPool} :
      t.activity = .idle → t.prog = .endSession healthy k → t.session = some op →
      SessionPool.advance w.pool op (if healthy && b then .ok else .err) = some (pool, [op']) →
      Steps hash w t (.outcome b) { w with pool }
        [{ t with activity := .pool op', session := none }]
  | connected {config : SwitchConfig} {k : Bool → Prog} : t.activity = .idle →
      t.prog = .connect config k →
      Steps hash w t (.outcome true) w [{ t with prog := k true, own := some config.id }]
  | disconnect {k : Prog} : t.activity = .idle → t.prog = .disconnect k →
      Steps hash w t .go w [{ t with prog := k, own := none }]
  | apply {b : Bool} {config : SwitchConfig} {k : Bool → Prog} : t.activity = .idle →
      t.prog = .apply config k →
      Steps hash w t (.outcome b) (w.send config t.requested) [t.goTo (k b)]
  | spawn {p k : Prog} {guard : Option String} : t.activity = .idle →
      t.prog = .spawn p guard k → (∀ id ∈ guard, id ∈ t.guards) →
      Steps hash w t .go w [{ t with prog := k, guards := t.guards.diff guard.toList },
        { handler := t.handler, prog := p, guards := guard.toList, requested := t.requested }]
  | deadline {p k : Prog} : t.activity = .idle → t.prog = .deadline p k →
      Steps hash w t .go w [{ t with prog := k, deadline := some p }]
  | inTime {k : Prog} : t.activity = .idle → t.prog = .inTime k →
      Steps hash w t .go w [{ t with prog := k, deadline := none }]
  | dropSession {op : Op} {pool : SessionPool} {ops : List Op} : t.activity = .idle →
      t.prog = .done → t.session = some op →
      SessionPool.advance w.pool op .drop = some (pool, ops) →
      Steps hash w t .go { w with pool } [{ t with session := none }]
  | dropOwn {id : String} : t.activity = .idle → t.prog = .done → t.session = none →
      t.own = some id → Steps hash w t .go w [{ t with own := none }]
  | dropGuard {id : String} {guards : List String} : t.activity = .idle → t.prog = .done →
      t.session = none → t.own = none → t.guards = id :: guards →
      Steps hash w t .go w [{ t with guards }, Task.cleanup ⟨id, .dropped⟩]
  | exit : t.activity = .idle → t.prog = .done → t.session = none → t.own = none →
      t.guards = [] → Steps hash w t .go w []
  | cancelIdle : t.activity = .idle → t.handler ≠ .watcher → Steps hash w t .cancel w [t.ended]
  | cancelTurn {c : Call} {tracker : StatusTracker} {cs : List Call} : t.activity = .turn c →
      t.handler ≠ .watcher → StatusTracker.advance w.tracker c .quit = some (tracker, cs) →
      Steps hash w t .cancel { w with tracker } (t.ended :: cs.map Task.cleanup)
  | cancelPool {op : Op} {pool : SessionPool} {ops : List Op} : t.activity = .pool op →
      t.handler ≠ .watcher → SessionPool.advance w.pool op .drop = some (pool, ops) →
      Steps hash w t .cancel { w with pool } [t.ended]
  | elapseIdle {p : Prog} : t.deadline = some p → t.activity = .idle → t.session = none →
      Steps hash w t .elapsed w [t.timedOut p]
  | elapseSession {p : Prog} {op : Op} {pool : SessionPool} {ops : List Op} :
      t.deadline = some p → t.activity = .idle → t.session = some op →
      SessionPool.advance w.pool op .drop = some (pool, ops) →
      Steps hash w t .elapsed { w with pool } [t.timedOut p]
  | elapsePool {p : Prog} {op : Op} {pool : SessionPool} {ops : List Op} :
      t.deadline = some p → t.activity = .pool op → t.session = none →
      SessionPool.advance w.pool op .drop = some (pool, ops) →
      Steps hash w t .elapsed { w with pool } [t.timedOut p]

variable {hash : ConnectionKey → UInt64} {w w' : World} {t : Task} {e : Event} {new : List Task}

/-- A call for the turn goes on as one call or ends. -/
theorem turn_length {s s' : StatusTracker} {c : Call} {a : TurnEvent} {cs : List Call}
    (h : StatusTracker.advance s c a = some (s', cs)) : cs = [] ∨ ∃ c', cs = [c'] := by
  obtain ⟨switch, phase⟩ := c
  cases a <;> cases phase <;> simp only [StatusTracker.advance] at h <;> try split_ifs at h
  all_goals cases h
  all_goals first | exact .inl rfl | exact .inr ⟨_, rfl⟩

/-- So does a call on the pool. -/
theorem pool_length {p p' : SessionPool} {op : Op} {a : PoolEvent} {ops : List Op}
    (h : SessionPool.advance p op a = some (p', ops)) : ops = [] ∨ ∃ op', ops = [op'] := by
  cases SessionPool.advance_effect h <;> first | exact .inl rfl | exact .inr ⟨_, rfl⟩

/-- The turn is handed out to who asks for it only. -/
theorem advance_holding {s s' : StatusTracker} {c c' : Call} {cs : List Call}
    (h : StatusTracker.advance s c .go = some (s', c' :: cs)) (hphase : c'.phase = .holding) :
    c' = ⟨c.switch, .holding⟩ ∧ isReleasing c.phase = false ∧ isCleanup c.phase = false := by
  obtain ⟨switch, phase⟩ := c
  cases phase <;> simp only [StatusTracker.advance] at h <;> try split_ifs at h
  all_goals cases h
  all_goals first | exact ⟨rfl, rfl, rfl⟩ | cases hphase

/-- The turn that is obtained is held under the guard. -/
theorem turnGot_steps {c c' : Call} {tracker : StatusTracker} (ht : t.Wf)
    (hc : t.activity = .turn c)
    (hadv : StatusTracker.advance w.tracker c .go = some (tracker, [c']))
    (hphase : c'.phase = .holding) : Steps hash w t .go (w.gotTurn tracker c.switch)
      [{ t.resume true with guards := c.switch :: t.guards }] := by
  obtain ⟨rfl, hreleasing, hcleanup⟩ := advance_holding hadv hphase
  have hawaits := ht.awaits
  rw [hc] at hawaits
  generalize hp : t.prog = p at hawaits
  cases hawaits with
  | @asks _ phase id a k hasks =>
    have hstep : Steps hash w t .go (w.gotTurn tracker id)
        [{ t with activity := .idle, prog := k true, guards := id :: t.guards }] :=
      .turnGot hc (hp ▸ hasks) hadv
    have hprog : t.prog.answer true = k true := by
      rw [hp]
      cases hasks <;> rfl
    simpa [Task.resume, hprog] using hstep
  | releases id k hrel => cases hreleasing.symm.trans hrel
  | cleansUp id hclean => cases hcleanup.symm.trans hclean

/-- A call for the turn that ends lets the task go on. -/
theorem turnEnds_steps {c : Call} {tracker : StatusTracker} (ht : t.Wf)
    (hc : t.activity = .turn c)
    (hadv : StatusTracker.advance w.tracker c .go = some (tracker, [])) :
    Steps hash w t .go { w with tracker } [t.resume false] := by
  have hawaits := ht.awaits
  rw [hc] at hawaits
  unfold Task.resume
  generalize hp : t.prog = p at hawaits
  cases hawaits with
  | @asks _ phase id a k hasks =>
    have hprog : p.answer false = k false := by cases hasks <;> rfl
    rw [hprog]
    exact .turnLost hc (hp ▸ hasks) hadv
  | releases id k hphase => exact .released hc hp hadv
  | cleansUp id hphase => exact .cleanedUp hc hp hadv

/-- What the tracker computes is one of the steps. -/
theorem advanceTurn_steps {c : Call} (ht : t.Wf) (hc : t.activity = .turn c)
    (h : advanceTurn w t c .go = some (w', new)) : Steps hash w t .go w' new := by
  unfold advanceTurn at h
  cases hadv : StatusTracker.advance w.tracker c .go with
  | none => simp [hadv] at h
  | some next =>
    obtain ⟨tracker, cs⟩ := next
    rcases turn_length hadv with rfl | ⟨c', rfl⟩
    · simp only [hadv, Option.some.injEq, Prod.mk.injEq] at h
      obtain ⟨rfl, rfl⟩ := h
      exact turnEnds_steps ht hc hadv
    · simp only [hadv] at h
      split_ifs at h with hphase
      · cases h
        exact turnGot_steps ht hc hadv hphase
      · cases h
        exact .turnGoes hc hadv hphase nofun

/-- A wait that is given up still has its token to drop. -/
theorem timeout_steps {c : Call} (hc : t.activity = .turn c)
    (hphase : c.phase = .waiting ∨ c.phase = .assigned)
    (h : advanceTurn w t c .quit = some (w', new)) : Steps hash w t .timeout w' new := by
  unfold advanceTurn at h
  obtain ⟨tracker, hadv⟩ : ∃ tracker,
      StatusTracker.advance w.tracker c .quit = some (tracker, [⟨c.switch, .leaving⟩]) := by
    rcases hphase with hphase | hphase <;>
      exact ⟨_, by unfold StatusTracker.advance; rw [hphase]⟩
  have hne : StatusTracker.Phase.leaving ≠ .holding := by decide
  simp only [hadv, if_neg hne, Option.some.injEq, Prod.mk.injEq] at h
  obtain ⟨rfl, rfl⟩ := h
  exact .turnGoes hc hadv hne fun _ => rfl

/-- Only `checkout` hands out a session, and only `release` leaves a timer behind. -/
theorem advance_answer {p p' : SessionPool} {op op' : Op} {a : PoolEvent} {ops : List Op}
    (h : SessionPool.advance p op a = some (p', op' :: ops)) :
    (isOut op'.phase = true → op.phase.isTimer = false ∧ isCloseIdle op.phase = false ∧
        isSessionEnd op.phase = false) ∧
      (isSleeping op'.phase = true → op.phase.isTimer = false ∧ isCheckout op.phase = false ∧
        isCloseIdle op.phase = false) := by
  obtain ⟨switch, phase⟩ := op
  cases a <;> cases phase <;> simp only [SessionPool.advance] at h <;> try split at h
  all_goals try split_ifs at h
  all_goals cases h
  all_goals simp [isOut, isSleeping, isCheckout, isCloseIdle, isSessionEnd, SessionPool.Phase.isTimer]

/-- So is what the pool computes. -/
theorem advancePool_steps {op : Op} {b : Bool} (ht : t.Wf) (hop : t.activity = .pool op)
    (h : advancePool w t op (if b then .ok else .err) = some (w', new)) :
    Steps hash w t (.outcome b) w' new := by
  have hawaits := ht.awaits
  rw [hop] at hawaits
  unfold advancePool Task.resume at h
  cases hadv : SessionPool.advance w.pool op (if b then .ok else .err) with
  | none => simp [hadv] at h
  | some next =>
    obtain ⟨pool, ops⟩ := next
    -- a call to the pool ends here, or it goes on as another one
    rcases pool_length hadv with rfl | ⟨op', rfl⟩
    · simp only [hadv, Option.some.injEq, Prod.mk.injEq] at h
      obtain ⟨rfl, rfl⟩ := h
      have hends : PoolEnds t.prog op.switch (t.prog.answer false) := by
        generalize t.prog = p at hawaits
        cases hawaits with
        | checkout config k _ => exact .checkoutFailed config k
        | closeIdle id k _ => exact .closeIdle id k
        | endSession id healthy k _ => exact .discarded id healthy k
        | timer id _ => exact .timer id
      exact .poolEnds hop hends hadv
    · obtain ⟨hcheckout, hrelease⟩ := advance_answer hadv
      simp only [hadv] at h
      -- the next phase tells the answer: a session out, an idle timer, or neither yet
      split_ifs at h with hout hsleeping
      · cases h
        generalize hp : t.prog = p at hawaits
        cases hawaits with
        | checkout config k _ => exact .checkedOut hop hp hadv hout
        | _ => simp_all
      · cases h
        generalize hp : t.prog = p at hawaits
        cases hawaits with
        | endSession id healthy k _ => exact .kept hop hp hadv hsleeping
        | _ => simp_all
      · cases h
        exact .poolGoes hop hadv (by simpa using hout) (by simpa using hsleeping)

/-- What a finished task drops is one of the steps. -/
theorem dropNext_steps (hidle : t.activity = .idle) (hprog : t.prog = .done)
    (h : dropNext w t = some (w', new)) : Steps hash w t .go w' new := by
  unfold dropNext at h
  cases hsession : t.session with
  | some op =>
    simp only [hsession, Option.map_eq_some_iff, Prod.mk.injEq] at h
    obtain ⟨⟨pool, ops⟩, hadv, rfl, rfl⟩ := h
    exact .dropSession hidle hprog hsession hadv
  | none =>
    cases hown : t.own with
    | some id =>
      simp only [hsession, hown, Option.some.injEq, Prod.mk.injEq] at h
      obtain ⟨rfl, rfl⟩ := h
      have hstep : Steps hash w t .go w [{ t with own := none }] :=
        .dropOwn hidle hprog hsession hown
      rwa [hsession] at hstep
    | none =>
      cases hguards : t.guards with
      | nil =>
        simp only [hsession, hown, hguards, Option.some.injEq, Prod.mk.injEq] at h
        obtain ⟨rfl, rfl⟩ := h
        exact .exit hidle hprog hsession hown hguards
      | cons id guards =>
        simp only [hsession, hown, hguards, StatusTracker.advance, Option.map_some,
          List.map_cons, List.map_nil, Option.some.injEq, Prod.mk.injEq] at h
        obtain ⟨rfl, rfl⟩ := h
        have hstep : Steps hash w t .go w [{ t with guards }, Task.cleanup ⟨id, .dropped⟩] :=
          .dropGuard hidle hprog hsession hown hguards
        rwa [hsession, hown] at hstep

/-- So is a cancellation. -/
theorem cancel_steps (hwatcher : t.handler ≠ .watcher) (h : cancel w t = some (w', new)) :
    Steps hash w t .cancel w' new := by
  unfold cancel at h
  cases hactivity : t.activity with
  | idle =>
    simp only [hactivity, Option.some.injEq, Prod.mk.injEq] at h
    obtain ⟨rfl, rfl⟩ := h
    exact .cancelIdle hactivity hwatcher
  | turn c =>
    simp only [hactivity, Option.map_eq_some_iff, Prod.mk.injEq] at h
    obtain ⟨⟨tracker, cs⟩, hadv, rfl, rfl⟩ := h
    exact .cancelTurn hactivity hwatcher hadv
  | pool op =>
    simp only [hactivity, Option.map_eq_some_iff, Prod.mk.injEq] at h
    obtain ⟨⟨pool, ops⟩, hadv, rfl, rfl⟩ := h
    exact .cancelPool hactivity hwatcher hadv

/-- So is a time limit that elapses. -/
theorem elapse_steps {p : Prog} (hdeadline : t.deadline = some p)
    (h : elapse w t p = some (w', new)) : Steps hash w t .elapsed w' new := by
  unfold elapse at h
  cases hactivity : t.activity with
  | turn c => simp [hactivity] at h
  | idle =>
    cases hsession : t.session with
    | none =>
      simp only [hactivity, hsession, Option.some.injEq, Prod.mk.injEq] at h
      obtain ⟨rfl, rfl⟩ := h
      exact .elapseIdle hdeadline hactivity hsession
    | some op =>
      simp only [hactivity, hsession, Option.map_eq_some_iff, Prod.mk.injEq] at h
      obtain ⟨⟨pool, ops⟩, hadv, rfl, rfl⟩ := h
      exact .elapseSession hdeadline hactivity hsession hadv
  | pool op =>
    cases hsession : t.session with
    | some op' => simp [hactivity, hsession] at h
    | none =>
      simp only [hactivity, hsession, Option.map_eq_some_iff, Prod.mk.injEq] at h
      obtain ⟨⟨pool, ops⟩, hadv, rfl, rfl⟩ := h
      exact .elapsePool hdeadline hactivity hsession hadv

/-- So is what the program does next. -/
theorem advanceProg_steps (hidle : t.activity = .idle)
    (h : advanceProg w t hash e = some (w', new)) : Steps hash w t e w' new := by
  have hcontrol {e : Event} {p : Prog} (hc : Control w t.prog e p) :
      Steps hash w t e w [t.goTo p] := .control hidle hc
  have hstarts {a : Activity} (hs : Starts hash t.prog a) : Steps hash w t .go w [t.wait a] :=
    .starts hidle hs
  revert h
  -- one case for each node of the program, in the order of the definition
  fun_cases advanceProg w t hash e
  case case1 hprog => exact dropNext_steps hidle hprog
  all_goals
    intro h
    cases h
  case case2.refl k b hprog => exact hcontrol (hprog ▸ .choose k b)
  case case3.refl k o hprog => exact hcontrol (hprog ▸ .loadFiles k o)
  case case4.refl k hprog => exact hcontrol (hprog ▸ .readConfig k)
  case case5.refl f k hprog => exact .write hidle hprog
  case case6.refl id k hprog => exact hcontrol (hprog ▸ .isSwitchBusy id k)
  case case7.refl id k hprog => exact .queuePending hidle hprog
  case case8.refl id k hprog => exact .takePending hidle hprog
  case case9.refl id a k hprog => exact hstarts (hprog ▸ .tryAcquire id a k)
  case case10.refl id a k hprog => exact hstarts (hprog ▸ .acquireQueued id a k)
  case case11.refl id k hprog hmem => exact .release hidle hprog hmem
  case case13.refl config k hprog => exact hstarts (hprog ▸ .checkout config k)
  case case14.refl id k hprog => exact hstarts (hprog ▸ .closeIdle id k)
  case case15.refl healthy k b hprog op hsession pool op' hadv =>
    exact .endSession hidle hprog hsession hadv
  case case18.refl config k b hprog =>
    cases b with
    | true => exact .connected hidle hprog
    | false => exact hcontrol (hprog ▸ .connectFailed config k)
  case case19.refl k hprog => exact .disconnect hidle hprog
  case case20.refl config k b hprog => exact .apply hidle hprog
  case case21.refl p guard k hprog hguard => exact .spawn hidle hprog hguard
  case case23.refl p k hprog => exact .deadline hidle hprog
  case case24.refl k hprog => exact .inTime hidle hprog

/-- Every step is one of these. -/
theorem advance_steps (ht : t.Wf) (h : advance w t hash e = some (w', new)) :
    Steps hash w t e w' new := by
  revert h
  fun_cases advance w t hash e
  case case1 | case6 | case9 => exact nofun
  case case2 hwatcher => exact cancel_steps hwatcher
  case case3 =>
    intro h
    obtain ⟨p, hdeadline, h⟩ := Option.bind_eq_some_iff.mp h
    exact elapse_steps hdeadline h
  case case4 c hc => exact advanceTurn_steps ht hc
  case case5 c hc hphase => exact timeout_steps hc hphase
  case case7 op b hop => exact advancePool_steps ht hop
  case case8 hidle _ _ => exact advanceProg_steps hidle

/-- A task waits for the turn where its program asks for it. -/
theorem awaits_turnGoes {p : Prog} {s s' : StatusTracker} {c c' : Call} {a : TurnEvent}
    (hp : Awaits p (.turn c)) (h : StatusTracker.advance s c a = some (s', [c']))
    (hne : c'.phase ≠ .holding) (hquit : a = .quit → c'.phase = .leaving) :
    Awaits p (.turn c') := by
  have hphase : c' = ⟨c.switch, c'.phase⟩ ∧ (c.phase ≠ .trying) ∧
      (isQueued c.phase = true → isQueued c'.phase = true) ∧
      (isReleasing c.phase = true → isReleasing c'.phase = true) ∧
      (isCleanup c.phase = true → isCleanup c'.phase = true) := by
    obtain ⟨switch, phase⟩ := c
    cases a <;> cases phase <;> simp only [StatusTracker.advance] at h <;> try split_ifs at h
    all_goals cases h
    all_goals simp_all [isQueued, isReleasing, isCleanup]
  obtain ⟨hc', htrying, hqueued, hreleasing, hcleanup⟩ := hphase
  rw [hc']
  cases hp with
  | asks hasks =>
    cases hasks with
    | tries => exact absurd rfl htrying
    | queues _ _ _ hphase => exact .asks (.queues _ _ _ (hqueued hphase))
  | releases id k hphase => exact .releases id k (hreleasing hphase)
  | cleansUp id hphase => exact .cleansUp id (hcleanup hphase)

/-- So for the pool. -/
theorem awaits_poolGoes {p : Prog} {s s' : SessionPool} {op op' : Op} {a : PoolEvent}
    (hp : Awaits p (.pool op)) (h : SessionPool.advance s op a = some (s', [op']))
    (hout : isOut op'.phase = false) (hsleeping : isSleeping op'.phase = false) :
    Awaits p (.pool op') := by
  have hphase : op' = ⟨op.switch, op'.phase⟩ ∧
      (isCheckout op.phase = true → isCheckout op'.phase = true) ∧
      (isCloseIdle op.phase = true → isCloseIdle op'.phase = true) ∧
      (isSessionEnd op.phase = true → isSessionEnd op'.phase = true) ∧
      (op.phase.isTimer = true → op'.phase.isTimer = true) := by
    obtain ⟨switch, phase⟩ := op
    cases a <;> cases phase <;> simp only [SessionPool.advance] at h <;> try split at h
    all_goals try split_ifs at h
    all_goals cases h
    all_goals simp_all [isOut, isSleeping, isCheckout, isCloseIdle, isSessionEnd,
      SessionPool.Phase.isTimer]
  obtain ⟨hop', hcheckout, hcloseIdle, hend, htimer⟩ := hphase
  rw [hop']
  cases hp with
  | checkout config k hphase => exact .checkout config k (hcheckout hphase)
  | closeIdle id k hphase => exact .closeIdle id k (hcloseIdle hphase)
  | endSession id healthy k hphase => exact .endSession id healthy k (hend hphase)
  | timer id hphase => exact .timer id (htimer hphase)

theorem awaits_of_starts {p : Prog} {a : Activity} (h : Starts hash p a) : Awaits p a := by
  cases h with
  | tryAcquire id a k => exact .asks (.tries id a k)
  | acquireQueued id a k => exact .asks (.queues id a k rfl)
  | checkout config k => exact .checkout config k rfl
  | closeIdle id k => exact .closeIdle id k rfl

/-- Cleanups wait for the turn that they give back. -/
theorem cleanup_wf {s s' : StatusTracker} {c : Call} {cs : List Call}
    (h : StatusTracker.advance s c .quit = some (s', cs)) :
    ∀ t ∈ cs.map Task.cleanup, t.Wf := by
  intro t ht
  obtain ⟨c', hc', rfl⟩ := List.mem_map.mp ht
  have hphase : isCleanup c'.phase = true := by
    obtain ⟨switch, phase⟩ := c
    cases phase <;> simp only [StatusTracker.advance] at h <;> cases h
    all_goals simp only [List.mem_singleton, List.not_mem_nil] at hc'
    all_goals
      subst hc'
      rfl
  exact ⟨.cleansUp c'.switch hphase, fun _ hsession => by cases hsession⟩

/-- A step leaves tasks that wait where their programs do. -/
theorem Steps.wf (ht : t.Wf) (h : Steps hash w t e w' new) : ∀ t' ∈ new, t'.Wf := by
  have hidle (t' : Task) (hactivity : t'.activity = .idle) (hsession : t'.session = t.session) :
      t'.Wf := ⟨hactivity ▸ .idle _, hsession ▸ ht.session⟩
  have hdone (t' : Task) (hactivity : t'.activity = .idle) (hsession : t'.session = none) :
      t'.Wf := ⟨hactivity ▸ .idle _, by simp [hsession]⟩
  have hone {t' : Task} (h : t'.Wf) : ∀ x ∈ [t'], x.Wf := List.forall_mem_singleton.mpr h
  have hcons {t' : Task} {rest : List Task} (h : t'.Wf) (hrest : ∀ x ∈ rest, x.Wf) :
      ∀ x ∈ t' :: rest, x.Wf := List.forall_mem_cons.mpr ⟨h, hrest⟩
  cases h with
  | starts _ hs => exact hone ⟨awaits_of_starts hs, ht.session⟩
  | turnGoes hc hadv hne hquit =>
    exact hone ⟨awaits_turnGoes (hc ▸ ht.awaits) hadv hne hquit, ht.session⟩
  | poolGoes hop hadv hout hsleeping =>
    exact hone ⟨awaits_poolGoes (hop ▸ ht.awaits) hadv hout hsleeping, ht.session⟩
  | checkedOut _ _ _ hout => exact hone ⟨.idle _, by simpa using hout⟩
  | @kept b healthy op op' pool k _ _ _ hsleeping =>
    -- what a kept session leaves running is its idle timer
    have htimer : op'.phase.isTimer = true := by
      cases hphase : op'.phase <;> simp_all [isSleeping, SessionPool.Phase.isTimer]
    exact hcons (hidle _ rfl rfl) (hone ⟨.timer op'.switch htimer, nofun⟩)
  | release _ hprog _ =>
    refine hone ⟨?_, ht.session⟩
    rw [hprog]
    exact .releases _ _ rfl
  | @endSession b healthy k op op' pool _ hprog hsession hadv =>
    -- a session ends by being kept or by being closed
    have hend : isSessionEnd op'.phase = true := by
      have hout := ht.session op hsession
      obtain ⟨switch, phase⟩ := op
      cases phase <;> cases hout
      split_ifs at hadv <;> cases hadv <;> rfl
    refine hone ⟨?_, nofun⟩
    rw [hprog]
    exact .endSession op'.switch healthy k hend
  | spawn hi _ _ => exact hcons (hidle _ hi rfl) (hone (hdone _ rfl rfl))
  | dropGuard hi _ _ _ _ =>
    exact hcons (hidle _ hi rfl) (hone ⟨.cleansUp _ rfl, nofun⟩)
  | exit => exact List.forall_mem_nil _
  | cancelTurn _ _ hadv => exact hcons (hidle _ rfl rfl) (cleanup_wf hadv)
  | control hi _ | write hi _ | queuePending hi _ | takePending hi _ | connected hi _
  | disconnect hi _ | apply hi _ | deadline hi _ | inTime hi _ | dropOwn hi _ _ _ =>
    exact hone (hidle _ hi rfl)
  | dropSession hi _ _ _ => exact hone (hdone _ hi rfl)
  | elapseIdle | elapseSession | elapsePool =>
    exact hone (hdone _ rfl rfl)
  | turnGot | turnLost | released | cleanedUp | poolEnds | cancelIdle | cancelPool =>
    exact hone (hidle _ rfl rfl)

end SwitchConfigurator.Service
