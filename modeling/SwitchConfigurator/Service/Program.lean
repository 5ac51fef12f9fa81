import SwitchConfigurator.SessionPool
import SwitchConfigurator.TurnGuard

/-!
# The service

Request handlers, the file watcher, the background refresher and the idle timers run side by
side. They share the status tracker, the session pool and the configuration store. An async
function is a tree of its accesses to these and of its awaits; each goes on from the answer
it gets.
-/

namespace SwitchConfigurator.Service

/-- An async function of the service. -/
inductive Prog where
  | done
  /-- Something that the state kept here does not decide: a vendor that can be created, a
  command that succeeds, a cache that is still fresh. -/
  | choose (k : Bool → Prog)
  /-- `AppConfig::load` or `load_multi`. -/
  | loadFiles (k : Option (List SwitchConfig) → Prog)
  | readConfig (k : List SwitchConfig → Prog)
  /-- Replace the configuration in the store, under its write lock. -/
  | writeConfig (f : List SwitchConfig → List SwitchConfig) (k : Prog)
  | isSwitchBusy (id : String) (k : Bool → Prog)
  | queuePendingReload (id : String) (k : Prog)
  | takePendingReload (id : String) (k : Bool → Prog)
  /-- `toApply` is the configuration that the caller has read and will apply in this turn. -/
  | tryAcquire (id : String) (toApply : Option SwitchConfig) (k : Bool → Prog)
  | acquireQueued (id : String) (toApply : Option SwitchConfig) (k : Bool → Prog)
  | releaseGuard (id : String) (k : Prog)
  | checkout (config : SwitchConfig) (k : Bool → Prog)
  | closeIdle (id : String) (k : Prog)
  /-- `Session::release` of a healthy session, `Session::discard` of another. -/
  | endSession (healthy : Bool) (k : Prog)
  /-- `connect` on a vendor that is not the pool's. -/
  | connect (config : SwitchConfig) (k : Bool → Prog)
  | disconnect (k : Prog)
  /-- `apply_configuration` on that vendor. -/
  | apply (config : SwitchConfig) (k : Bool → Prog)
  /-- `tokio::spawn` of a task, into which a guard may move. -/
  | spawn (p : Prog) (guard : Option String) (k : Prog)
  /-- `tokio::time::timeout` around what follows, up to `inTime`. -/
  | deadline (onElapsed : Prog) (k : Prog)
  | inTime (k : Prog)

/-- A call that the function waits for has ended with `answer`. -/
def Prog.answer : Prog → Bool → Prog
  | .tryAcquire _ _ k, b | .acquireQueued _ _ k, b | .checkout _ k, b => k b
  | .releaseGuard _ k, _ | .closeIdle _ k, _ | .endSession _ k, _ => k
  | p, _ => p

inductive Handler where
  | applyConfig
  | reloadConfig
  | reloadSwitchConfig
  | watcher
  | refresher
  | poe
  | lookup
  | getConfig
  | previewDiff
  | updateConfig
  | idleTimer
  | cleanup
  deriving DecidableEq, Repr

/-- The call that a task waits for. -/
inductive Activity where
  | idle
  | turn (c : StatusTracker.Call)
  | pool (op : SessionPool.Op)
  deriving DecidableEq

/-- A task, with the guards and the sessions it owns. `requested` is the version of the
store when its request arrived; the code has no such number. -/
structure Task where
  handler : Handler
  prog : Prog
  activity : Activity := .idle
  guards : List String := []
  session : Option SessionPool.Op := none
  own : Option String := none
  deadline : Option Prog := none
  requested : ℕ := 0

/-- One use of `apply_configuration`: what was sent, and the versions of the store when the
apply was requested, when the switch's turn had last been obtained, and when it was sent. -/
structure Sent where
  config : SwitchConfig
  requested : ℕ
  turn : ℕ
  sentAt : ℕ

/-- What the tasks share. The store's values are numbered: it has the value `history version`
now. `turnAt` and `sent` are a record of what happened, newest first. -/
structure World where
  tracker : StatusTracker := {}
  pool : SessionPool := {}
  history : ℕ → List SwitchConfig := fun _ => []
  version : ℕ := 0
  turnAt : String → ℕ := fun _ => 0
  sent : List Sent := []

namespace World

/-- The configuration in the store. -/
def config (w : World) : List SwitchConfig := w.history w.version

def write (w : World) (switches : List SwitchConfig) : World :=
  { w with
    history := Function.update w.history (w.version + 1) switches
    version := w.version + 1 }

/-- The turn of the switch has been obtained. -/
def gotTurn (w : World) (tracker : StatusTracker) (id : String) : World :=
  { w with tracker, turnAt := Function.update w.turnAt id w.version }

def send (w : World) (config : SwitchConfig) (requested : ℕ) : World :=
  { w with sent := ⟨config, requested, w.turnAt config.id, w.version⟩ :: w.sent }

end World

inductive Event where
  | go
  | outcome (b : Bool)
  | loaded (switches : Option (List SwitchConfig))
  /-- The wait for a turn has lasted too long. -/
  | timeout
  /-- The deadline of a `tokio::time::timeout` has passed. -/
  | elapsed
  /-- The task goes away: the client of a request has disconnected, or the task panicked. -/
  | cancel

namespace Task

variable (t : Task)

def goTo (p : Prog) : Task := { t with prog := p }

def wait (activity : Activity) : Task := { t with activity }

/-- The call has ended. -/
def resume (b : Bool) : Task := { t with activity := .idle, prog := t.prog.answer b }

/-- All that is left is to drop what the task owns. -/
def ended : Task := { t with activity := .idle, prog := .done, deadline := none }

/-- The timed part was given up: its session, if any, is dropped. -/
def timedOut (p : Prog) : Task :=
  { t with activity := .idle, prog := p, session := none, deadline := none }

/-- What is left of a guard or of a waiter after its drop, as a task of its own. -/
def cleanup (c : StatusTracker.Call) : Task :=
  { handler := .cleanup, prog := .done, activity := .turn c }

def idleTimer (op : SessionPool.Op) : Task :=
  { handler := .idleTimer, prog := .done, activity := .pool op }

end Task

def isSleeping : SessionPool.Phase → Bool
  | .sleeping _ _ => true
  | _ => false

def isOut : SessionPool.Phase → Bool
  | .out _ _ => true
  | _ => false

section

variable (w : World) (t : Task)

/-- A step of a call on the tracker. -/
def advanceTurn (c : StatusTracker.Call) (e : StatusTracker.TurnEvent) :
    Option (World × List Task) :=
  match StatusTracker.advance w.tracker c e with
  | some (tracker, [c']) =>
    if c'.phase = .holding then
      some (w.gotTurn tracker c.switch,
        [{ t.resume true with guards := c.switch :: t.guards }])
    else some ({ w with tracker }, [t.wait (.turn c')])
  | some (tracker, _) => some ({ w with tracker }, [t.resume false])
  | none => none

/-- A step of an operation on the pool. -/
def advancePool (op : SessionPool.Op) (e : SessionPool.PoolEvent) :
    Option (World × List Task) :=
  match SessionPool.advance w.pool op e with
  | some (pool, [op']) =>
    if isOut op'.phase then
      some ({ w with pool }, [{ t.resume true with session := some op' }])
    else if isSleeping op'.phase then
      some ({ w with pool }, [t.resume true, Task.idleTimer op'])
    else some ({ w with pool }, [t.wait (.pool op')])
  | some (pool, _) => some ({ w with pool }, [t.resume false])
  | none => none

/-- At its end a task drops its session first and its guards last. -/
def dropNext : Option (World × List Task) :=
  match t.session, t.own, t.guards with
  | some op, _, _ =>
    (SessionPool.advance w.pool op .drop).map fun r =>
      ({ w with pool := r.1 }, [{ t with session := none }])
  | none, some _, _ => some (w, [{ t with own := none }])
  | none, none, id :: guards =>
    (StatusTracker.advance w.tracker ⟨id, .holding⟩ .quit).map fun r =>
      ({ w with tracker := r.1 }, { t with guards } :: r.2.map Task.cleanup)
  | none, none, [] => some (w, [])

def cancel : Option (World × List Task) :=
  match t.activity with
  | .idle => some (w, [t.ended])
  | .turn c =>
    (StatusTracker.advance w.tracker c .quit).map fun r =>
      ({ w with tracker := r.1 }, t.ended :: r.2.map Task.cleanup)
  | .pool op =>
    (SessionPool.advance w.pool op .drop).map fun r => ({ w with pool := r.1 }, [t.ended])

def elapse (p : Prog) : Option (World × List Task) :=
  match t.activity, t.session with
  | .idle, none => some (w, [t.timedOut p])
  | .idle, some op | .pool op, none =>
    (SessionPool.advance w.pool op .drop).map fun r => ({ w with pool := r.1 }, [t.timedOut p])
  | _, _ => none

/-- A step of the function itself. -/
def advanceProg (hash : ConnectionKey → UInt64) (e : Event) : Option (World × List Task) :=
  match t.prog, e with
  | .done, .go => dropNext w t
  | .choose k, .outcome b => some (w, [t.goTo (k b)])
  | .loadFiles k, .loaded switches => some (w, [t.goTo (k switches)])
  | .readConfig k, .go => some (w, [t.goTo (k w.config)])
  | .writeConfig f k, .go => some (w.write (f w.config), [t.goTo k])
  | .isSwitchBusy id k, .go => some (w, [t.goTo (k (w.tracker.isSwitchBusy id))])
  | .queuePendingReload id k, .go =>
    some ({ w with tracker := w.tracker.queuePendingReload id }, [t.goTo k])
  | .takePendingReload id k, .go =>
    some ({ w with tracker := w.tracker.takePendingReload id },
      [t.goTo (k (id ∈ w.tracker.pendingConfigReload))])
  | .tryAcquire id _ _, .go => some (w, [t.wait (.turn ⟨id, .trying⟩)])
  | .acquireQueued id _ _, .go => some (w, [t.wait (.turn ⟨id, .queueing⟩)])
  | .releaseGuard id _, .go =>
    if id ∈ t.guards then
      some (w, [{ t with activity := .turn ⟨id, .releasing⟩, guards := t.guards.erase id }])
    else none
  | .checkout config _, .go =>
    some (w, [t.wait (.pool ⟨config.id, .requested (fingerprint hash config)⟩)])
  | .closeIdle id _, .go => some (w, [t.wait (.pool ⟨id, .idleRequested⟩)])
  | .endSession healthy _, .outcome reuse =>
    match t.session with
    | some op =>
      match SessionPool.advance w.pool op (if healthy && reuse then .ok else .err) with
      | some (pool, [op']) =>
        some ({ w with pool }, [{ t with activity := .pool op', session := none }])
      | _ => none
    | none => none
  | .connect config k, .outcome b =>
    some (w, [{ t with prog := k b, own := if b then some config.id else t.own }])
  | .disconnect k, .go => some (w, [{ t with prog := k, own := none }])
  | .apply config k, .outcome b => some (w.send config t.requested, [t.goTo (k b)])
  | .spawn p guard k, .go =>
    if ∀ id ∈ guard, id ∈ t.guards then
      some (w, [{ t with prog := k, guards := t.guards.diff guard.toList },
        { handler := t.handler, prog := p, guards := guard.toList, requested := t.requested }])
    else none
  | .deadline onElapsed k, .go => some (w, [{ t with prog := k, deadline := some onElapsed }])
  | .inTime k, .go => some (w, [{ t with prog := k, deadline := none }])
  | _, _ => none

/-- One atomic step of a task. The loop of the file watcher is not cancelled. -/
def advance (hash : ConnectionKey → UInt64) (e : Event) : Option (World × List Task) :=
  match t.activity, e with
  | _, .cancel => if t.handler = .watcher then none else cancel w t
  | _, .elapsed => t.deadline.bind (elapse w t)
  | .turn c, .go => advanceTurn w t c .go
  | .turn c, .timeout =>
    if c.phase = .waiting ∨ c.phase = .assigned then advanceTurn w t c .quit else none
  | .pool op, .outcome b => advancePool w t op (if b then .ok else .err)
  | .idle, e => advanceProg w t hash e
  | _, _ => none

end

end SwitchConfigurator.Service
