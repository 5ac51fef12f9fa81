import SwitchConfigurator.Deploy.Discipline
import SwitchConfigurator.Operations.Tasks

/-!
# What a task holds

A switch has one console. A task may use it in its turn only, over a session that it was lent or
over a connection of its own; before it opens one, it closes the session that was kept open. Each
gives back what it took.
-/

namespace SwitchConfigurator.Operations

open Dialogue Deploy

/-! ## The protocol -/

/-- What a task holds of its switch. -/
inductive Holding where
  | nothing
  /-- In its turn a task may have made sure that no session is kept open. -/
  | turn (freed : Bool)
  | session
  | connection
  deriving DecidableEq, Repr

/-- The protocol stops at what a task may not do. -/
def follow : Holding → Exchange → Option Holding
  | .nothing, ⟨.takeTurn, granted⟩ => some (if granted then .turn false else .nothing)
  | .turn _, ⟨.releaseTurn, _⟩ => some .nothing
  | .turn freed, ⟨.takePendingReload, _⟩ => some (.turn freed)
  | .turn _, ⟨.closeIdle, _⟩ => some (.turn true)
  | .turn freed, ⟨.checkout, lent⟩ => some (if lent.isOk then .session else .turn freed)
  | .session, ⟨.endSession _, _⟩ => some (.turn false)
  | .turn true, ⟨.switch .connect, connected⟩ =>
    some (if connected.isOk then .connection else .turn true)
  | .connection, ⟨.switch .disconnect, _⟩ => some (.turn true)
  | .session, ⟨.switch (.execute _ _), _⟩ => some .session
  | .connection, ⟨.switch (.execute _ _), _⟩ => some .connection
  | holding, ⟨.emit _ _, _⟩ => some holding
  | holding, ⟨.sleep, _⟩ => some holding
  | holding, ⟨.record _, _⟩ => some holding
  | _, _ => none

/-! ## The tasks -/

/-- What is done to the power of a port. -/
inductive PowerChange where
  | set (turnOn : Bool)
  | reset
  deriving DecidableEq, Repr

namespace PowerChange

def kind : PowerChange → String
  | set _ => "PoeSet"
  | reset => "PoeReset"

def operation : PowerChange → String
  | set turnOn => "poe_" ++ actionName turnOn
  | reset => "poe_reset"

def impl (config : SwitchConfig) (portId : String) : PowerChange → Task Unit
  | set turnOn => poeSetImpl config portId turnOn
  | reset => poeResetImpl config portId

end PowerChange

inductive Job where
  | power (change : PowerChange) (config : SwitchConfig) (portId : String)
  | apply (switch : VendorSwitch)
  /-- The watcher has the turn when it comes to a switch. -/
  | reload (switch : VendorSwitch)

namespace Job

def task (hardwareWarnings : List Char → List String) : Job → Task Unit
  | power (.set turnOn) config portId => poeSet config portId turnOn
  | power .reset config portId => poeReset config portId
  | apply switch => applyConfig hardwareWarnings switch
  | reload switch => applySwitchWithPending hardwareWarnings switch

def start : Job → Holding
  | reload _ => .turn false
  | _ => .nothing

end Job

/-! ## Parts that only talk to the switch -/

section Sessions

variable {α : Type} {purpose : Purpose} {commands : List String}
variable {hardwareWarnings : List Char → List String} {switch : VendorSwitch}

/-- Only commands are given to the client. -/
def Executes (p : Session α) : Prop :=
  ∀ tr r, Run p tr r → ∀ call ∈ calls tr, ∃ purpose command, call = .execute purpose command

/-- What gives commands executes them. -/
theorem executes_of_gives {p : Session α} (h : Gives purpose commands p) : Executes p := by
  intro tr r hrun call hcall
  obtain ⟨command, -, hcall⟩ := calls_of_gives h hrun call hcall
  exact ⟨purpose, command, hcall⟩

theorem executes_applyConfiguration : Executes (applyConfiguration hardwareWarnings switch) := by
  intro tr r hrun call hcall
  cases appliedRun_of_run hrun with
  | unread hread => exact executes_of_gives gives_stateToChange _ _ hread call hcall
  | unchanged hread => exact executes_of_gives gives_stateToChange _ _ hread call hcall
  | broken hread happly =>
    rw [calls_append] at hcall
    rcases List.mem_append.mp hcall with hcall | hcall
    · exact executes_of_gives gives_stateToChange _ _ hread call hcall
    · exact executes_of_gives (gives_applySteps _) _ _ happly call hcall
  | whole hread hdiff happly hreread =>
    rw [calls_append, calls_append] at hcall
    rcases List.mem_append.mp hcall with hcall | hcall
    · rcases List.mem_append.mp hcall with hcall | hcall
      · exact executes_of_gives gives_stateToChange _ _ hread call hcall
      · exact executes_of_gives (gives_applySteps _) _ _ happly call hcall
    · exact executes_of_gives gives_parseCurrentState _ _ hreread call hcall

/-- Whoever holds a way to the switch may give it commands. -/
theorem follows_onSwitch {p : Session α} (h : Executes p) {holding : Holding}
    (hholding : holding = .session ∨ holding = .connection) :
    Follows follow (fun holding' _ => holding' = holding) holding (onSwitch p) := by
  refine follows_of_steady (fun tr r hrun e he => ?_) fun _ => rfl
  obtain ⟨tr', hrun', rfl⟩ := run_embed_iff.mp hrun
  obtain ⟨e', he', rfl⟩ := List.mem_map.mp he
  obtain ⟨purpose, command, hcall⟩ := h tr' r hrun' e'.1 (List.mem_map_of_mem he')
  obtain ⟨call, answer⟩ := e'
  dsimp only at hcall
  subst hcall
  rcases hholding with rfl | rfl <;> rfl

theorem follows_executeRawCommands {commands : List String} :
    Follows follow (fun holding _ => holding = .session) .session (executeRawCommands commands) :=
  follows_onSwitch (executes_of_gives (gives_executeCommands commands)) (.inl rfl)

end Sessions

/-! ## Every task keeps to it -/

section Tasks

variable {config : SwitchConfig} {portId : String} {turnOn : Bool} {change : PowerChange}
variable {hardwareWarnings : List Char → List String} {switch : VendorSwitch}

/-- Nothing is held but the turn. -/
def InTurn {α : Type} (holding : Holding) (_ : Except String α) : Prop :=
  ∃ freed, holding = .turn freed

/-- A checkout ends with a session, or as before. -/
theorem follows_checkout {freed : Bool} : Follows follow
    (fun holding r => if r.isOk then holding = .session else holding = .turn freed)
    (.turn freed) checkout := by
  refine follows_call_bind fun lent => ?_
  cases lent with
  | ok _ => exact ⟨.session, rfl, follows_ofExcept rfl⟩
  | error e => exact ⟨.turn freed, rfl, follows_ofExcept rfl⟩

/-- The end of a session that was lent. -/
theorem follows_endSession {healthy : Bool} :
    Follows follow InTurn .session (endSession healthy) :=
  follows_call (c := Call.endSession healthy) fun _ => ⟨.turn false, rfl, false, rfl⟩

theorem follows_endSession_fail {healthy : Bool} {e : String} :
    Follows follow InTurn .session (do endSession healthy; (.fail e : Task Unit)) :=
  follows_call_bind fun _ => ⟨.turn false, rfl, follows_fail ⟨false, rfl⟩⟩

/-- A change of power keeps to the protocol. -/
theorem follows_poeSetImpl {freed : Bool} :
    Follows follow InTurn (.turn freed) (poeSetImpl config portId turnOn) := by
  refine follows_call_bind fun _ => ⟨_, rfl, ?_⟩
  refine follows_checkout.bind (fun holding _ hlent => ?_) fun holding _ hlent => ⟨freed, hlent⟩
  obtain rfl : holding = .session := hlent
  refine follows_call_bind fun _ => ⟨_, rfl, ?_⟩
  refine follows_executeRawCommands.attempt_bind fun holding r hheld => ?_
  subst hheld
  cases r with
  | ok _ => exact follows_endSession
  | error e => exact follows_endSession_fail

theorem follows_countdown {holding : Holding} (seconds : List ℕ) :
    Follows follow (fun holding' r => holding' = holding ∧ r = .ok ()) holding
      (countdown seconds) := by
  induction seconds with
  | nil => exact follows_pure ⟨rfl, rfl⟩
  | cons n seconds ih =>
    refine follows_call_bind fun _ => ⟨holding, by cases holding <;> rfl, ?_⟩
    exact follows_call_bind fun _ => ⟨holding, by cases holding <;> rfl, ih⟩

/-- So does putting the power back on, with its retry. -/
theorem follows_reenable {commands : List String} :
    Follows follow InTurn .session (reenable portId commands) := by
  refine follows_call_bind fun _ => ⟨_, rfl, ?_⟩
  refine follows_executeRawCommands.attempt_bind fun holding r hheld => ?_
  subst hheld
  cases r with
  | ok _ => exact follows_endSession
  | error e =>
    refine follows_call_bind fun _ => ⟨_, rfl, ?_⟩
    refine follows_executeRawCommands.attempt_bind fun holding r hheld => ?_
    subst hheld
    cases r with
    | ok _ => exact follows_endSession
    | error e => exact follows_endSession_fail

/-- So does a reset. -/
theorem follows_poeResetImpl {freed : Bool} :
    Follows follow InTurn (.turn freed) (poeResetImpl config portId) := by
  refine follows_call_bind fun _ => ⟨_, rfl, ?_⟩
  refine follows_checkout.bind (fun holding _ hlent => ?_) fun holding _ hlent => ⟨freed, hlent⟩
  obtain rfl : holding = .session := hlent
  refine follows_call_bind fun _ => ⟨_, rfl, ?_⟩
  refine follows_executeRawCommands.attempt_bind fun holding r hheld => ?_
  subst hheld
  cases r with
  | error e => exact follows_endSession_fail
  | ok _ =>
    refine (follows_countdown [3, 2, 1]).bind (fun holding _ hheld => ?_) fun holding e hheld => ?_
    · obtain rfl := hheld.1
      exact follows_reenable
    · cases hheld.2

/-- The turn is given back at the end of an operation that has it, whatever the outcome. -/
theorem follows_poeTask {kind operation : String} {impl : Task Unit}
    (h : Follows follow InTurn (.turn false) impl) :
    Follows follow (fun holding _ => holding = .nothing) .nothing
      (poeTask kind operation impl) := by
  refine follows_call_bind fun granted => ⟨_, rfl, ?_⟩
  cases granted with
  | true =>
    refine h.attempt_bind fun holding r hturn => ?_
    obtain ⟨freed, rfl⟩ := hturn
    cases r with
    | ok _ =>
      refine follows_call_bind fun _ => ⟨_, rfl, ?_⟩
      exact follows_call (c := Call.releaseTurn) fun _ => ⟨.nothing, rfl, rfl⟩
    | error e =>
      refine follows_call_bind fun _ => ⟨_, rfl, ?_⟩
      refine follows_call_bind fun _ => ⟨_, rfl, ?_⟩
      exact follows_call (c := Call.releaseTurn) fun _ => ⟨.nothing, rfl, rfl⟩
  | false =>
    refine follows_call_bind fun _ => ⟨_, rfl, ?_⟩
    exact follows_call (c := Call.record _) fun _ => ⟨.nothing, rfl, rfl⟩

/-- A connection of one's own is closed behind an apply, and the turn is kept. -/
theorem follows_applySingleSwitch : Follows follow (fun holding _ => holding = .turn true)
    (.turn true) (applySingleSwitch hardwareWarnings switch) := by
  refine follows_call_bind fun connected => ⟨_, rfl, ?_⟩
  cases connected with
  | error e => exact follows_fail rfl
  | ok _ =>
    refine (follows_onSwitch executes_applyConfiguration (.inr rfl)).attempt_bind
      fun holding r hheld => ?_
    subst hheld
    cases r with
    | error e => exact follows_call_bind fun _ => ⟨_, rfl, follows_fail rfl⟩
    | ok applied =>
      refine (follows_onSwitch (executes_of_gives (gives_executeCommands _))
        (.inr rfl)).attempt_bind fun holding r hheld => ?_
      subst hheld
      exact follows_call_bind fun _ => ⟨_, rfl, follows_pure rfl⟩

/-- A failure gives the turn back. -/
theorem follows_failApply {kind message reason e : String} {freed : Bool} :
    Follows follow (fun holding _ => holding = .nothing) (.turn freed)
      (failApply kind message reason e) := by
  refine follows_call_bind fun _ => ⟨_, rfl, ?_⟩
  refine follows_call_bind fun _ => ⟨_, rfl, ?_⟩
  exact follows_call_bind fun _ => ⟨_, rfl, follows_fail rfl⟩

/-- An apply keeps to the protocol. -/
theorem follows_applyConfigImpl {freed : Bool} :
    Follows follow (fun holding _ => holding = .nothing) (.turn freed)
      (applyConfigImpl hardwareWarnings switch) := by
  refine follows_call_bind fun _ => ⟨_, rfl, ?_⟩
  refine follows_call_bind fun connected => ⟨_, rfl, ?_⟩
  cases connected with
  | error e => exact follows_failApply
  | ok _ =>
    refine (follows_onSwitch executes_applyConfiguration (.inr rfl)).attempt_bind
      fun holding r hheld => ?_
    subst hheld
    cases r with
    | error e => exact follows_call_bind fun _ => ⟨_, rfl, follows_failApply⟩
    | ok applied =>
      refine (follows_onSwitch (executes_of_gives (gives_executeCommands _))
        (.inr rfl)).attempt_bind fun holding r hheld => ?_
      subst hheld
      -- a failure to save is only recorded
      have hend : Follows follow (fun holding _ => holding = .nothing) .connection (do
          disconnect
          record (.warnings applied.warnings)
          record .applySuccess
          releaseTurn
          return applied.results) := by
        refine follows_call_bind fun _ => ⟨_, rfl, ?_⟩
        refine follows_call_bind fun _ => ⟨_, rfl, ?_⟩
        refine follows_call_bind fun _ => ⟨_, rfl, ?_⟩
        exact follows_call_bind fun _ => ⟨_, rfl, follows_pure rfl⟩
      cases r with
      | ok _ => exact hend
      | error e => exact follows_call_bind fun _ => ⟨_, rfl, hend⟩

/-- Recording takes nothing and gives nothing back. -/
theorem follows_recordApply (result : Except String (List String)) :
    Follows follow (fun holding r => holding = .turn true ∧ r = .ok ()) (.turn true)
      (recordApply result) := by
  cases result with
  | ok warnings =>
    refine follows_call_bind fun _ => ⟨_, rfl, ?_⟩
    exact follows_call (c := Call.record _) fun _ => ⟨_, rfl, rfl, rfl⟩
  | error e => exact follows_call (c := Call.record _) fun _ => ⟨_, rfl, rfl, rfl⟩

/-- So does a reload, with the one that was queued. -/
theorem follows_applySwitchWithPending {freed : Bool} :
    Follows follow (fun holding _ => holding = .nothing) (.turn freed)
      (applySwitchWithPending hardwareWarnings switch) := by
  refine follows_call_bind fun _ => ⟨_, rfl, ?_⟩
  refine follows_applySingleSwitch.attempt_bind fun holding result hturn => ?_
  subst hturn
  have hend : Follows follow (fun holding _ => holding = .nothing) (.turn true) (do
      releaseTurn
      (.ofExcept (result.map fun _ => ()) : Task Unit)) :=
    follows_call_bind fun _ => ⟨_, rfl, follows_ofExcept rfl⟩
  refine (follows_recordApply result).bind (fun holding _ hturn => ?_) fun holding e hturn => ?_
  · obtain rfl := hturn.1
    refine follows_call_bind fun pending => ⟨_, rfl, ?_⟩
    cases pending with
    | false => exact hend
    | true =>
      refine follows_applySingleSwitch.attempt_bind fun holding later hturn => ?_
      subst hturn
      refine (follows_recordApply later).bind (fun holding _ hturn => ?_) fun holding e hturn => ?_
      · obtain rfl := hturn.1
        exact hend
      · cases hturn.2
  · cases hturn.2

end Tasks

/-- Whatever fails in the course of a task: it works on its switch in its turn only, over a session
that it was lent, or over a connection that it opened when no session was kept open; and in the end
it holds nothing any more. -/
theorem job_follows {hardwareWarnings : List Char → List String} {job : Job} {tr : List Exchange}
    {r : Except String Unit} (h : Run (job.task hardwareWarnings) tr r) :
    tr.foldlM follow job.start = some .nothing := by
  have hfollows : Follows follow (fun holding _ => holding = .nothing) job.start
      (job.task hardwareWarnings) := by
    cases job with
    | power change config portId =>
      cases change with
      | set turnOn => exact follows_poeTask follows_poeSetImpl
      | reset => exact follows_poeTask follows_poeResetImpl
    | apply switch =>
      refine follows_call_bind fun granted => ⟨_, rfl, ?_⟩
      cases granted with
      | true =>
        exact follows_applyConfigImpl.attempt_bind fun holding _ hheld => follows_pure hheld
      | false => exact follows_call (c := Call.record _) fun _ => ⟨.nothing, rfl, rfl⟩
    | reload switch => exact follows_applySwitchWithPending
  obtain ⟨holding, hfold, rfl⟩ := hfollows tr r h
  exact hfold

/-- A switch that is free and that can be reached, with the lines that it fails on. -/
def reachable (fails : List Exchange → String → Bool) :
    List Exchange → (call : Call) → Answer call
  | _, .takeTurn => true
  | _, .releaseTurn => ()
  | _, .takePendingReload => true
  | _, .closeIdle => ()
  | _, .checkout => .ok ()
  | _, .endSession _ => ()
  | before, .switch call =>
    match call with
    | .connect => .ok ()
    | .execute _ line => if fails before line then .error "timeout" else .ok ""
    | .ping _ _ => .error "unreachable"
    | .resolve _ => .ok none
    | .tcpConnect _ => .error "refused"
    | .overtime _ => false
    | .disconnect => .ok ()
  | _, .emit _ _ => ()
  | _, .sleep => ()
  | _, .record _ => ()

/-- The port of the camera, on a switch that does not answer the first time that the power is to
come back. -/
def camera : SwitchConfig := { id := "edge1", model := some .aruba2930F }

def cameraReset : List Exchange × Except String Unit :=
  exec (reachable fun before line => line = "power-over-ethernet" ∧
    !before.any fun e => e.1 = .switch (.execute .apply line)) []
    ((Job.power .reset camera "7").task fun _ => [])

theorem job_follows_reset : cameraReset.1.foldlM follow .nothing = some .nothing := by
  have hrun : Run ((Job.power .reset camera "7").task fun _ => []) cameraReset.1 cameraReset.2 :=
    run_exec _ [] _
  exact job_follows hrun

end SwitchConfigurator.Operations
