import SwitchConfigurator.Config.Overlay
import SwitchConfigurator.Deploy.Session

/-!
# Tasks in the background

What a request or a changed file leaves to a task of its own: an apply, or the power of a port. The
task waits for the switch's turn, works on the switch and leaves behind how it went.
-/

namespace SwitchConfigurator.Operations

open Dialogue Deploy

/-! ## Calls -/

/-- What a task leaves in the status tracker. -/
inductive Record where
  | applySuccess
  | applyFailure (reason : String)
  | warnings (warnings : List String)
  | error (kind message operation : String)
  deriving DecidableEq, Repr

inductive Call where
  /-- `acquire_configuring_queued`: did the turn come in time? -/
  | takeTurn
  | releaseTurn
  | takePendingReload
  | closeIdle
  | checkout
  /-- `release` of a healthy session, `discard` of another. -/
  | endSession (healthy : Bool)
  | switch (call : Deploy.Call)
  /-- An event for those who listen. -/
  | emit (stage : String) (detail : Option String)
  | sleep
  | record (record : Record)
  deriving DecidableEq, Repr

abbrev Answer : Call → Type
  | .takeTurn => Bool
  | .releaseTurn => Unit
  | .takePendingReload => Bool
  | .closeIdle => Unit
  | .checkout => Except String Unit
  | .endSession _ => Unit
  | .switch call => Deploy.Answer call
  | .emit _ _ => Unit
  | .sleep => Unit
  | .record _ => Unit

/-- A task; its errors are texts. -/
abbrev Task : Type → Type := Dialogue Answer String

abbrev Exchange : Type := Event Answer

def takeTurn : Task Bool := call Call.takeTurn
def releaseTurn : Task Unit := call Call.releaseTurn
def takePendingReload : Task Bool := call Call.takePendingReload
def closeIdle : Task Unit := call Call.closeIdle
def checkout : Task Unit := do
  .ofExcept (Except.mapError ("Connection failed: " ++ ·) (← call Call.checkout))
def endSession (healthy : Bool) : Task Unit := call (Call.endSession healthy)
def emit (stage : String) (detail : Option String) : Task Unit := call (Call.emit stage detail)
def sleep : Task Unit := call Call.sleep
def record (r : Record) : Task Unit := call (Call.record r)

/-- The part of a task that only talks to the switch. -/
def onSwitch {α : Type} (p : Session α) : Task α := p.embed Call.switch

def connect : Task (Except String Unit) := call (Call.switch .connect)

/-- Nobody looks at how it went. -/
def disconnect : Task Unit := do
  let _ ← call (Call.switch .disconnect)

/-- The text for a turn that did not come within `QUEUE_MAX_WAIT_ASYNC`. -/
def gaveUp : String := "Gave up after waiting 600s for the switch's turn"

/-! ## The power of a port -/

section Poe

/-- The lines that switch the power of a port off, and on. -/
structure PoeCommands where
  disable : List String
  enable : List String
  deriving DecidableEq, Repr

def poeCommandsFor (config : SwitchConfig) (portId : String) : PoeCommands :=
  match config.model.map SwitchModel.vendor with
  | some .fortiswitch =>
    { disable := (Fortiswitch.poeDisableCommands portId).map Cli.Line.text
      enable := (Fortiswitch.poeEnableCommands portId).map Cli.Line.text }
  | _ =>
    { disable := (Aruba.poeDisableCommands portId).map Aruba.Command.text
      enable := (Aruba.poeEnableCommands portId).map Aruba.Command.text }

/-- `execute_raw_commands`, on the session that was checked out. -/
def executeRawCommands (commands : List String) : Task Unit :=
  onSwitch (executeCommands .apply commands)

def actionName (turnOn : Bool) : String := if turnOn then "on" else "off"

def poeSetImpl (config : SwitchConfig) (portId : String) (turnOn : Bool) : Task Unit := do
  emit "connecting" none
  checkout
  let commands := poeCommandsFor config portId
  emit "setting" none
  match ← (executeRawCommands (if turnOn then commands.enable else commands.disable)).attempt
      (E := String) with
  | .error e => do
    endSession false
    .fail s!"Failed to turn PoE {actionName turnOn} on port {portId}: {e}"
  | .ok () => endSession true

/-- The seconds between the two halves of a reset. -/
def countdown : List ℕ → Task Unit
  | [] => pure ()
  | n :: rest => do
    emit "waiting" (some (toString n))
    sleep
    countdown rest

/-- The power is off and could not be switched on again. -/
def leftOff (portId e : String) : String :=
  s!"PoE was DISABLED on port {portId} but re-enable FAILED after retry: {e}. " ++
    "Manual intervention required."

/-- The second half of a reset, with its one retry. -/
def reenable (portId : String) (commands : List String) : Task Unit := do
  emit "enabling" none
  match ← (executeRawCommands commands).attempt (E := String) with
  | .ok () => endSession true
  | .error _ => do
    sleep
    match ← (executeRawCommands commands).attempt (E := String) with
    | .ok () => endSession true
    | .error e => do
      endSession false
      .fail (leftOff portId e)

def poeResetImpl (config : SwitchConfig) (portId : String) : Task Unit := do
  emit "connecting" none
  checkout
  let commands := poeCommandsFor config portId
  emit "disabling" none
  match ← (executeRawCommands commands.disable).attempt (E := String) with
  | .error e => do
    endSession false
    .fail s!"Failed to disable PoE: {e}"
  | .ok () => do
    countdown [3, 2, 1]
    reenable portId commands.enable

/-- The frame of `poe_set` and `poe_reset`: an operation that waits for its turn, and how it
ended. -/
def poeTask (kind operation : String) (impl : Task Unit) : Task Unit := do
  if ← takeTurn then
    match ← impl.attempt (E := String) with
    | .ok () => emit "done" none
    | .error e => do
      emit "failed" (some e)
      record (.error kind e operation)
    releaseTurn
  else do
    emit "failed" (some gaveUp)
    record (.error kind gaveUp operation)

def poeSet (config : SwitchConfig) (portId : String) (turnOn : Bool) : Task Unit :=
  poeTask "PoeSet" ("poe_" ++ actionName turnOn) (poeSetImpl config portId turnOn)

def poeReset (config : SwitchConfig) (portId : String) : Task Unit :=
  poeTask "PoeReset" "poe_reset" (poeResetImpl config portId)

end Poe

/-! ## Applying -/

section Apply

variable (hardwareWarnings : List Char → List String)

/-- How an apply of a request ends that does not succeed. -/
def failApply (kind message reason error : String) : Task (List (List String)) := do
  record (.error kind message "apply_config")
  record (.applyFailure reason)
  releaseTurn
  .fail error

/-- `apply_config_impl`; the object is the one that `create_vendor_with_runtime` makes. -/
def applyConfigImpl (switch : VendorSwitch) : Task (List (List String)) := do
  closeIdle
  match ← connect with
  | .error e =>
    failApply "Connection" e ("Connection failed: " ++ e) ("Connection failed: " ++ e)
  | .ok () => do
    match ← (onSwitch (applyConfiguration hardwareWarnings switch)).attempt (E := String) with
    | .error e => do
      disconnect
      failApply "ApplyConfiguration" e e ("Configuration failed: " ++ e)
    | .ok applied => do
      match ← (onSwitch (saveConfiguration switch)).attempt (E := String) with
      | .error e => record (.error "SaveConfiguration" e "apply_config")
      | .ok () => pure ()
      disconnect
      record (.warnings applied.warnings)
      record .applySuccess
      releaseTurn
      return applied.results

/-- The task of `apply_config`, whose outcome is only logged. -/
def applyConfig (switch : VendorSwitch) : Task Unit := do
  if ← takeTurn then
    let _ ← (applyConfigImpl hardwareWarnings switch).attempt (E := String)
    pure ()
  else record (.applyFailure gaveUp)

/-- `apply_single_switch` of the watcher. -/
def applySingleSwitch (switch : VendorSwitch) : Task (List String) := do
  match ← connect with
  | .error e => .fail ("Failed to connect: " ++ e)
  | .ok () => do
    match ← (onSwitch (applyConfiguration hardwareWarnings switch)).attempt (E := String) with
    | .error e => do
      disconnect
      .fail ("Failed to apply configuration: " ++ e)
    | .ok applied => do
      let _ ← (onSwitch (saveConfiguration switch)).attempt (E := String)
      disconnect
      return applied.warnings

/-- What the watcher leaves behind of an apply. -/
def recordApply : Except String (List String) → Task Unit
  | .ok warnings => do
    record (.warnings warnings)
    record .applySuccess
  | .error e => record (.applyFailure e)

/-- `apply_switch_with_pending`, which has the turn: a reload that was queued meanwhile is applied
in the same turn, and the outcome is that of the first apply. -/
def applySwitchWithPending (switch : VendorSwitch) : Task Unit := do
  closeIdle
  let result ← (applySingleSwitch hardwareWarnings switch).attempt (E := String)
  recordApply result
  if ← takePendingReload then
    let pending ← (applySingleSwitch hardwareWarnings switch).attempt (E := String)
    recordApply pending
  releaseTurn
  .ofExcept (result.map fun _ => ())

end Apply

end SwitchConfigurator.Operations
