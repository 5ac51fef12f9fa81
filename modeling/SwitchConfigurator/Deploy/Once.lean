import SwitchConfigurator.Deploy.Validation
import SwitchConfigurator.Lookup.Program

/-!
# One deployment

`configure_switch_once`, `apply_configuration_once` and `run_one_off`: connect, apply, validate,
save or roll back, disconnect, and the same for each switch that is meant.
-/

namespace SwitchConfigurator.Deploy

open Dialogue
open Lookup (SwitchStatus recordChange)

/-- The options of a run that matter here. -/
structure RuntimeConfig where
  dryRun : Bool := false
  targetSwitch : Option String := none
  deriving DecidableEq, Repr

/-! ## One switch -/

section Once

variable (hardwareWarnings : List Char → List String) (lowercase : List Char → List Char)
variable (printable : Char → Bool)

/-- What is done about tests that did not pass: may the configuration be saved? -/
def afterFailure (switch : VendorSwitch) (validation : ValidationConfig) : Session Bool :=
  match validation.onFailure with
  | .rollback => do
    let _ ← (rollbackConfiguration switch validation.rollbackMethod).attempt (E := String)
    pure false
  | .saveAnyway => pure true
  | .manual => pure false

def validationPassed (switch : VendorSwitch) (dryRun : Bool) : Session Bool :=
  match (desired switch).validation with
  | none => pure true
  | some validation =>
    if validation.enabled && !dryRun then do
      match ← (runValidationTests lowercase printable ((desired switch).managementIp.getD "")
        validation).attempt (E := String) with
      | .ok result => if result.passed then pure true else afterFailure switch validation
      | .error _ => pure false
    else pure true

/-- What follows an apply that changed something. -/
def conclude (switch : VendorSwitch) (dryRun : Bool) : Session Unit := do
  let passed ← validationPassed lowercase printable switch dryRun
  if passed && !dryRun then
    (saveConfiguration switch).mapError ("Failed to save configuration: " ++ ·)
  else if !passed then .fail "Validation failed"
  else pure ()

/-- What is done with a switch that is connected. -/
def conduct (switch : VendorSwitch) (dryRun : Bool) : Session Unit := do
  let applied ← (applyConfiguration hardwareWarnings switch).mapError
    ("Failed to apply configuration: " ++ ·)
  if applied.results.isEmpty then pure ()
  else conclude lowercase printable switch dryRun

/-- The object is the one that `create_vendor_with_runtime` makes. -/
def configureSwitchOnce (switch : VendorSwitch) (dryRun : Bool) : Session Unit :=
  .ask .connect fun
    | .error message => .fail ("Failed to connect: " ++ message)
    | .ok () => do
      let outcome ← (conduct hardwareWarnings lowercase printable switch dryRun).attempt
        (E := String)
      -- a connection that does not close cleanly is only logged
      .ask .disconnect fun _ => .ofExcept outcome

end Once

/-! ## All switches -/

/-- What is asked while several switches are configured. -/
inductive FleetCall where
  | switch (id : String) (call : Call)
  | now
  deriving DecidableEq, Repr

abbrev FleetAnswer : FleetCall → Type
  | .switch _ call => Answer call
  | .now => ℤ

abbrev Fleet : Type → Type := Dialogue FleetAnswer String

structure Summary where
  successCount : ℕ := 0
  failureCount : ℕ := 0
  deriving DecidableEq, Repr

def Summary.count (summary : Summary) : Except String Unit → Summary
  | .ok () => { summary with successCount := summary.successCount + 1 }
  | .error _ => { summary with failureCount := summary.failureCount + 1 }

/-- `record_apply_success` or `record_apply_failure`. -/
def recordOutcome (status : List SwitchStatus) (id : String) (now : ℤ) :
    Except String Unit → List SwitchStatus
  | .ok () => recordChange status id .applySuccess ⟨now, "", []⟩
  | .error reason => recordChange status id .applyFailure ⟨now, reason, []⟩

def record (id : String) (outcome : Except String Unit) :
    Option (List SwitchStatus) → Fleet (Option (List SwitchStatus))
  | some status => .ask .now fun now => pure (some (recordOutcome status id now outcome))
  | none => pure none

section All

variable (hardwareWarnings : List Char → List String) (lowercase : List Char → List Char)
variable (printable : Char → Bool)

/-- The switches that are left; one that fails does not keep the others from being configured. There
is a status tracker in service mode. -/
def configureAll (dryRun : Bool) : List VendorSwitch → Summary → Option (List SwitchStatus) →
    Fleet (Summary × Option (List SwitchStatus))
  | [], summary, status => pure (summary, status)
  | switch :: switches, summary, status => do
    let id := (desired switch).id
    let outcome ← ((configureSwitchOnce hardwareWarnings lowercase printable switch dryRun).embed
      (FleetCall.switch id)).attempt (E := String)
    let status ← record id outcome status
    configureAll dryRun switches (summary.count outcome) status

/-- The switches that a run is about. -/
def switchesToConfigure (runtime : RuntimeConfig) (switches : List VendorSwitch) :
    List VendorSwitch :=
  match runtime.targetSwitch with
  | some target => switches.filter fun switch => (desired switch).hostname = some target
  | none => switches

def applyConfigurationOnce (runtime : RuntimeConfig) (switches : List VendorSwitch)
    (status : Option (List SwitchStatus)) : Fleet (Summary × Option (List SwitchStatus)) :=
  let chosen := switchesToConfigure runtime switches
  if chosen.isEmpty then
    if runtime.targetSwitch.isSome then .fail "Target switch not found" else pure ({}, status)
  else configureAll hardwareWarnings lowercase printable runtime.dryRun chosen {} status

end All

end SwitchConfigurator.Deploy
