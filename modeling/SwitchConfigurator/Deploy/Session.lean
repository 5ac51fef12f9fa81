import SwitchConfigurator.Foundations.Dialogue
import SwitchConfigurator.Vendors.DryRun
import SwitchConfigurator.Vendors.EmptyState
import SwitchConfigurator.Vendors.PreviewExact
import SwitchConfigurator.Vendors.Traps

/-!
# A session with a switch

`apply_configuration` of the three vendors, which is the same text three times, and the operations
that it is made of. A command is given to the client, which answers for the device; what the client
holds back in a dry run or asks the operator about is its own business.
-/

namespace SwitchConfigurator.Deploy

open Dialogue

/-! ## Calls -/

/-- What a command is given to the client for. -/
inductive Purpose where
  | read
  | apply
  | test
  | save
  | rollback
  deriving DecidableEq, Repr

inductive Call where
  | connect
  | execute (purpose : Purpose) (command : String)
  /-- `ping`, from this host. -/
  | ping (target : String) (count : ℕ)
  /-- The first address that a name stands for. -/
  | resolve (address : String)
  | tcpConnect (address : String)
  /-- Has more time gone by than the validation may take? -/
  | overtime (timeout : ℕ)
  | disconnect
  deriving DecidableEq, Repr

structure PingOutput where
  success : Bool
  stdout : String
  stderr : String
  deriving DecidableEq, Repr

/-- Whatever may fail may do so with any message. -/
abbrev Answer : Call → Type
  | .connect => Except String Unit
  | .execute _ _ => Except String String
  | .ping _ _ => Except String PingOutput
  | .resolve _ => Except String (Option String)
  | .tcpConnect _ => Except String Unit
  | .overtime _ => Bool
  | .disconnect => Except String Unit

/-- A program that talks to a switch; its errors are the texts that are shown of them. -/
abbrev Session : Type → Type := Dialogue Answer String

abbrev Exchange : Type := Event Answer

/-- `error` makes the error of an operation from what the client says. -/
def execute (error : String → String) (purpose : Purpose) (command : String) : Session String :=
  .ask (.execute purpose command) fun output => .ofExcept (Except.mapError error output)

/-- How a `VendorError::CommandError` is shown. -/
def commandError (message : String) : String := "Command execution error: " ++ message

def executeCommands (purpose : Purpose) : List String → Session Unit
  | [] => pure ()
  | command :: commands => do
    let _ ← execute commandError purpose command
    executeCommands purpose commands

/-- How the errors are shown that a vendor object finds by itself. -/
def shownError : VendorError → String
  | .validationError message => "Configuration validation error: " ++ message
  | .parseError message => "Parse error: " ++ message

/-! ## Reading -/

section Reading

variable (hardwareWarnings : List Char → List String)

def read (command : String) : Session (List Char) := do
  return (← execute commandError .read command).toList

/-- A failure is only logged. -/
def readOr (fallback : List Char) (command : String) : Session (List Char) := do
  match ← (read command).attempt (E := String) with
  | .ok text => pure text
  | .error _ => pure fallback

def getRunningConfigBlocks : Session Fortiswitch.FortiSwitchConfigBlocks := do
  let systemInterface ← read "show system interface"
  let switchVlan ← read "show switch vlan"
  let switchInterface ← read "show switch interface"
  let physicalPort ← read "show switch physical-port"
  let switchMirror ← read "show switch mirror"
  let snmpCommunity ← read "show system snmp community"
  let snmpSysinfo ← read "show system snmp sysinfo"
  let interfaceAddresses ← readOr [] "get system interface"
  return { systemInterface, switchVlan, switchInterface, physicalPort, switchMirror, snmpCommunity,
           snmpSysinfo, interfaceAddresses }

/-- `hardwareWarnings` is what the hardware check finds in the text that it looks at. -/
def detectHardwareModel : Session (List String) := do
  match ← (read "get system status").attempt (E := String) with
  | .ok status => pure (hardwareWarnings status)
  | .error _ => pure []

/-- The state, and the object with what it remembers of it. -/
def parseCurrentState : VendorSwitch → Session (VendorSwitch × SwitchState)
  | .aruba switch => do
    let config ← read "show running-config"
    let traps := Aruba.parseSnmpTrapStatus (strLines (← read "show snmp-server traps"))
    return (.aruba switch, Aruba.parseCurrentState switch hardwareWarnings traps.1 traps.2 config)
  | .cisco switch => do
    let config ← read "show running-config"
    return (.cisco switch, Cisco.parseCurrentState hardwareWarnings config)
  | .fortiswitch switch => do
    let raw ← getRunningConfigBlocks
    let warnings ← detectHardwareModel hardwareWarnings
    let (switch, state) := Fortiswitch.parseCurrentState switch warnings raw
    return (.fortiswitch switch, state)

end Reading

/-! ## Applying -/

/-- The steps of `apply_diff`, with the lines that are given to the client. The full replacement of
SNMP, which reads as well, is not among the steps for a computed diff. -/
def steps : VendorSwitch → StateDiff → Steps String
  | .aruba switch, diff =>
    (Aruba.applyDiff switch diff).map (Except.map (List.map Aruba.Command.text))
  | .cisco switch, diff =>
    (Cisco.applyDiff switch diff).map (Except.map (List.map Cisco.Command.text))
  | .fortiswitch switch, diff =>
    (Fortiswitch.applyDiff switch diff).map
      (Except.map (List.map fun line => Cli.render line.words))

/-- `apply_diff`: each step that is through is a result, with the commands of the step. -/
def applySteps : Steps String → Session (List (List String))
  | [] => pure []
  | .error e :: _ => .fail (shownError e)
  | .ok commands :: steps => do
    executeCommands .apply commands
    let results ← applySteps steps
    return commands :: results

def desired : VendorSwitch → SwitchConfig
  | .aruba switch => switch.config
  | .cisco switch => switch.config
  | .fortiswitch switch => switch.config

/-- The state is kept for the commands of two of the vendors, and for its warnings. -/
def withState : VendorSwitch → SwitchState → VendorSwitch
  | .aruba switch, state => .aruba { switch with currentState := some state }
  | .cisco switch, state => .cisco { switch with currentState := some state }
  | .fortiswitch switch, _ => .fortiswitch switch

def part {α : Type} (l : List α) (text : String) : List String := if l.isEmpty then [] else [text]

def remainingChangesSummary (diff : StateDiff) : String :=
  "; ".intercalate (
    part diff.vlansToAdd s!"{diff.vlansToAdd.length} VLANs to add" ++
    part diff.vlansToRemove s!"{diff.vlansToRemove.length} VLANs to remove" ++
    part diff.vlansToUpdate s!"{diff.vlansToUpdate.length} VLANs to update" ++
    part diff.portsToConfigure
      ("ports to configure: [" ++ ", ".intercalate (diff.portsToConfigure.map Port.portId) ++
        "]") ++
    part diff.portsToReset ("ports to reset: [" ++ ", ".intercalate diff.portsToReset ++ "]") ++
    part diff.mirrorsToAdd s!"{diff.mirrorsToAdd.length} mirrors to add" ++
    part diff.mirrorsToRemove s!"{diff.mirrorsToRemove.length} mirrors to remove" ++
    part diff.mirrorsToUpdate s!"{diff.mirrorsToUpdate.length} mirrors to update" ++
    part diff.mirrorDestPortsToConfigure
      ("mirror dest ports: [" ++ ", ".intercalate diff.mirrorDestPortsToConfigure ++ "]") ++
    (if diff.snmpConfigChanged || diff.snmpDiff.any SnmpStateDiff.hasChanges then ["SNMP config"]
      else []) ++
    if diff.managementVlanChanged then ["management VLAN"] else [])

/-- What an apply leaves behind: its results, and the warnings that go with the state last read. -/
structure Applied where
  results : List (List String)
  warnings : List String
  deriving DecidableEq, Repr

/-- The warnings of a state that was read behind an apply. -/
def convergenceWarnings (config : SwitchConfig) (state : SwitchState) : List String :=
  let remaining := Diff.computeDiff state config config.settings.enforcePortConfig
  if remaining.hasChanges then
    state.warnings ++ ["Configuration did not converge: " ++ remainingChangesSummary remaining]
  else state.warnings

section Apply

variable (hardwareWarnings : List Char → List String)

/-- What is read of a switch, unless it is refused. -/
def stateToChange (switch : VendorSwitch) : Session (VendorSwitch × SwitchState) := do
  let (switch, current) ← parseCurrentState hardwareWarnings switch
  let config := desired switch
  .ofExcept (Except.mapError shownError (checkEmptyStateSafety current config.vlans.length
    config.ports.length (config.hostname.getD "")))
  return (withState switch current, current)

/-- The difference that an apply works off. -/
def diffOf (switch : VendorSwitch) (current : SwitchState) : StateDiff :=
  Diff.computeDiff current (desired switch) (desired switch).settings.enforcePortConfig

def applyConfiguration (switch : VendorSwitch) : Session Applied := do
  let (switch, current) ← stateToChange hardwareWarnings switch
  let diff := diffOf switch current
  if !diff.hasChanges then
    return { results := [], warnings := current.warnings }
  else do
    let results ← applySteps (steps switch diff)
    match ← (parseCurrentState hardwareWarnings switch).attempt (E := String) with
    | .ok (switch, state) =>
      return { results, warnings := convergenceWarnings (desired switch) state }
    | .error _ => return { results, warnings := current.warnings }

end Apply

/-! ## Saving and rolling back -/

def saveConfiguration (switch : VendorSwitch) : Session Unit :=
  executeCommands .save switch.saveCommands

def rollbackFailure : VendorSwitch → RollbackMethod → String
  | .fortiswitch _, .reload => "Reboot failed: "
  | _, .reload => "Reload failed: "
  | _, .restoreBackup => "Restore failed: "
  | _, .revertCommands => "Revert failed: "

/-- One command, whichever the method is. -/
def rollbackConfiguration (switch : VendorSwitch) (method : RollbackMethod) : Session Unit :=
  (switch.rollbackCommands method).forM fun command => do
    let _ ← execute (fun message => commandError (rollbackFailure switch method ++ message))
      .rollback command

end SwitchConfigurator.Deploy
