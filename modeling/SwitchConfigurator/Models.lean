import Mathlib.Data.List.Basic

/-!
# Data model

The records of `models.rs` and `config.rs` that the validator, the merge, the diff
engine and the service handlers read and write. `Vec` is `List`, `u16` and the other
counters are `ℕ`, paths are the `String` that names them, and a `serde_json::Value` is
kept as the text it prints to, since nothing here looks inside one.
-/

namespace SwitchConfigurator

inductive Vendor where
  | aruba
  | fortiswitch
  | cisco
  deriving DecidableEq, Repr

/-- Speed and duplex configuration for a port. -/
inductive SpeedDuplex where
  | auto
  | tenHalf
  | tenFull
  | hundredHalf
  | hundredFull
  | thousandFull
  | tenGFull
  deriving DecidableEq, Repr

inductive SwitchModel where
  | aruba2530_24G_POE
  | aruba2530_8G_POE
  | aruba2530_48G_2SFP
  | aruba2540_24G
  | aruba2540_48G_4SFP
  | aruba2930F
  | fortiswitch124F_FPOE
  | ciscoCatalyst9300_24P_UPOE
  deriving DecidableEq, Repr

namespace SwitchModel

def vendor : SwitchModel → Vendor
  | aruba2530_24G_POE | aruba2530_8G_POE | aruba2530_48G_2SFP
  | aruba2540_24G | aruba2540_48G_4SFP | aruba2930F => .aruba
  | fortiswitch124F_FPOE => .fortiswitch
  | ciscoCatalyst9300_24P_UPOE => .cisco

def supportedSpeeds : SwitchModel → List SpeedDuplex
  | aruba2530_24G_POE | aruba2530_8G_POE | aruba2540_24G | fortiswitch124F_FPOE =>
    [.auto, .tenHalf, .tenFull, .hundredHalf, .hundredFull, .thousandFull]
  | aruba2530_48G_2SFP | aruba2540_48G_4SFP | aruba2930F | ciscoCatalyst9300_24P_UPOE =>
    [.auto, .tenHalf, .tenFull, .hundredHalf, .hundredFull, .thousandFull, .tenGFull]

def supportsSpeed (model : SwitchModel) (speed : SpeedDuplex) : Bool :=
  model.supportedSpeeds.contains speed

def supportsPoe : SwitchModel → Bool
  | aruba2530_24G_POE | aruba2530_8G_POE | aruba2930F
  | fortiswitch124F_FPOE | ciscoCatalyst9300_24P_UPOE => true
  | _ => false

/-- VLANs that always exist on the model and cannot be removed. -/
def implicitVlans : SwitchModel → List ℕ
  | aruba2530_24G_POE | aruba2530_8G_POE | aruba2530_48G_2SFP | aruba2540_24G
  | aruba2540_48G_4SFP | aruba2930F | ciscoCatalyst9300_24P_UPOE | fortiswitch124F_FPOE => [1]

def supportsVlanDescription : SwitchModel → Bool
  | fortiswitch124F_FPOE | ciscoCatalyst9300_24P_UPOE => true
  | _ => false

def maxVlanNameLength : SwitchModel → ℕ
  | aruba2530_24G_POE | aruba2530_8G_POE | aruba2530_48G_2SFP | aruba2540_24G
  | aruba2540_48G_4SFP | aruba2930F => 32
  | ciscoCatalyst9300_24P_UPOE => 32
  | fortiswitch124F_FPOE => 63

end SwitchModel

inductive VlanIpConfig where
  | none
  | dhcp
  | static (address netmask : String)
  deriving DecidableEq, Repr

structure Vlan where
  id : ℕ
  name : String
  description : Option String := Option.none
  ipConfig : VlanIpConfig := .none
  deriving DecidableEq, Repr

inductive PortMode where
  | access
  | trunk
  deriving DecidableEq, Repr

/-- A VLAN reference of a port: a bare integer is an id, a string is a name. -/
inductive VlanRef where
  | id (id : ℕ)
  | name (name : String)
  deriving DecidableEq, Repr

/-- A port as it stands after deserialisation. `vlanName` and `taggedVlanRefs` are set
only between deserialisation and name resolution. -/
structure Port where
  portId : String
  mode : PortMode := .access
  vlan : ℕ
  taggedVlans : List ℕ := []
  description : Option String := none
  enabled : Bool := true
  poeEnabled : Bool := false
  macNotify : Bool := false
  speedDuplex : SpeedDuplex := .auto
  vlanName : Option String := none
  taggedVlanRefs : List VlanRef := []
  deriving DecidableEq, Repr

/-- The mode follows from the tagged VLANs; the `mode` field is deprecated. -/
def Port.inferredMode (port : Port) : PortMode :=
  if port.taggedVlans.isEmpty then .access else .trunk

inductive MirrorDirection where
  | rx
  | tx
  | both
  deriving DecidableEq, Repr

structure PortMirror where
  sessionId : String
  sourcePorts : List String
  destinationPort : String
  direction : MirrorDirection := .both
  deriving DecidableEq, Repr

inductive SnmpAccess where
  | unrestricted
  | manager
  | operator
  deriving DecidableEq, Repr

/-- A manager allowed to query a community. -/
inductive AllowedHost where
  | auto
  | network (network : String)
  deriving DecidableEq, Repr

/-- `String::from(AllowedHost)`. -/
def AllowedHost.toText : AllowedHost → String
  | auto => "auto"
  | network text => text

structure SnmpCommunity where
  name : String := ""
  access : SnmpAccess := .unrestricted
  nameFile : Option String := none
  nameCredential : Option String := none
  allowedHosts : List AllowedHost := []
  deriving DecidableEq, Repr

/-- Does the string come from a file or credential rather than the config? -/
def SnmpCommunity.hasReference (community : SnmpCommunity) : Bool :=
  community.nameFile.isSome || community.nameCredential.isSome

structure SnmpTrapReceiver where
  host : String
  community : String
  version : Option String := none
  deriving DecidableEq, Repr

inductive TrapType where
  | macNotify
  | linkChange
  | all
  deriving DecidableEq, Repr

inductive SnmpReadsMode where
  | auto
  | off
  deriving DecidableEq, Repr

structure SnmpReads where
  mode : SnmpReadsMode := .off
  community : Option SnmpCommunity := none
  deriving DecidableEq, Repr

structure SnmpConfig where
  communities : List SnmpCommunity := []
  trapReceivers : List SnmpTrapReceiver := []
  enabledTraps : List TrapType := []
  reads : Option SnmpReads := none
  deriving DecidableEq, Repr

inductive ConnectionType where
  | ssh
  | serial
  deriving DecidableEq, Repr

structure JumpHost where
  host : String
  username : Option String := none
  port : Option ℕ := none
  sshKeyPath : Option String := none
  password : Option String := none
  deriving DecidableEq, Repr

structure Credentials where
  username : String
  password : Option String := none
  sshKeyPath : Option String := none
  port : ℕ := 22
  connectionType : ConnectionType := .ssh
  serialDevice : Option String := none
  baudRate : ℕ := 9600
  enableSecret : Option String := none
  jumpHosts : Option (List JumpHost) := none
  deriving DecidableEq, Repr

inductive FailureAction where
  | rollback
  | saveAnyway
  | manual
  deriving DecidableEq, Repr

inductive RollbackMethod where
  | reload
  | revertCommands
  | restoreBackup
  deriving DecidableEq, Repr

inductive TestType where
  | commandExecution (command : String)
  | pingManagementIp (count : ℕ)
  | tcpPortCheck (ports : List ℕ)
  | gatewayReachable (target : String) (sourceVlan : Option ℕ)
  | deviceReachable (deviceIp deviceName : String) (count : ℕ)
  | portStatus (criticalPorts : List String)
  | vlanMembership
  deriving DecidableEq, Repr

/-- A validation test; durations are in nanoseconds. -/
structure ValidationTest where
  testType : TestType
  timeout : ℕ
  required : Bool := true
  deriving DecidableEq, Repr

structure ValidationConfig where
  enabled : Bool := false
  timeout : ℕ
  onFailure : FailureAction := .rollback
  rollbackMethod : RollbackMethod := .restoreBackup
  tests : List ValidationTest := []
  deriving DecidableEq, Repr

/-- Per-switch settings, with the defaults of `Settings::default`. -/
structure Settings where
  sshTimeoutSecs : ℕ := 30
  maxRetries : ℕ := 3
  enforcePortConfig : Bool := false
  snmpPort : ℕ := 161
  deriving DecidableEq, Repr

structure SwitchConfig where
  id : String
  hostname : Option String := none
  model : Option SwitchModel := none
  managementIp : Option String := none
  credentials : Option Credentials := none
  vlans : List Vlan := []
  ports : List Port := []
  portMirrors : List PortMirror := []
  snmp : Option SnmpConfig := none
  managementVlan : Option ℕ := none
  validation : Option ValidationConfig := none
  vendorSpecific : List (String × String) := []
  settings : Settings := {}
  deriving DecidableEq, Repr

/-- The parsed state of a switch. -/
structure SwitchState where
  vlans : List Vlan := []
  ports : List Port := []
  portMirrors : List PortMirror := []
  snmp : Option SnmpConfig := none
  managementVlan : Option ℕ := none
  warnings : List String := []
  deriving DecidableEq, Repr

structure SnmpStateDiff where
  communitiesToAdd : List SnmpCommunity := []
  communitiesToRemove : List String := []
  communitiesToUpdate : List SnmpCommunity := []
  trapReceiversToAdd : List SnmpTrapReceiver := []
  trapReceiversToRemove : List String := []
  trapsToEnable : List TrapType := []
  trapsToDisable : List TrapType := []
  deriving DecidableEq, Repr

def SnmpStateDiff.hasChanges (diff : SnmpStateDiff) : Bool :=
  !diff.communitiesToAdd.isEmpty
    || !diff.communitiesToRemove.isEmpty
    || !diff.communitiesToUpdate.isEmpty
    || !diff.trapReceiversToAdd.isEmpty
    || !diff.trapReceiversToRemove.isEmpty
    || !diff.trapsToEnable.isEmpty
    || !diff.trapsToDisable.isEmpty

structure StateDiff where
  vlansToAdd : List Vlan := []
  vlansToRemove : List ℕ := []
  vlansToUpdate : List Vlan := []
  portsToConfigure : List Port := []
  portsToReset : List String := []
  mirrorsToAdd : List PortMirror := []
  mirrorsToRemove : List String := []
  mirrorsToUpdate : List PortMirror := []
  mirrorDestPortsToConfigure : List String := []
  snmpConfigChanged : Bool := false
  snmpConfig : Option SnmpConfig := none
  snmpDiff : Option SnmpStateDiff := none
  managementVlanChanged : Bool := false
  managementVlan : Option ℕ := none
  deriving DecidableEq, Repr

def StateDiff.hasChanges (diff : StateDiff) : Bool :=
  !diff.vlansToAdd.isEmpty
    || !diff.vlansToRemove.isEmpty
    || !diff.vlansToUpdate.isEmpty
    || !diff.portsToConfigure.isEmpty
    || !diff.portsToReset.isEmpty
    || !diff.mirrorsToAdd.isEmpty
    || !diff.mirrorsToRemove.isEmpty
    || !diff.mirrorsToUpdate.isEmpty
    || !diff.mirrorDestPortsToConfigure.isEmpty
    || diff.snmpConfigChanged
    || diff.snmpDiff.any SnmpStateDiff.hasChanges
    || diff.managementVlanChanged

end SwitchConfigurator
