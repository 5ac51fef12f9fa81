import SwitchConfigurator.Foundations.CliText
import SwitchConfigurator.Vendors.Migration
import SwitchConfigurator.Vendors.Traits

/-!
# Cisco commands

The command generators of `vendors/cisco.rs` and its `apply_diff`.
-/

namespace SwitchConfigurator.Cisco

open Cli

/-! ## Commands -/

/-- The VLANs that a trunk lets through. -/
inductive AllowedVlans where
  | all
  | only (ids : List ℕ)
  deriving DecidableEq, Repr

/-- The two kinds of MAC notification of a port. -/
inductive MacTrap where
  | added
  | removed
  deriving DecidableEq, Repr

inductive Command where
  | configureTerminal
  | exit
  /-- Written `end`. -/
  | close
  | vlan (id : ℕ)
  | noVlan (id : ℕ)
  | name (text : String)
  | description (text : String)
  | noDescription
  | interface (port : String)
  | interfaceVlan (id : ℕ)
  | switchportMode (mode : PortMode)
  | accessVlan (id : ℕ)
  | nativeVlan (id : ℕ)
  | allowedVlan (allowed : AllowedVlans)
  | noAllowedVlan
  | shutdown
  | noShutdown
  | powerInline (mode : String)
  | macNotification (trap : MacTrap)
  | noMacNotification (trap : MacTrap)
  | speed (speed : SpeedDuplex)
  | duplex (speed : SpeedDuplex)
  | noMonitorSession (session : String)
  | monitorSession (session : String)
  | monitorSource (session port : String) (direction : MirrorDirection)
  | monitorDestination (session port : String)
  | snmpCommunity (community : String) (access : SnmpAccess)
  | noSnmpCommunity (community : String)
  | snmpHost (host version community : String)
  | noSnmpHost (host : String)
  | enableTraps (trap : TrapType)
  | noEnableTraps (trap : TrapType)
  | ipAddress (address netmask : String)
  | ipAddressDhcp
  deriving DecidableEq, Repr

def speedText : SpeedDuplex → String
  | .auto => "auto"
  | .tenHalf | .tenFull => "10"
  | .hundredHalf | .hundredFull => "100"
  | .thousandFull => "1000"
  | .tenGFull => "10000"

def duplexText : SpeedDuplex → String
  | .auto => "auto"
  | .tenHalf | .hundredHalf => "half"
  | .tenFull | .hundredFull | .thousandFull | .tenGFull => "full"

def directionText : MirrorDirection → String
  | .rx => "rx"
  | .tx => "tx"
  | .both => "both"

def accessText : SnmpAccess → String
  | .unrestricted | .manager => "RW"
  | .operator => "RO"

def macTrapText : MacTrap → String
  | .added => "added"
  | .removed => "removed"

def modeText : PortMode → String
  | .access => "access"
  | .trunk => "trunk"

def AllowedVlans.text : AllowedVlans → String
  | all => "all"
  | only ids => ",".intercalate (ids.map toString)

/-- The words after `enable traps`. -/
def trapWords : TrapType → List Arg
  | .macNotify => [.bare "mac-notification"]
  | .linkChange => [.bare "link"]
  | .all => []

namespace Command

def words : Command → List Arg
  | configureTerminal => [.bare "configure", .bare "terminal"]
  | exit => [.bare "exit"]
  | close => [.bare "end"]
  | vlan id => [.bare "vlan", .number id]
  | noVlan id => [.bare "no", .bare "vlan", .number id]
  | name text => [.bare "name", .bare text]
  | description text => [.bare "description", .bare text]
  | noDescription => [.bare "no", .bare "description"]
  | interface port => [.bare "interface", .bare port]
  | interfaceVlan id => [.bare "interface", .bare "vlan", .number id]
  | switchportMode mode => [.bare "switchport", .bare "mode", .bare (modeText mode)]
  | accessVlan id => [.bare "switchport", .bare "access", .bare "vlan", .number id]
  | nativeVlan id =>
    [.bare "switchport", .bare "trunk", .bare "native", .bare "vlan", .number id]
  | allowedVlan allowed =>
    [.bare "switchport", .bare "trunk", .bare "allowed", .bare "vlan", .bare allowed.text]
  | noAllowedVlan =>
    [.bare "no", .bare "switchport", .bare "trunk", .bare "allowed", .bare "vlan"]
  | shutdown => [.bare "shutdown"]
  | noShutdown => [.bare "no", .bare "shutdown"]
  | powerInline mode => [.bare "power", .bare "inline", .bare mode]
  | macNotification trap => [.bare "snmp", .bare "trap", .bare "mac-notification",
    .bare "change", .bare (macTrapText trap)]
  | noMacNotification trap => [.bare "no", .bare "snmp", .bare "trap",
    .bare "mac-notification", .bare "change", .bare (macTrapText trap)]
  | speed value => [.bare "speed", .bare (speedText value)]
  | duplex value => [.bare "duplex", .bare (duplexText value)]
  | noMonitorSession session => [.bare "no", .bare "monitor", .bare "session", .bare session]
  | monitorSession session => [.bare "monitor", .bare "session", .bare session]
  | monitorSource session port direction => [.bare "monitor", .bare "session", .bare session,
    .bare "source", .bare "interface", .bare port, .bare (directionText direction)]
  | monitorDestination session port => [.bare "monitor", .bare "session", .bare session,
    .bare "destination", .bare "interface", .bare port]
  | snmpCommunity community access =>
    [.bare "snmp-server", .bare "community", .bare community, .bare (accessText access)]
  | noSnmpCommunity community =>
    [.bare "no", .bare "snmp-server", .bare "community", .bare community]
  | snmpHost host version community => [.bare "snmp-server", .bare "host", .bare host,
    .bare "version", .bare version, .bare community]
  | noSnmpHost host => [.bare "no", .bare "snmp-server", .bare "host", .bare host]
  | enableTraps trap =>
    [.bare "snmp-server", .bare "enable", .bare "traps"] ++ trapWords trap
  | noEnableTraps trap =>
    [.bare "no", .bare "snmp-server", .bare "enable", .bare "traps"] ++ trapWords trap
  | ipAddress address netmask => [.bare "ip", .bare "address", .bare address, .bare netmask]
  | ipAddressDhcp => [.bare "ip", .bare "address", .bare "dhcp"]

def text (command : Command) : String := render command.words

end Command

open Command

structure CiscoSwitch where
  config : SwitchConfig
  currentState : Option SwitchState := none
  deriving DecidableEq, Repr

/-- Generated commands are sent in configuration mode. -/
def configured (body : List Command) : List Command := configureTerminal :: (body ++ [close])

/-! ## VLANs -/

def vlanCommands (vlan : Vlan) : List Command :=
  [.vlan vlan.id, name vlan.name] ++ vlan.description.toList.map description ++ [exit]

def generateVlanCommands (vlans : List Vlan) : List Command :=
  configured (vlans.flatMap vlanCommands)

def generateRemoveVlanCommands (vlanIds : List ℕ) : List Command := configured (vlanIds.map noVlan)

/-! ## Ports -/

/-- "Gi1/0/1", "1/0/1" and "1" are "GigabitEthernet1/0/1". -/
def normalizePortId (portId : String) : String :=
  if portId.startsWith "GigabitEthernet" then portId
  else if portId.startsWith "TenGigabitEthernet" then portId
  else if portId.startsWith "Gi" then
    "GigabitEthernet" ++ String.ofList (portId.toList.drop 2)
  else if portId.startsWith "Te" then
    "TenGigabitEthernet" ++ String.ofList (portId.toList.drop 2)
  else if portId.contains '/' then "GigabitEthernet" ++ portId
  else "GigabitEthernet1/0/" ++ portId

def vlanSettings (port : Port) : List Command :=
  match port.inferredMode with
  | .access => [switchportMode .access, accessVlan port.vlan]
  | .trunk => [switchportMode .trunk, nativeVlan port.vlan,
      allowedVlan (if port.taggedVlans.isEmpty then .all else .only port.taggedVlans)]

def macNotifyCommands (port : Port) : List Command :=
  if port.macNotify then [macNotification .added, macNotification .removed]
  else [noMacNotification .added, noMacNotification .removed]

def portCommands (port : Port) : List Command :=
  [interface (normalizePortId port.portId)] ++ port.description.toList.map description ++
    vlanSettings port ++ [if port.enabled then noShutdown else shutdown] ++
    [powerInline (if port.poeEnabled then "auto" else "never")] ++ macNotifyCommands port ++
    [speed port.speedDuplex, duplex port.speedDuplex, exit]

def generatePortCommands (ports : List Port) : List Command :=
  configured (ports.flatMap portCommands)

def resetPort (portId : String) : List Command :=
  [interface (normalizePortId portId), shutdown, noDescription, switchportMode .access,
    accessVlan 1, noAllowedVlan, powerInline "auto", exit]

def resetPorts (portIds : List String) : List Command := configured (portIds.flatMap resetPort)

def configureMirrorDestPorts (portIds : List String) : List Command :=
  configured (portIds.flatMap fun portId => [interface (normalizePortId portId),
    switchportMode .access, accessVlan 1, noDescription, noShutdown, exit])

/-! ## Migrations -/

/-- The port is named as the state has it. -/
def migrationCommands (migration : PortMigration) : List Command :=
  interface migration.portId :: match migration.action with
    | .moveAccessToVlan1 => [accessVlan 1]
    | .removeVlanFromTrunk remainingVlans =>
      if remainingVlans.isEmpty then [switchportMode .access, accessVlan 1]
      else [allowedVlan (.only remainingVlans)]

def migratePortsBeforeVlanDeletion (migrations : List PortMigration) : List Command :=
  configured (migrations.flatMap migrationCommands)

def removeVlans (switch : CiscoSwitch) (vlanIds : List ℕ) : Steps Command :=
  if vlanIds.isEmpty then []
  else
    (match switch.currentState with
      | some current =>
        Steps.ifAny (Diff.findPortsToMigrate current vlanIds) migratePortsBeforeVlanDeletion
      | none => []) ++
    [.ok (generateRemoveVlanCommands vlanIds)]

/-! ## Mirrors -/

def mirrorCommands (mirror : PortMirror) : List Command :=
  [noMonitorSession mirror.sessionId, monitorSession mirror.sessionId] ++
    mirror.sourcePorts.map (fun source =>
      monitorSource mirror.sessionId (normalizePortId source) mirror.direction) ++
    [monitorDestination mirror.sessionId (normalizePortId mirror.destinationPort)]

def generateMirrorCommands (mirrors : List PortMirror) : List Command :=
  configured (mirrors.flatMap mirrorCommands)

def generateRemoveMirrorCommands (sessionIds : List String) : List Command :=
  configured (sessionIds.map noMonitorSession)

/-! ## SNMP -/

def communityCommand (community : SnmpCommunity) : Command :=
  snmpCommunity community.name community.access

def receiverCommand (receiver : SnmpTrapReceiver) : Command :=
  snmpHost receiver.host (receiver.version.getD "2c") receiver.community

def generateSnmpCommands (snmp : SnmpConfig) : List Command :=
  configured (snmp.communities.map communityCommand ++ snmp.trapReceivers.map receiverCommand ++
    snmp.enabledTraps.map enableTraps)

def applySnmpDiff (diff : SnmpStateDiff) : List Command :=
  if !diff.hasChanges then []
  else configured (diff.communitiesToRemove.map noSnmpCommunity ++
    diff.communitiesToUpdate.flatMap (fun community =>
      [noSnmpCommunity community.name, communityCommand community]) ++
    diff.communitiesToAdd.map communityCommand ++
    diff.trapReceiversToRemove.map noSnmpHost ++
    diff.trapReceiversToAdd.map receiverCommand ++
    diff.trapsToEnable.map enableTraps ++ diff.trapsToDisable.map noEnableTraps)

/-! ## A diff -/

def managementIpCommands : VlanIpConfig → List Command
  | .static address netmask => [ipAddress address netmask]
  | .dhcp => [ipAddressDhcp]
  | .none => []

def configureManagementVlan (switch : CiscoSwitch) (vlanId : ℕ) :
    Except VendorError (List Command) :=
  match switch.config.vlans.find? (·.id == vlanId) with
  | none => .error (.validationError
      s!"Management VLAN {vlanId} not found in VLAN configuration")
  | some vlanConfig => .ok (configured ([interfaceVlan vlanId] ++
      managementIpCommands vlanConfig.ipConfig ++ [noShutdown, exit]))

/-- Which VLAN it was is not known here, so nothing is sent. -/
def removeManagementVlan : List Command := []

def snmpSteps (diff : StateDiff) : Steps Command :=
  Steps.snmp (fun snmpDiff => .ok (applySnmpDiff snmpDiff)) (fun snmp => .ok (generateSnmpCommands snmp)) diff

def managementVlanSteps (switch : CiscoSwitch) (diff : StateDiff) : Steps Command :=
  Steps.managementVlan (configureManagementVlan switch) removeManagementVlan diff

/-- What follows on the removal of VLANs. -/
def laterSteps (switch : CiscoSwitch) (diff : StateDiff) : Steps Command :=
  Steps.ifAny diff.vlansToAdd generateVlanCommands ++
  Steps.ifAny diff.vlansToUpdate generateVlanCommands ++
  Steps.ifAny diff.portsToConfigure generatePortCommands ++
  Steps.ifAny diff.portsToReset resetPorts ++
  Steps.ifAny diff.mirrorDestPortsToConfigure configureMirrorDestPorts ++
  Steps.ifAny diff.mirrorsToRemove generateRemoveMirrorCommands ++
  Steps.ifAny diff.mirrorsToAdd generateMirrorCommands ++
  Steps.ifAny diff.mirrorsToUpdate generateMirrorCommands ++
  snmpSteps diff ++ managementVlanSteps switch diff

def applyDiff (switch : CiscoSwitch) (diff : StateDiff) : Steps Command :=
  removeVlans switch diff.vlansToRemove ++ laterSteps switch diff

end SwitchConfigurator.Cisco
