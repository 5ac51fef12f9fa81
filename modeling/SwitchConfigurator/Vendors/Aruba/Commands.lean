import SwitchConfigurator.Foundations.CliText
import SwitchConfigurator.Vendors.Capabilities
import SwitchConfigurator.Vendors.Migration
import SwitchConfigurator.Vendors.Traits

/-!
# Aruba commands

The command generators of `vendors/aruba.rs` and its `apply_diff`.
-/

namespace SwitchConfigurator.Aruba

open Cli

/-! ## Commands -/

/-- The two kinds of MAC notification of a port. -/
inductive MacTrap where
  | learned
  | removed
  deriving DecidableEq, Repr

inductive Command where
  | configureTerminal
  | exit
  | vlan (id : ℕ)
  | noVlan (id : ℕ)
  | interface (port : String)
  | name (arg : Arg)
  | noName
  | ipAddressDhcp
  | ipAddress (address netmask : String)
  | noIpAddress
  | untaggedVlan (id : ℕ)
  | taggedVlan (ids : List ℕ)
  | noTaggedVlan (id : ℕ)
  | noUntagged (ports : List String)
  | noTagged (ports : List String)
  | enable
  | disable
  | powerOverEthernet
  | noPowerOverEthernet
  | poeAllocateByClass
  | macNotify (trap : MacTrap)
  | noMacNotify (trap : MacTrap)
  | speedDuplex (speed : SpeedDuplex)
  | monitor
  | monitorAll (direction : MirrorDirection) (session : String)
  | mirrorPort (destination : String)
  | mirror (session destination : String)
  | noMirror (session : String)
  | snmpCommunity (name : String) (access : SnmpAccess)
  | noSnmpCommunity (name : String)
  | snmpHost (host community : String)
  | noSnmpHost (host : String)
  /-- The form that names the community as well. -/
  | noSnmpHostCommunity (host community : String)
  | enableTraps (trap : String)
  | noEnableTraps (trap : String)
  | managementVlan (id : ℕ)
  | noManagementVlan
  deriving DecidableEq, Repr

def speedText : SpeedDuplex → String
  | .auto => "auto"
  | .tenHalf => "10-half"
  | .tenFull => "10-full"
  | .hundredHalf => "100-half"
  | .hundredFull => "100-full"
  | .thousandFull => "1000-full"
  | .tenGFull => "10g-full"

def directionText : MirrorDirection → String
  | .rx => "in"
  | .tx => "out"
  | .both => "both"

def accessText : SnmpAccess → String
  | .unrestricted => "unrestricted"
  | .manager => "manager"
  | .operator => "operator"

def macTrapText : MacTrap → String
  | .learned => "learned"
  | .removed => "removed"

def commaSeparated (texts : List String) : Arg := .bare (",".intercalate texts)

namespace Command

def words : Command → List Arg
  | configureTerminal => [.bare "configure", .bare "terminal"]
  | exit => [.bare "exit"]
  | vlan id => [.bare "vlan", .number id]
  | noVlan id => [.bare "no", .bare "vlan", .number id]
  | interface port => [.bare "interface", .bare port]
  | name arg => [.bare "name", arg]
  | noName => [.bare "no", .bare "name"]
  | ipAddressDhcp => [.bare "ip", .bare "address", .bare "dhcp-bootp"]
  | ipAddress address netmask => [.bare "ip", .bare "address", .bare address, .bare netmask]
  | noIpAddress => [.bare "no", .bare "ip", .bare "address"]
  | untaggedVlan id => [.bare "untagged", .bare "vlan", .number id]
  | taggedVlan ids => [.bare "tagged", .bare "vlan", commaSeparated (ids.map toString)]
  | noTaggedVlan id => [.bare "no", .bare "tagged", .bare "vlan", .number id]
  | noUntagged ports => [.bare "no", .bare "untagged", commaSeparated ports]
  | noTagged ports => [.bare "no", .bare "tagged", commaSeparated ports]
  | enable => [.bare "enable"]
  | disable => [.bare "disable"]
  | powerOverEthernet => [.bare "power-over-ethernet"]
  | noPowerOverEthernet => [.bare "no", .bare "power-over-ethernet"]
  | poeAllocateByClass => [.bare "poe-allocate-by", .bare "class"]
  | macNotify trap => [.bare "mac-notify", .bare "traps", .bare (macTrapText trap)]
  | noMacNotify trap => [.bare "no", .bare "mac-notify", .bare "traps", .bare (macTrapText trap)]
  | speedDuplex speed => [.bare "speed-duplex", .bare (speedText speed)]
  | monitor => [.bare "monitor"]
  | monitorAll direction session =>
    [.bare "monitor", .bare "all", .bare (directionText direction), .bare "mirror", .bare session]
  | mirrorPort destination => [.bare "mirror-port", .bare destination]
  | mirror session destination =>
    [.bare "mirror", .bare session, .bare "port", .bare destination]
  | noMirror session => [.bare "no", .bare "mirror", .bare session]
  | snmpCommunity community access =>
    [.bare "snmp-server", .bare "community", .quoted community, .bare (accessText access)]
  | noSnmpCommunity community =>
    [.bare "no", .bare "snmp-server", .bare "community", .quoted community]
  | snmpHost host community =>
    [.bare "snmp-server", .bare "host", .bare host, .bare "community", .quoted community]
  | noSnmpHost host => [.bare "no", .bare "snmp-server", .bare "host", .bare host]
  | noSnmpHostCommunity host community => [.bare "no", .bare "snmp-server", .bare "host",
    .bare host, .bare "community", .quoted community]
  | enableTraps trap => [.bare "snmp-server", .bare "enable", .bare "traps", .bare trap]
  | noEnableTraps trap =>
    [.bare "no", .bare "snmp-server", .bare "enable", .bare "traps", .bare trap]
  | managementVlan id => [.bare "management-vlan", .number id]
  | noManagementVlan => [.bare "no", .bare "management-vlan"]

def text (command : Command) : String := render command.words

end Command

open Command

/-- What `configure_snmp` reads of the switch before it writes: its receivers, each with its
community unless the line does not parse, and the traps that are on. -/
structure ShownSnmp where
  receivers : List (String × Option String) := []
  traps : List TrapType := []
  deriving DecidableEq, Repr

structure ArubaSwitch where
  config : SwitchConfig
  currentState : Option SwitchState := none
  shownSnmp : ShownSnmp := {}
  deriving DecidableEq, Repr

namespace ArubaSwitch

variable (switch : ArubaSwitch)

def supportsPoe : Bool := switch.config.model.any SwitchModel.supportsPoe

def portSupportsPoe (portId : String) : Bool :=
  switch.config.model.any (·.portSupportsPoe portId)

def usesLegacyMirrorSyntax : Bool := switch.config.model.any SwitchModel.usesLegacyMirrorSyntax

/-- The port as it was last read. -/
def currentPort (portId : String) : Option Port :=
  switch.currentState.bind fun state => state.ports.find? (·.portId == portId)

end ArubaSwitch

/-- Generated commands are sent in configuration mode. -/
def configured (body : List Command) : List Command := configureTerminal :: (body ++ [exit])

/-! ## VLANs -/

/-- Names with a blank are quoted. -/
def nameArg (text : String) : Arg := if text.contains ' ' then .quoted text else .bare text

def ipCommand : VlanIpConfig → Command
  | .dhcp => ipAddressDhcp
  | .static address netmask => ipAddress address netmask
  | .none => noIpAddress

def vlanCommands (vlan : Vlan) : List Command :=
  [.vlan vlan.id, name (nameArg vlan.name), ipCommand vlan.ipConfig, exit]

def generateVlanCommands (vlans : List Vlan) : List Command :=
  configured (vlans.flatMap vlanCommands)

def generateRemoveVlanCommands (vlanIds : List ℕ) : List Command := configured (vlanIds.map noVlan)

/-! ## Ports -/

/-- "1/0/1" is "1". -/
def normalizePortId (portId : String) : String :=
  String.ofList (portId.toList.rtakeWhile (· != '/'))

def descriptionCommands (switch : ArubaSwitch) (port : Port) : List Command :=
  match port.description with
  | some desc => [name (.quoted desc)]
  | none =>
    -- only a name that was read is cleared
    if (switch.currentPort port.portId).any (·.description.isSome) then [noName] else []

def vlanMembershipCommands (switch : ArubaSwitch) (port : Port) : List Command :=
  let currentTagged := (switch.currentPort port.portId).elim [] Diff.taggedWithoutNative
  match port.inferredMode with
  | .access => untaggedVlan port.vlan :: currentTagged.map noTaggedVlan
  | .trunk =>
    let desiredTagged := Diff.taggedWithoutNative port
    untaggedVlan port.vlan :: (currentTagged.filter (· ∉ desiredTagged)).map noTaggedVlan ++
      if desiredTagged.isEmpty then [] else [taggedVlan desiredTagged]

def poeCommands (switch : ArubaSwitch) (port : Port) : List Command :=
  if switch.supportsPoe then
    if port.poeEnabled && switch.portSupportsPoe port.portId then
      [powerOverEthernet, poeAllocateByClass]
    else [noPowerOverEthernet]
  else []

def macNotifyCommands (port : Port) : List Command :=
  if port.macNotify then [macNotify .learned, macNotify .removed]
  else [noMacNotify .learned, noMacNotify .removed]

/-- The sessions that a port is a source of, in the order of the mirrors. -/
def mirrorSources (mirrors : List PortMirror) (interface : String) :
    List (String × MirrorDirection) :=
  mirrors.flatMap fun mirror =>
    (mirror.sourcePorts.filter (normalizePortId · == interface)).map fun _ =>
      (mirror.sessionId, mirror.direction)

def monitorCommands (switch : ArubaSwitch) (mirrors : List PortMirror) (interface : String) :
    List Command :=
  let sources := mirrorSources mirrors interface
  if switch.usesLegacyMirrorSyntax then
    -- one session only
    if sources.isEmpty then [] else [monitor]
  else sources.map fun source => monitorAll source.2 source.1

def portCommands (switch : ArubaSwitch) (mirrors : List PortMirror) (port : Port) :
    List Command :=
  let interface := normalizePortId port.portId
  [.interface interface] ++ descriptionCommands switch port ++
    vlanMembershipCommands switch port ++ [if port.enabled then enable else disable] ++
    poeCommands switch port ++ macNotifyCommands port ++ [speedDuplex port.speedDuplex] ++
    monitorCommands switch mirrors interface ++ [exit]

def generatePortCommands (switch : ArubaSwitch) (ports : List Port) (mirrors : List PortMirror) :
    List Command :=
  configured (ports.flatMap (portCommands switch mirrors))

def resetPort (switch : ArubaSwitch) (portId : String) : List Command :=
  [.interface (normalizePortId portId), disable, noName, untaggedVlan 1] ++
    ((switch.currentPort portId).elim [] Diff.taggedWithoutNative).map noTaggedVlan ++
    [noMacNotify .learned, noMacNotify .removed] ++
    (if switch.supportsPoe then [poeAllocateByClass] else []) ++ [exit]

def resetPorts (switch : ArubaSwitch) (portIds : List String) : List Command :=
  configured (portIds.flatMap (resetPort switch))

def configureMirrorDestPorts (portIds : List String) : List Command :=
  configured (portIds.flatMap fun portId =>
    [.interface (normalizePortId portId), disable, untaggedVlan 1, noName, enable, exit])

/-- The power of one port, switched off or on by hand. -/
def poeDisableCommands (portId : String) : List Command :=
  configured [.interface (normalizePortId portId), noPowerOverEthernet, exit]

def poeEnableCommands (portId : String) : List Command :=
  configured [.interface (normalizePortId portId), powerOverEthernet, exit]

/-! ## Migrations -/

/-- The ports to take out of one removed VLAN: the untagged ones and the tagged ones. -/
abbrev VlanMembers := List String × List String

/-- The ports of the migrations from one VLAN. -/
def portsLeaving (migrations : List PortMigration) (id : ℕ) (untagged : Bool) : List String :=
  (migrations.filter fun migration => migration.vlanBeingRemoved == id &&
    (migration.action == .moveAccessToVlan1) == untagged).map (·.portId)

/-- Migrations grouped by VLAN: a hash map of the source,
  so the order of the VLANs means nothing. -/
def groupMigrations (migrations : List PortMigration) : List (ℕ × VlanMembers) :=
  (migrations.map (·.vlanBeingRemoved)).dedup.map fun id =>
    (id, (portsLeaving migrations id true, portsLeaving migrations id false))

def cleanVlan (group : ℕ × VlanMembers) : List Command :=
  [.vlan group.1] ++ (if group.2.1.isEmpty then [] else [noUntagged group.2.1]) ++
    (if group.2.2.isEmpty then [] else [noTagged group.2.2]) ++ [exit]

def migratePortsBeforeVlanDeletion (migrations : List PortMigration) : List Command :=
  configured ((groupMigrations migrations).flatMap cleanVlan)

/-- VLAN 1 is never removed. -/
def removeVlans (switch : ArubaSwitch) (vlanIds : List ℕ) : Steps Command :=
  let vlansToRemove := vlanIds.filter (· != 1)
  if vlansToRemove.isEmpty then []
  else
    (match switch.currentState with
      | some current =>
        Steps.ifAny (Diff.findPortsToMigrate current vlansToRemove) migratePortsBeforeVlanDeletion
      | none => []) ++
    [.ok (generateRemoveVlanCommands vlansToRemove)]

/-! ## Mirrors -/

def mirrorCommand (switch : ArubaSwitch) (portMirror : PortMirror) : Command :=
  let destination := normalizePortId portMirror.destinationPort
  if switch.usesLegacyMirrorSyntax then mirrorPort destination
  else mirror portMirror.sessionId destination

def generateMirrorCommands (switch : ArubaSwitch) (mirrors : List PortMirror) : List Command :=
  configured (mirrors.map (mirrorCommand switch))

def generateRemoveMirrorCommands (sessionIds : List String) : List Command :=
  configured (sessionIds.map noMirror)

/-! ## SNMP -/

def trapText : TrapType → String
  | .macNotify => "mac-notify"
  | .linkChange => "link-change all"
  | .all => "all"

def communityCommand (community : SnmpCommunity) : Command :=
  snmpCommunity community.name community.access

def receiverCommand (receiver : SnmpTrapReceiver) : Command :=
  snmpHost receiver.host receiver.community

def generateSnmpCommands (snmp : SnmpConfig) (currentTraps : List TrapType) : List Command :=
  configured (((currentTraps.filter (· ∉ snmp.enabledTraps)).map (noEnableTraps <| trapText ·)) ++
    [noSnmpCommunity "public", noSnmpCommunity "private"] ++
    snmp.communities.map communityCommand ++ snmp.trapReceivers.map receiverCommand ++
    snmp.enabledTraps.map (enableTraps <| trapText ·))

def removeReceiver : String × Option String → Command
  | (host, some community) => noSnmpHostCommunity host community
  | (host, none) => noSnmpHost host

/-- Full replacement: the receivers that are there go first. -/
def configureSnmp (switch : ArubaSwitch) (snmp : SnmpConfig) : List Command :=
  (if switch.shownSnmp.receivers.isEmpty then []
    else configured (switch.shownSnmp.receivers.map removeReceiver)) ++
  generateSnmpCommands snmp switch.shownSnmp.traps

def enableTrapCommands : TrapType → List Command
  | .macNotify => [enableTraps "mac-notify"]
  | .linkChange => [enableTraps "link-change all"]
  | .all => [enableTraps "mac-notify", enableTraps "link-change all"]

def disableTrapCommands : TrapType → List Command
  | .macNotify => [noEnableTraps "mac-notify"]
  | .linkChange => [noEnableTraps "link-change"]
  | .all => [noEnableTraps "mac-notify", noEnableTraps "link-change"]

def applySnmpDiff (diff : SnmpStateDiff) : List Command :=
  if !diff.hasChanges then []
  else configured (diff.communitiesToRemove.map noSnmpCommunity ++
    diff.communitiesToUpdate.flatMap (fun community =>
      [noSnmpCommunity community.name, communityCommand community]) ++
    diff.communitiesToAdd.map communityCommand ++
    diff.trapReceiversToRemove.map noSnmpHost ++
    diff.trapReceiversToAdd.map receiverCommand ++
    diff.trapsToEnable.flatMap enableTrapCommands ++
    diff.trapsToDisable.flatMap disableTrapCommands)

/-! ## A diff -/

def configureManagementVlan (vlanId : ℕ) : List Command := configured [managementVlan vlanId]

def removeManagementVlan : List Command := configured [noManagementVlan]

def snmpSteps (switch : ArubaSwitch) (diff : StateDiff) : Steps Command :=
  Steps.snmp (fun snmpDiff => .ok (applySnmpDiff snmpDiff)) (fun snmp =>
    .ok (configureSnmp switch snmp)) diff

def managementVlanSteps (diff : StateDiff) : Steps Command :=
  Steps.managementVlan (fun vlanId =>
    .ok (configureManagementVlan vlanId)) removeManagementVlan diff

/-- What follows on the removal of VLANs. -/
def laterSteps (switch : ArubaSwitch) (diff : StateDiff) : Steps Command :=
  Steps.ifAny diff.vlansToAdd generateVlanCommands ++
  Steps.ifAny diff.vlansToUpdate generateVlanCommands ++
  Steps.ifAny diff.portsToConfigure
    (fun ports => generatePortCommands switch ports switch.config.portMirrors) ++
  Steps.ifAny diff.portsToReset (resetPorts switch) ++
  Steps.ifAny diff.mirrorDestPortsToConfigure configureMirrorDestPorts ++
  Steps.ifAny diff.mirrorsToRemove generateRemoveMirrorCommands ++
  Steps.ifAny diff.mirrorsToAdd (generateMirrorCommands switch) ++
  Steps.ifAny diff.mirrorsToUpdate (generateMirrorCommands switch) ++
  snmpSteps switch diff ++ managementVlanSteps diff

def applyDiff (switch : ArubaSwitch) (diff : StateDiff) : Steps Command :=
  removeVlans switch diff.vlansToRemove ++ laterSteps switch diff

end SwitchConfigurator.Aruba
