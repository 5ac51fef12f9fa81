import SwitchConfigurator.Config.AllowedHosts
import SwitchConfigurator.Diff
import SwitchConfigurator.Foundations.BlockCli
import SwitchConfigurator.Foundations.RelatedLists
import SwitchConfigurator.Vendors.Capabilities
import SwitchConfigurator.Vendors.Traits

/-!
# FortiSwitch commands

The command generators of `vendors/fortiswitch.rs`, its `apply_diff` and the two conversions of
`allowed_hosts.rs` that they rely on.
-/

namespace SwitchConfigurator.Fortiswitch

open Cli RelatedLists

/-! ## Managers as the command line has them -/

/-- A 32-bit number as the text of an IPv4 address. -/
def dotted (n : ℕ) : String :=
  s!"{n / 2 ^ 24 % 256}.{n / 2 ^ 16 % 256}.{n / 2 ^ 8 % 256}.{n % 256}"

/-- The netmask of a prefix length. -/
def netmask (length : ℕ) : ℕ := 2 ^ 32 - 2 ^ (32 - length)

/-- Address and netmask of a manager. -/
def hostToFortios : AllowedHost → Except String (String × String)
  | .auto => .error "allowed_hosts 'auto' was not resolved to an address"
  | .network network =>
    let text := network.toList
    let addr := text.takeWhile (· != '/')
    match parseIpAddr addr with
    | none => .error s!"'{network}' is not an IP address or network"
    | some .v6 => .error s!"IPv6 manager '{network}' is not supported on FortiSwitch yet (only IPv4)"
    | some .v4 =>
      let length :=
        if text.contains '/' then parseUint 32 ((text.dropWhile (· != '/')).drop 1) else some 32
      match length with
      | none => .error s!"invalid prefix length in '{network}'"
      | some length =>
        if length > 32 then .error s!"invalid prefix length in '{network}'"
        -- An address has one spelling, so printing it gives the text that was read.
        else .ok (String.ofList addr, dotted (netmask length))

/-! ## The switch object -/

/-- The interface address that owns the management IP, and the access it allows. -/
structure MgmtAccess where
  interface : String
  secondaryIndex : Option ℕ
  allowaccess : List String
  deriving DecidableEq, Repr

/-- The switch as the vendor code knows it; all but the config comes from the last state read. -/
structure FortiswitchSwitch where
  config : SwitchConfig
  snmpCommunityIndices : List (String × ℕ) := []
  snmpSysinfoEnabled : Option Bool := none
  mgmtAccess : Option MgmtAccess := none
  deriving DecidableEq, Repr

/-! ## VLANs -/

/-- The address settings of an interface; both kinds of address allow ping only. -/
def ipCommands : VlanIpConfig → List Line
  | .dhcp => [.set "mode" [.bare "dhcp"], .set "allowaccess" [.bare "ping"]]
  | .static address netmask =>
    [.set "ip" [.bare address, .bare netmask], .set "allowaccess" [.bare "ping"]]
  | .none => []

def vlanInterface (id : ℕ) : String := "vlan" ++ toString id

/-- Every VLAN has its own interface. -/
theorem vlanInterface_injective : Function.Injective vlanInterface := fun _ _ h =>
  toString_injective ((String.append_right_inj "vlan").mp h)

def sviSettings (vlan : Vlan) : List Line :=
  [.set "vlanid" [.number vlan.id]] ++
    (vlan.description.toList.map fun desc => .set "description" [.quoted desc]) ++
    [.set "type" [.bare "vlan"], .set "interface" [.bare "internal"]] ++ ipCommands vlan.ipConfig

def sviCommands (vlan : Vlan) : List Line :=
  block "system interface" (entry (.bare (vlanInterface vlan.id)) (sviSettings vlan))

def needsSvi (vlan : Vlan) : Bool := vlan.ipConfig != .none

def generateVlanCommands (vlans : List Vlan) : List Line :=
  block "switch vlan" (vlans.flatMap fun vlan => entry (.number vlan.id) []) ++
    (vlans.filter needsSvi).flatMap sviCommands

def generateRemoveVlanCommands (vlanIds : List ℕ) : List Line :=
  block "switch vlan" (vlanIds.map fun id => .delete (toString id))

/-! ## Ports -/

/-- "1/0/1" and "1" are "port1". -/
def normalizePortId (portId : String) : String :=
  if portId.startsWith "port" then portId
  else "port" ++ String.ofList (portId.toList.rtakeWhile (· != '/'))

def convertSpeed : SpeedDuplex → String
  | .auto => "auto"
  | .tenHalf => "10half"
  | .tenFull => "10full"
  | .hundredHalf => "100half"
  | .hundredFull => "100full"
  | .thousandFull => "1000full"
  | .tenGFull => "10000full"

def vlanSettings (port : Port) : List Line :=
  match port.inferredMode with
  | .access =>
    [.set "native-vlan" [.number port.vlan], .set "allowed-vlans" [.number port.vlan],
      .set "untagged-vlans" [.number port.vlan]]
  | .trunk =>
    [.set "native-vlan" [.number port.vlan]] ++
      (if port.taggedVlans.isEmpty then []
        else [.set "allowed-vlans" (port.taggedVlans.map .number)]) ++
      [.set "untagged-vlans" [.number port.vlan]]

def portInterfaceCommands (port : Port) : List Line :=
  entry (.bare (normalizePortId port.portId))
    ((port.description.toList.map fun desc => .set "description" [.quoted desc]) ++
      vlanSettings port)

def physicalPortCommands (port : Port) : List Line :=
  entry (.bare (normalizePortId port.portId))
    [.set "status" [.bare (if port.enabled then "up" else "down")],
      .set "poe-status" [.bare (if port.poeEnabled then "enable" else "disable")],
      .set "speed" [.bare (convertSpeed port.speedDuplex)]]

def generatePortCommands (ports : List Port) : List Line :=
  block "switch interface" (ports.flatMap portInterfaceCommands) ++
    block "switch physical-port" (ports.flatMap physicalPortCommands)

def resetPort (portId : String) : List Line :=
  entry (.bare (normalizePortId portId))
    [.unset "description", .set "native-vlan" [.number 1], .set "allowed-vlans" [.number 1],
      .set "default-cos" [.number 0], .set "poe-status" [.bare "enable"],
      .set "admin" [.bare "down"]]

def resetPorts (portIds : List String) : List Line :=
  block "switch interface" (portIds.flatMap resetPort)

def configureMirrorDestPorts (portIds : List String) : List Line :=
  block "switch physical-port" (portIds.flatMap fun portId =>
    entry (.bare (normalizePortId portId)) [.set "status" [.bare "up"]])

/-- The power of one port, switched off or on by hand. -/
def poeDisableCommands (portId : String) : List Line :=
  block "switch physical-port" (entry (.bare (normalizePortId portId))
    [.set "poe-status" [.bare "disable"]])

def poeEnableCommands (portId : String) : List Line :=
  block "switch physical-port" (entry (.bare (normalizePortId portId))
    [.set "poe-status" [.bare "enable"]])

/-! ## Mirrors -/

def sourceCommands (direction : MirrorDirection) (sources : List Arg) : List Line :=
  match direction with
  | .rx => [.set "src-ingress" sources]
  | .tx => [.set "src-egress" sources]
  | .both => [.set "src-ingress" sources, .set "src-egress" sources]

/-- The sources behind their blank, which is sent without any source as well. -/
def sourceArgs (sources : List String) : List Arg :=
  if sources.isEmpty then [.bare ""]
  else sources.map fun source => .bare (normalizePortId source)

def mirrorCommands (mirror : PortMirror) : List Line :=
  entry (.bare mirror.sessionId)
    ([.set "status" [.bare "active"],
      .set "dst" [.bare (normalizePortId mirror.destinationPort)]] ++
      sourceCommands mirror.direction (sourceArgs mirror.sourcePorts))

def generateMirrorCommands (mirrors : List PortMirror) : List Line :=
  block "switch mirror" (mirrors.flatMap mirrorCommands)

def generateRemoveMirrorCommands (sessionIds : List String) : List Line :=
  block "switch mirror" (sessionIds.map .delete)

/-! ## SNMP -/

def accessLocation (access : MgmtAccess) : Location :=
  match access.secondaryIndex with
  | some index =>
    [("secondaryip", toString index), ("system interface", access.interface)]
  | none => [("system interface", access.interface)]

/-- Rewrite the access of an address with `snmp` added to it. -/
def allowSnmp (access : MgmtAccess) : List Line :=
  let setAccess : Line := .set "allowaccess" ((access.allowaccess ++ ["snmp"]).map .bare)
  block "system interface" (entry (.quoted access.interface)
    (match access.secondaryIndex with
      | some index => block "secondaryip" (entry (.number index) [setAccess])
      | none => [setAccess]))

/-- What SNMP queries to the management IP need before they are answered. -/
def snmpPrerequisiteCommands (sysinfoEnabled : Option Bool) (access : Option MgmtAccess) :
    List Line :=
  (if sysinfoEnabled != some true then
    block "system snmp sysinfo" [.set "status" [.bare "enable"]] else []) ++
  match access with
  | some access => if "snmp" ∈ access.allowaccess then [] else allowSnmp access
  | none => []

/-- The lowest index from 100 up that is not taken. -/
def freeSnmpIndex (occupied : List ℕ) : ℕ :=
  ((List.range' 100 (occupied.length + 1)).find? (· ∉ occupied)).getD 100

/-- A free index is at least 100. -/
theorem le_freeSnmpIndex (occupied : List ℕ) : 100 ≤ freeSnmpIndex occupied := by
  rw [freeSnmpIndex]
  cases hfind : (List.range' 100 (occupied.length + 1)).find? (· ∉ occupied) with
  | none => exact le_rfl
  | some n => exact (List.mem_range'_1.mp (List.mem_of_find?_eq_some hfind)).1

def maxSnmpCommunities : ℕ := 3

def hostCommands (n : ℕ) (host : String × String) : List Line :=
  entry (.number (n + 1)) [.set "ip" [.bare host.1, .bare host.2]]

/-- The entry of a community. The managers of one that has any are listed in `config hosts`, and
it sends no traps, since the same table also holds trap receivers. -/
def communityEntry (index : ℕ) (name : String) (hosts : List (String × String)) : List Line :=
  let traps := if hosts.isEmpty then "enable" else "disable"
  entry (.number index)
    ([.set "name" [.quoted name], .set "status" [.bare "enable"],
      .set "query-v1-status" [.bare "enable"], .set "query-v2c-status" [.bare "enable"],
      .set "trap-v1-status" [.bare traps], .set "trap-v2c-status" [.bare traps]] ++
      if hosts.isEmpty then []
      else block "hosts" (hosts.mapIdx hostCommands).flatten)

/-- One `edit … next` entry for a community. -/
def snmpCommunityBlock (index : ℕ) (community : SnmpCommunity) :
    Except VendorError (List Line) := do
  let hosts ← (community.allowedHosts.mapM hostToFortios).mapError .validationError
  return communityEntry index community.name hosts

/-- The part of a community's entry after its query settings; empty without managers. -/
def snmpAllowedHostsCommands (community : SnmpCommunity) : List Line :=
  if community.allowedHosts.isEmpty then []
  else match snmpCommunityBlock 0 community with
    | .ok commands =>
      (commands.dropWhile (· != .set "trap-v1-status" [.bare "disable"])).dropLast
    | .error _ => []

/-- How many communities fit, and that every manager is one this command line can express. -/
def checkSnmpLimits (snmp : SnmpConfig) : Except VendorError Unit :=
  if snmp.communities.length > maxSnmpCommunities then
    .error (.validationError s!"FortiSwitch holds at most {maxSnmpCommunities} SNMP communities, {snmp.communities.length} are configured (counting any the service adds itself)")
  else snmp.communities.forM fun community => (fun _ => ()) <$> snmpCommunityBlock 0 community

def convertTrapType : TrapType → String
  | .macNotify => "mac-notify"
  | .linkChange => "link-up-down"
  | .all => "all"

/-- A trap receiver as an entry of `config hosts`. -/
def receiverCommands (index : ℕ) (receiver : SnmpTrapReceiver) : List Line :=
  entry (.number index) [.set "ip" [.bare receiver.host], .set "interface" [.bare "internal"]]

def queryCommands (community : SnmpCommunity) : List Line :=
  [.set "name" [.quoted community.name], .set "status" [.bare "enable"],
    .set "query-v1-status" [.bare "enable"], .set "query-v2c-status" [.bare "enable"]]

/-- The entry of a community that the full generator writes without trap receivers. -/
def plainCommunity (index : ℕ) (community : SnmpCommunity) : List Line :=
  entry (.number index) (queryCommands community ++ snmpAllowedHostsCommands community)

def generateSnmpCommands (snmp : SnmpConfig) : List Line :=
  block "system snmp community" (match snmp.trapReceivers, snmp.communities with
    | _ :: _, community :: rest =>
      -- The first community has all trap receivers.
      entry (.number 1) (queryCommands community ++
        [.set "trap-v1-status" [.bare "enable"], .set "trap-v2c-status" [.bare "enable"]] ++
        (if snmp.enabledTraps.isEmpty then []
          else [.set "events" (snmp.enabledTraps.map fun trap => .bare (convertTrapType trap))]) ++
        block "hosts" (snmp.trapReceivers.mapIdx fun i receiver =>
          receiverCommands (i + 1) receiver).flatten) ++
      (rest.mapIdx fun i community => plainCommunity (i + 2) community).flatten
    | _, communities =>
      (communities.mapIdx fun i community => plainCommunity (i + 1) community).flatten)

def configureSnmp (switch : FortiswitchSwitch) (snmp : SnmpConfig) :
    Except VendorError (List Line) := do
  checkSnmpLimits snmp
  return (if snmp.communities.isEmpty then []
    else snmpPrerequisiteCommands switch.snmpSysinfoEnabled switch.mgmtAccess) ++
    generateSnmpCommands snmp

/-! ### Granular changes -/

/-- The loop over the communities to remove: by recorded index, or by name where none is. -/
def removeCommunities (indices : List (String × ℕ)) :
    List String → List ℕ → List Line × List ℕ
  | [], occupied => ([], occupied)
  | name :: names, occupied =>
    match indices.lookup name with
    | some index =>
      let (commands, occupied) := removeCommunities indices names (occupied.filter (· != index))
      (.delete (toString index) :: commands, occupied)
    | none =>
      let (commands, occupied) := removeCommunities indices names occupied
      (.delete name :: commands, occupied)

/-- The loop over the communities to update: each is deleted and written again at its index. -/
def updateCommunities (indices : List (String × ℕ)) :
    List SnmpCommunity → List ℕ → Except VendorError (List Line × List ℕ)
  | [], occupied => .ok ([], occupied)
  | community :: rest, occupied =>
    match indices.lookup community.name with
    | some index => do
      let commands ← snmpCommunityBlock index community
      let (others, occupied) ← updateCommunities indices rest occupied
      return (.delete (toString index) :: commands ++ others, occupied)
    | none => do
      -- not on the switch under that name
      let free := freeSnmpIndex occupied
      let commands ← snmpCommunityBlock free community
      let (others, occupied) ← updateCommunities indices rest (free :: occupied)
      return (commands ++ others, occupied)

/-- The loop over the communities to add, each at a free index. -/
def addCommunities : List SnmpCommunity → List ℕ → Except VendorError (List Line)
  | [], _ => .ok []
  | community :: rest, occupied => do
    let free := freeSnmpIndex occupied
    let commands ← snmpCommunityBlock free community
    let others ← addCommunities rest (free :: occupied)
    return commands ++ others

/-- The changes of the community table. -/
def communityCommands (indices : List (String × ℕ)) (diff : SnmpStateDiff) :
    Except VendorError (List Line) := do
  let (removes, occupied) := removeCommunities indices diff.communitiesToRemove
    (indices.map Prod.snd)
  let (updates, occupied) ← updateCommunities indices diff.communitiesToUpdate occupied
  let adds ← addCommunities diff.communitiesToAdd occupied
  return block "system snmp community" (removes ++ updates ++ adds)

/-- Lines in the `config hosts` table of community 1. -/
def inFirstHosts (body : List Line) : List Line :=
  block "system snmp community" (entry (.number 1) (block "hosts" body))

/-- The changes of the trap receivers; the enabled traps have no command of their own. -/
def receiverChanges (diff : SnmpStateDiff) : List Line :=
  (if diff.trapReceiversToAdd.isEmpty then []
    else inFirstHosts (diff.trapReceiversToAdd.mapIdx fun i receiver =>
      receiverCommands (100 + i) receiver).flatten) ++
  diff.trapReceiversToRemove.flatMap fun host => inFirstHosts [.delete host]

/-- The limits of the whole desired configuration, before anything of it is changed. -/
def checkDesiredLimits (config : SwitchConfig) : Except VendorError Unit :=
  match effectiveSnmp config with
  | some desired => checkSnmpLimits desired
  | none => .ok ()

def applySnmpDiff (switch : FortiswitchSwitch) (diff : SnmpStateDiff) :
    Except VendorError (List Line) :=
  if !diff.hasChanges then .ok []
  else do
    checkDesiredLimits switch.config
    let communities ← communityCommands switch.snmpCommunityIndices diff
    return (if diff.communitiesToAdd.isEmpty && diff.communitiesToUpdate.isEmpty then []
        else snmpPrerequisiteCommands switch.snmpSysinfoEnabled switch.mgmtAccess) ++
      communities ++ receiverChanges diff

/-! ## The management VLAN -/

def managementIpCommands : VlanIpConfig → List Line
  | .static address netmask => [.set "ip" [.bare address, .bare netmask]]
  | .dhcp => [.set "mode" [.bare "dhcp"]]
  | .none => []

def managementSettings (vlan : Vlan) : List Line :=
  [.set "vlanid" [.number vlan.id],
    .set "description" [.quoted "Management VLAN with allowaccess"],
    .set "type" [.bare "vlan"], .set "interface" [.bare "internal"]] ++
    managementIpCommands vlan.ipConfig ++
    [.set "allowaccess" [.bare "ping", .bare "https", .bare "ssh", .bare "snmp"]]

def configureManagementVlan (switch : FortiswitchSwitch) (vlanId : ℕ) :
    Except VendorError (List Line) :=
  match switch.config.vlans.find? (·.id == vlanId) with
  | none => .error (.validationError
      s!"Management VLAN {vlanId} not found in VLAN configuration")
  | some vlan => .ok (block "system interface"
      (entry (.bare (vlanInterface vlanId)) (managementSettings vlan)))

/-- Which VLAN it was is not known here, so nothing is sent. -/
def removeManagementVlan : List Line := []

/-! ## A diff -/

def snmpSteps (switch : FortiswitchSwitch) (diff : StateDiff) : Steps Line :=
  Steps.snmp (applySnmpDiff switch) (configureSnmp switch) diff

def managementVlanSteps (switch : FortiswitchSwitch) (diff : StateDiff) : Steps Line :=
  Steps.managementVlan (configureManagementVlan switch) removeManagementVlan diff

/-- What follows on the VLANs. -/
def laterSteps (switch : FortiswitchSwitch) (diff : StateDiff) : Steps Line :=
  Steps.ifAny diff.portsToConfigure generatePortCommands ++
  Steps.ifAny diff.portsToReset resetPorts ++
  Steps.ifAny diff.mirrorDestPortsToConfigure configureMirrorDestPorts ++
  Steps.ifAny diff.mirrorsToRemove generateRemoveMirrorCommands ++
  Steps.ifAny diff.mirrorsToAdd generateMirrorCommands ++
  Steps.ifAny diff.mirrorsToUpdate generateMirrorCommands ++
  snmpSteps switch diff ++ managementVlanSteps switch diff

def vlanSteps (diff : StateDiff) : Steps Line :=
  Steps.ifAny diff.vlansToRemove generateRemoveVlanCommands ++
  Steps.ifAny diff.vlansToAdd generateVlanCommands ++
  Steps.ifAny diff.vlansToUpdate generateVlanCommands

def applyDiff (switch : FortiswitchSwitch) (diff : StateDiff) : Steps Line :=
  vlanSteps diff ++ laterSteps switch diff

/-! ## The shape of the commands -/

theorem sviSettings_set {vlan : Vlan} :
    ∀ line ∈ sviSettings vlan, ∃ field args, line = .set field args := by
  intro line h
  simp only [sviSettings, List.mem_append, List.mem_map, List.mem_cons, List.not_mem_nil,
    or_false] at h
  rcases h with ((rfl | ⟨desc, -, rfl⟩) | rfl | rfl) | h
  · exact ⟨_, _, rfl⟩
  · exact ⟨_, _, rfl⟩
  · exact ⟨_, _, rfl⟩
  · exact ⟨_, _, rfl⟩
  · cases hip : vlan.ipConfig with
    | none =>
      rw [hip] at h
      cases h
    | dhcp =>
      rw [hip, ipCommands, List.mem_pair] at h
      rcases h with rfl | rfl <;> exact ⟨_, _, rfl⟩
    | static address netmask =>
      rw [hip, ipCommands, List.mem_pair] at h
      rcases h with rfl | rfl <;> exact ⟨_, _, rfl⟩


theorem balanced_vlanSettings {port : Port} : Balanced (vlanSettings port) := by
  apply Balanced.of_plain
  rw [vlanSettings]
  split
  · simp [Line.IsPlain]
  · split <;> simp [Line.IsPlain]

theorem balanced_portInterfaceCommands {port : Port} : Balanced (portInterfaceCommands port) := by
  refine Balanced.of_entry (Balanced.append (Balanced.of_plain ?_) balanced_vlanSettings)
  simp [Line.IsPlain]

theorem balanced_physicalPortCommands {port : Port} : Balanced (physicalPortCommands port) :=
  Balanced.of_entry (Balanced.of_plain (by simp [Line.IsPlain]))

theorem balanced_resetPort {portId : String} : Balanced (resetPort portId) :=
  Balanced.of_entry (Balanced.of_plain (by simp [Line.IsPlain]))

theorem balanced_mirrorCommands {mirror : PortMirror} : Balanced (mirrorCommands mirror) := by
  refine Balanced.of_entry (Balanced.of_plain ?_)
  cases hdir : mirror.direction <;> simp [sourceCommands, Line.IsPlain]

/-- Balanced parts under their indices are balanced. -/
theorem balanced_indexed {α : Type} {commands : ℕ → α → List Line} {l : List α}
    (h : ∀ i a, Balanced (commands i a)) : Balanced (l.mapIdx commands).flatten := by
  rw [List.flatten_eq_flatMap]
  apply Balanced.flatMap
  intro lines hlines
  obtain ⟨i, hi, rfl⟩ := List.mem_mapIdx.mp hlines
  exact h i _

theorem balanced_receiverCommands {index : ℕ} {receiver : SnmpTrapReceiver} :
    Balanced (receiverCommands index receiver) :=
  Balanced.of_entry (Balanced.of_plain (by simp [Line.IsPlain]))

theorem exists_communityEntry {index : ℕ} {name : String} {hosts : List (String × String)} :
    ∃ body, Balanced body ∧ communityEntry index name hosts = entry (.number index) body := by
  refine ⟨_, Balanced.append (Balanced.of_plain (by simp [Line.IsPlain])) ?_, rfl⟩
  split
  · exact .nil
  · exact Balanced.of_block (balanced_indexed fun _ _ =>
      Balanced.of_entry (Balanced.of_plain (by simp [Line.IsPlain])))

theorem balanced_communityEntry {index : ℕ} {name : String} {hosts : List (String × String)} :
    Balanced (communityEntry index name hosts) := by
  obtain ⟨body, hbody, hentry⟩ := exists_communityEntry
  rw [hentry]
  exact Balanced.of_entry hbody

/-- A community is written exactly if its hosts fit. -/
theorem snmpCommunityBlock_ok_iff {index : ℕ} {community : SnmpCommunity} {lines : List Line} :
    snmpCommunityBlock index community = .ok lines ↔
      ∃ hosts, community.allowedHosts.mapM hostToFortios = .ok hosts ∧
        lines = communityEntry index community.name hosts := by
  rw [snmpCommunityBlock]
  cases community.allowedHosts.mapM hostToFortios with
  | error e =>
    constructor
    · intro h
      cases h
    · rintro ⟨hosts, h, -⟩
      cases h
  | ok hosts =>
    constructor
    · intro h
      exact ⟨hosts, rfl, (Except.ok.inj h).symm⟩
    · rintro ⟨hosts', h, rfl⟩
      rw [Except.ok.inj h]
      rfl

/-- Does the command line have a form for every manager of a community? -/
def hostsFit (community : SnmpCommunity) : Bool :=
  community.allowedHosts.all fun host => (hostToFortios host).isOk

/-- Hosts fit exactly if each can be written. -/
theorem hostsFit_iff {community : SnmpCommunity} : hostsFit community = true ↔
    ∃ hosts, community.allowedHosts.mapM hostToFortios = .ok hosts := by
  rw [hostsFit, List.all_eq_true]
  simp only [mapM_ok_iff]
  constructor
  · intro h
    generalize community.allowedHosts = allowed at h
    induction allowed with
    | nil => exact ⟨[], .nil⟩
    | cons host rest ih =>
      obtain ⟨hhost, hrest⟩ := List.forall_mem_cons.mp h
      obtain ⟨hosts, hhosts⟩ := ih hrest
      cases hfirst : hostToFortios host with
      | error e =>
        rw [hfirst] at hhost
        cases hhost
      | ok first => exact ⟨first :: hosts, .cons hfirst hhosts⟩
  · rintro ⟨hosts, hhosts⟩ host hhost
    obtain ⟨pair, -, hpair⟩ := exists_of_mem_left hhosts hhost
    rw [hpair]
    rfl

theorem exists_snmpCommunityBlock_iff (index : ℕ) {community : SnmpCommunity} :
    (∃ lines, snmpCommunityBlock index community = .ok lines) ↔ hostsFit community = true := by
  rw [hostsFit_iff]
  constructor
  · rintro ⟨lines, h⟩
    obtain ⟨hosts, hhosts, -⟩ := snmpCommunityBlock_ok_iff.mp h
    exact ⟨hosts, hhosts⟩
  · rintro ⟨hosts, hhosts⟩
    exact ⟨_, snmpCommunityBlock_ok_iff.mpr ⟨hosts, hhosts, rfl⟩⟩

/-- Communities are updated exactly if all hosts fit. -/
theorem exists_updateCommunities_iff {indices : List (String × ℕ)}
    {communities : List SnmpCommunity} {occupied : List ℕ} :
    (∃ result, updateCommunities indices communities occupied = .ok result) ↔
      ∀ community ∈ communities, hostsFit community = true := by
  induction communities generalizing occupied with
  | nil => simp [updateCommunities]
  | cons community rest ih =>
    rw [List.forall_mem_cons, updateCommunities]
    split
    · next index _ =>
      rw [← exists_snmpCommunityBlock_iff index, ← ih]
      constructor
      · rintro ⟨result, h⟩
        obtain ⟨commands, hcommands, h⟩ := bind_ok_iff.mp h
        obtain ⟨others, hothers, -⟩ := bind_ok_iff.mp h
        exact ⟨⟨commands, hcommands⟩, others, hothers⟩
      · rintro ⟨⟨commands, hcommands⟩, others, hothers⟩
        exact ⟨_, bind_ok_iff.mpr ⟨commands, hcommands, bind_ok_iff.mpr ⟨others, hothers, rfl⟩⟩⟩
    · rw [← exists_snmpCommunityBlock_iff (freeSnmpIndex occupied), ← ih]
      constructor
      · rintro ⟨result, h⟩
        obtain ⟨commands, hcommands, h⟩ := bind_ok_iff.mp h
        obtain ⟨others, hothers, -⟩ := bind_ok_iff.mp h
        exact ⟨⟨commands, hcommands⟩, others, hothers⟩
      · rintro ⟨⟨commands, hcommands⟩, others, hothers⟩
        exact ⟨_, bind_ok_iff.mpr ⟨commands, hcommands, bind_ok_iff.mpr ⟨others, hothers, rfl⟩⟩⟩

/-- They are added exactly if all hosts fit. -/
theorem exists_addCommunities_iff {communities : List SnmpCommunity} {occupied : List ℕ} :
    (∃ lines, addCommunities communities occupied = .ok lines) ↔
      ∀ community ∈ communities, hostsFit community = true := by
  induction communities generalizing occupied with
  | nil => simp [addCommunities]
  | cons community rest ih =>
    rw [List.forall_mem_cons, ← exists_snmpCommunityBlock_iff (freeSnmpIndex occupied),
      ← ih, addCommunities]
    constructor
    · rintro ⟨lines, h⟩
      obtain ⟨commands, hcommands, h⟩ := bind_ok_iff.mp h
      obtain ⟨others, hothers, -⟩ := bind_ok_iff.mp h
      exact ⟨⟨commands, hcommands⟩, others, hothers⟩
    · rintro ⟨⟨commands, hcommands⟩, others, hothers⟩
      exact ⟨_, bind_ok_iff.mpr ⟨commands, hcommands, bind_ok_iff.mpr ⟨others, hothers, rfl⟩⟩⟩

/-- The changes of the communities can be written exactly when their managers can be. -/
theorem exists_communityCommands_iff {indices : List (String × ℕ)} {diff : SnmpStateDiff} :
    (∃ lines, communityCommands indices diff = .ok lines) ↔
      ∀ community ∈ diff.communitiesToUpdate ++ diff.communitiesToAdd,
        hostsFit community = true := by
  rw [List.forall_mem_append]
  constructor
  · rintro ⟨lines, h⟩
    obtain ⟨updates, hupdates, h⟩ := bind_ok_iff.mp h
    obtain ⟨adds, hadds, -⟩ := bind_ok_iff.mp h
    exact ⟨exists_updateCommunities_iff.mp ⟨updates, hupdates⟩,
      exists_addCommunities_iff.mp ⟨adds, hadds⟩⟩
  · rintro ⟨hupdate, hadd⟩
    obtain ⟨updates, hupdates⟩ := exists_updateCommunities_iff.mpr hupdate
    obtain ⟨adds, hadds⟩ := exists_addCommunities_iff.mpr hadd
    exact ⟨_, bind_ok_iff.mpr ⟨updates, hupdates, bind_ok_iff.mpr ⟨adds, hadds, rfl⟩⟩⟩

theorem balanced_snmpCommunityBlock {index : ℕ} {community : SnmpCommunity} {lines : List Line}
    (h : snmpCommunityBlock index community = .ok lines) : Balanced lines := by
  obtain ⟨hosts, -, rfl⟩ := snmpCommunityBlock_ok_iff.mp h
  exact balanced_communityEntry

theorem balanced_removeCommunities {indices : List (String × ℕ)} {names : List String}
    {occupied : List ℕ} : Balanced (removeCommunities indices names occupied).1 := by
  induction names generalizing occupied with
  | nil => exact .nil
  | cons name names ih =>
    rw [removeCommunities]
    split
    · exact .plain trivial ih
    · exact .plain trivial ih

theorem balanced_updateCommunities {indices : List (String × ℕ)}
    {communities : List SnmpCommunity} {occupied : List ℕ} {result : List Line × List ℕ}
    (h : updateCommunities indices communities occupied = .ok result) : Balanced result.1 := by
  induction communities generalizing occupied result with
  | nil =>
    rw [← Except.ok.inj h]
    exact .nil
  | cons community rest ih =>
    rw [updateCommunities] at h
    split at h
    · obtain ⟨commands, hcommands, h⟩ := bind_ok_iff.mp h
      obtain ⟨others, hothers, h⟩ := bind_ok_iff.mp h
      rw [← Except.ok.inj h]
      exact .plain trivial ((balanced_snmpCommunityBlock hcommands).append (ih hothers))
    · obtain ⟨commands, hcommands, h⟩ := bind_ok_iff.mp h
      obtain ⟨others, hothers, h⟩ := bind_ok_iff.mp h
      rw [← Except.ok.inj h]
      exact (balanced_snmpCommunityBlock hcommands).append (ih hothers)

theorem balanced_addCommunities {communities : List SnmpCommunity} {occupied : List ℕ}
    {lines : List Line} (h : addCommunities communities occupied = .ok lines) :
    Balanced lines := by
  induction communities generalizing occupied lines with
  | nil =>
    rw [← Except.ok.inj h]
    exact .nil
  | cons community rest ih =>
    obtain ⟨commands, hcommands, h⟩ := bind_ok_iff.mp h
    obtain ⟨others, hothers, h⟩ := bind_ok_iff.mp h
    rw [← Except.ok.inj h]
    exact (balanced_snmpCommunityBlock hcommands).append (ih hothers)

/-- The part of an entry that restricts a community to its managers. -/
theorem snmpAllowedHostsCommands_eq {community : SnmpCommunity} {hosts : List (String × String)}
    (hhosts : community.allowedHosts.mapM hostToFortios = .ok hosts) :
    snmpAllowedHostsCommands community = if hosts.isEmpty then [] else
      [.set "trap-v1-status" [.bare "disable"], .set "trap-v2c-status" [.bare "disable"]] ++
        block "hosts" (hosts.mapIdx hostCommands).flatten := by
  have hblock : snmpCommunityBlock 0 community = .ok (communityEntry 0 community.name hosts) :=
    snmpCommunityBlock_ok_iff.mpr ⟨hosts, hhosts, rfl⟩
  rw [snmpAllowedHostsCommands, hblock]
  cases hlist : community.allowedHosts with
  | nil =>
    rw [hlist] at hhosts
    rw [← Except.ok.inj hhosts]
    rfl
  | cons host rest =>
    rw [hlist, List.mapM_cons] at hhosts
    obtain ⟨first, -, hhosts⟩ := bind_ok_iff.mp hhosts
    obtain ⟨others, -, hhosts⟩ := bind_ok_iff.mp hhosts
    rw [← Except.ok.inj hhosts]
    -- the search stops at the first trap status, and the closing `next` goes
    have hlast (line : Line) (lines : List Line) :
        (line :: (lines ++ [Line.next])).dropLast = line :: lines := by
      rw [← List.cons_append, List.dropLast_concat]
    simp [communityEntry, entry, hlast]

theorem balanced_snmpAllowedHosts {community : SnmpCommunity} :
    Balanced (snmpAllowedHostsCommands community) := by
  cases hhosts : community.allowedHosts.mapM hostToFortios with
  | error e =>
    have hblock : snmpCommunityBlock 0 community = .error (.validationError e) := by
      rw [snmpCommunityBlock, hhosts]
      rfl
    rw [snmpAllowedHostsCommands, hblock]
    split <;> exact .nil
  | ok hosts =>
    rw [snmpAllowedHostsCommands_eq hhosts]
    split
    · exact .nil
    · refine .plain trivial (.plain trivial (Balanced.of_block (balanced_indexed fun _ _ => ?_)))
      exact Balanced.of_entry (Balanced.of_plain (by simp [Line.IsPlain]))

theorem balanced_queryCommands {community : SnmpCommunity} : Balanced (queryCommands community) :=
  Balanced.of_plain (by simp [queryCommands, Line.IsPlain])

theorem balanced_plainCommunity {index : ℕ} {community : SnmpCommunity} :
    Balanced (plainCommunity index community) :=
  Balanced.of_entry (balanced_queryCommands.append balanced_snmpAllowedHosts)

/-! ### The tables that commands act in -/

section ActsIn

variable {switch : FortiswitchSwitch} {lines : List Line} {vlans : List Vlan}

theorem acts_generateRemoveVlanCommands {ids : List ℕ} :
    ActsIn ["switch vlan"] (generateRemoveVlanCommands ids) :=
  .of_block (Balanced.of_plain (by simp [Line.IsPlain])) (by simp)

/-- Setting up an interface acts in the table of interfaces. -/
theorem acts_sviCommands {vlan : Vlan} : ActsIn ["system interface"] (sviCommands vlan) := by
  refine .of_block (Balanced.of_entry (Balanced.of_plain fun line hline => ?_)) (by simp)
  obtain ⟨field, args, rfl⟩ := sviSettings_set line hline
  trivial

theorem closed_generateVlanCommands : Closed (generateVlanCommands vlans) :=
  .append (.of_block (Balanced.flatMap fun _ _ => Balanced.of_entry .nil))
    (.flatMap fun _ _ => acts_sviCommands.closed)

/-- The VLAN table first, then the interfaces of the VLANs that have an address. -/
theorem effects_generateVlanCommands : effects [] (generateVlanCommands vlans) =
    (vlans.map fun vlan => .create [("switch vlan", toString vlan.id)]) ++
      (vlans.filter needsSvi).flatMap fun vlan => effects [] (sviCommands vlan) := by
  have hkeys : (vlans.flatMap fun vlan => entry (.number vlan.id) []) =
      (vlans.map fun vlan => Arg.number vlan.id).flatMap fun key => entry key [] := by
    rw [List.flatMap_map]
  have hids : Balanced (vlans.flatMap fun vlan => entry (.number vlan.id) []) :=
    Balanced.flatMap fun _ _ => Balanced.of_entry .nil
  rw [generateVlanCommands, (Closed.of_block hids).effects_append,
    effects_flatMap fun _ _ => acts_sviCommands.closed, hkeys, effects_block_entries, List.map_map]
  rfl

/-- Ports are configured in their two tables. -/
theorem acts_generatePortCommands {ports : List Port} :
    ActsIn ["switch interface", "switch physical-port"] (generatePortCommands ports) :=
  .append (.of_block (Balanced.flatMap fun _ _ => balanced_portInterfaceCommands) (by simp))
    (.of_block (Balanced.flatMap fun _ _ => balanced_physicalPortCommands) (by simp))

theorem acts_resetPorts {portIds : List String} :
    ActsIn ["switch interface"] (resetPorts portIds) :=
  .of_block (Balanced.flatMap fun _ _ => balanced_resetPort) (by simp)

theorem acts_configureMirrorDestPorts {portIds : List String} :
    ActsIn ["switch physical-port"] (configureMirrorDestPorts portIds) :=
  .of_block (Balanced.flatMap fun _ _ => Balanced.of_entry
    (Balanced.of_plain (by simp [Line.IsPlain]))) (by simp)

theorem acts_generateMirrorCommands {mirrors : List PortMirror} :
    ActsIn ["switch mirror"] (generateMirrorCommands mirrors) :=
  .of_block (Balanced.flatMap fun _ _ => balanced_mirrorCommands) (by simp)

theorem acts_generateRemoveMirrorCommands {sessionIds : List String} :
    ActsIn ["switch mirror"] (generateRemoveMirrorCommands sessionIds) :=
  .of_block (Balanced.of_plain (by simp [Line.IsPlain])) (by simp)

theorem acts_inFirstHosts {body : List Line} (h : Balanced body) :
    ActsIn ["system snmp community"] (inFirstHosts body) :=
  .of_block (Balanced.of_entry (Balanced.of_block h)) (by simp)

theorem acts_receiverChanges {diff : SnmpStateDiff} :
    ActsIn ["system snmp community"] (receiverChanges diff) := by
  refine .append ?_ (.flatMap fun host _ => ?_)
  · split
    · exact .nil
    · exact acts_inFirstHosts (balanced_indexed fun _ _ => balanced_receiverCommands)
  · exact acts_inFirstHosts (.plain trivial .nil)

/-- Communities are changed in their table. -/
theorem acts_communityCommands {indices : List (String × ℕ)} {diff : SnmpStateDiff}
    (h : communityCommands indices diff = .ok lines) :
    ActsIn ["system snmp community"] lines := by
  obtain ⟨⟨updates, occupied⟩, hupdates, h⟩ := bind_ok_iff.mp h
  obtain ⟨adds, hadds, h⟩ := bind_ok_iff.mp h
  rw [← Except.ok.inj h]
  exact .of_block ((balanced_removeCommunities.append (balanced_updateCommunities hupdates)).append
    (balanced_addCommunities hadds)) (by simp)

theorem acts_generateSnmpCommands {snmp : SnmpConfig} :
    ActsIn ["system snmp community"] (generateSnmpCommands snmp) := by
  have hplain (n : ℕ) (l : List SnmpCommunity) :
      Balanced (l.mapIdx fun i community => plainCommunity (i + n) community).flatten :=
    balanced_indexed fun _ _ => balanced_plainCommunity
  refine .of_block ?_ (by simp)
  split
  · refine .append (.of_entry (.append (.append (.append balanced_queryCommands ?_) ?_) ?_))
      (hplain 2 _)
    · exact Balanced.of_plain (by simp [Line.IsPlain])
    · split
      · exact .nil
      · exact .plain trivial .nil
    · exact Balanced.of_block (balanced_indexed fun _ _ => balanced_receiverCommands)
  · exact hplain 1 _

theorem balanced_allowSnmp (access : MgmtAccess) : ∃ body, Balanced body ∧
    allowSnmp access = block "system interface" body := by
  refine ⟨_, Balanced.of_entry ?_, rfl⟩
  split
  · exact Balanced.of_block (Balanced.of_entry (.plain trivial .nil))
  · exact .plain trivial .nil

/-- What SNMP needs is set in two tables. -/
theorem acts_snmpPrerequisiteCommands {sysinfoEnabled : Option Bool} {access : Option MgmtAccess} :
    ActsIn ["system snmp sysinfo", "system interface"]
      (snmpPrerequisiteCommands sysinfoEnabled access) := by
  refine .append ?_ ?_
  · split
    · exact .of_block (.plain trivial .nil) (by simp)
    · exact .nil
  · cases access with
    | none => exact .nil
    | some access =>
      dsimp only
      split
      · exact .nil
      · obtain ⟨body, hbody, heq⟩ := balanced_allowSnmp access
        rw [heq]
        exact .of_block hbody (by simp)

/-- The tables of SNMP, and the interfaces, where queries have to be let in. -/
abbrev snmpTables : List String :=
  ["system snmp sysinfo", "system interface", "system snmp community"]

/-- A change of SNMP acts in the tables of SNMP. -/
theorem acts_applySnmpDiff {diff : SnmpStateDiff} (h : applySnmpDiff switch diff = .ok lines) :
    ActsIn snmpTables lines := by
  rw [applySnmpDiff] at h
  split at h
  · rw [← Except.ok.inj h]
    exact .nil
  · obtain ⟨_, -, h⟩ := bind_ok_iff.mp h
    obtain ⟨communities, hcommunities, h⟩ := bind_ok_iff.mp h
    rw [← Except.ok.inj h]
    refine .append (.append ?_ ((acts_communityCommands hcommunities).mono (by simp)))
      (acts_receiverChanges.mono (by simp))
    split
    · exact .nil
    · exact acts_snmpPrerequisiteCommands.mono (by simp)

/-- So does the whole of SNMP. -/
theorem acts_configureSnmp {snmp : SnmpConfig} (h : configureSnmp switch snmp = .ok lines) :
    ActsIn snmpTables lines := by
  obtain ⟨_, -, h⟩ := bind_ok_iff.mp h
  rw [← Except.ok.inj h]
  refine .append ?_ (acts_generateSnmpCommands.mono (by simp))
  split
  · exact .nil
  · exact acts_snmpPrerequisiteCommands.mono (by simp)

/-- The management VLAN is set in the table of interfaces. -/
theorem acts_configureManagementVlan {vlanId : ℕ}
    (h : configureManagementVlan switch vlanId = .ok lines) :
    ActsIn ["system interface"] lines := by
  rw [configureManagementVlan] at h
  split at h
  · cases h
  · next vlan _ =>
    rw [← Except.ok.inj h]
    refine .of_block (Balanced.of_entry (Balanced.of_plain ?_)) (by simp)
    cases hip : vlan.ipConfig <;> simp [managementSettings, managementIpCommands, hip, Line.IsPlain]

/-- All tables but that of the VLANs. -/
abbrev laterTables : List String :=
  ["switch interface", "switch physical-port", "switch mirror"] ++ snmpTables

/-- Behind the VLANs an apply acts in the later tables. -/
theorem acts_laterSteps {diff : StateDiff} : ActsIn laterTables (laterSteps switch diff).sent := by
  apply Steps.sent_induction .nil .append
  intro commands hcommands
  simp only [laterSteps, List.mem_append, Steps.ok_mem_ifAny] at hcommands
  rcases hcommands with ((((((⟨-, rfl⟩ | ⟨-, rfl⟩) | ⟨-, rfl⟩) | ⟨-, rfl⟩) | ⟨-, rfl⟩) |
    ⟨-, rfl⟩) | hsnmp) | hmanagement
  · exact acts_generatePortCommands.mono (by simp)
  · exact acts_resetPorts.mono (by simp)
  · exact acts_configureMirrorDestPorts.mono (by simp)
  · exact acts_generateRemoveMirrorCommands.mono (by simp)
  · exact acts_generateMirrorCommands.mono (by simp)
  · exact acts_generateMirrorCommands.mono (by simp)
  · rcases Steps.mem_snmp.mp hsnmp with ⟨snmpDiff, -, -, h⟩ | ⟨-, -, snmp, -, h⟩
    · exact (acts_applySnmpDiff h.symm).mono (by simp)
    · exact (acts_configureSnmp h.symm).mono (by simp)
  · obtain ⟨-, ⟨vlanId, -, h⟩ | ⟨-, h⟩⟩ := Steps.mem_managementVlan.mp hmanagement
    · exact (acts_configureManagementVlan h.symm).mono (by simp)
    · rw [Except.ok.inj h]
      exact .nil

end ActsIn

end SwitchConfigurator.Fortiswitch
