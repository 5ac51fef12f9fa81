import Mathlib.Data.List.Sort
import Mathlib.Data.String.Basic
import SwitchConfigurator.Foundations.KeyedDiff
import SwitchConfigurator.Models

/-!
# The diff engine

`diff/mod.rs` and `snmp_reads.rs`. The hash maps of the source are the maps of
`Keyed.lookup`: they are collected from lists, so of several entries with one key the
last one counts. A hash map is iterated in no particular order; here its keys come in
list order.
-/

namespace SwitchConfigurator

open Keyed

/-- Is the service's own read community switched on for this switch? -/
def readsEnabled (switch : SwitchConfig) : Bool :=
  (switch.snmp.bind (·.reads)).any fun reads => reads.mode == .auto && reads.community.isSome

/-- The listed communities plus, when `snmp.reads` is on, the service's own. -/
def effectiveSnmp (switch : SwitchConfig) : Option SnmpConfig :=
  switch.snmp.map fun effective =>
    if readsEnabled switch then
      match effective.reads.bind (·.community) with
      | some community =>
        -- The service only ever reads, whatever the entry says.
        let managed := { community with access := SnmpAccess.operator }
        if effective.communities.any (·.name == managed.name) then effective
        else { effective with communities := effective.communities ++ [managed] }
      | none => effective
    else effective

namespace Diff

/-- Two VLANs match; descriptions count only where the model has them. -/
def vlansEquivalentForModel (supportsVlanDescription : Bool) (current desired : Vlan) : Bool :=
  if current.id != desired.id || current.name != desired.name then false
  else if current.ipConfig != desired.ipConfig then false
  else if supportsVlanDescription && current.description != desired.description then false
  else true

def supportsVlanDescription (desired : SwitchConfig) : Bool :=
  desired.model.elim true SwitchModel.supportsVlanDescription

def diffVlans (current : SwitchState) (desired : SwitchConfig) (diff : StateDiff) : StateDiff :=
  { diff with
    vlansToAdd := diff.vlansToAdd ++ added Vlan.id current.vlans desired.vlans
    -- VLAN 1 is the default VLAN on all switches and cannot be removed.
    vlansToRemove := diff.vlansToRemove ++
      (removed Vlan.id current.vlans desired.vlans).filter (fun id => ¬ id = 1)
    vlansToUpdate := diff.vlansToUpdate ++
      updated Vlan.id (vlansEquivalentForModel (supportsVlanDescription desired))
        current.vlans desired.vlans }

def isPortInDefaultState (port : Port) : Bool :=
  !port.enabled && port.vlan == 1 && port.inferredMode == .access
    && (port.description.isNone || port.description.all String.isEmpty)
    && port.taggedVlans.isEmpty && !port.macNotify

/-- Tagged VLANs without the native one. -/
def taggedWithoutNative (port : Port) : List ℕ := port.taggedVlans.filter (· != port.vlan)

/-- Two ports match; PoE counts only where the model has it. -/
def portsEquivalentForModel (supportsPoe : Bool) (current desired : Port) : Bool :=
  if current.portId != desired.portId
      || current.vlan != desired.vlan
      || current.description != desired.description
      || current.enabled != desired.enabled
      || current.macNotify != desired.macNotify
      || current.speedDuplex != desired.speedDuplex then false
  else if supportsPoe && current.poeEnabled != desired.poeEnabled then false
  else if taggedWithoutNative current != taggedWithoutNative desired then false
  else if (taggedWithoutNative current).isEmpty && (taggedWithoutNative desired).isEmpty then true
  else current.inferredMode == desired.inferredMode

def supportsPoe (desired : SwitchConfig) : Bool := desired.model.elim true SwitchModel.supportsPoe

/-- Does a desired port have to be configured? -/
def portNeedsConfig (current : SwitchState) (desired : SwitchConfig) (port : Port) : Bool :=
  match lookup Port.portId port.portId current.ports with
  | some currentPort => !portsEquivalentForModel (supportsPoe desired) currentPort port
  | none => true

/-- Does a current port that is not in the desired config have to be reset? -/
def portNeedsReset (current : SwitchState) (desired : SwitchConfig) (portId : String) : Bool :=
  !(desired.portMirrors.map PortMirror.destinationPort).contains portId
    && !(lookup Port.portId portId current.ports).any isPortInDefaultState

def diffPorts (current : SwitchState) (desired : SwitchConfig) (enforcePortConfig : Bool)
    (diff : StateDiff) : StateDiff :=
  { diff with
    portsToConfigure := diff.portsToConfigure ++
      desired.ports.filter (portNeedsConfig current desired)
    portsToReset := diff.portsToReset ++
      if enforcePortConfig then
        (removed Port.portId current.ports desired.ports).filter (portNeedsReset current desired)
      else [] }

/-- The baseline of a mirror destination: VLAN 1, enabled, access mode. -/
def isBaseline (port : Port) : Bool :=
  port.vlan == 1 && port.enabled && port.inferredMode == .access && port.taggedVlans.isEmpty

def destNeedsConfig (current : SwitchState) (dest : String) : Bool :=
  match lookup Port.portId dest current.ports with
  | some port => !isBaseline port
  | none => true

/-- The loop over the desired mirrors that collects destinations, each looked at once. -/
def mirrorDestPorts (current : SwitchState) : List PortMirror → List String → List String
  | [], _ => []
  | mirror :: rest, seen =>
    let dest := mirror.destinationPort
    if dest ∈ seen then mirrorDestPorts current rest seen
    else if destNeedsConfig current dest then dest :: mirrorDestPorts current rest (dest :: seen)
    else mirrorDestPorts current rest (dest :: seen)

def diffMirrors (current : SwitchState) (desired : SwitchConfig) (diff : StateDiff) : StateDiff :=
  { diff with
    mirrorsToAdd := diff.mirrorsToAdd ++
      added PortMirror.sessionId current.portMirrors desired.portMirrors
    mirrorsToRemove := diff.mirrorsToRemove ++
      removed PortMirror.sessionId current.portMirrors desired.portMirrors
    mirrorsToUpdate := diff.mirrorsToUpdate ++
      updated PortMirror.sessionId (· == ·) current.portMirrors desired.portMirrors
    mirrorDestPortsToConfigure := diff.mirrorDestPortsToConfigure ++
      mirrorDestPorts current desired.portMirrors [] }

/-- The sorted spellings of a list of managers. -/
def hostKey (hosts : List AllowedHost) : List String :=
  (hosts.map AllowedHost.toText).insertionSort (· ≤ ·)

def sameHosts (a b : List AllowedHost) : Bool := hostKey a == hostKey b

/-- Communities of one name match in access level and managers. -/
def sameCommunity (current desired : SnmpCommunity) : Bool :=
  !(current.access != desired.access || !sameHosts current.allowedHosts desired.allowedHosts)

def computeSnmpDiff (current desired : SnmpConfig) : SnmpStateDiff where
  communitiesToAdd :=
    (added SnmpCommunity.name current.communities desired.communities).insertionSort
      (·.name ≤ ·.name)
  communitiesToRemove :=
    (removed SnmpCommunity.name current.communities desired.communities).insertionSort (· ≤ ·)
  communitiesToUpdate :=
    (updated SnmpCommunity.name sameCommunity current.communities
      desired.communities).insertionSort (·.name ≤ ·.name)
  -- Receivers are compared by host only, so none is ever updated.
  trapReceiversToAdd := added SnmpTrapReceiver.host current.trapReceivers desired.trapReceivers
  trapReceiversToRemove :=
    removed SnmpTrapReceiver.host current.trapReceivers desired.trapReceivers
  trapsToEnable := added id current.enabledTraps desired.enabledTraps
  trapsToDisable := removed id current.enabledTraps desired.enabledTraps

def diffSnmp (current : SwitchState) (desired : SwitchConfig) (diff : StateDiff) : StateDiff :=
  match current.snmp, effectiveSnmp desired with
  | none, none => { diff with snmpConfigChanged := false, snmpDiff := none }
  | none, some desiredConfig =>
    let snmpDiff : SnmpStateDiff :=
      { communitiesToAdd := desiredConfig.communities
        trapReceiversToAdd := desiredConfig.trapReceivers
        trapsToEnable := desiredConfig.enabledTraps }
    { diff with
      snmpConfigChanged := snmpDiff.hasChanges
      snmpDiff := some snmpDiff
      snmpConfig := some desiredConfig }
  | some currentConfig, none =>
    let snmpDiff : SnmpStateDiff :=
      { communitiesToRemove := currentConfig.communities.map (·.name)
        trapReceiversToRemove := currentConfig.trapReceivers.map (·.host)
        trapsToDisable := currentConfig.enabledTraps }
    { diff with
      snmpConfigChanged := snmpDiff.hasChanges
      snmpDiff := some snmpDiff
      snmpConfig := none }
  | some currentConfig, some desiredConfig =>
    let snmpDiff := computeSnmpDiff currentConfig desiredConfig
    { diff with
      snmpConfigChanged := snmpDiff.hasChanges
      snmpDiff := some snmpDiff
      snmpConfig := some desiredConfig }

def diffManagementVlan (current : SwitchState) (desired : SwitchConfig) (diff : StateDiff) :
    StateDiff :=
  if current.managementVlan != desired.managementVlan then
    { diff with managementVlanChanged := true, managementVlan := desired.managementVlan }
  else { diff with managementVlanChanged := false }

/-- With `enforcePortConfig`, ports that are not in the desired config are reset. -/
def computeDiff (current : SwitchState) (desired : SwitchConfig) (enforcePortConfig : Bool) :
    StateDiff :=
  let diff : StateDiff := {}
  let diff := diffVlans current desired diff
  let diff := diffPorts current desired enforcePortConfig diff
  let diff := diffMirrors current desired diff
  let diff := diffSnmp current desired diff
  diffManagementVlan current desired diff

/-! ## Reading a diff -/

variable {current : SwitchState} {desired : SwitchConfig}

/-- The steps of `computeDiff` fill in separate fields. -/
theorem computeDiff_eq (e : Bool) : computeDiff current desired e =
    { vlansToAdd := added Vlan.id current.vlans desired.vlans
      vlansToRemove := (removed Vlan.id current.vlans desired.vlans).filter (fun id => ¬ id = 1)
      vlansToUpdate := updated Vlan.id (vlansEquivalentForModel (supportsVlanDescription desired))
        current.vlans desired.vlans
      portsToConfigure := desired.ports.filter (portNeedsConfig current desired)
      portsToReset := if e then (removed Port.portId current.ports desired.ports).filter
        (portNeedsReset current desired) else []
      mirrorsToAdd := added PortMirror.sessionId current.portMirrors desired.portMirrors
      mirrorsToRemove := removed PortMirror.sessionId current.portMirrors desired.portMirrors
      mirrorsToUpdate :=
        updated PortMirror.sessionId (· == ·) current.portMirrors desired.portMirrors
      mirrorDestPortsToConfigure := mirrorDestPorts current desired.portMirrors []
      snmpConfigChanged := (diffSnmp current desired {}).snmpConfigChanged
      snmpConfig := (diffSnmp current desired {}).snmpConfig
      snmpDiff := (diffSnmp current desired {}).snmpDiff
      managementVlanChanged := current.managementVlan != desired.managementVlan
      managementVlan :=
        if current.managementVlan != desired.managementVlan then desired.managementVlan
        else none } := by
  unfold computeDiff diffManagementVlan diffSnmp
  cases current.snmp <;> cases effectiveSnmp desired <;>
    by_cases hm : (current.managementVlan != desired.managementVlan) = true <;>
    simp [diffVlans, diffPorts, diffMirrors, hm]

/-- A port needs configuring unless the device has an equivalent one. -/
theorem portNeedsConfig_eq_true {port : Port} : portNeedsConfig current desired port = true ↔
    ∀ c, lookup Port.portId port.portId current.ports = some c →
      ¬ portsEquivalentForModel (supportsPoe desired) c port = true := by
  unfold portNeedsConfig
  cases lookup Port.portId port.portId current.ports <;> simp

/-- A destination needs setting up unless it is at the baseline. -/
theorem destNeedsConfig_eq_true {dest : String} : destNeedsConfig current dest = true ↔
    ∀ c, lookup Port.portId dest current.ports = some c → ¬ isBaseline c = true := by
  unfold destNeedsConfig
  cases lookup Port.portId dest current.ports <;> simp

/-- The loop lists the destinations it has not seen that need the baseline. -/
theorem mem_mirrorDestPorts {mirrors : List PortMirror} {seen : List String} {dest : String} :
    dest ∈ mirrorDestPorts current mirrors seen ↔
      dest ∉ seen ∧ dest ∈ mirrors.map PortMirror.destinationPort ∧
        destNeedsConfig current dest = true := by
  -- on the mirrors; `seen` grows with each destination that was taken
  induction mirrors generalizing seen with
  | nil => simp [mirrorDestPorts]
  | cons mirror rest ih =>
    rw [mirrorDestPorts, List.map_cons, List.mem_cons]
    by_cases hseen : mirror.destinationPort ∈ seen
    · rw [if_pos hseen, ih]
      constructor
      · rintro ⟨hns, hmem, hneeds⟩
        exact ⟨hns, .inr hmem, hneeds⟩
      · rintro ⟨hns, rfl | hmem, hneeds⟩
        · exact absurd hseen hns
        · exact ⟨hns, hmem, hneeds⟩
    · rw [if_neg hseen]
      by_cases hneeds : destNeedsConfig current mirror.destinationPort = true
      · rw [if_pos hneeds, List.mem_cons, ih, List.mem_cons, not_or]
        constructor
        · rintro (rfl | ⟨⟨_, hns⟩, hmem, hd⟩)
          · exact ⟨hseen, .inl rfl, hneeds⟩
          · exact ⟨hns, .inr hmem, hd⟩
        · rintro ⟨hns, hmem, hd⟩
          by_cases heq : dest = mirror.destinationPort
          · exact .inl heq
          · exact .inr ⟨⟨heq, hns⟩, hmem.resolve_left heq, hd⟩
      · rw [if_neg hneeds, ih, List.mem_cons, not_or]
        constructor
        · rintro ⟨⟨_, hns⟩, hmem, hd⟩
          exact ⟨hns, .inr hmem, hd⟩
        · rintro ⟨hns, hmem, hd⟩
          have heq : dest ≠ mirror.destinationPort := fun h => hneeds (h ▸ hd)
          exact ⟨⟨heq, hns⟩, hmem.resolve_left heq, hd⟩

/-- No destination is listed twice. -/
theorem nodup_mirrorDestPorts {mirrors : List PortMirror} {seen : List String} :
    (mirrorDestPorts current mirrors seen).Nodup := by
  induction mirrors generalizing seen with
  | nil => simp [mirrorDestPorts]
  | cons mirror rest ih =>
    rw [mirrorDestPorts]
    split
    · exact ih
    · split
      · refine List.nodup_cons.mpr ⟨?_, ih⟩
        intro hmem
        exact (mem_mirrorDestPorts.mp hmem).1 List.mem_cons_self
      · exact ih

/-- A port is reset if enforced, unused, and not in its default state. -/
theorem mem_portsToReset {e : Bool} {portId : String} :
    portId ∈ (computeDiff current desired e).portsToReset ↔
      e = true ∧ portId ∉ desired.ports.map Port.portId ∧
        portId ∉ desired.portMirrors.map PortMirror.destinationPort ∧
        ∃ c, lookup Port.portId portId current.ports = some c ∧
          ¬ isPortInDefaultState c = true := by
  rw [computeDiff_eq]
  cases e with
  | false => simp
  | true =>
    have hdesired : lookup Port.portId portId desired.ports = none ↔
        portId ∉ desired.ports.map Port.portId := by
      simp [lookup_eq_none_iff]
    simp only [if_true, List.mem_filter, mem_removed, hdesired, portNeedsReset,
      Bool.and_eq_true, Bool.not_eq_true', List.contains_eq_mem, decide_eq_false_iff_not, true_and]
    constructor
    · rintro ⟨⟨⟨c, hc⟩, hport⟩, hdest, hdefault⟩
      exact ⟨hport, hdest, c, hc, by simpa [hc] using hdefault⟩
    · rintro ⟨hport, hdest, c, hc, hdefault⟩
      exact ⟨⟨⟨c, hc⟩, hport⟩, hdest, by simpa [hc] using hdefault⟩

end Diff

end SwitchConfigurator
