import SwitchConfigurator.Config.Validate

/-!
# What the diff reports

`Realises` says when a switch is as its configuration wants it, with the exemptions the
documentation gives, and without a word of how a difference is computed. The diff is
empty exactly then, and every element it lists is there for a reason.
-/

namespace SwitchConfigurator

open Keyed

/-! ## The state a configuration asks for -/

/-- A VLAN is as wanted; `descriptions` says whether the model has VLAN descriptions. -/
structure VlanMatches (descriptions : Bool) (current desired : Vlan) : Prop where
  id : current.id = desired.id
  name : current.name = desired.name
  ipConfig : current.ipConfig = desired.ipConfig
  description : descriptions = true → current.description = desired.description

/-- A port is as wanted; `poe` says whether the model has PoE. A native VLAN listed among
the tagged ones does not count as tagged. -/
structure PortMatches (poe : Bool) (current desired : Port) : Prop where
  portId : current.portId = desired.portId
  vlan : current.vlan = desired.vlan
  description : current.description = desired.description
  enabled : current.enabled = desired.enabled
  macNotify : current.macNotify = desired.macNotify
  speedDuplex : current.speedDuplex = desired.speedDuplex
  poeEnabled : poe = true → current.poeEnabled = desired.poeEnabled
  taggedVlans : current.taggedVlans.filter (· ≠ current.vlan) =
    desired.taggedVlans.filter (· ≠ desired.vlan)

/-- A port nobody has configured. -/
structure Port.IsDefault (port : Port) : Prop where
  enabled : port.enabled = false
  vlan : port.vlan = 1
  description : port.description = none ∨ port.description = some ""
  taggedVlans : port.taggedVlans = []
  macNotify : port.macNotify = false

/-- What a mirror destination needs. -/
structure Port.IsBaseline (port : Port) : Prop where
  vlan : port.vlan = 1
  enabled : port.enabled = true
  taggedVlans : port.taggedVlans = []

/-- The switch is as the configuration wants it. -/
structure Realises (enforcePortConfig : Bool) (current : SwitchState) (desired : SwitchConfig) :
    Prop where
  vlan : ∀ vlan ∈ desired.vlans, ∃ c, lookup Vlan.id vlan.id current.vlans = some c ∧
    VlanMatches (Diff.supportsVlanDescription desired) c vlan
  noOtherVlan : ∀ c ∈ current.vlans, c.id ≠ 1 → c.id ∈ desired.vlans.map Vlan.id
  port : ∀ port ∈ desired.ports, ∃ c, lookup Port.portId port.portId current.ports = some c ∧
    PortMatches (Diff.supportsPoe desired) c port
  unlistedPort : enforcePortConfig = true → ∀ portId c,
    lookup Port.portId portId current.ports = some c →
    portId ∉ desired.ports.map Port.portId →
    portId ∉ desired.portMirrors.map PortMirror.destinationPort → c.IsDefault
  mirror : ∀ mirror ∈ desired.portMirrors,
    lookup PortMirror.sessionId mirror.sessionId current.portMirrors = some mirror
  noOtherMirror : ∀ c ∈ current.portMirrors,
    c.sessionId ∈ desired.portMirrors.map PortMirror.sessionId
  destination : ∀ mirror ∈ desired.portMirrors, ∃ c,
    lookup Port.portId mirror.destinationPort current.ports = some c ∧ c.IsBaseline
  managementVlan : current.managementVlan = desired.managementVlan

/-- Nothing but SNMP may be left to change. -/
structure StateDiff.NoChange (diff : StateDiff) : Prop where
  vlansToAdd : diff.vlansToAdd = []
  vlansToRemove : diff.vlansToRemove = []
  vlansToUpdate : diff.vlansToUpdate = []
  portsToConfigure : diff.portsToConfigure = []
  portsToReset : diff.portsToReset = []
  mirrorsToAdd : diff.mirrorsToAdd = []
  mirrorsToRemove : diff.mirrorsToRemove = []
  mirrorsToUpdate : diff.mirrorsToUpdate = []
  mirrorDestPortsToConfigure : diff.mirrorDestPortsToConfigure = []
  managementVlan : diff.managementVlanChanged = false

/-- Each part of a diff lists exactly what it is for. -/
structure StateDiff.Needed (diff : StateDiff) (enforcePortConfig : Bool) (current : SwitchState)
    (desired : SwitchConfig) : Prop where
  vlansToAdd : ∀ vlan, vlan ∈ diff.vlansToAdd ↔
    vlan ∈ desired.vlans ∧ vlan.id ∉ current.vlans.map Vlan.id
  vlansToRemove : ∀ id, id ∈ diff.vlansToRemove ↔
    id ∈ current.vlans.map Vlan.id ∧ id ∉ desired.vlans.map Vlan.id ∧ id ≠ 1
  vlansToUpdate : ∀ vlan, vlan ∈ diff.vlansToUpdate ↔
    vlan ∈ desired.vlans ∧ ∃ c, lookup Vlan.id vlan.id current.vlans = some c ∧
      ¬ VlanMatches (Diff.supportsVlanDescription desired) c vlan
  portsToConfigure : ∀ port, port ∈ diff.portsToConfigure ↔
    port ∈ desired.ports ∧ ∀ c, lookup Port.portId port.portId current.ports = some c →
      ¬ PortMatches (Diff.supportsPoe desired) c port
  portsToReset : ∀ portId, portId ∈ diff.portsToReset ↔
    enforcePortConfig = true ∧ portId ∉ desired.ports.map Port.portId ∧
      portId ∉ desired.portMirrors.map PortMirror.destinationPort ∧
      ∃ c, lookup Port.portId portId current.ports = some c ∧ ¬ c.IsDefault
  mirrorsToAdd : ∀ mirror, mirror ∈ diff.mirrorsToAdd ↔
    mirror ∈ desired.portMirrors ∧
      mirror.sessionId ∉ current.portMirrors.map PortMirror.sessionId
  mirrorsToRemove : ∀ sessionId, sessionId ∈ diff.mirrorsToRemove ↔
    sessionId ∈ current.portMirrors.map PortMirror.sessionId ∧
      sessionId ∉ desired.portMirrors.map PortMirror.sessionId
  mirrorsToUpdate : ∀ mirror, mirror ∈ diff.mirrorsToUpdate ↔
    mirror ∈ desired.portMirrors ∧
      ∃ c, lookup PortMirror.sessionId mirror.sessionId current.portMirrors = some c ∧ c ≠ mirror
  mirrorDestPortsToConfigure : ∀ portId, portId ∈ diff.mirrorDestPortsToConfigure ↔
    portId ∈ desired.portMirrors.map PortMirror.destinationPort ∧
      ∀ c, lookup Port.portId portId current.ports = some c → ¬ c.IsBaseline
  managementVlan : diff.managementVlanChanged = true ↔
    current.managementVlan ≠ desired.managementVlan

/-- No id is listed twice. -/
structure StateDiff.ListedOnce (diff : StateDiff) : Prop where
  vlans : (diff.vlansToAdd.map Vlan.id ++ diff.vlansToRemove ++
    diff.vlansToUpdate.map Vlan.id).Nodup
  portsToConfigure : (diff.portsToConfigure.map Port.portId).Nodup
  portsToReset : diff.portsToReset.Nodup
  mirrors : (diff.mirrorsToAdd.map PortMirror.sessionId ++ diff.mirrorsToRemove ++
    diff.mirrorsToUpdate.map PortMirror.sessionId).Nodup
  mirrorDestPortsToConfigure : diff.mirrorDestPortsToConfigure.Nodup

/-- No port is configured, reset and made a mirror destination at the same time. -/
structure StateDiff.PortsDisjoint (diff : StateDiff) : Prop where
  configure_reset : (diff.portsToConfigure.map Port.portId).Disjoint diff.portsToReset
  configure_dest :
    (diff.portsToConfigure.map Port.portId).Disjoint diff.mirrorDestPortsToConfigure
  reset_dest : diff.portsToReset.Disjoint diff.mirrorDestPortsToConfigure

/-- Ids that are given once each. -/
structure SwitchConfig.UniqueIds (desired : SwitchConfig) : Prop where
  vlans : (desired.vlans.map Vlan.id).Nodup
  ports : (desired.ports.map Port.portId).Nodup
  mirrors : (desired.portMirrors.map PortMirror.sessionId).Nodup

namespace Diff

/-! ## The comparisons -/

/-- The comparison of VLANs is that of what the model can have. -/
theorem vlansEquivalentForModel_iff {b : Bool} {current desired : Vlan} :
    vlansEquivalentForModel b current desired = true ↔ VlanMatches b current desired := by
  unfold vlansEquivalentForModel
  constructor
  · intro h
    split at h
    · cases h
    · next hid =>
      split at h
      · cases h
      · next hip =>
        split at h
        · cases h
        · next hd =>
          simp only [Bool.or_eq_true, bne_iff_ne, ne_eq, not_or, not_not] at hid hip
          simp only [Bool.and_eq_true, bne_iff_ne, ne_eq, not_and, not_not] at hd
          exact ⟨hid.1, hid.2, hip, hd⟩
  · intro h
    cases b with
    | false => simp [h.id, h.name, h.ipConfig]
    | true => simp [h.id, h.name, h.ipConfig, h.description rfl]

theorem taggedWithoutNative_eq (port : Port) :
    taggedWithoutNative port = port.taggedVlans.filter (· ≠ port.vlan) := by
  unfold taggedWithoutNative
  congr 1
  funext id
  simp [bne, beq_eq_decide]

/-- A port with a tagged VLAN besides its native one is a trunk. -/
theorem inferredMode_of_tagged {port : Port} (h : taggedWithoutNative port ≠ []) :
    port.inferredMode = .trunk := by
  have hne : port.taggedVlans ≠ [] := by
    intro hnil
    exact h (by simp [taggedWithoutNative, hnil])
  simp [Port.inferredMode, hne]

/-- The comparison of the inferred modes decides nothing: once the tagged lists agree and
hold a VLAN, both ports are trunks. -/
theorem portsEquivalentForModel_iff {b : Bool} {current desired : Port} :
    portsEquivalentForModel b current desired = true ↔ PortMatches b current desired := by
  -- the mode is inferred from the tagged VLANs, so comparing it adds nothing
  have hmode (ht : taggedWithoutNative current = taggedWithoutNative desired) :
      (if (taggedWithoutNative current).isEmpty && (taggedWithoutNative desired).isEmpty then true
        else current.inferredMode == desired.inferredMode) = true := by
    by_cases he : taggedWithoutNative desired = []
    · simp [ht, he]
    · have hc := inferredMode_of_tagged (ht ▸ he)
      have hd := inferredMode_of_tagged he
      simp [hc, hd]
  unfold portsEquivalentForModel
  constructor
  · intro h
    split at h
    · cases h
    · next hfields =>
      split at h
      · cases h
      · next hpoe =>
        split at h
        · cases h
        · next ht =>
          simp only [Bool.or_eq_true, bne_iff_ne, ne_eq, not_or, not_not] at hfields
          simp only [Bool.and_eq_true, bne_iff_ne, ne_eq, not_and, not_not] at hpoe
          rw [bne_iff_ne, ne_eq, not_not, taggedWithoutNative_eq, taggedWithoutNative_eq] at ht
          obtain ⟨⟨⟨⟨⟨hid, hvlan⟩, hdesc⟩, hen⟩, hmac⟩, hspeed⟩ := hfields
          exact ⟨hid, hvlan, hdesc, hen, hmac, hspeed, hpoe, ht⟩
  · intro h
    have ht : taggedWithoutNative current = taggedWithoutNative desired := by
      rw [taggedWithoutNative_eq, taggedWithoutNative_eq, h.taggedVlans]
    have hpoe : (b && current.poeEnabled != desired.poeEnabled) = false := by
      cases b with
      | false => rfl
      | true => simp [h.poeEnabled rfl]
    rw [if_neg (by simp [h.portId, h.vlan, h.description, h.enabled, h.macNotify,
      h.speedDuplex]), if_neg (by simp [hpoe]), if_neg (by simp [ht])]
    exact hmode ht

theorem inferredMode_access_iff {port : Port} :
    port.inferredMode = .access ↔ port.taggedVlans = [] := by
  unfold Port.inferredMode
  cases port.taggedVlans <;> simp

/-- The code's default state is the one of the specification. -/
theorem isPortInDefaultState_iff {port : Port} :
    isPortInDefaultState port = true ↔ port.IsDefault := by
  have hdesc : (port.description.isNone || port.description.all String.isEmpty) = true ↔
      port.description = none ∨ port.description = some "" := by
    cases port.description <;> simp
  simp only [isPortInDefaultState, Bool.and_eq_true, hdesc, beq_iff_eq, inferredMode_access_iff,
    Bool.not_eq_true', List.isEmpty_iff]
  constructor
  · rintro ⟨⟨⟨⟨⟨hen, hvlan⟩, -⟩, hd⟩, ht⟩, hmac⟩
    exact ⟨hen, hvlan, hd, ht, hmac⟩
  · intro h
    exact ⟨⟨⟨⟨⟨h.enabled, h.vlan⟩, h.taggedVlans⟩, h.description⟩, h.taggedVlans⟩, h.macNotify⟩

theorem isBaseline_iff {port : Port} : isBaseline port = true ↔ port.IsBaseline := by
  simp only [isBaseline, Bool.and_eq_true, beq_iff_eq, inferredMode_access_iff,
    List.isEmpty_iff]
  constructor
  · rintro ⟨⟨⟨hvlan, hen⟩, -⟩, ht⟩
    exact ⟨hvlan, hen, ht⟩
  · intro h
    exact ⟨⟨⟨h.vlan, h.enabled⟩, h.taggedVlans⟩, h.taggedVlans⟩

/-! ## Soundness and completeness -/

section

variable {current : SwitchState} {desired : SwitchConfig} {e : Bool}

/-- A port needs configuring unless the device has one that matches. -/
theorem portNeedsConfig_iff {port : Port} : portNeedsConfig current desired port = true ↔
    ∀ c, lookup Port.portId port.portId current.ports = some c →
      ¬ PortMatches (supportsPoe desired) c port := by
  simp only [portNeedsConfig_eq_true, portsEquivalentForModel_iff]

/-- A mirror destination needs configuring unless it is at the baseline. -/
theorem destNeedsConfig_iff {dest : String} : destNeedsConfig current dest = true ↔
    ∀ c, lookup Port.portId dest current.ports = some c → ¬ c.IsBaseline := by
  simp only [destNeedsConfig_eq_true, isBaseline_iff]

/-- No VLAN is to change exactly if each side has what the other one has. -/
theorem vlans_noChange_iff (hn : (desired.vlans.map Vlan.id).Nodup) :
    ((computeDiff current desired e).vlansToAdd = [] ∧
      (computeDiff current desired e).vlansToRemove = [] ∧
      (computeDiff current desired e).vlansToUpdate = []) ↔
    (∀ vlan ∈ desired.vlans, ∃ c, lookup Vlan.id vlan.id current.vlans = some c ∧
      VlanMatches (supportsVlanDescription desired) c vlan) ∧
      ∀ c ∈ current.vlans, c.id ≠ 1 → c.id ∈ desired.vlans.map Vlan.id := by
  rw [computeDiff_eq]
  simp only [no_difference_iff, forall_agree_iff hn, vlansEquivalentForModel_iff, ne_eq]

/-- So for mirrors. -/
theorem mirrors_noChange_iff (hn : (desired.portMirrors.map PortMirror.sessionId).Nodup) :
    ((computeDiff current desired e).mirrorsToAdd = [] ∧
      (computeDiff current desired e).mirrorsToRemove = [] ∧
      (computeDiff current desired e).mirrorsToUpdate = []) ↔
    (∀ mirror ∈ desired.portMirrors,
      lookup PortMirror.sessionId mirror.sessionId current.portMirrors = some mirror) ∧
      ∀ c ∈ current.portMirrors, c.sessionId ∈ desired.portMirrors.map PortMirror.sessionId := by
  have hagree := @forall_agree_iff _ _ _ PortMirror.sessionId (· == ·) current.portMirrors
    desired.portMirrors (fun _ => False) hn
  rw [← no_difference_iff] at hagree
  rw [computeDiff_eq]
  simpa using hagree

/-- No port is to be configured exactly if each has its match. -/
theorem portsToConfigure_eq_nil_iff :
    (computeDiff current desired e).portsToConfigure = [] ↔
      ∀ port ∈ desired.ports, ∃ c, lookup Port.portId port.portId current.ports = some c ∧
        PortMatches (supportsPoe desired) c port := by
  rw [computeDiff_eq, List.filter_eq_nil_iff]
  refine forall₂_congr fun port _ => ?_
  rw [portNeedsConfig_iff]
  push Not
  rfl

/-- No port is to be reset unless enforced, out of its default state and in no use. -/
theorem portsToReset_eq_nil_iff :
    (computeDiff current desired e).portsToReset = [] ↔
      (e = true → ∀ portId c, lookup Port.portId portId current.ports = some c →
        portId ∉ desired.ports.map Port.portId →
        portId ∉ desired.portMirrors.map PortMirror.destinationPort → c.IsDefault) := by
  rw [List.eq_nil_iff_forall_not_mem]
  simp only [mem_portsToReset, isPortInDefaultState_iff]
  constructor
  · intro h he portId c hc hport hdest
    by_contra hdefault
    exact h portId ⟨he, hport, hdest, c, hc, hdefault⟩
  · rintro h portId ⟨he, hport, hdest, c, hc, hdefault⟩
    exact hdefault (h he portId c hc hport hdest)

/-- No destination is to be set up exactly if all are at the baseline. -/
theorem mirrorDestPortsToConfigure_eq_nil_iff :
    (computeDiff current desired e).mirrorDestPortsToConfigure = [] ↔
      ∀ mirror ∈ desired.portMirrors, ∃ c,
        lookup Port.portId mirror.destinationPort current.ports = some c ∧ c.IsBaseline := by
  rw [computeDiff_eq, List.eq_nil_iff_forall_not_mem]
  simp only [mem_mirrorDestPorts, destNeedsConfig_iff, List.not_mem_nil, not_false_eq_true,
    true_and]
  constructor
  · intro h mirror hm
    by_contra hnone
    push Not at hnone
    exact h _ ⟨List.mem_map_of_mem hm, hnone⟩
  · rintro h dest ⟨hdest, hneeds⟩
    obtain ⟨mirror, hm, rfl⟩ := List.mem_map.mp hdest
    obtain ⟨c, hc, hbase⟩ := h mirror hm
    exact hneeds c hc hbase

/-- The diff is empty exactly when the switch is as wanted. -/
theorem noChange_iff_realises (hids : desired.UniqueIds) :
    (computeDiff current desired e).NoChange ↔ Realises e current desired := by
  have hvlans := @vlans_noChange_iff current desired e hids.vlans
  have hmirrors := @mirrors_noChange_iff current desired e hids.mirrors
  have hmanagement : (computeDiff current desired e).managementVlanChanged = false ↔
      current.managementVlan = desired.managementVlan := by
    rw [computeDiff_eq]
    simp
  constructor
  · intro h
    obtain ⟨hvlan, hother⟩ := hvlans.mp ⟨h.vlansToAdd, h.vlansToRemove, h.vlansToUpdate⟩
    obtain ⟨hmirror, hotherMirror⟩ :=
      hmirrors.mp ⟨h.mirrorsToAdd, h.mirrorsToRemove, h.mirrorsToUpdate⟩
    exact ⟨hvlan, hother, portsToConfigure_eq_nil_iff.mp h.portsToConfigure,
      portsToReset_eq_nil_iff.mp h.portsToReset, hmirror, hotherMirror,
      mirrorDestPortsToConfigure_eq_nil_iff.mp h.mirrorDestPortsToConfigure,
      hmanagement.mp h.managementVlan⟩
  · intro h
    obtain ⟨hadd, hremove, hupdate⟩ := hvlans.mpr ⟨h.vlan, h.noOtherVlan⟩
    obtain ⟨haddm, hremovem, hupdatem⟩ := hmirrors.mpr ⟨h.mirror, h.noOtherMirror⟩
    exact ⟨hadd, hremove, hupdate, portsToConfigure_eq_nil_iff.mpr h.port,
      portsToReset_eq_nil_iff.mpr h.unlistedPort, haddm, hremovem, hupdatem,
      mirrorDestPortsToConfigure_eq_nil_iff.mpr h.destination,
      hmanagement.mpr h.managementVlan⟩

/-- Every element of the diff is there for a reason, and none is missing. -/
theorem computeDiff_needed (hids : desired.UniqueIds) :
    (computeDiff current desired e).Needed e current desired where
  vlansToAdd := fun vlan => by
    rw [computeDiff_eq, mem_added, lookup_eq_some_iff hids.vlans, lookup_eq_none_iff]
    simp
  vlansToRemove := fun id => by
    rw [computeDiff_eq, List.mem_filter, mem_removed, ← mem_keys, mem_keys_iff,
      lookup_eq_none_iff]
    simp [and_assoc]
  vlansToUpdate := fun vlan => by
    rw [computeDiff_eq, mem_updated, lookup_eq_some_iff hids.vlans]
    simp only [← Bool.not_eq_true, vlansEquivalentForModel_iff]
  portsToConfigure := fun port => by
    rw [computeDiff_eq, List.mem_filter, portNeedsConfig_iff]
  portsToReset := fun portId => by
    simp only [mem_portsToReset, isPortInDefaultState_iff]
  mirrorsToAdd := fun mirror => by
    rw [computeDiff_eq, mem_added, lookup_eq_some_iff hids.mirrors, lookup_eq_none_iff]
    simp
  mirrorsToRemove := fun sessionId => by
    rw [computeDiff_eq, mem_removed, ← mem_keys, mem_keys_iff, lookup_eq_none_iff]
    simp
  mirrorsToUpdate := fun mirror => by
    rw [computeDiff_eq, mem_updated, lookup_eq_some_iff hids.mirrors]
    simp
  mirrorDestPortsToConfigure := fun portId => by
    rw [computeDiff_eq, mem_mirrorDestPorts, destNeedsConfig_iff]
    simp
  managementVlan := by
    rw [computeDiff_eq]
    simp

/-- Only the list of desired ports is visited entry by entry, so only its ids have to be
given once. -/
theorem computeDiff_listedOnce (hports : (desired.ports.map Port.portId).Nodup) :
    (computeDiff current desired e).ListedOnce where
  vlans := by
    rw [computeDiff_eq]
    have hsub : (((removed Vlan.id current.vlans desired.vlans).filter fun id => ¬ id = 1)).Sublist
        (removed Vlan.id current.vlans desired.vlans) := List.filter_sublist
    exact nodup_difference_keys.sublist
      (((List.Sublist.refl _).append hsub).append (List.Sublist.refl _))
  portsToConfigure := by
    rw [computeDiff_eq]
    exact hports.sublist (List.filter_sublist.map _)
  portsToReset := by
    rw [computeDiff_eq]
    cases e with
    | false => exact List.nodup_nil
    | true => exact nodup_removed.filter _
  mirrors := by
    rw [computeDiff_eq]
    exact nodup_difference_keys
  mirrorDestPortsToConfigure := by
    rw [computeDiff_eq]
    exact nodup_mirrorDestPorts

/-- The validation keeps mirror destinations out of the port list, and the reset leaves
out both. -/
theorem computeDiff_portsDisjoint (h : Accepted desired) :
    (computeDiff current desired e).PortsDisjoint := by
  have hconfigure {portId : String}
      (hp : portId ∈ (computeDiff current desired e).portsToConfigure.map Port.portId) :
      portId ∈ desired.ports.map Port.portId := by
    rw [computeDiff_eq] at hp
    exact (List.filter_sublist.map _).subset hp
  have hdest {portId : String}
      (hp : portId ∈ (computeDiff current desired e).mirrorDestPortsToConfigure) :
      portId ∈ desired.portMirrors.map PortMirror.destinationPort := by
    rw [computeDiff_eq] at hp
    exact (mem_mirrorDestPorts.mp hp).2.1
  refine ⟨?_, ?_, ?_⟩
  · intro portId hc hr
    exact (mem_portsToReset.mp hr).2.1 (hconfigure hc)
  · intro portId hc hd
    obtain ⟨mirror, hm, rfl⟩ := List.mem_map.mp (hdest hd)
    exact h.destination_not_port hm (hconfigure hc)
  · intro portId hr hd
    exact (mem_portsToReset.mp hr).2.2.1 (hdest hd)

/-- The diff of VLANs, ports, mirrors and management VLAN is sound and complete, lists
each id once, and for an accepted configuration touches each port in one way only. -/
theorem computeDiff_sound_complete (current : SwitchState) (desired : SwitchConfig) (e : Bool) :
    (desired.UniqueIds →
      ((computeDiff current desired e).NoChange ↔ Realises e current desired) ∧
        (computeDiff current desired e).Needed e current desired ∧
        (computeDiff current desired e).ListedOnce) ∧
    (Accepted desired → (computeDiff current desired e).PortsDisjoint) := by
  refine ⟨?_, computeDiff_portsDisjoint⟩
  intro hids
  exact ⟨noChange_iff_realises hids, computeDiff_needed hids, computeDiff_listedOnce hids.ports⟩

end

/-- A switch with a mirror, whose destination is not among its ports. -/
def mirrored : SwitchConfig where
  id := "sw1"
  hostname := some "office"
  model := some .aruba2930F
  managementIp := some "192.0.2.10"
  credentials := some { username := "admin" }
  vlans := [{ id := 10, name := "staff" }]
  ports := [{ portId := "1", vlan := 1 }, { portId := "2", vlan := 10 }]
  portMirrors := [{ sessionId := "1", sourcePorts := ["2"], destinationPort := "24" }]

theorem mirrored_accepted : Accepted mirrored := ⟨plainEnvironment, mirrored, rfl⟩

theorem mirrored_uniqueIds : mirrored.UniqueIds := ⟨by decide, by decide, by decide⟩

theorem computeDiff_sound_complete_mirrored :
    ((computeDiff {} mirrored true).NoChange ↔ Realises true {} mirrored) ∧
      (computeDiff {} mirrored true).PortsDisjoint :=
  ⟨((computeDiff_sound_complete {} mirrored true).1 mirrored_uniqueIds).1,
    (computeDiff_sound_complete {} mirrored true).2 mirrored_accepted⟩

end Diff

end SwitchConfigurator
