import SwitchConfigurator.DiffSpec
import SwitchConfigurator.SnmpDiff

/-!
# A second apply

`StateDiff.applyTo` is the meaning of a diff: what the switch holds once every listed
change has been made. A second diff against that state is empty, unless the configuration
gives one port twice with different settings. Then the loop over the ports looks at both
entries every time, and one of the two never matches.
-/

namespace SwitchConfigurator

open Keyed

/-- A port put in the default state. -/
def Port.toDefault (port : Port) : Port :=
  { port with
    enabled := false
    mode := .access
    vlan := 1
    taggedVlans := []
    description := none
    macNotify := false }

/-- A port put in the baseline of a mirror destination. -/
def Port.toBaseline (port : Port) : Port :=
  { port with enabled := true, mode := .access, vlan := 1, taggedVlans := [] }

def resetPorts (portIds : List String) (ports : List Port) : List Port :=
  ports.map fun port => if port.portId ∈ portIds then port.toDefault else port

/-- The port of that id in the baseline; one the switch has not shown is made. -/
def baselinePort (ports : List Port) (portId : String) : Port :=
  match lookup Port.portId portId ports with
  | some port => port.toBaseline
  | none => Port.toBaseline { portId, vlan := 1 }

def baselinePorts (portIds : List String) (ports : List Port) : List Port :=
  upsertAll Port.portId ports (portIds.map (baselinePort ports))

namespace StateDiff

def applySnmp (diff : StateDiff) (snmp : Option SnmpConfig) : Option SnmpConfig :=
  match diff.snmpDiff with
  | some snmpDiff =>
    if snmpDiff.hasChanges then some (snmpDiff.applyTo (snmp.getD {})) else snmp
  | none => snmp

/-- Carry out a diff. -/
def applyTo (diff : StateDiff) (state : SwitchState) : SwitchState :=
  { state with
    vlans := patch Vlan.id diff.vlansToAdd diff.vlansToRemove diff.vlansToUpdate state.vlans
    ports := baselinePorts diff.mirrorDestPortsToConfigure
      (resetPorts diff.portsToReset
        (upsertAll Port.portId state.ports diff.portsToConfigure))
    portMirrors := patch PortMirror.sessionId diff.mirrorsToAdd diff.mirrorsToRemove
      diff.mirrorsToUpdate state.portMirrors
    managementVlan :=
      if diff.managementVlanChanged then diff.managementVlan else state.managementVlan
    snmp := diff.applySnmp state.snmp }

/-- There is nothing to do exactly if no part of the difference says so. -/
theorem hasChanges_eq_false {diff : StateDiff} :
    diff.hasChanges = false ↔ diff.NoChange ∧ diff.SnmpUnchanged := by
  simp only [hasChanges, Bool.or_eq_false_iff, Bool.not_eq_false', List.isEmpty_iff, and_assoc]
  constructor
  · rintro ⟨ha, hr, hu, hc, hp, hma, hmr, hmu, hd, hs, hg, hm⟩
    exact ⟨⟨ha, hr, hu, hc, hp, hma, hmr, hmu, hd, hm⟩, ⟨hs, hg⟩⟩
  · rintro ⟨h, hs⟩
    exact ⟨h.vlansToAdd, h.vlansToRemove, h.vlansToUpdate, h.portsToConfigure, h.portsToReset,
      h.mirrorsToAdd, h.mirrorsToRemove, h.mirrorsToUpdate, h.mirrorDestPortsToConfigure,
      hs.flag, hs.granular, h.managementVlan⟩

end StateDiff

/-- A port that was reset is in the default state. -/
theorem Port.toDefault_isDefault (port : Port) : port.toDefault.IsDefault :=
  ⟨rfl, rfl, .inl rfl, rfl, rfl⟩

/-- A mirror destination that was set up is at the baseline. -/
theorem baselinePort_isBaseline (ports : List Port) (portId : String) :
    (baselinePort ports portId).IsBaseline := by
  unfold baselinePort
  cases lookup Port.portId portId ports <;> exact ⟨rfl, rfl, rfl⟩

theorem portId_baselinePort (ports : List Port) (portId : String) :
    (baselinePort ports portId).portId = portId := by
  unfold baselinePort
  cases h : lookup Port.portId portId ports with
  | none => rfl
  | some port =>
    have hid : port.portId = portId := key_of_lookup h
    exact hid

/-- Two matching ports match any third port alike. -/
theorem PortMatches.symm {poe : Bool} {a b : Port} (h : PortMatches poe a b) :
    PortMatches poe b a :=
  ⟨h.portId.symm, h.vlan.symm, h.description.symm, h.enabled.symm, h.macNotify.symm,
    h.speedDuplex.symm, fun hp => (h.poeEnabled hp).symm, h.taggedVlans.symm⟩

/-- What matches a match matches. -/
theorem PortMatches.trans {poe : Bool} {a b c : Port} (h : PortMatches poe a b)
    (h' : PortMatches poe b c) : PortMatches poe a c :=
  ⟨h.portId.trans h'.portId, h.vlan.trans h'.vlan, h.description.trans h'.description,
    h.enabled.trans h'.enabled, h.macNotify.trans h'.macNotify,
    h.speedDuplex.trans h'.speedDuplex, fun hp => (h.poeEnabled hp).trans (h'.poeEnabled hp),
    h.taggedVlans.trans h'.taggedVlans⟩

/-- Entries for one port ask for the same settings. -/
def SwitchConfig.RepeatedPortsMatch (desired : SwitchConfig) : Prop :=
  ∀ a ∈ desired.ports, ∀ b ∈ desired.ports, a.portId = b.portId →
    PortMatches (Diff.supportsPoe desired) a b

namespace Diff

variable {current : SwitchState} {desired : SwitchConfig} {e : Bool}

/-- The state after a first apply. -/
def applied (current : SwitchState) (desired : SwitchConfig) (e : Bool) : SwitchState :=
  (computeDiff current desired e).applyTo current

/-- After an apply no VLAN differs. -/
theorem applied_vlans : let second := computeDiff (applied current desired e) desired e
    second.vlansToAdd = [] ∧ second.vlansToRemove = [] ∧ second.vlansToUpdate = [] := by
  have hself (vlan : Vlan) : vlansEquivalentForModel (supportsVlanDescription desired) vlan vlan =
      true := vlansEquivalentForModel_iff.mpr ⟨rfl, rfl, rfl, fun _ => rfl⟩
  dsimp only
  rw [computeDiff_eq, no_difference_iff, applied, computeDiff_eq]
  exact patch_converges hself

/-- After an apply no mirror differs. -/
theorem applied_mirrors : let second := computeDiff (applied current desired e) desired e
    second.mirrorsToAdd = [] ∧ second.mirrorsToRemove = [] ∧ second.mirrorsToUpdate = [] := by
  have h := @patch_converges _ _ _ PortMirror.sessionId (· == ·) current.portMirrors
    desired.portMirrors (fun _ => False) _ (fun _ => beq_self_eq_true _)
  rw [← no_difference_iff] at h
  dsimp only
  rw [computeDiff_eq, applied, computeDiff_eq]
  simp only [not_false_eq_true, decide_true, List.filter_true] at h
  exact h

/-- After an apply SNMP does not differ. -/
theorem applied_snmp : (computeDiff (applied current desired e) desired e).SnmpUnchanged := by
  have hsnmp : (applied current desired e).snmp =
      (computeDiff current desired e).applySnmp current.snmp := rfl
  rw [snmpUnchanged_iff, hsnmp, StateDiff.applySnmp, computeDiff_eq]
  cases hd : (diffSnmp current desired {}).snmpDiff with
  | none =>
    have hunchanged := @diffSnmp_hasChanges current desired
    rw [hd] at hunchanged
    exact diffSnmp_unchanged_iff.mp hunchanged.symm
  | some snmpDiff =>
    have hagree := @appliedSnmp_agree current desired
    rw [appliedSnmp, hd] at hagree
    by_cases hc : snmpDiff.hasChanges = true
    · simpa [hc] using hagree
    · have hunchanged := @diffSnmp_hasChanges current desired
      rw [hd] at hunchanged
      simp only [hc, Bool.false_eq_true, if_false]
      refine diffSnmp_unchanged_iff.mp ?_
      rw [← hunchanged]
      simpa using hc

/-- After an apply the management VLAN does not differ. -/
theorem applied_managementVlan :
    (computeDiff (applied current desired e) desired e).managementVlanChanged = false := by
  rw [computeDiff_eq, applied, computeDiff_eq]
  by_cases h : (current.managementVlan != desired.managementVlan) = true
  · simp [StateDiff.applyTo, h]
  · simp [StateDiff.applyTo, h]

/-! ## Ports -/

/-- A port after the first apply: mirror destinations that needed it are in the baseline,
the others as configured or as they were, and in the default state where reset. -/
theorem lookup_applied_ports (portId : String) :
    lookup Port.portId portId (applied current desired e).ports =
      if portId ∈ (computeDiff current desired e).mirrorDestPortsToConfigure then
        some (baselinePort (resetPorts (computeDiff current desired e).portsToReset
          (upsertAll Port.portId current.ports
            (computeDiff current desired e).portsToConfigure)) portId)
      else
        ((lookup Port.portId portId (computeDiff current desired e).portsToConfigure).or
          (lookup Port.portId portId current.ports)).map fun port =>
            if port.portId ∈ (computeDiff current desired e).portsToReset then port.toDefault
            else port := by
  have hreset (port : Port) : (if port.portId ∈ (computeDiff current desired e).portsToReset
      then port.toDefault else port).portId = port.portId := by
    split <;> rfl
  unfold applied StateDiff.applyTo baselinePorts
  dsimp only
  rw [lookup_upsertAll, lookup_map_keys (portId_baselinePort _)]
  split
  · rfl
  · rw [Option.none_or, resetPorts, lookup_map hreset, lookup_upsertAll]

/-- After an apply no port is left to reset. -/
theorem applied_portsToReset :
    (computeDiff (applied current desired e) desired e).portsToReset = [] := by
  rw [portsToReset_eq_nil_iff]
  intro he portId c hc hport hdest
  have hnotDest : portId ∉ (computeDiff current desired e).mirrorDestPortsToConfigure := by
    rw [computeDiff_eq]
    intro hd
    exact hdest (mem_mirrorDestPorts.mp hd).2.1
  have hnotConfigured :
      lookup Port.portId portId (computeDiff current desired e).portsToConfigure = none := by
    rw [computeDiff_eq]
    refine lookup_eq_none_iff.mpr fun port hp hid => hport ?_
    exact hid ▸ List.mem_map_of_mem (List.mem_filter.mp hp).1
  rw [lookup_applied_ports, if_neg hnotDest, hnotConfigured, Option.none_or,
    Option.map_eq_some_iff] at hc
  obtain ⟨found, hfound, rfl⟩ := hc
  split
  · exact found.toDefault_isDefault
  · next hreset =>
    by_contra hdefault
    rw [key_of_lookup hfound] at hreset
    refine hreset (mem_portsToReset.mpr ⟨he, hport, hdest, found, hfound, ?_⟩)
    rwa [isPortInDefaultState_iff]

variable (hacc : Accepted desired)
include hacc

/-- A configured port is no mirror destination. -/
theorem not_dest_of_port {port : Port} (hp : port ∈ desired.ports) :
    port.portId ∉ desired.portMirrors.map PortMirror.destinationPort := by
  intro hd
  obtain ⟨mirror, hm, hdest⟩ := List.mem_map.mp hd
  exact hacc.destination_not_port hm (hdest ▸ List.mem_map_of_mem hp)

/-- A desired port is neither reset nor a mirror destination: it is as configured, or as
it was where nothing had to be configured. -/
theorem lookup_applied_port {port : Port} (hp : port ∈ desired.ports) :
    lookup Port.portId port.portId (applied current desired e).ports =
      (lookup Port.portId port.portId (computeDiff current desired e).portsToConfigure).or
        (lookup Port.portId port.portId current.ports) := by
  have hmem : port.portId ∈ desired.ports.map Port.portId := List.mem_map_of_mem hp
  have hdest : port.portId ∉ (computeDiff current desired e).mirrorDestPortsToConfigure := by
    rw [computeDiff_eq]
    intro hd
    exact not_dest_of_port hacc hp (mem_mirrorDestPorts.mp hd).2.1
  have hreset : port.portId ∉ (computeDiff current desired e).portsToReset := by
    intro hr
    exact (mem_portsToReset.mp hr).2.1 hmem
  rw [lookup_applied_ports, if_neg hdest]
  cases h : (lookup Port.portId port.portId (computeDiff current desired e).portsToConfigure).or
      (lookup Port.portId port.portId current.ports) with
  | none => rfl
  | some found =>
    have hid : found.portId = port.portId := by
      rcases Option.or_eq_some_iff.mp h with h | ⟨_, h⟩ <;> exact key_of_lookup h
    simp [hid, hreset]

/-- Wherever the first apply left a port, some entry of the configuration for that port
matches it. -/
theorem exists_match_applied {port : Port} (hp : port ∈ desired.ports) :
    ∃ c, lookup Port.portId port.portId (applied current desired e).ports = some c ∧
      ∃ entry ∈ desired.ports, entry.portId = port.portId ∧
        PortMatches (supportsPoe desired) c entry := by
  rw [lookup_applied_port hacc hp]
  cases h : lookup Port.portId port.portId (computeDiff current desired e).portsToConfigure with
  | some entry =>
    have hentry : entry ∈ desired.ports := by
      have hm := mem_of_lookup h
      rw [computeDiff_eq] at hm
      exact (List.mem_filter.mp hm).1
    exact ⟨entry, rfl, entry, hentry, key_of_lookup h,
      ⟨rfl, rfl, rfl, rfl, rfl, rfl, fun _ => rfl, rfl⟩⟩
  | none =>
    have hneeds : ¬ portNeedsConfig current desired port = true := by
      intro hn
      refine lookup_eq_none_iff.mp h port ?_ rfl
      rw [computeDiff_eq]
      exact List.mem_filter.mpr ⟨hp, hn⟩
    rw [portNeedsConfig_iff] at hneeds
    push Not at hneeds
    obtain ⟨c, hc, hmatch⟩ := hneeds
    exact ⟨c, hc, port, hp, rfl, hmatch⟩

/-- Ports are left to configure only where one is given twice, and not alike. -/
theorem applied_portsToConfigure_iff :
    (computeDiff (applied current desired e) desired e).portsToConfigure = [] ↔
      desired.RepeatedPortsMatch := by
  rw [portsToConfigure_eq_nil_iff]
  constructor
  · intro h a ha b hb hid
    obtain ⟨c, hc, hca⟩ := h a ha
    obtain ⟨c', hc', hcb⟩ := h b hb
    obtain rfl : c = c' := Option.some.inj (hc.symm.trans (hid ▸ hc'))
    exact hca.symm.trans hcb
  · intro h port hp
    obtain ⟨c, hc, entry, hentry, hid, hmatch⟩ := @exists_match_applied current desired e hacc
      port hp
    exact ⟨c, hc, hmatch.trans (h entry hentry port hp hid)⟩

/-- After an apply no mirror destination is left to set up. -/
theorem applied_mirrorDestPorts :
    (computeDiff (applied current desired e) desired e).mirrorDestPortsToConfigure = [] := by
  rw [mirrorDestPortsToConfigure_eq_nil_iff]
  intro mirror hm
  rw [lookup_applied_ports]
  split
  · exact ⟨_, rfl, baselinePort_isBaseline _ _⟩
  · next hnotListed =>
    have hmem : mirror.destinationPort ∈ desired.portMirrors.map PortMirror.destinationPort :=
      List.mem_map_of_mem hm
    have hneeds : ¬ destNeedsConfig current mirror.destinationPort = true := by
      intro hn
      rw [computeDiff_eq] at hnotListed
      exact hnotListed (mem_mirrorDestPorts.mpr ⟨List.not_mem_nil, hmem, hn⟩)
    rw [destNeedsConfig_iff] at hneeds
    push Not at hneeds
    obtain ⟨c, hc, hbase⟩ := hneeds
    have hnotConfigured : lookup Port.portId mirror.destinationPort
        (computeDiff current desired e).portsToConfigure = none := by
      rw [computeDiff_eq]
      refine lookup_eq_none_iff.mpr fun port hp hid => ?_
      exact not_dest_of_port hacc (List.mem_filter.mp hp).1 (hid ▸ hmem)
    have hnotReset : c.portId ∉ (computeDiff current desired e).portsToReset := by
      rw [key_of_lookup hc]
      intro hr
      exact (mem_portsToReset.mp hr).2.2.1 hmem
    refine ⟨c, ?_, hbase⟩
    rw [hnotConfigured, hc]
    simp [hnotReset]

/-- For an accepted configuration a second apply has nothing to do exactly when entries
for one port ask for the same settings. -/
theorem second_apply_noop_iff (current : SwitchState) (e : Bool) :
    (computeDiff ((computeDiff current desired e).applyTo current) desired e).hasChanges = false ↔
      desired.RepeatedPortsMatch := by
  rw [StateDiff.hasChanges_eq_false]
  change (computeDiff (applied current desired e) desired e).NoChange ∧
    (computeDiff (applied current desired e) desired e).SnmpUnchanged ↔ _
  constructor
  · intro h
    exact (applied_portsToConfigure_iff hacc).mp h.1.portsToConfigure
  · intro h
    obtain ⟨hadd, hremove, hupdate⟩ := @applied_vlans current desired e
    obtain ⟨haddm, hremovem, hupdatem⟩ := @applied_mirrors current desired e
    exact ⟨⟨hadd, hremove, hupdate, (applied_portsToConfigure_iff hacc).mpr h,
      applied_portsToReset, haddm, hremovem, hupdatem, applied_mirrorDestPorts hacc,
      applied_managementVlan⟩, applied_snmp⟩

omit hacc

/-- A switch whose two port entries overlap in port 3. -/
def overlappingRaw : SwitchConfig where
  id := "sw1"
  hostname := some "office"
  model := some .aruba2930F
  managementIp := some "192.0.2.10"
  credentials := some { username := "admin" }
  vlans := [{ id := 10, name := "staff" }]
  ports := [{ portId := "1-3", vlan := 1 }, { portId := "3", vlan := 10 }]

def overlapping : SwitchConfig :=
  { overlappingRaw with
    ports := [{ portId := "1", vlan := 1 }, { portId := "2", vlan := 1 },
      { portId := "3", vlan := 1 }, { portId := "3", vlan := 10 }] }

theorem overlapping_accepted : Accepted overlapping :=
  ⟨plainEnvironment, overlappingRaw, rfl⟩

/-- Overlapping ranges pass the validation, and every apply sends port 3 again. -/
theorem overlapping_never_settles : Accepted overlapping ∧
    (computeDiff ((computeDiff {} overlapping false).applyTo {}) overlapping
      false).hasChanges = true :=
  ⟨overlapping_accepted, by decide⟩

/-- A switch with overlapping ports. -/
theorem second_apply_noop_iff_overlapping :
    (computeDiff ((computeDiff {} overlapping true).applyTo {}) overlapping true).hasChanges =
      false ↔ overlapping.RepeatedPortsMatch :=
  second_apply_noop_iff overlapping_accepted {} true

end Diff

end SwitchConfigurator
