import SwitchConfigurator.DiffSpec

/-!
# Orders and repetitions

The tagged VLANs of a port and the sources of a mirror are sets that come as lists, and so are the
entries of a state and of a config. Which of these lists the diff takes as sets, and what it lists
when one of them is written in another way.
-/

namespace SwitchConfigurator

open Keyed

/-! ## The same state in another way -/

/-- The same port, its tagged VLANs in any order and any number of times. -/
structure Port.SameSet (port port' : Port) : Prop where
  same : port' = { port with taggedVlans := port'.taggedVlans }
  tagged : ∀ vlan, vlan ∈ port.taggedVlans ↔ vlan ∈ port'.taggedVlans

/-- The same mirror, its sources in any order and any number of times. -/
structure PortMirror.SameSet (mirror mirror' : PortMirror) : Prop where
  same : mirror' = { mirror with sourcePorts := mirror'.sourcePorts }
  sources : ∀ source, source ∈ mirror.sourcePorts ↔ source ∈ mirror'.sourcePorts

structure SwitchState.Rearranged (state state' : SwitchState) : Prop where
  vlans : state.vlans.Perm state'.vlans
  ports : Keyed.Rearranged Port.SameSet state.ports state'.ports
  mirrors : Keyed.Rearranged PortMirror.SameSet state.portMirrors state'.portMirrors
  rest : state' = { state with
    vlans := state'.vlans, ports := state'.ports, portMirrors := state'.portMirrors }

structure SwitchConfig.Rearranged (config config' : SwitchConfig) : Prop where
  vlans : config.vlans.Perm config'.vlans
  ports : Keyed.Rearranged Port.SameSet config.ports config'.ports
  mirrors : Keyed.Rearranged PortMirror.SameSet config.portMirrors config'.portMirrors
  rest : config' = { config with
    vlans := config'.vlans, ports := config'.ports, portMirrors := config'.portMirrors }

structure SwitchState.UniqueIds (state : SwitchState) : Prop where
  vlans : (state.vlans.map Vlan.id).Nodup
  ports : (state.ports.map Port.portId).Nodup
  mirrors : (state.portMirrors.map PortMirror.sessionId).Nodup

/-- Two diffs list the same VLANs, ports, mirrors, communities and receivers. -/
structure StateDiff.SameVerdict (diff diff' : StateDiff) : Prop where
  vlansToAdd : ∀ id, id ∈ diff.vlansToAdd.map Vlan.id ↔ id ∈ diff'.vlansToAdd.map Vlan.id
  vlansToRemove : ∀ id, id ∈ diff.vlansToRemove ↔ id ∈ diff'.vlansToRemove
  vlansToUpdate : ∀ id, id ∈ diff.vlansToUpdate.map Vlan.id ↔ id ∈ diff'.vlansToUpdate.map Vlan.id
  portsToConfigure : ∀ id, id ∈ diff.portsToConfigure.map Port.portId ↔
    id ∈ diff'.portsToConfigure.map Port.portId
  portsToReset : ∀ id, id ∈ diff.portsToReset ↔ id ∈ diff'.portsToReset
  mirrorsToAdd : ∀ id, id ∈ diff.mirrorsToAdd.map PortMirror.sessionId ↔
    id ∈ diff'.mirrorsToAdd.map PortMirror.sessionId
  mirrorsToRemove : ∀ id, id ∈ diff.mirrorsToRemove ↔ id ∈ diff'.mirrorsToRemove
  mirrorsToUpdate : ∀ id, id ∈ diff.mirrorsToUpdate.map PortMirror.sessionId ↔
    id ∈ diff'.mirrorsToUpdate.map PortMirror.sessionId
  mirrorDestPorts : ∀ id, id ∈ diff.mirrorDestPortsToConfigure ↔
    id ∈ diff'.mirrorDestPortsToConfigure
  snmp : diff.snmpDiff = diff'.snmpDiff

/-! ## What matches but for the order -/

/-- `PortMatches` with the tagged VLANs as a set. -/
structure PortAgrees (poe : Bool) (current desired : Port) : Prop where
  portId : current.portId = desired.portId
  vlan : current.vlan = desired.vlan
  description : current.description = desired.description
  enabled : current.enabled = desired.enabled
  macNotify : current.macNotify = desired.macNotify
  speedDuplex : current.speedDuplex = desired.speedDuplex
  poeEnabled : poe = true → current.poeEnabled = desired.poeEnabled
  tagged : ∀ vlan, vlan ∈ Diff.taggedWithoutNative current ↔
    vlan ∈ Diff.taggedWithoutNative desired

/-- Nothing that is as desired has a list in which an order could be seen. -/
structure Orderless (current : SwitchState) (desired : SwitchConfig) : Prop where
  ports : ∀ port ∈ current.ports, ∀ wanted ∈ desired.ports,
    PortAgrees (Diff.supportsPoe desired) port wanted → Diff.taggedWithoutNative wanted = []
  mirrors : ∀ mirror ∈ current.portMirrors, ∀ wanted ∈ desired.portMirrors,
    mirror.SameSet wanted → wanted.sourcePorts = []

/-! ## Sets of VLANs and sources -/

section Sets

variable {port port' wanted wanted' : Port} {mirror mirror' : PortMirror} {poe : Bool}

theorem Port.SameSet.refl (port : Port) : port.SameSet port := ⟨rfl, fun _ => Iff.rfl⟩

theorem Port.SameSet.portId (h : port.SameSet port') : port.portId = port'.portId := by rw [h.same]

theorem PortMirror.SameSet.refl (mirror : PortMirror) : mirror.SameSet mirror :=
  ⟨rfl, fun _ => Iff.rfl⟩

theorem PortMirror.SameSet.sessionId (h : mirror.SameSet mirror') :
    mirror.sessionId = mirror'.sessionId := by rw [h.same]

/-- Lists of one set are empty together. -/
theorem eq_nil_iff_of_mem_iff {α : Type} {l l' : List α} (h : ∀ a, a ∈ l ↔ a ∈ l') :
    l = [] ↔ l' = [] := by
  simp only [List.eq_nil_iff_forall_not_mem, h]

/-- The native VLAN does not count as tagged. -/
theorem mem_taggedWithoutNative {vlan : ℕ} :
    vlan ∈ Diff.taggedWithoutNative port ↔ vlan ∈ port.taggedVlans ∧ vlan ≠ port.vlan := by
  rw [Diff.taggedWithoutNative_eq, List.mem_filter, decide_eq_true_eq]

/-- The lists are all that two ports that agree can differ in. -/
theorem portMatches_iff : PortMatches poe port wanted ↔
    PortAgrees poe port wanted ∧
      Diff.taggedWithoutNative port = Diff.taggedWithoutNative wanted := by
  rw [Diff.taggedWithoutNative_eq, Diff.taggedWithoutNative_eq]
  constructor
  · intro h
    refine ⟨⟨h.portId, h.vlan, h.description, h.enabled, h.macNotify, h.speedDuplex, h.poeEnabled,
      fun vlan => ?_⟩, h.taggedVlans⟩
    rw [Diff.taggedWithoutNative_eq, Diff.taggedWithoutNative_eq, h.taggedVlans]
  · rintro ⟨h, htagged⟩
    exact ⟨h.portId, h.vlan, h.description, h.enabled, h.macNotify, h.speedDuplex, h.poeEnabled,
      htagged⟩

/-- Ports of one set have the same tagged VLANs. -/
theorem Port.SameSet.mem_tagged (h : port.SameSet port') {vlan : ℕ} :
    vlan ∈ Diff.taggedWithoutNative port ↔ vlan ∈ Diff.taggedWithoutNative port' := by
  have hnative : port'.vlan = port.vlan := by rw [h.same]
  rw [mem_taggedWithoutNative, mem_taggedWithoutNative, h.tagged, hnative]

/-- Whether ports agree is a matter of their sets. -/
theorem PortAgrees.congr (h : port.SameSet port') (hwanted : wanted.SameSet wanted')
    (hagrees : PortAgrees poe port wanted) : PortAgrees poe port' wanted' := by
  have htagged (vlan : ℕ) : vlan ∈ Diff.taggedWithoutNative port' ↔
      vlan ∈ Diff.taggedWithoutNative wanted' := by
    rw [← h.mem_tagged, hagrees.tagged, hwanted.mem_tagged]
  obtain ⟨tagged, rfl⟩ : ∃ tagged, port' = { port with taggedVlans := tagged } := ⟨_, h.same⟩
  obtain ⟨tagged', rfl⟩ : ∃ tagged, wanted' = { wanted with taggedVlans := tagged } :=
    ⟨_, hwanted.same⟩
  exact ⟨hagrees.portId, hagrees.vlan, hagrees.description, hagrees.enabled, hagrees.macNotify,
    hagrees.speedDuplex, hagrees.poeEnabled, htagged⟩

theorem Port.SameSet.symm (h : port.SameSet port') : port'.SameSet port := by
  refine ⟨?_, fun vlan => (h.tagged vlan).symm⟩
  conv_rhs => rw [h.same]

/-- Ports that agree and have no tagged VLAN match, in whatever order their lists are. -/
theorem portMatches_congr (h : port.SameSet port') (hwanted : wanted.SameSet wanted')
    (hnone : PortAgrees poe port wanted → Diff.taggedWithoutNative wanted = []) :
    PortMatches poe port wanted ↔ PortMatches poe port' wanted' := by
  have hagrees : PortAgrees poe port wanted ↔ PortAgrees poe port' wanted' :=
    ⟨.congr h hwanted, .congr h.symm hwanted.symm⟩
  rw [portMatches_iff, portMatches_iff, ← hagrees]
  refine and_congr_right fun hagrees => ?_
  have hwantedNil := hnone hagrees
  have hportNil := (eq_nil_iff_of_mem_iff hagrees.tagged).mpr hwantedNil
  have hwantedNil' := (eq_nil_iff_of_mem_iff fun _ => hwanted.mem_tagged).mp hwantedNil
  have hportNil' := (eq_nil_iff_of_mem_iff fun _ => h.mem_tagged).mp hportNil
  rw [hwantedNil, hportNil, hwantedNil', hportNil']

/-- An order in which a port that agrees matches. -/
theorem exists_sameSet_matches (h : PortAgrees poe port wanted) :
    ∃ port', port.SameSet port' ∧ PortMatches poe port' wanted := by
  let native := port.taggedVlans.filter (· = port.vlan)
  let port' : Port := { port with taggedVlans := native ++ Diff.taggedWithoutNative wanted }
  have hsame : port.SameSet port' := by
    refine ⟨rfl, fun vlan => ?_⟩
    rw [List.mem_append, List.mem_filter, ← h.tagged, mem_taggedWithoutNative, decide_eq_true_eq]
    tauto
  refine ⟨port', hsame, portMatches_iff.mpr ⟨h.congr hsame (.refl wanted), ?_⟩⟩
  have hwanted : ∀ vlan ∈ Diff.taggedWithoutNative wanted, decide (vlan ≠ port.vlan) = true := by
    intro vlan hvlan
    rw [← h.tagged, mem_taggedWithoutNative] at hvlan
    exact decide_eq_true hvlan.2
  have hnative : native.filter (· ≠ port.vlan) = [] := by
    rw [List.filter_eq_nil_iff]
    intro vlan hvlan
    have heq := of_decide_eq_true (List.mem_filter.mp hvlan).2
    simpa using heq
  rw [Diff.taggedWithoutNative_eq port', List.filter_append, hnative, List.nil_append]
  exact List.filter_eq_self.mpr hwanted

/-- Written twice, a list that is not empty is another one. -/
theorem exists_sameSet_differs (h : PortMatches poe port wanted)
    (hne : Diff.taggedWithoutNative wanted ≠ []) :
    ∃ wanted', wanted.SameSet wanted' ∧ ¬PortMatches poe port wanted' := by
  let wanted' : Port := { wanted with taggedVlans := wanted.taggedVlans ++ wanted.taggedVlans }
  have hsame : wanted.SameSet wanted' := ⟨rfl, fun vlan => by simp [wanted']⟩
  refine ⟨wanted', hsame, fun hmatches => ?_⟩
  have htwice : Diff.taggedWithoutNative wanted' =
      Diff.taggedWithoutNative wanted ++ Diff.taggedWithoutNative wanted := List.filter_append ..
  have hlists := (portMatches_iff.mp hmatches).2
  rw [(portMatches_iff.mp h).2, htwice] at hlists
  have hlength := congrArg List.length hlists
  rw [List.length_append] at hlength
  have hpos := List.length_pos_iff.mpr hne
  omega

theorem PortMirror.SameSet.symm (h : mirror.SameSet mirror') : mirror'.SameSet mirror := by
  refine ⟨?_, fun source => (h.sources source).symm⟩
  conv_rhs => rw [h.same]

theorem PortMirror.SameSet.trans {mirror'' : PortMirror} (h : mirror.SameSet mirror')
    (h' : mirror'.SameSet mirror'') : mirror.SameSet mirror'' := by
  refine ⟨?_, fun source => (h.sources source).trans (h'.sources source)⟩
  conv_lhs => rw [h'.same, h.same]

/-- Mirrors of one set with the same list of sources are one. -/
theorem PortMirror.eq_of_sources (h : mirror.SameSet mirror')
    (hsources : mirror.sourcePorts = mirror'.sourcePorts) : mirror = mirror' := by
  rw [h.same, ← hsources]

/-- Mirrors of one set of sources are the same while that set is empty. -/
theorem mirror_eq_congr {wanted wanted' : PortMirror} (h : mirror.SameSet mirror')
    (hwanted : wanted.SameSet wanted') (hnone : mirror.SameSet wanted → wanted.sourcePorts = []) :
    mirror = wanted ↔ mirror' = wanted' := by
  have hempty (hsame : mirror.SameSet wanted) {other : PortMirror} (hother : wanted.SameSet other) :
      other.sourcePorts = [] :=
    (eq_nil_iff_of_mem_iff hother.sources).mp (hnone hsame)
  constructor
  · rintro rfl
    have hsame := (h.symm.trans hwanted)
    refine PortMirror.eq_of_sources hsame ?_
    rw [hempty (.refl mirror) h, hempty (.refl mirror) hwanted]
  · rintro rfl
    have hsame := h.trans hwanted.symm
    refine PortMirror.eq_of_sources hsame ?_
    rw [hnone hsame, hempty hsame hsame.symm]

end Sets

/-! ## Verdicts -/

section Verdict

variable {current current' : SwitchState} {desired desired' : SwitchConfig} {e : Bool} {id : String}
variable {port port' : Port}

/-- A rearranged state repeats no id. -/
theorem SwitchState.Rearranged.uniqueIds (h : current.Rearranged current')
    (hids : current.UniqueIds) : current'.UniqueIds where
  vlans := (h.vlans.map _).nodup_iff.mp hids.vlans
  ports := (h.ports.keys_perm fun _ _ hsame => hsame.portId).nodup_iff.mp hids.ports
  mirrors := (h.mirrors.keys_perm fun _ _ hsame => hsame.sessionId).nodup_iff.mp hids.mirrors

/-- Nor does a rearranged configuration. -/
theorem SwitchConfig.Rearranged.uniqueIds (h : desired.Rearranged desired')
    (hids : desired.UniqueIds) : desired'.UniqueIds where
  vlans := (h.vlans.map _).nodup_iff.mp hids.vlans
  ports := (h.ports.keys_perm fun _ _ hsame => hsame.portId).nodup_iff.mp hids.ports
  mirrors := (h.mirrors.keys_perm fun _ _ hsame => hsame.sessionId).nodup_iff.mp hids.mirrors

/-- The default state is a matter of sets. -/
theorem Port.SameSet.isDefault_iff (h : port.SameSet port') :
    Diff.isPortInDefaultState port = true ↔ Diff.isPortInDefaultState port' = true := by
  have hnil := eq_nil_iff_of_mem_iff h.tagged
  rw [Diff.isPortInDefaultState_iff, Diff.isPortInDefaultState_iff]
  obtain ⟨tagged, rfl⟩ : ∃ tagged, port' = { port with taggedVlans := tagged } := ⟨_, h.same⟩
  constructor
  · exact fun h => ⟨h.enabled, h.vlan, h.description, hnil.mp h.taggedVlans, h.macNotify⟩
  · exact fun h => ⟨h.enabled, h.vlan, h.description, hnil.mpr h.taggedVlans, h.macNotify⟩

/-- So is the baseline. -/
theorem Port.SameSet.isBaseline_iff (h : port.SameSet port') :
    Diff.isBaseline port = true ↔ Diff.isBaseline port' = true := by
  have hnil := eq_nil_iff_of_mem_iff h.tagged
  rw [Diff.isBaseline_iff, Diff.isBaseline_iff]
  obtain ⟨tagged, rfl⟩ : ∃ tagged, port' = { port with taggedVlans := tagged } := ⟨_, h.same⟩
  constructor
  · exact fun h => ⟨h.vlan, h.enabled, hnil.mp h.taggedVlans⟩
  · exact fun h => ⟨h.vlan, h.enabled, hnil.mpr h.taggedVlans⟩

/-- The ports that the diff configures, by what the config and the state have under their ids. -/
theorem mem_portsToConfigure (hids : desired.UniqueIds) :
    id ∈ (Diff.computeDiff current desired e).portsToConfigure.map Port.portId ↔
      ∃ wanted, lookup Port.portId id desired.ports = some wanted ∧
        ∀ port, lookup Port.portId id current.ports = some port →
          ¬PortMatches (Diff.supportsPoe desired) port wanted := by
  rw [Diff.computeDiff_eq, List.mem_map]
  simp only [List.mem_filter, Diff.portNeedsConfig_iff]
  constructor
  · rintro ⟨wanted, ⟨hwanted, hdiffers⟩, rfl⟩
    exact ⟨wanted, lookup_of_mem hids.ports hwanted, hdiffers⟩
  · rintro ⟨wanted, hwanted, hdiffers⟩
    obtain rfl := key_of_lookup hwanted
    exact ⟨wanted, ⟨mem_of_lookup hwanted, hdiffers⟩, rfl⟩

/-- A mirror is updated if both sides have it and the lists differ. -/
theorem mem_mirrorsToUpdate :
    id ∈ (Diff.computeDiff current desired e).mirrorsToUpdate.map PortMirror.sessionId ↔
      ∃ mirror wanted, lookup PortMirror.sessionId id current.portMirrors = some mirror ∧
        lookup PortMirror.sessionId id desired.portMirrors = some wanted ∧ mirror ≠ wanted := by
  rw [Diff.computeDiff_eq, mem_map_updated]
  simp only [beq_eq_false_iff_ne]

/-- A rearranged state has the same port under an id, up to its list. -/
theorem lookup_ports (hids : current.UniqueIds) (h : current.Rearranged current') (id : String) :
    Option.Rel Port.SameSet (lookup Port.portId id current.ports)
      (lookup Port.portId id current'.ports) :=
  h.ports.lookup_rel (fun _ _ hsame => hsame.portId) hids.ports id

/-- What every rearrangement leaves as it is. -/
theorem sameVerdict_of_orderless (hids : current.UniqueIds) (hdesired : desired.UniqueIds)
    (horderless : Orderless current desired) (hcurrent : current.Rearranged current')
    (hconfig : desired.Rearranged desired') :
    (Diff.computeDiff current desired e).SameVerdict (Diff.computeDiff current' desired' e) := by
  -- every verdict reads a lookup or a membership, and those do not see the order
  have hmodel : desired'.model = desired.model := by rw [hconfig.rest]
  have hpoe : Diff.supportsPoe desired' = Diff.supportsPoe desired := by
    rw [Diff.supportsPoe, hmodel, Diff.supportsPoe]
  have hvlanIds {id : ℕ} : id ∈ current.vlans.map Vlan.id ↔ id ∈ current'.vlans.map Vlan.id :=
    (hcurrent.vlans.map _).mem_iff
  have hvlanIds' {id : ℕ} : id ∈ desired.vlans.map Vlan.id ↔ id ∈ desired'.vlans.map Vlan.id :=
    (hconfig.vlans.map _).mem_iff
  have hsessions {id : String} : id ∈ current.portMirrors.map PortMirror.sessionId ↔
      id ∈ current'.portMirrors.map PortMirror.sessionId :=
    (hcurrent.mirrors.keys_perm fun _ _ hsame => hsame.sessionId).mem_iff
  have hsessions' {id : String} : id ∈ desired.portMirrors.map PortMirror.sessionId ↔
      id ∈ desired'.portMirrors.map PortMirror.sessionId :=
    (hconfig.mirrors.keys_perm fun _ _ hsame => hsame.sessionId).mem_iff
  have hdests {id : String} : id ∈ desired.portMirrors.map PortMirror.destinationPort ↔
      id ∈ desired'.portMirrors.map PortMirror.destinationPort := by
    refine (hconfig.mirrors.keys_perm fun _ _ hsame => ?_).mem_iff
    rw [hsame.same]
  have hports {id : String} : id ∈ desired.ports.map Port.portId ↔
      id ∈ desired'.ports.map Port.portId :=
    (hconfig.ports.keys_perm fun _ _ hsame => hsame.portId).mem_iff
  constructor
  · intro id
    rw [Diff.computeDiff_eq, Diff.computeDiff_eq, mem_map_added, mem_map_added, hvlanIds, hvlanIds']
  · intro id
    rw [Diff.computeDiff_eq, Diff.computeDiff_eq, List.mem_filter, List.mem_filter, mem_removed_iff,
      mem_removed_iff, hvlanIds, hvlanIds']
  · intro id
    rw [Diff.computeDiff_eq, Diff.computeDiff_eq, mem_map_updated, mem_map_updated,
      lookup_perm hcurrent.vlans hids.vlans, lookup_perm hconfig.vlans hdesired.vlans,
      Diff.supportsVlanDescription, Diff.supportsVlanDescription, hmodel]
  · intro id
    rw [mem_portsToConfigure hdesired, mem_portsToConfigure (hconfig.uniqueIds hdesired), hpoe]
    have hwanted := hconfig.ports.lookup_rel (fun _ _ hsame => hsame.portId) hdesired.ports id
    -- ports: the lists inside a port are compared in order, so `horderless` is needed here
    refine exists_iff_of_rel hwanted fun wanted wanted' hlookup _ hsame => ?_
    refine forall_iff_of_rel (lookup_ports hids hcurrent id) fun port port' hport _ hsamePort => ?_
    exact not_congr (portMatches_congr hsamePort hsame
      (horderless.ports port (mem_of_lookup hport) wanted (mem_of_lookup hlookup)))
  · intro id
    rw [Diff.mem_portsToReset, Diff.mem_portsToReset, hports, hdests]
    refine and_congr_right' (and_congr_right' (and_congr_right' ?_))
    refine exists_iff_of_rel (lookup_ports hids hcurrent id) fun port port' _ _ hsame => ?_
    exact not_congr hsame.isDefault_iff
  · intro id
    rw [Diff.computeDiff_eq, Diff.computeDiff_eq, mem_map_added, mem_map_added, hsessions,
      hsessions']
  · intro id
    rw [Diff.computeDiff_eq, Diff.computeDiff_eq, mem_removed_iff, mem_removed_iff, hsessions,
      hsessions']
  · intro id
    rw [mem_mirrorsToUpdate, mem_mirrorsToUpdate]
    have hmirror := hcurrent.mirrors.lookup_rel (fun _ _ hsame => hsame.sessionId) hids.mirrors id
    have hwanted :=
      hconfig.mirrors.lookup_rel (fun _ _ hsame => hsame.sessionId) hdesired.mirrors id
    simp only [exists_and_left]
    refine exists_iff_of_rel hmirror fun mirror mirror' hlookup _ hsame => ?_
    refine exists_iff_of_rel hwanted fun wanted wanted' hlookup' _ hsame' => ?_
    -- mirrors are compared as values, their source ports in order
    exact not_congr (mirror_eq_congr hsame hsame'
      (horderless.mirrors mirror (mem_of_lookup hlookup) wanted (mem_of_lookup hlookup')))
  · intro id
    rw [Diff.computeDiff_eq, Diff.computeDiff_eq, Diff.mem_mirrorDestPorts,
      Diff.mem_mirrorDestPorts, hdests, Diff.destNeedsConfig_eq_true, Diff.destNeedsConfig_eq_true]
    refine and_congr_right' (and_congr_right' ?_)
    refine forall_iff_of_rel (lookup_ports hids hcurrent id) fun port port' _ _ hsame => ?_
    exact not_congr hsame.isBaseline_iff
  · have hcurrentSnmp : current'.snmp = current.snmp := by rw [hcurrent.rest]
    have hconfigSnmp : desired'.snmp = desired.snmp := by rw [hconfig.rest]
    have heffective : effectiveSnmp desired' = effectiveSnmp desired := by
      rw [effectiveSnmp, readsEnabled, hconfigSnmp, effectiveSnmp, readsEnabled]
    have hdiff : Diff.diffSnmp current' desired' {} = Diff.diffSnmp current desired {} := by
      rw [Diff.diffSnmp, hcurrentSnmp, heffective]
      rfl
    rw [Diff.computeDiff_eq, Diff.computeDiff_eq, hdiff]

theorem SwitchState.Rearranged.refl (current : SwitchState) : current.Rearranged current :=
  ⟨.refl _, .refl Port.SameSet.refl _, .refl PortMirror.SameSet.refl _, rfl⟩

theorem SwitchConfig.Rearranged.refl (desired : SwitchConfig) : desired.Rearranged desired :=
  ⟨.refl _, .refl Port.SameSet.refl _, .refl PortMirror.SameSet.refl _, rfl⟩

/-- Another way to write a port. -/
theorem exists_rearranged_port {ports : List Port} (hids : (ports.map Port.portId).Nodup)
    (hport : port ∈ ports) (hsame : port.SameSet port') :
    ∃ ports', Keyed.Rearranged Port.SameSet ports ports' ∧
      lookup Port.portId port.portId ports' = some port' :=
  Keyed.Rearranged.exists_replace Port.SameSet.refl (fun _ _ hsame => hsame.portId) hids hport hsame

/-- One mirror may be rearranged alone. -/
theorem exists_rearranged_mirror {mirrors : List PortMirror} {mirror mirror' : PortMirror}
    (hids : (mirrors.map PortMirror.sessionId).Nodup) (hmirror : mirror ∈ mirrors)
    (hsame : mirror.SameSet mirror') :
    ∃ mirrors', Keyed.Rearranged PortMirror.SameSet mirrors mirrors' ∧
      lookup PortMirror.sessionId mirror.sessionId mirrors' = some mirror' :=
  Keyed.Rearranged.exists_replace PortMirror.SameSet.refl (fun _ _ hsame => hsame.sessionId) hids
    hmirror hsame

/-- Only the ports are rearranged. -/
theorem SwitchState.Rearranged.ofPorts {ports : List Port}
    (h : Keyed.Rearranged Port.SameSet current.ports ports) :
    current.Rearranged { current with ports := ports } :=
  ⟨.refl _, h, .refl PortMirror.SameSet.refl _, rfl⟩

/-- Only the mirrors are rearranged. -/
theorem SwitchState.Rearranged.ofMirrors {mirrors : List PortMirror}
    (h : Keyed.Rearranged PortMirror.SameSet current.portMirrors mirrors) :
    current.Rearranged { current with portMirrors := mirrors } :=
  ⟨.refl _, .refl Port.SameSet.refl _, h, rfl⟩

theorem SwitchConfig.Rearranged.ofPorts {ports : List Port}
    (h : Keyed.Rearranged Port.SameSet desired.ports ports) :
    desired.Rearranged { desired with ports := ports } :=
  ⟨.refl _, h, .refl PortMirror.SameSet.refl _, rfl⟩

theorem SwitchConfig.Rearranged.ofMirrors {mirrors : List PortMirror}
    (h : Keyed.Rearranged PortMirror.SameSet desired.portMirrors mirrors) :
    desired.Rearranged { desired with portMirrors := mirrors } :=
  ⟨.refl _, .refl Port.SameSet.refl _, h, rfl⟩

/-- The verdict of a diff does not depend on how its lists are written. -/
def Unordered (current : SwitchState) (desired : SwitchConfig) (e : Bool) : Prop :=
  ∀ current' desired', current.Rearranged current' → desired.Rearranged desired' →
    (Diff.computeDiff current desired e).SameVerdict (Diff.computeDiff current' desired' e)

/-- If the order makes no difference, a port that is as desired has no tagged VLAN. -/
theorem Unordered.tagged_eq_nil (h : Unordered current desired e) (hids : current.UniqueIds)
    (hdesired : desired.UniqueIds) (hport : port ∈ current.ports) {wanted : Port}
    (hwanted : wanted ∈ desired.ports)
    (hagrees : PortAgrees (Diff.supportsPoe desired) port wanted) :
    Diff.taggedWithoutNative wanted = [] := by
  by_contra hne
  have hlookup := lookup_of_mem hids.ports hport
  have hlookup' := lookup_of_mem hdesired.ports hwanted
  rw [← hagrees.portId] at hlookup'
  by_cases hmatches : PortMatches (Diff.supportsPoe desired) port wanted
  · -- the list of the config written twice
    obtain ⟨wanted', hsame, hdiffers⟩ := exists_sameSet_differs hmatches hne
    obtain ⟨ports, hports, hnew⟩ := exists_rearranged_port hdesired.ports hwanted hsame
    have hconfig := SwitchConfig.Rearranged.ofPorts hports
    have hverdict := (h current _ (.refl current) hconfig).portsToConfigure wanted.portId
    rw [mem_portsToConfigure hdesired,
      mem_portsToConfigure (hconfig.uniqueIds hdesired)] at hverdict
    obtain ⟨found, hfound, hdiffers'⟩ := hverdict.mpr ⟨wanted', hnew, fun found hfound => by
      rw [← hagrees.portId] at hfound
      obtain rfl := Option.some.inj (hlookup.symm.trans hfound)
      exact hdiffers⟩
    rw [← hagrees.portId] at hfound hdiffers'
    obtain rfl := Option.some.inj (hlookup'.symm.trans hfound)
    exact hdiffers' port hlookup hmatches
  · -- the list of the state written as in the config
    obtain ⟨port', hsame, hmatches'⟩ := exists_sameSet_matches hagrees
    obtain ⟨ports, hports, hnew⟩ := exists_rearranged_port hids.ports hport hsame
    have hverdict := (h _ desired (.ofPorts hports) (.refl desired)).portsToConfigure port.portId
    rw [mem_portsToConfigure hdesired, mem_portsToConfigure hdesired] at hverdict
    obtain ⟨found, hfound, hdiffers⟩ := hverdict.mp ⟨wanted, hlookup', fun found hfound => by
      obtain rfl := Option.some.inj (hlookup.symm.trans hfound)
      exact hmatches⟩
    obtain rfl := Option.some.inj (hlookup'.symm.trans hfound)
    exact hdiffers port' hnew hmatches'

/-- Nor has a mirror that is as desired a source. -/
theorem Unordered.sources_eq_nil (h : Unordered current desired e) (hids : current.UniqueIds)
    (hdesired : desired.UniqueIds) {mirror wanted : PortMirror}
    (hmirror : mirror ∈ current.portMirrors) (hwanted : wanted ∈ desired.portMirrors)
    (hsame : mirror.SameSet wanted) : wanted.sourcePorts = [] := by
  by_contra hne
  have hlookup := lookup_of_mem hids.mirrors hmirror
  have hlookup' := lookup_of_mem hdesired.mirrors hwanted
  rw [← hsame.sessionId] at hlookup'
  by_cases heq : mirror = wanted
  · -- the sources of the config written twice
    let wanted' : PortMirror :=
      { wanted with sourcePorts := wanted.sourcePorts ++ wanted.sourcePorts }
    have hsame' : wanted.SameSet wanted' := ⟨rfl, fun source => by simp [wanted']⟩
    obtain ⟨mirrors, hmirrors, hnew⟩ := exists_rearranged_mirror hdesired.mirrors hwanted hsame'
    rw [← hsame.sessionId] at hnew
    have hverdict := (h current _ (.refl current) (.ofMirrors hmirrors)).mirrorsToUpdate
      mirror.sessionId
    rw [mem_mirrorsToUpdate, mem_mirrorsToUpdate] at hverdict
    have hdiffers : mirror ≠ wanted' := by
      rw [heq]
      intro htwice
      have hlength := congrArg (fun m => m.sourcePorts.length) htwice
      simp only [wanted', List.length_append] at hlength
      have hpos := List.length_pos_iff.mpr hne
      omega
    obtain ⟨found, found', hfound, hfound', hdiffers'⟩ :=
      hverdict.mpr ⟨mirror, wanted', hlookup, hnew, hdiffers⟩
    obtain rfl := Option.some.inj (hlookup.symm.trans hfound)
    obtain rfl := Option.some.inj (hlookup'.symm.trans hfound')
    exact hdiffers' heq
  · -- the sources of the state written as in the config
    obtain ⟨mirrors, hmirrors, hnew⟩ := exists_rearranged_mirror hids.mirrors hmirror hsame
    have hverdict := (h _ desired (.ofMirrors hmirrors) (.refl desired)).mirrorsToUpdate
      mirror.sessionId
    rw [mem_mirrorsToUpdate, mem_mirrorsToUpdate] at hverdict
    obtain ⟨found, found', hfound, hfound', hdiffers⟩ :=
      hverdict.mp ⟨mirror, wanted, hlookup, hlookup', heq⟩
    obtain rfl := Option.some.inj (hnew.symm.trans hfound)
    obtain rfl := Option.some.inj (hlookup'.symm.trans hfound')
    exact hdiffers rfl

/-- The diff sees the order of a list as soon as there is one to see. -/
theorem unordered_iff (hids : current.UniqueIds) (hdesired : desired.UniqueIds) :
    Unordered current desired e ↔ Orderless current desired := by
  constructor
  · intro h
    constructor
    · intro port hport wanted hwanted hagrees
      exact h.tagged_eq_nil hids hdesired hport hwanted hagrees
    · intro mirror hmirror wanted hwanted hsame
      exact h.sources_eq_nil hids hdesired hmirror hwanted hsame
  · intro horderless current' desired' hcurrent hconfig
    exact sameVerdict_of_orderless hids hdesired horderless hcurrent hconfig

end Verdict

/-- A switch with one trunk port. -/
def trunkState (tagged : List ℕ) : SwitchState where
  ports := [{ portId := "1", vlan := 1, taggedVlans := tagged }]

def trunkConfig (tagged : List ℕ) : SwitchConfig where
  id := "sw1"
  ports := [{ portId := "1", vlan := 1, taggedVlans := tagged }]

theorem trunkState_uniqueIds (tagged : List ℕ) : (trunkState tagged).UniqueIds :=
  ⟨List.nodup_nil, List.nodup_singleton _, List.nodup_nil⟩

theorem trunkConfig_uniqueIds (tagged : List ℕ) : (trunkConfig tagged).UniqueIds :=
  ⟨List.nodup_nil, List.nodup_singleton _, List.nodup_nil⟩

/-- A port that is as desired is configured once its tagged VLANs are listed the other way. -/
theorem unordered_fails : (trunkState [10, 20]).UniqueIds ∧ (trunkConfig [10, 20]).UniqueIds ∧
    (trunkConfig [10, 20]).Rearranged (trunkConfig [20, 10]) ∧
    ¬Unordered (trunkState [10, 20]) (trunkConfig [10, 20]) false := by
  have hsame : (trunkConfig [10, 20]).Rearranged (trunkConfig [20, 10]) := by
    refine ⟨.refl _, ⟨_, .refl _, .cons ⟨rfl, fun vlan => ?_⟩ .nil⟩,
      .refl PortMirror.SameSet.refl _,
      rfl⟩
    simp only [List.mem_cons, List.not_mem_nil, or_false]
    exact or_comm
  refine ⟨trunkState_uniqueIds _, trunkConfig_uniqueIds _, hsame, fun h => ?_⟩
  have hverdict := (h _ _ (.refl _) hsame).portsToConfigure "1"
  revert hverdict
  decide

/-- Two ports and two mirrors, none of which is as desired but for a port whose only tagged VLAN is
its native one. -/
def floorState : SwitchState where
  vlans := [{ id := 10, name := "staff" }, { id := 20, name := "guests" }]
  ports := [{ portId := "1", vlan := 1, taggedVlans := [10, 20] },
    { portId := "2", vlan := 20, taggedVlans := [20] }]
  portMirrors := [{ sessionId := "1", sourcePorts := ["1", "2"], destinationPort := "8" },
    { sessionId := "2", sourcePorts := ["3"], destinationPort := "9" }]

def floorConfig : SwitchConfig where
  id := "sw1"
  vlans := [{ id := 10, name := "staff" }, { id := 30, name := "printers" }]
  ports := [{ portId := "1", vlan := 1, taggedVlans := [10, 30] },
    { portId := "2", vlan := 20, taggedVlans := [20] }]
  portMirrors := [{ sessionId := "1", sourcePorts := ["1", "2", "3"], destinationPort := "8" },
    { sessionId := "2", sourcePorts := [], destinationPort := "9" }]

/-- The same, with every list the other way round and some entries twice. -/
def floorStateReversed : SwitchState :=
  { floorState with
    vlans := floorState.vlans.reverse
    ports := [{ portId := "2", vlan := 20, taggedVlans := [20, 20] },
      { portId := "1", vlan := 1, taggedVlans := [20, 10, 20] }]
    portMirrors := [{ sessionId := "2", sourcePorts := ["3", "3"], destinationPort := "9" },
      { sessionId := "1", sourcePorts := ["2", "1"], destinationPort := "8" }] }

def floorConfigReversed : SwitchConfig :=
  { floorConfig with
    vlans := floorConfig.vlans.reverse
    ports := [{ portId := "2", vlan := 20, taggedVlans := [20, 20] },
      { portId := "1", vlan := 1, taggedVlans := [30, 10, 30] }]
    portMirrors := [{ sessionId := "2", sourcePorts := [], destinationPort := "9" },
      { sessionId := "1", sourcePorts := ["3", "1", "2", "1"], destinationPort := "8" }] }

/-- The floor read in another order. -/
theorem floorState_rearranged : floorState.Rearranged floorStateReversed := by
  refine ⟨(List.reverse_perm _).symm, ⟨_, (List.reverse_perm _).symm, ?_⟩,
    ⟨_, (List.reverse_perm _).symm, ?_⟩, rfl⟩
  · refine .cons ⟨rfl, fun vlan => ?_⟩ (.cons ⟨rfl, fun vlan => ?_⟩ .nil)
    · simp
    · simp only [List.mem_cons, List.not_mem_nil, or_false]
      tauto
  · refine .cons ⟨rfl, fun source => ?_⟩ (.cons ⟨rfl, fun source => ?_⟩ .nil)
    · simp
    · simp only [List.mem_cons, List.not_mem_nil, or_false]
      tauto

/-- The floor written in another order. -/
theorem floorConfig_rearranged : floorConfig.Rearranged floorConfigReversed := by
  refine ⟨(List.reverse_perm _).symm, ⟨_, (List.reverse_perm _).symm, ?_⟩,
    ⟨_, (List.reverse_perm _).symm, ?_⟩, rfl⟩
  · refine .cons ⟨rfl, fun vlan => ?_⟩ (.cons ⟨rfl, fun vlan => ?_⟩ .nil)
    · simp
    · simp only [List.mem_cons, List.not_mem_nil, or_false]
      tauto
  · refine .cons ⟨rfl, fun source => Iff.rfl⟩ (.cons ⟨rfl, fun source => ?_⟩ .nil)
    simp only [List.mem_cons, List.not_mem_nil, or_false]
    tauto

/-- A trunk and a mirror that are to change, and an access port that is as desired. -/
theorem unordered_iff_floor : Unordered floorState floorConfig false ∧
    (Diff.computeDiff floorState floorConfig false).SameVerdict
      (Diff.computeDiff floorStateReversed floorConfigReversed false) := by
  have hids : floorState.UniqueIds := ⟨by decide, by decide, by decide⟩
  have hdesired : floorConfig.UniqueIds := ⟨by decide, by decide, by decide⟩
  have horderless : Orderless floorState floorConfig := by
    constructor
    · intro port hport wanted hwanted hagrees
      rcases hwanted with _ | ⟨_, _ | ⟨_, hwanted⟩⟩
      · -- VLAN 30 is not on the device yet
        have htagged : 30 ∈ Diff.taggedWithoutNative port := (hagrees.tagged 30).mpr (by decide)
        rcases hport with _ | ⟨_, _ | ⟨_, hport⟩⟩
        · revert htagged
          decide
        · revert htagged
          decide
        · cases hport
      · rfl
      · cases hwanted
    · intro mirror hmirror wanted hwanted hsame
      rcases hwanted with _ | ⟨_, _ | ⟨_, hwanted⟩⟩
      · -- and neither is the third source
        have hsource : "3" ∈ mirror.sourcePorts := (hsame.sources "3").mpr (by decide)
        rcases hmirror with _ | ⟨_, _ | ⟨_, hmirror⟩⟩
        · revert hsource
          decide
        · exact absurd hsame.sessionId (by decide)
        · cases hmirror
      · rfl
      · cases hwanted
  have hunordered : Unordered floorState floorConfig false :=
    (unordered_iff hids hdesired).mpr horderless
  exact ⟨hunordered, hunordered _ _ floorState_rearranged floorConfig_rearranged⟩

end SwitchConfigurator
