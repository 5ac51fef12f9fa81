import SwitchConfigurator.Config.LoadPaths
import SwitchConfigurator.Config.Overlay

/-!
# Reading back a saved overlay

What `load_with_metadata` makes of a file that `save_overlay` wrote, and what becomes of its ports
in the merge.
-/

namespace SwitchConfigurator

open Document Keyed RelatedLists

/-! ## Ids written as names -/

/-- A VLAN as a saved file gives it: by its name, if it is one of the switch's own. -/
def preferredValue (vlans : List Vlan) (id : ℕ) : VlanValue :=
  match nameOf (vlans.map fun vlan => (vlan.id, vlan.name)) id with
  | some name => .string name
  | none => .integer id

/-- A port as a saved file gives it. -/
def Port.storedDe (vlans : List Vlan) (port : Port) : PortDe :=
  { port.toDe with
    vlan := preferredValue vlans port.vlan
    taggedVlans := port.taggedVlans.map (preferredValue vlans) }

/-- In place of an id, the name is written where there is one. -/
theorem preferName_ofNat (vlans : List Vlan) {id : ℕ} (h : id < 2 ^ 64) :
    preferName (vlans.map fun vlan => (vlan.id, vlan.name)) (ofNat id) =
      (preferredValue vlans id).toValue := by
  rw [preferName, asU64_ofNat h, Option.bind_some, preferredValue]
  cases nameOf (vlans.map fun vlan => (vlan.id, vlan.name)) id <;> rw [VlanValue.toValue]
  rw [ofNat]

/-- A port is written with the names that its VLANs have. -/
theorem preferNamesInPort_toValue (vlans : List Vlan) {port : Port} (hvlan : port.vlan < 2 ^ 64)
    (htagged : ∀ id ∈ port.taggedVlans, id < 2 ^ 64) :
    preferNamesInPort (vlans.map fun vlan => (vlan.id, vlan.name)) port.toDe.toValue =
      (port.storedDe vlans).toValue := by
  have hlist : (port.toDe.taggedVlans.map VlanValue.toValue).map
      (preferName (vlans.map fun vlan => (vlan.id, vlan.name))) =
        (port.storedDe vlans).taggedVlans.map VlanValue.toValue := by
    rw [Port.storedDe, Port.toDe, List.map_map, List.map_map, List.map_map]
    apply List.map_congr_left
    intro id hid
    rw [Function.comp_apply, Function.comp_apply, Function.comp_apply, VlanValue.toValue, ← ofNat,
      preferName_ofNat vlans (htagged id hid)]
  have hport : preferName (vlans.map fun vlan => (vlan.id, vlan.name)) port.toDe.vlan.toValue =
      (port.storedDe vlans).vlan.toValue := by
    rw [Port.toDe, Port.storedDe, VlanValue.toValue, ← ofNat, preferName_ofNat vlans hvlan]
  rw [preferNamesInPort, PortDe.toValue, PortDe.toValue, Value.modify, Value.modify]
  simp [hport, ofList, hlist, Port.storedDe]

theorem idAndName_toValue {vlan : Vlan} (h : vlan.id < 2 ^ 64) :
    idAndName vlan.toValue = some (vlan.id, vlan.name) := by
  have hid : (vlan.toValue.get "id").bind Value.asU64 = some vlan.id := by
    rw [Vlan.toValue, get_mapping, entry_cons_self, Option.bind_some, asU64_ofNat h]
  have hname : (vlan.toValue.get "name").bind Value.asStr = some vlan.name := by
    rw [Vlan.toValue]
    simp
  rw [idAndName, hid, hname]

/-- The names that are preferred are those of the written VLANs. -/
theorem vlanNames_toValue {formats : Formats} {switch : SwitchConfig}
    (h : ∀ vlan ∈ switch.vlans, vlan.id < 2 ^ 64) :
    vlanNames (switch.toValue formats) = switch.vlans.map fun vlan => (vlan.id, vlan.name) := by
  have hget : ((switch.toValue formats).get "vlans").bind Value.asSequence =
      some (switch.vlans.map Vlan.toValue) := by
    rw [SwitchConfig.toValue, SwitchConfig.toEntries]
    simp
  rw [vlanNames, hget, Option.getD_some, List.filterMap_map, ← List.filterMap_eq_map]
  apply List.filterMap_congr
  intro vlan hvlan
  rw [Function.comp_apply, Function.comp_apply, idAndName_toValue (h vlan hvlan)]

/-- Names are preferred port by port. -/
theorem preferNamesInSwitch_toValue {formats : Formats} {switch : SwitchConfig}
    (hvlans : ∀ vlan ∈ switch.vlans, vlan.id < 2 ^ 64)
    (hports : ∀ port ∈ switch.ports, port.vlan < 2 ^ 64 ∧ ∀ id ∈ port.taggedVlans, id < 2 ^ 64) :
    preferNamesInSwitch (switch.toValue formats) =
      .mapping (switch.toEntries formats (switch.ports.map (Port.storedDe switch.vlans))) := by
  rw [preferNamesInSwitch, vlanNames_toValue hvlans]
  split
  · next hempty =>
    have hnil : switch.vlans = [] := by simpa using hempty
    have hde : switch.ports.map (Port.storedDe switch.vlans) = switch.ports.map Port.toDe := by
      rw [hnil]
      rfl
    rw [hde, SwitchConfig.toValue]
  · have hmap : ∀ port ∈ switch.ports,
        preferNamesInPort (switch.vlans.map fun vlan => (vlan.id, vlan.name)) port.toDe.toValue =
          (port.storedDe switch.vlans).toValue :=
      fun port hport => preferNamesInPort_toValue _ (hports port hport).1 (hports port hport).2
    rw [SwitchConfig.toValue, Value.modify, SwitchConfig.toEntries, SwitchConfig.toEntries]
    cases switch.hostname <;> cases switch.model <;> cases switch.managementIp <;>
      cases switch.credentials <;> simpa [ofList] using hmap

/-! ## Ports of a saved file -/

/-- A port as it is read back, with its names unresolved. -/
def Port.stored (vlans : List Vlan) (port : Port) : Port := (port.storedDe vlans).port

/-- Is some tagged VLAN written as a name? -/
def PortDe.namesTagged (de : PortDe) : Bool :=
  de.taggedVlans.any fun value => match value with
    | .integer _ => false
    | .string _ => true

/-- The tagged VLANs without repetitions, where one of them is written as a name. -/
def Port.writtenOnce (vlans : List Vlan) (port : Port) : Port :=
  { port with
    taggedVlans :=
      if (port.storedDe vlans).namesTagged then port.taggedVlans.eraseDups else port.taggedVlans }

def SwitchConfig.writtenOnce (switch : SwitchConfig) : SwitchConfig :=
  { switch with ports := switch.ports.map (Port.writtenOnce switch.vlans) }

/-- The code looks for a name among the tagged VLANs. -/
theorem namesTagged_iff {de : PortDe} : de.namesTagged = true ↔ de.NamesTagged := by
  rw [PortDe.namesTagged, List.any_eq_true]
  constructor
  · rintro ⟨value, hvalue, hname⟩
    cases value with
    | integer n => cases hname
    | string s => exact ⟨s, hvalue⟩
  · rintro ⟨name, hname⟩
    exact ⟨.string name, hname, rfl⟩

/-- A switch as it is read back: without what is not written of it, and with names of VLANs. -/
def SwitchConfig.stored (switch : SwitchConfig) : SwitchConfig :=
  { switch.withoutSecrets with ports := switch.ports.map (Port.stored switch.vlans) }

section

variable {vlans merged : List Vlan} {port : Port}

/-- The VLANs are among the merged ones, under the same names. -/
def NamesKept (vlans merged : List Vlan) : Prop :=
  ∀ vlan ∈ vlans, ∃ other ∈ merged, other.name = vlan.name ∧ other.id = vlan.id

/-- A list of VLANs keeps its own names. -/
theorem NamesKept.refl (vlans : List Vlan) : NamesKept vlans vlans :=
  fun vlan hvlan => ⟨vlan, hvlan, rfl, rfl⟩

/-- Where names agree, the name of a VLAN stands for its id. -/
theorem denoted_preferredValue (h : NamesAgree merged) (hkept : NamesKept vlans merged) (id : ℕ) :
    (preferredValue vlans id).denoted merged = some id := by
  rw [preferredValue]
  cases hname : nameOf (vlans.map fun vlan => (vlan.id, vlan.name)) id with
  | none => simp [VlanValue.denoted]
  | some name =>
    have hmem : (id, name) ∈ vlans.map fun vlan => (vlan.id, vlan.name) := by
      obtain ⟨l, r, hlist, -⟩ := List.lookup_eq_some_iff.mp hname
      rw [← List.mem_reverse, hlist]
      simp
    obtain ⟨vlan, hvlan, heq⟩ := List.mem_map.mp hmem
    obtain ⟨rfl, rfl⟩ := Prod.mk.inj heq
    exact (nameToId_eq_some_iff h).mpr (hkept vlan hvlan)

/-- What is written for an id in range is in range. -/
theorem inRange_preferredValue {id : ℕ} (h : vlanIdInRange id = true) :
    (preferredValue vlans id).InRange := by
  simp only [vlanIdInRange, Bool.and_eq_true, decide_eq_true_eq] at h
  rw [preferredValue]
  split
  · exact trivial
  · show 1 ≤ (id : ℤ) ∧ (id : ℤ) ≤ 65535
    omega

/-- What the validation leaves of a port. -/
structure Port.Settled (port : Port) : Prop where
  vlan : vlanIdInRange port.vlan = true
  taggedVlans : ∀ id ∈ port.taggedVlans, vlanIdInRange id = true
  vlanName : port.vlanName = none
  taggedVlanRefs : port.taggedVlanRefs = []

/-- A settled port is read back as stored. -/
theorem deserialize_storedDe (h : port.Settled) :
    (port.storedDe vlans).deserialize = .ok (port.stored vlans) := by
  refine PortDe.deserialize_ok_iff.mpr ⟨⟨inRange_preferredValue h.vlan, ?_⟩, rfl⟩
  show ∀ value ∈ port.taggedVlans.map (preferredValue vlans), value.InRange
  rw [List.forall_mem_map]
  exact fun id hid => inRange_preferredValue (h.taggedVlans id hid)

/-- Where names are kept, the untagged VLAN is found again. -/
theorem untaggedId_stored (h : NamesAgree merged) (hkept : NamesKept vlans merged) :
    untaggedId merged (port.stored vlans) = some port.vlan := by
  rw [Port.stored, untaggedId_port]
  exact denoted_preferredValue h hkept port.vlan

/-- The VLANs of a port that is read back are those it was saved with, each once where one of
them was written as a name. -/
theorem taggedIds_stored (h : NamesAgree merged) (hkept : NamesKept vlans merged) :
    ((port.storedDe vlans).NamesTagged →
      taggedIds merged (port.stored vlans) = port.taggedVlans.eraseDups) ∧
    (¬(port.storedDe vlans).NamesTagged →
      taggedIds merged (port.stored vlans) = port.taggedVlans) := by
  have hdenoted : (port.storedDe vlans).taggedVlans.filterMap (VlanValue.denoted merged) =
      port.taggedVlans := by
    rw [Port.storedDe, List.filterMap_map]
    have hsome : VlanValue.denoted merged ∘ preferredValue vlans = some := by
      funext id
      exact denoted_preferredValue h hkept id
    rw [hsome, List.filterMap_some]
  have htagged := taggedIds_port merged (port.storedDe vlans)
  rw [hdenoted] at htagged
  exact htagged

/-- Where names are kept, a stored port resolves to what was written. -/
theorem resolvedPort_stored (h : NamesAgree merged) (hkept : NamesKept vlans merged)
    (hsettled : port.Settled) :
    resolvedPort merged (port.stored vlans) = port.writtenOnce vlans := by
  have htagged : taggedIds merged (port.stored vlans) = (port.writtenOnce vlans).taggedVlans := by
    obtain ⟨hnames, hids⟩ := taggedIds_stored h hkept
    rw [Port.writtenOnce]
    by_cases hnamed : (port.storedDe vlans).namesTagged = true
    · rw [if_pos hnamed]
      exact hnames (namesTagged_iff.mp hnamed)
    · rw [if_neg hnamed]
      exact hids (mt namesTagged_iff.mpr hnamed)
  rw [resolvedPort, untaggedId_stored h hkept, htagged, Port.writtenOnce]
  obtain ⟨portId, mode, vlan, taggedVlans, description, enabled, poeEnabled, macNotify, speedDuplex,
    vlanName, taggedVlanRefs⟩ := port
  obtain rfl : vlanName = none := hsettled.vlanName
  obtain rfl : taggedVlanRefs = [] := hsettled.taggedVlanRefs
  rfl

end

/-! ## Accepted switches -/

section

variable {known : List ℕ} {raw switch : SwitchConfig}

/-- A switch as the validation of an overlay leaves it. -/
def SwitchConfig.resolved (switch : SwitchConfig) : SwitchConfig :=
  { switch with ports := switch.ports.map (resolvedPort switch.vlans) }

/-- The ports of an accepted overlay are settled. -/
theorem OverlayValid.settled (h : OverlayValid known switch)
    (hknown : ∀ id ∈ known, vlanIdInRange id = true) :
    ∀ port ∈ switch.resolved.ports, port.Settled := by
  have hrange {id : ℕ} (hid : id ∈ overlayVlans known switch) : vlanIdInRange id = true := by
    rw [overlayVlans, List.mem_append, List.mem_append, List.mem_map] at hid
    rcases hid with (⟨vlan, hvlan, rfl⟩ | hid) | hid
    · exact h.inRange vlan hvlan
    · exact hknown id hid
    · have himplicit : (switch.model.map SwitchModel.implicitVlans).getD [1] = [1] := by
        cases switch.model with
        | none => rfl
        | some model => cases model <;> rfl
      rw [himplicit, List.mem_singleton] at hid
      rw [hid]
      decide
  show ∀ port ∈ switch.ports.map (resolvedPort switch.vlans), _
  rw [List.forall_mem_map]
  intro port hport
  obtain ⟨hvlan, htagged⟩ := h.references port hport
  exact ⟨hrange hvlan, fun id hid => hrange (htagged id hid), rfl, rfl⟩

/-- What was expanded once is not expanded further. -/
theorem expandPortRanges_stored (h : expandPortRanges raw = .ok switch) :
    expandPortRanges switch.resolved.stored = .ok switch.resolved.stored := by
  obtain ⟨hids, portMirrors, hmirrors, rfl⟩ := expandPortRanges_ok_iff.mp h
  have hport : ∀ port ∈ raw.ports.flatMap expandedPorts,
      parsePortId port.portId = .ok [port.portId] := by
    intro port hport
    obtain ⟨entry, hentry, hport⟩ := List.mem_flatMap.mp hport
    obtain ⟨portId, hid, rfl⟩ := List.mem_map.mp hport
    obtain ⟨ids, hparsed⟩ := hids entry hentry
    rw [hparsed] at hid
    exact parsePortId_expanded hparsed portId hid
  set switch := { raw with ports := raw.ports.flatMap expandedPorts, portMirrors } with hswitch
  have hsingle : ∀ port ∈ switch.resolved.stored.ports,
      parsePortId port.portId = .ok [port.portId] := by
    show ∀ port ∈ (switch.ports.map _).map _, _
    rw [List.map_map, List.forall_mem_map]
    exact hport
  refine expandPortRanges_ok_iff.mpr
    ⟨fun port hp => ⟨_, hsingle port hp⟩, portMirrors, ?_, ?_⟩
  · show List.Forall₂ _ portMirrors portMirrors
    rw [List.forall₂_same]
    intro mirror hmirror
    obtain ⟨original, -, hexpanded⟩ := exists_of_mem_left hmirrors.flip hmirror
    exact expandMirror_expanded hexpanded
  · have hflat : switch.resolved.stored.ports.flatMap expandedPorts =
        switch.resolved.stored.ports := by
      rw [List.flatMap_congr fun port hp => expandedPorts_of_single (hsingle port hp),
        List.flatMap_singleton']
    rw [hflat]
    rfl

theorem vlanIdInRange_stored {vlans : List Vlan} {port : Port} (h : port.Settled) :
    vlanIdInRange (port.stored vlans).vlan = true := by
  have hstored : (port.stored vlans).vlan =
      (preferredValue vlans port.vlan).toRef.id?.getD 1 := rfl
  have hsentinel : vlanIdInRange 1 = true := by decide
  rw [hstored, preferredValue]
  split
  · exact hsentinel
  · show vlanIdInRange (port.vlan : ℤ).toNat = true
    rw [Int.toNat_natCast]
    exact h.vlan

/-- A file of an accepted switch passes the checks that are made when it is read. -/
theorem OverlayValid.expandsTo_stored (h : OverlayValid known switch)
    (hknown : ∀ id ∈ known, vlanIdInRange id = true) (hexpand : expandPortRanges raw = .ok switch)
    (hid : switch.id ≠ "") : ExpandsTo switch.resolved.stored switch.resolved.stored := by
  refine ⟨expandPortRanges_stored hexpand, invalidFields_eq_nil_iff.mpr ⟨hid, h.inRange, ?_⟩⟩
  show ∀ port ∈ switch.resolved.ports.map (Port.stored switch.vlans), _
  rw [List.forall_mem_map]
  exact fun port hport => vlanIdInRange_stored (h.settled hknown port hport)

/-- Resolving the names of a switch that is read back gives what was saved. -/
theorem OverlayValid.resolve_stored (h : OverlayValid known switch)
    (hknown : ∀ id ∈ known, vlanIdInRange id = true) :
    (resolveVlanNames false).Succeeds switch.resolved.stored
      switch.resolved.withoutSecrets.writtenOnce := by
  refine resolveVlanNames_lenient.mpr ⟨h.agree, ?_, ?_⟩
  · show ∀ port ∈ switch.resolved.ports.map (Port.stored switch.vlans), _
    rw [List.forall_mem_map]
    intro port _
    show (untaggedId switch.vlans (port.stored switch.vlans)).isSome = true
    rw [untaggedId_stored h.agree (.refl _)]
    rfl
  · have hports : (switch.resolved.ports.map (Port.stored switch.vlans)).map
        (resolvedPort switch.vlans) =
          switch.resolved.ports.map (Port.writtenOnce switch.vlans) := by
      rw [List.map_map]
      apply List.map_congr_left
      intro port hport
      exact resolvedPort_stored h.agree (.refl _) (h.settled hknown port hport)
    show switch.resolved.withoutSecrets.writtenOnce =
      { switch.resolved.stored with
        ports := (switch.resolved.ports.map (Port.stored switch.vlans)).map
          (resolvedPort switch.vlans) }
    rw [hports]
    rfl

/-- A switch that was submitted can be written and read, with its names for VLANs. -/
theorem OverlayValid.read_stored {formats : Formats} (h : OverlayValid known switch)
    (hknown : ∀ id ∈ known, vlanIdInRange id = true) (hexpand : expandPortRanges raw = .ok switch)
    (hread : raw.Readable formats) :
    SwitchConfig.ofValue formats (preferNamesInSwitch (switch.resolved.toValue formats)) =
      some switch.resolved.stored := by
  have hlt {id : ℕ} (hid : vlanIdInRange id = true) : id < 2 ^ 64 := by
    simp only [vlanIdInRange, Bool.and_eq_true, decide_eq_true_eq] at hid
    omega
  have hsettled := h.settled hknown
  have hreadable : switch.resolved.Readable formats := by
    rw [expandPortRanges_frame hexpand]
    exact ⟨hread.credentials, hread.vlans, hread.snmp, hread.managementVlan, hread.validation,
      hread.vendorSpecific, hread.settings⟩
  have hnamed : preferNamesInSwitch (switch.resolved.toValue formats) =
      .mapping (switch.resolved.toEntries formats
        (switch.resolved.ports.map (Port.storedDe switch.vlans))) :=
    preferNamesInSwitch_toValue (fun vlan hvlan => hlt (h.inRange vlan hvlan)) fun port hport =>
      ⟨hlt (hsettled port hport).vlan,
        fun id hid => hlt ((hsettled port hport).taggedVlans id hid)⟩
  rw [hnamed]
  apply SwitchConfig.ofValue_toEntries formats hreadable
  show List.Forall₂ _ (switch.resolved.ports.map _) (switch.resolved.ports.map _)
  rw [List.forall₂_map_left_iff, List.forall₂_map_right_iff, List.forall₂_same]
  exact fun port hport => deserialize_storedDe (hsettled port hport)

end

/-! ## Saved files -/

/-- The VLAN ids of a loaded file are in range. -/
theorem vlanIds_inRange {env : Environment} {file : ConfigFile} {sourceType : ConfigSourceType}
    {config : ConfigWithMetadata} (h : loadWithMetadata env file sourceType = .ok config)
    (switchId : String) : ∀ id ∈ config.vlanIds switchId, vlanIdInRange id = true := by
  intro id hid
  obtain ⟨switch, hswitch, hid⟩ := List.mem_flatMap.mp hid
  obtain ⟨vlan, hvlan, rfl⟩ := List.mem_map.mp hid
  have hswitches := (loadWithMetadata_ok_iff.mp h).switches
  obtain ⟨raw, -, hraw⟩ := exists_of_mem_left hswitches.flip (List.mem_of_mem_filter hswitch)
  exact (invalidFields_eq_nil_iff.mp hraw.2).2.1 vlan hvlan

/-- The VLANs that other files define have valid ids. -/
theorem knownExternalVlanIds_inRange (env : Environment) (paths : ConfigPaths)
    (switchId excludingFile : String) :
    ∀ id ∈ knownExternalVlanIds env paths switchId excludingFile, vlanIdInRange id = true := by
  intro id hid
  rcases List.mem_append.mp hid with hid | hid
  · obtain ⟨file, -, hid⟩ := List.mem_flatMap.mp hid
    split at hid
    · exact absurd hid List.not_mem_nil
    · split at hid
      · next config hload => exact vlanIds_inRange hload switchId id hid
      · exact absurd hid List.not_mem_nil
  · obtain ⟨folder, -, hid⟩ := List.mem_flatMap.mp hid
    split at hid
    · next configs hscan =>
      obtain ⟨files, -, hscan⟩ := Option.map_eq_some_iff.mp hscan
      obtain ⟨config, hconfig, hid⟩ := List.mem_flatMap.mp hid
      split at hid
      · exact absurd hid List.not_mem_nil
      · obtain ⟨file, -, hload⟩ := exists_of_mem_left (mapM_ok_iff.mp hscan).flip hconfig
        exact vlanIds_inRange (withContext_ok.mp hload) switchId id hid
    · exact absurd hid List.not_mem_nil

end SwitchConfigurator
