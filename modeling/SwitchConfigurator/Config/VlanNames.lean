import SwitchConfigurator.Config.LoadPaths

/-!
# VLAN names in ports

The deserialisation of ports in `models.rs`, where a VLAN is given by its id or by its name, and
what becomes of a switch when each name is replaced by the id it stands for.
-/

namespace SwitchConfigurator

open Keyed RelatedLists

/-! ## Ports as they are written -/

/-- A VLAN as a file or a request gives it. -/
inductive VlanValue where
  | integer (n : ℤ)
  | string (s : String)
  deriving DecidableEq, Repr

/-- The visitor of `VlanRef`: a quoted value is a name, even if it looks numeric. -/
def VlanValue.deserialize : VlanValue → Except Error VlanRef
  | integer n =>
    if n < 1 ∨ n > 65535 then .error [s!"VLAN id {n} out of range (expected 1-65535)"]
    else .ok (.id n.toNat)
  | string s => .ok (.name s)

/-- `PortDe`. -/
structure PortDe where
  portId : String
  mode : PortMode := .access
  vlan : VlanValue
  taggedVlans : List VlanValue := []
  description : Option String := none
  enabled : Bool := true
  poeEnabled : Bool := false
  macNotify : Bool := false
  speedDuplex : SpeedDuplex := .auto
  deriving DecidableEq, Repr

def VlanRef.isName : VlanRef → Bool
  | .id _ => false
  | .name _ => true

def VlanRef.id? : VlanRef → Option ℕ
  | .id n => some n
  | .name _ => none

/-- A port of the references that its values stand for. -/
def PortDe.toPort (de : PortDe) (vlan : VlanRef) (tagged : List VlanRef) : Port :=
  { portId := de.portId
    mode := de.mode
    -- 1 stands in for the untagged VLAN while its name is pending.
    vlan := vlan.id?.getD 1
    taggedVlans := if tagged.any VlanRef.isName then [] else tagged.filterMap VlanRef.id?
    description := de.description
    enabled := de.enabled
    poeEnabled := de.poeEnabled
    macNotify := de.macNotify
    speedDuplex := de.speedDuplex
    vlanName := match vlan with
      | .id _ => none
      | .name name => some name
    -- One name defers the whole list.
    taggedVlanRefs := if tagged.any VlanRef.isName then tagged else [] }

def PortDe.deserialize (de : PortDe) : Except Error Port := do
  let vlan ← de.vlan.deserialize
  let tagged ← de.taggedVlans.mapM VlanValue.deserialize
  .ok (de.toPort vlan tagged)

/-- A switch as it is written: the ports of `config` are those of `ports`. -/
structure WireSwitch where
  config : SwitchConfig
  ports : List PortDe

def WireSwitch.deserialize (wire : WireSwitch) : Except Error SwitchConfig := do
  let ports ← wire.ports.mapM PortDe.deserialize
  .ok { wire.config with ports }

/-- The switch that is accepted, if it is. -/
def WireSwitch.outcome (env : Environment) (wire : WireSwitch) : Option SwitchConfig :=
  match wire.deserialize with
  | .error _ => none
  | .ok raw =>
    match validateSwitchConfig env raw with
    | (switch, .ok _) => some switch
    | (_, .error _) => none

/-! ## Names replaced by ids -/

/-- The id in place of a name that stands for one. -/
def VlanValue.numeric (vlans : List Vlan) : VlanValue → VlanValue
  | integer n => integer n
  | string s =>
    match nameToId vlans s with
    | some id => integer id
    | none => string s

def PortDe.numeric (vlans : List Vlan) (de : PortDe) : PortDe :=
  { de with
    vlan := de.vlan.numeric vlans
    taggedVlans := de.taggedVlans.map (VlanValue.numeric vlans) }

def WireSwitch.numeric (wire : WireSwitch) : WireSwitch :=
  { wire with ports := wire.ports.map (PortDe.numeric wire.config.vlans) }

/-- The VLAN that a value stands for. -/
def VlanValue.denoted (vlans : List Vlan) : VlanValue → Option ℕ
  | integer n => some n.toNat
  | string s => nameToId vlans s

/-- The VLANs that exist on a switch. -/
def SwitchConfig.knownVlans (switch : SwitchConfig) : List ℕ :=
  switch.vlans.map Vlan.id ++ (switch.model.map SwitchModel.implicitVlans).getD []

/-- Where a port gives tagged VLANs by name, and knows all of the names, it gives no VLAN that
exists twice. -/
def PortDe.TaggedOnce (switch : SwitchConfig) (de : PortDe) : Prop :=
  (∃ name, .string name ∈ de.taggedVlans) →
    (∀ name, .string name ∈ de.taggedVlans → (nameToId switch.vlans name).isSome = true) →
      ((de.taggedVlans.filterMap (VlanValue.denoted switch.vlans)).filter
        switch.knownVlans.contains).Nodup

/-! ## Deserialisation -/

/-- The reference of a value in range. -/
def VlanValue.toRef : VlanValue → VlanRef
  | integer n => .id n.toNat
  | string s => .name s

def VlanValue.InRange : VlanValue → Prop
  | integer n => 1 ≤ n ∧ n ≤ 65535
  | string _ => True

/-- A reference is read exactly if it is in range. -/
theorem VlanValue.deserialize_ok_iff {value : VlanValue} {ref : VlanRef} :
    value.deserialize = .ok ref ↔ value.InRange ∧ ref = value.toRef := by
  cases value with
  | integer n =>
    rw [VlanValue.deserialize, VlanValue.InRange, VlanValue.toRef]
    split
    · next h =>
      simp only [reduceCtorEq, false_iff]
      omega
    · next h =>
      have hrange : 1 ≤ n ∧ n ≤ 65535 := by omega
      simp only [Except.ok.injEq, hrange, and_self, true_and, eq_comm]
  | string s => simp [VlanValue.deserialize, VlanValue.InRange, VlanValue.toRef, eq_comm]

/-- A port of values in range. -/
def PortDe.port (de : PortDe) : Port :=
  de.toPort de.vlan.toRef (de.taggedVlans.map VlanValue.toRef)

structure PortDe.InRange (de : PortDe) : Prop where
  vlan : de.vlan.InRange
  taggedVlans : ∀ value ∈ de.taggedVlans, value.InRange

/-- So is a port. -/
theorem PortDe.deserialize_ok_iff {de : PortDe} {port : Port} :
    de.deserialize = .ok port ↔ de.InRange ∧ port = de.port := by
  have htagged {tagged : List VlanRef} : de.taggedVlans.mapM VlanValue.deserialize = .ok tagged ↔
      (∀ value ∈ de.taggedVlans, value.InRange) ∧ tagged = de.taggedVlans.map VlanValue.toRef := by
    simp only [mapM_ok_iff, VlanValue.deserialize_ok_iff]
    exact forall₂_map_iff
  rw [PortDe.deserialize, bind_ok_iff]
  constructor
  · rintro ⟨vlan, hvlan, h⟩
    obtain ⟨tagged, hrefs, h⟩ := bind_ok_iff.mp h
    obtain ⟨hrange, rfl⟩ := VlanValue.deserialize_ok_iff.mp hvlan
    obtain ⟨hranges, rfl⟩ := htagged.mp hrefs
    exact ⟨⟨hrange, hranges⟩, (Except.ok.inj h).symm⟩
  · rintro ⟨⟨hrange, hranges⟩, rfl⟩
    exact ⟨_, VlanValue.deserialize_ok_iff.mpr ⟨hrange, rfl⟩,
      bind_ok_iff.mpr ⟨_, htagged.mpr ⟨hranges, rfl⟩, rfl⟩⟩

/-- A switch is read exactly if all its ports are. -/
theorem WireSwitch.deserialize_ok_iff {wire : WireSwitch} {raw : SwitchConfig} :
    wire.deserialize = .ok raw ↔ (∀ de ∈ wire.ports, de.InRange) ∧
      raw = { wire.config with ports := wire.ports.map PortDe.port } := by
  have hports {ports : List Port} : wire.ports.mapM PortDe.deserialize = .ok ports ↔
      (∀ de ∈ wire.ports, de.InRange) ∧ ports = wire.ports.map PortDe.port := by
    simp only [mapM_ok_iff, PortDe.deserialize_ok_iff]
    exact forall₂_map_iff
  rw [WireSwitch.deserialize, bind_ok_iff]
  constructor
  · rintro ⟨ports, hdes, h⟩
    obtain ⟨hrange, rfl⟩ := hports.mp hdes
    exact ⟨hrange, (Except.ok.inj h).symm⟩
  · rintro ⟨hrange, rfl⟩
    exact ⟨_, hports.mpr ⟨hrange, rfl⟩, rfl⟩

/-! ## What is accepted -/

/-- A switch with its port ranges expanded, and its mirrors as they were expanded. -/
def WireSwitch.expanded (wire : WireSwitch) (portMirrors : List PortMirror) : SwitchConfig :=
  { wire.config with
    ports := wire.ports.flatMap fun de => expandedPorts de.port
    portMirrors }

/-- A switch that passes every check but those of its ports and its resolution. -/
structure WireSwitch.Readable (wire : WireSwitch) (portMirrors : List PortMirror) : Prop where
  values : ∀ de ∈ wire.ports, de.InRange
  portIds : ∀ de ∈ wire.ports, ∃ ids, parsePortId de.portId = .ok ids
  mirrors : List.Forall₂ (fun m e => expandMirror m = .ok e) wire.config.portMirrors portMirrors
  id : wire.config.id ≠ ""
  vlans : ∀ vlan ∈ wire.config.vlans, vlanIdInRange vlan.id = true

/-- The untagged VLAN of a port is what its value denotes. -/
theorem untaggedId_port (vlans : List Vlan) (de : PortDe) :
    untaggedId vlans de.port = de.vlan.denoted vlans := by
  cases h : de.vlan <;> simp [untaggedId, PortDe.port, PortDe.toPort, VlanValue.toRef,
    VlanValue.denoted, VlanRef.id?, h]

/-- A switch has each port that one of its texts names. -/
theorem mem_expanded {wire : WireSwitch} {portMirrors : List PortMirror} {port : Port} :
    port ∈ (wire.expanded portMirrors).ports ↔ ∃ de ∈ wire.ports,
      ∃ portId ∈ (parsePortId de.portId).toOption.getD [], { de.port with portId } = port := by
  show port ∈ wire.ports.flatMap _ ↔ _
  simp only [List.mem_flatMap, expandedPorts, List.mem_map]
  rfl

/-- The ids of VLANs that exist are in range, so an untagged VLAN that resolves is. -/
theorem vlanIdInRange_untagged {env : Environment} {model : SwitchModel} {wire : WireSwitch}
    {portMirrors : List PortMirror}
    (hvlans : ∀ vlan ∈ wire.config.vlans, vlanIdInRange vlan.id = true)
    (hsettles : Settles env model (wire.expanded portMirrors)) :
    ∀ port ∈ (wire.expanded portMirrors).ports, vlanIdInRange port.vlan = true := by
  intro port hport
  obtain ⟨id, hdefined, hid⟩ := hsettles.untagged port hport
  obtain ⟨de, hde, portId, hportId, rfl⟩ := mem_expanded.mp hport
  have hrange : vlanIdInRange id = true := by
    rcases List.mem_append.mp hdefined with hmem | hmem
    · obtain ⟨vlan, hvlan, rfl⟩ := List.mem_map.mp hmem
      exact hvlans vlan hvlan
    · cases model <;> rw [List.mem_singleton.mp hmem] <;> decide
  cases hvlan : de.vlan with
  | string s =>
    simp [PortDe.port, PortDe.toPort, VlanValue.toRef, VlanRef.id?, hvlan, vlanIdInRange]
  | integer n =>
    have heq : n.toNat = id := by
      simpa [untaggedId, PortDe.port, PortDe.toPort, VlanValue.toRef, VlanRef.id?, hvlan] using hid
    simpa [PortDe.port, PortDe.toPort, VlanValue.toRef, VlanRef.id?, hvlan, heq] using hrange

/-- A switch is accepted if it can be read and settles, and this is what it settles to. -/
theorem WireSwitch.outcome_eq_some_iff {env : Environment} {wire : WireSwitch}
    {result : SwitchConfig} : wire.outcome env = some result ↔ ∃ portMirrors model,
      wire.Readable portMirrors ∧ wire.config.model = some model ∧
        Settles env model (wire.expanded portMirrors) ∧
          result = settled env model (wire.expanded portMirrors) := by
  have houtcome : wire.outcome env = some result ↔ ∃ raw, wire.deserialize = .ok raw ∧
      (validateSwitchConfig env).Succeeds raw result := by
    unfold WireSwitch.outcome InPlace.Succeeds
    cases wire.deserialize with
    | error e => simp
    | ok raw =>
      dsimp only
      rcases h : validateSwitchConfig env raw with ⟨switch, r⟩
      cases r <;> simp [h]
  rw [houtcome]
  constructor
  · rintro ⟨raw, hraw, h⟩
    obtain ⟨hvalues, rfl⟩ := WireSwitch.deserialize_ok_iff.mp hraw
    -- the stages of the validation: the ranges, the fields, the resolution
    obtain ⟨switch, ⟨hexpand, hfields⟩, hsteps⟩ := validateSwitchConfig_succeeds_iff.mp h
    obtain ⟨hids, portMirrors, hmirrors, rfl⟩ := expandPortRanges_ok_iff.mp hexpand
    obtain ⟨model, hmodel, hsettles, rfl⟩ := resolutionSteps_succeeds_iff.mp hsteps
    have hexpanded : { wire.config with
        ports := (wire.ports.map PortDe.port).flatMap expandedPorts, portMirrors } =
          wire.expanded portMirrors := by
      rw [WireSwitch.expanded, List.flatMap_map]
    obtain ⟨hid, hvlans, -⟩ := invalidFields_eq_nil_iff.mp hfields
    refine ⟨portMirrors, model, ⟨hvalues, ?_, hmirrors, hid, hvlans⟩, hmodel, ?_, ?_⟩
    · exact fun de hde => hids de.port (List.mem_map_of_mem hde)
    · exact hexpanded ▸ hsettles
    · exact congrArg (settled env model) hexpanded
  · rintro ⟨portMirrors, model, hread, hmodel, hsettles, rfl⟩
    refine ⟨_, WireSwitch.deserialize_ok_iff.mpr ⟨hread.values, rfl⟩, ?_⟩
    refine validateSwitchConfig_succeeds_iff.mpr ⟨wire.expanded portMirrors, ⟨?_, ?_⟩, ?_⟩
    · refine expandPortRanges_ok_iff.mpr ⟨fun port hport => ?_, portMirrors, hread.mirrors, ?_⟩
      · obtain ⟨de, hde, rfl⟩ := List.mem_map.mp hport
        exact hread.portIds de hde
      · rw [WireSwitch.expanded, List.flatMap_map]
    · exact invalidFields_eq_nil_iff.mpr
        ⟨hread.id, hread.vlans, vlanIdInRange_untagged hread.vlans hsettles⟩
    · exact resolutionSteps_succeeds_iff.mpr ⟨model, hmodel, hsettles, rfl⟩

/-! ## What replacing names leaves alone -/

/-- A number in place of a name denotes the same VLAN. -/
@[simp] theorem VlanValue.denoted_numeric (vlans : List Vlan) (value : VlanValue) :
    (value.numeric vlans).denoted vlans = value.denoted vlans := by
  cases value with
  | integer n => rfl
  | string s =>
    rw [VlanValue.numeric]
    cases h : nameToId vlans s with
    | none => rfl
    | some id => simp [VlanValue.denoted, h]

/-- A value stays a string where its name stands for nothing. -/
theorem VlanValue.numeric_eq_string_iff {vlans : List Vlan} {value : VlanValue} {s : String} :
    value.numeric vlans = string s ↔ value = string s ∧ nameToId vlans s = none := by
  cases value with
  | integer n => simp [VlanValue.numeric]
  | string t =>
    rw [VlanValue.numeric]
    cases h : nameToId vlans t with
    | none =>
      simp only [string.injEq, iff_self_and]
      rintro rfl
      exact h
    | some id =>
      simp only [reduceCtorEq, string.injEq, false_iff, not_and]
      rintro rfl
      simp [h]

/-- A name stands for a VLAN in range. -/
theorem inRange_of_nameToId {vlans : List Vlan}
    (hvlans : ∀ vlan ∈ vlans, vlanIdInRange vlan.id = true) {name : String} {id : ℕ}
    (h : nameToId vlans name = some id) : (VlanValue.integer id).InRange := by
  obtain ⟨vlan, hvlan, rfl⟩ := Option.map_eq_some_iff.mp h
  have hrange := hvlans vlan (mem_of_lookup hvlan)
  simp only [vlanIdInRange, Bool.and_eq_true, decide_eq_true_eq] at hrange
  show (1 : ℤ) ≤ vlan.id ∧ (vlan.id : ℤ) ≤ 65535
  omega

/-- A number in place of a name is in range as the name was. -/
theorem VlanValue.inRange_numeric {vlans : List Vlan}
    (hvlans : ∀ vlan ∈ vlans, vlanIdInRange vlan.id = true) (value : VlanValue) :
    (value.numeric vlans).InRange ↔ value.InRange := by
  cases value with
  | integer n => exact Iff.rfl
  | string s =>
    rw [VlanValue.numeric]
    cases h : nameToId vlans s with
    | none => exact Iff.rfl
    | some id => exact iff_of_true (inRange_of_nameToId hvlans h) trivial

/-- So is a port. -/
theorem PortDe.inRange_numeric {vlans : List Vlan}
    (hvlans : ∀ vlan ∈ vlans, vlanIdInRange vlan.id = true) (de : PortDe) :
    (de.numeric vlans).InRange ↔ de.InRange := by
  have htagged : (∀ value ∈ (de.numeric vlans).taggedVlans, value.InRange) ↔
      ∀ value ∈ de.taggedVlans, value.InRange := by
    show (∀ value ∈ de.taggedVlans.map (VlanValue.numeric vlans), value.InRange) ↔ _
    rw [List.forall_mem_map]
    exact forall₂_congr fun value _ => value.inRange_numeric hvlans
  exact ⟨fun h => ⟨(de.vlan.inRange_numeric hvlans).mp h.vlan, htagged.mp h.taggedVlans⟩,
    fun h => ⟨(de.vlan.inRange_numeric hvlans).mpr h.vlan, htagged.mpr h.taggedVlans⟩⟩

/-- Replacing names makes no switch readable and no switch unreadable. -/
theorem WireSwitch.readable_numeric {wire : WireSwitch} {portMirrors : List PortMirror} :
    wire.numeric.Readable portMirrors ↔ wire.Readable portMirrors := by
  have hports {p q : PortDe → Prop} (h : ∀ de, p (de.numeric wire.config.vlans) ↔ q de) :
      (∀ de ∈ wire.numeric.ports, p de) ↔ ∀ de ∈ wire.ports, q de := by
    show (∀ de ∈ wire.ports.map (PortDe.numeric wire.config.vlans), p de) ↔ _
    rw [List.forall_mem_map]
    exact forall₂_congr fun de _ => h de
  constructor
  · intro h
    exact ⟨(hports (PortDe.inRange_numeric h.vlans)).mp h.values,
      (hports fun _ => Iff.rfl).mp h.portIds, h.mirrors, h.id, h.vlans⟩
  · intro h
    exact ⟨(hports (PortDe.inRange_numeric h.vlans)).mpr h.values,
      (hports fun _ => Iff.rfl).mpr h.portIds, h.mirrors, h.id, h.vlans⟩

/-- The expansion of the ports, one by one, with the names of each replaced. -/
theorem mem_expanded_numeric {wire : WireSwitch} {portMirrors : List PortMirror}
    {p q : Port → Prop} (h : ∀ (de : PortDe) (portId : String),
      p { (de.numeric wire.config.vlans).port with portId } ↔ q { de.port with portId }) :
    (∀ port ∈ (wire.numeric.expanded portMirrors).ports, p port) ↔
      ∀ port ∈ (wire.expanded portMirrors).ports, q port := by
  simp only [mem_expanded]
  constructor
  · rintro hp _ ⟨de, hde, portId, hid, rfl⟩
    exact (h de portId).mp
      (hp _ ⟨de.numeric wire.config.vlans, List.mem_map_of_mem hde, portId, hid, rfl⟩)
  · rintro hq _ ⟨_, hnumeric, portId, hid, rfl⟩
    obtain ⟨de, hde, rfl⟩ := List.mem_map.mp hnumeric
    exact (h de portId).mpr (hq _ ⟨de, hde, portId, hid, rfl⟩)

/-- The ports are the same under numbers. -/
theorem portIds_numeric (wire : WireSwitch) (portMirrors : List PortMirror) :
    (wire.numeric.expanded portMirrors).ports.map Port.portId =
      (wire.expanded portMirrors).ports.map Port.portId := by
  show ((wire.ports.map (PortDe.numeric wire.config.vlans)).flatMap _).map Port.portId =
    (wire.ports.flatMap _).map Port.portId
  rw [List.flatMap_map, List.map_flatMap, List.map_flatMap]
  refine List.flatMap_congr fun de _ => ?_
  rw [expandedPorts, expandedPorts, List.map_map, List.map_map]
  rfl

/-- Replacing names makes no switch resolvable and no switch unresolvable. -/
theorem settles_numeric {env : Environment} {model : SwitchModel} {wire : WireSwitch}
    {portMirrors : List PortMirror} : Settles env model (wire.numeric.expanded portMirrors) ↔
      Settles env model (wire.expanded portMirrors) := by
  -- a name and the number it stands for resolve to the same id
  have huntagged : (∀ port ∈ (wire.numeric.expanded portMirrors).ports,
      ∃ id ∈ definedVlans model (wire.expanded portMirrors),
        untaggedId wire.config.vlans port = some id) ↔
      ∀ port ∈ (wire.expanded portMirrors).ports,
        ∃ id ∈ definedVlans model (wire.expanded portMirrors),
          untaggedId wire.config.vlans port = some id := by
    apply mem_expanded_numeric
    intro de portId
    have hsame : untaggedId wire.config.vlans (de.numeric wire.config.vlans).port =
        untaggedId wire.config.vlans de.port := by
      rw [untaggedId_port, untaggedId_port]
      exact de.vlan.denoted_numeric wire.config.vlans
    show (∃ id ∈ _, untaggedId _ (de.numeric wire.config.vlans).port = some id) ↔
      ∃ id ∈ _, untaggedId _ de.port = some id
    rw [hsame]
  have hspeeds : (∀ port ∈ (wire.numeric.expanded portMirrors).ports,
      model.supportsSpeed port.speedDuplex = true) ↔
      ∀ port ∈ (wire.expanded portMirrors).ports,
        model.supportsSpeed port.speedDuplex = true :=
    mem_expanded_numeric fun _ _ => Iff.rfl
  constructor
  · intro h
    exact ⟨h.required, h.snmp, h.vendor, h.agree, h.names, huntagged.mp h.untagged,
      hspeeds.mp h.speeds, portIds_numeric wire portMirrors ▸ h.mirrors⟩
  · intro h
    refine ⟨h.required, h.snmp, h.vendor, h.agree, h.names, huntagged.mpr h.untagged,
      hspeeds.mpr h.speeds, ?_⟩
    rw [portIds_numeric]
    exact h.mirrors

/-! ## Tagged VLANs -/

/-- A port with some name among its tagged VLANs. -/
def PortDe.NamesTagged (de : PortDe) : Prop := ∃ name, .string name ∈ de.taggedVlans

/-- The tagged VLANs of a port as they are resolved. -/
theorem taggedIds_port (vlans : List Vlan) (de : PortDe) :
    (de.NamesTagged → taggedIds vlans de.port =
      (de.taggedVlans.filterMap (VlanValue.denoted vlans)).eraseDups) ∧
    (¬de.NamesTagged → taggedIds vlans de.port =
      de.taggedVlans.filterMap (VlanValue.denoted vlans)) := by
  have hany : (de.taggedVlans.map VlanValue.toRef).any VlanRef.isName = true ↔
      de.NamesTagged := by
    rw [List.any_map, List.any_eq_true]
    constructor
    · rintro ⟨value, hvalue, hname⟩
      cases value with
      | integer n => exact absurd hname (by simp [VlanValue.toRef, VlanRef.isName])
      | string s => exact ⟨s, hvalue⟩
    · exact fun ⟨s, hs⟩ => ⟨_, hs, rfl⟩
  have hdenoted (value : VlanValue) : value.toRef.denoted vlans = value.denoted vlans := by
    cases value <;> rfl
  constructor
  · intro hnames
    have hrefs : de.port.taggedVlanRefs = de.taggedVlans.map VlanValue.toRef :=
      if_pos (hany.mpr hnames)
    have hne : (de.taggedVlans.map VlanValue.toRef).isEmpty = false := by
      obtain ⟨name, hname⟩ := hnames
      rw [List.isEmpty_map]
      exact List.isEmpty_eq_false_iff_exists_mem.mpr ⟨_, hname⟩
    rw [taggedIds, hrefs, hne, if_neg (by decide), List.filterMap_map]
    congr 2
    funext value
    exact hdenoted value
  · intro hnames
    -- with numbers alone no reference is kept, so nothing is removed as repeated
    have hrefs : de.port.taggedVlanRefs = [] := if_neg (mt hany.mp hnames)
    have hids : de.port.taggedVlans = (de.taggedVlans.map VlanValue.toRef).filterMap VlanRef.id? :=
      if_neg (mt hany.mp hnames)
    rw [taggedIds, hrefs, hids, List.isEmpty_nil, if_pos rfl, List.filterMap_map]
    apply List.filterMap_congr
    intro value hvalue
    cases value with
    | integer n => rfl
    | string s => exact absurd ⟨s, hvalue⟩ hnames

/-- The tagged VLANs are the same under numbers. -/
theorem denoted_taggedVlans_numeric (vlans : List Vlan) (de : PortDe) :
    (de.numeric vlans).taggedVlans.filterMap (VlanValue.denoted vlans) =
      de.taggedVlans.filterMap (VlanValue.denoted vlans) := by
  rw [PortDe.numeric, List.filterMap_map]
  congr 1
  funext value
  exact value.denoted_numeric vlans

/-- A name is left among the tagged VLANs where one of them stands for nothing. -/
theorem namesTagged_numeric {vlans : List Vlan} {de : PortDe} : (de.numeric vlans).NamesTagged ↔
    ∃ name, .string name ∈ de.taggedVlans ∧ nameToId vlans name = none := by
  refine exists_congr fun name => ?_
  rw [PortDe.numeric, List.mem_map]
  constructor
  · rintro ⟨value, hvalue, hname⟩
    obtain ⟨rfl, hnone⟩ := VlanValue.numeric_eq_string_iff.mp hname
    exact ⟨hvalue, hnone⟩
  · rintro ⟨hvalue, hnone⟩
    exact ⟨_, hvalue, VlanValue.numeric_eq_string_iff.mpr ⟨rfl, hnone⟩⟩

/-- The tagged VLANs that exist are the same with names and with ids where `TaggedOnce` holds. -/
theorem taggedIds_numeric_iff {switch : SwitchConfig} {de : PortDe} :
    (taggedIds switch.vlans (de.numeric switch.vlans).port).filter switch.knownVlans.contains =
      (taggedIds switch.vlans de.port).filter switch.knownVlans.contains ↔
        de.TaggedOnce switch := by
  obtain ⟨hdropped, hkept⟩ := taggedIds_port switch.vlans de
  obtain ⟨hdropped', hkept'⟩ := taggedIds_port switch.vlans (de.numeric switch.vlans)
  rw [denoted_taggedVlans_numeric] at hdropped' hkept'
  by_cases hnames : de.NamesTagged
  · by_cases hleft : (de.numeric switch.vlans).NamesTagged
    · rw [hdropped hnames, hdropped' hleft]
      obtain ⟨name, hname, hnone⟩ := namesTagged_numeric.mp hleft
      refine iff_of_true rfl fun _ hall => ?_
      have hsome := hall name hname
      simp [hnone] at hsome
    · have hall : ∀ name, .string name ∈ de.taggedVlans →
          (nameToId switch.vlans name).isSome = true := by
        intro name hname
        refine Option.isSome_iff_ne_none.mpr fun hnone => hleft ?_
        exact namesTagged_numeric.mpr ⟨name, hname, hnone⟩
      rw [hdropped hnames, hkept' hleft, eq_comm, filter_eraseDups_eq_iff]
      exact ⟨fun h _ _ => h, fun h => h hnames hall⟩
  · have hleft : ¬(de.numeric switch.vlans).NamesTagged := by
      intro hleft
      obtain ⟨name, hname, -⟩ := namesTagged_numeric.mp hleft
      exact hnames ⟨name, hname⟩
    rw [hkept hnames, hkept' hleft]
    exact iff_of_true rfl fun h => absurd h hnames

/-! ## Switches by name and by id -/

/-- What a switch has to be to pass its validation. -/
def WireSwitch.Acceptable (env : Environment) (wire : WireSwitch) : Prop :=
  ∃ portMirrors model, wire.Readable portMirrors ∧ wire.config.model = some model ∧
    Settles env model (wire.expanded portMirrors)

/-- A switch is accepted exactly if it is acceptable. -/
theorem WireSwitch.outcome_isSome_iff {env : Environment} {wire : WireSwitch} :
    (wire.outcome env).isSome = true ↔ wire.Acceptable env := by
  rw [Option.isSome_iff_exists]
  constructor
  · rintro ⟨result, h⟩
    obtain ⟨portMirrors, model, hread, hmodel, hsettles, -⟩ := outcome_eq_some_iff.mp h
    exact ⟨portMirrors, model, hread, hmodel, hsettles⟩
  · rintro ⟨portMirrors, model, hread, hmodel, hsettles⟩
    exact ⟨_, outcome_eq_some_iff.mpr ⟨portMirrors, model, hread, hmodel, hsettles, rfl⟩⟩

/-- It is so exactly if it is under numbers. -/
theorem WireSwitch.acceptable_numeric {env : Environment} {wire : WireSwitch} :
    wire.numeric.Acceptable env ↔ wire.Acceptable env := by
  refine exists_congr fun portMirrors => exists_congr fun model => ?_
  rw [readable_numeric, settles_numeric]
  rfl

/-- The ports that a written port leaves once it is expanded, resolved and filtered. -/
def settledPorts (model : SwitchModel) (switch : SwitchConfig) (de : PortDe) : List Port :=
  (expandedPorts de.port).map fun port =>
    filterTagged (definedVlans model switch) false (resolvedPort switch.vlans port)

/-- The untagged VLAN is the same under numbers. -/
theorem resolvedVlan_numeric (vlans : List Vlan) (de : PortDe) :
    (untaggedId vlans (de.numeric vlans).port).getD (de.numeric vlans).port.vlan =
      (untaggedId vlans de.port).getD de.port.vlan := by
  have huntagged : untaggedId vlans (de.numeric vlans).port = de.vlan.denoted vlans := by
    rw [untaggedId_port]
    exact de.vlan.denoted_numeric vlans
  rw [huntagged, untaggedId_port]
  cases h : de.vlan.denoted vlans with
  | some id => rfl
  | none =>
    -- the name that stands for nothing is still there
    have hsame : de.vlan.numeric vlans = de.vlan := by
      cases hvlan : de.vlan with
      | integer n => rfl
      | string s =>
        rw [hvlan, VlanValue.denoted] at h
        rw [VlanValue.numeric, h]
    show (de.vlan.numeric vlans).toRef.id?.getD 1 = de.vlan.toRef.id?.getD 1
    rw [hsame]

/-- The ports that a written port leaves are the same with names and with ids where its tagged
VLANs are. -/
theorem settledPorts_numeric_iff {model : SwitchModel} {switch : SwitchConfig} {de : PortDe}
    (hmodel : switch.model = some model) (hids : ∃ ids, parsePortId de.portId = .ok ids) :
    settledPorts model switch (de.numeric switch.vlans) = settledPorts model switch de ↔
      de.TaggedOnce switch := by
  have hknown : definedVlans model switch = switch.knownVlans := by
    rw [definedVlans, SwitchConfig.knownVlans, hmodel]
    rfl
  obtain ⟨ids, hids⟩ := hids
  obtain ⟨portId, rest, rfl⟩ := List.exists_cons_of_ne_nil (parsePortId_ne_nil hids)
  have hports (de' : PortDe) (h : de'.portId = de.portId) :
      settledPorts model switch de' = (portId :: rest).map fun portId =>
        filterTagged switch.knownVlans false
          (resolvedPort switch.vlans { de'.port with portId }) := by
    have hparsed : parsePortId de'.port.portId = .ok (portId :: rest) := by
      show parsePortId de'.portId = _
      rw [h, hids]
    rw [settledPorts, expandedPorts, hparsed, List.map_map, hknown]
    rfl
  rw [hports de rfl, hports (de.numeric switch.vlans) rfl, ← taggedIds_numeric_iff]
  constructor
  · intro h
    exact congrArg Port.taggedVlans (List.cons.inj h).1
  · intro h
    apply List.map_congr_left
    intro portId _
    rw [filterTagged, filterTagged, resolvedPort, resolvedPort]
    rw [if_neg (by decide), if_neg (by decide), Port.mk.injEq]
    exact ⟨rfl, rfl, resolvedVlan_numeric switch.vlans de, h, rfl, rfl, rfl, rfl, rfl, rfl, rfl⟩

/-- Under numbers a switch settles to the same exactly if no port has a VLAN tagged twice. -/
theorem settled_numeric_iff {env : Environment} {model : SwitchModel} {wire : WireSwitch}
    {portMirrors : List PortMirror} (hmodel : wire.config.model = some model)
    (hids : ∀ de ∈ wire.ports, ∃ ids, parsePortId de.portId = .ok ids) :
    settled env model (wire.numeric.expanded portMirrors) =
      settled env model (wire.expanded portMirrors) ↔
        ∀ de ∈ wire.ports, de.TaggedOnce wire.config := by
  -- beside its ports, what a switch settles to does not depend on them
  have hsettled (des : List PortDe) :
      settled env model ((WireSwitch.mk wire.config des).expanded portMirrors) =
        { wire.config with
          ports := des.flatMap (settledPorts model wire.config)
          portMirrors
          snmp := (resolvedSnmp env wire.config).1 } := by
    have hmap : (des.flatMap fun de => expandedPorts de.port).map (fun port =>
        filterTagged (definedVlans model wire.config) false
          (resolvedPort wire.config.vlans port)) =
        des.flatMap (settledPorts model wire.config) := by
      rw [List.map_flatMap]
      rfl
    rw [← hmap]
    rfl
  have hpieces : (wire.ports.map (PortDe.numeric wire.config.vlans)).flatMap
      (settledPorts model wire.config) = wire.ports.flatMap (settledPorts model wire.config) ↔
        ∀ de ∈ wire.ports, de.TaggedOnce wire.config := by
    rw [List.flatMap_map, flatMap_eq_flatMap_iff]
    · exact forall₂_congr fun de hde => settledPorts_numeric_iff hmodel (hids de hde)
    · intro de _
      simp [settledPorts, expandedPorts, PortDe.port, PortDe.toPort, PortDe.numeric]
  rw [← hpieces]
  show settled env model ((WireSwitch.mk wire.config _).expanded portMirrors) =
    settled env model ((WireSwitch.mk wire.config _).expanded portMirrors) ↔ _
  rw [hsettled, hsettled]
  exact ⟨congrArg SwitchConfig.ports, fun h => by rw [h]⟩

/-- A switch is accepted with names just as it is with the ids they stand for. The two come out
the same unless some port names a VLAN that it tags twice. -/
theorem WireSwitch.names_are_ids_iff (env : Environment) (wire : WireSwitch) :
    (wire.numeric.outcome env).isSome = (wire.outcome env).isSome ∧
      (wire.numeric.outcome env = wire.outcome env ↔
        (wire.Acceptable env → ∀ de ∈ wire.ports, de.TaggedOnce wire.config)) := by
  have hsome : (wire.numeric.outcome env).isSome = (wire.outcome env).isSome := by
    rw [Bool.eq_iff_iff, outcome_isSome_iff, outcome_isSome_iff, acceptable_numeric]
  refine ⟨hsome, ?_⟩
  by_cases haccept : wire.Acceptable env
  · obtain ⟨portMirrors, model, hread, hmodel, hsettles⟩ := haccept
    have hnamed : wire.outcome env = some (settled env model (wire.expanded portMirrors)) :=
      outcome_eq_some_iff.mpr ⟨portMirrors, model, hread, hmodel, hsettles, rfl⟩
    have hnumeric : wire.numeric.outcome env =
        some (settled env model (wire.numeric.expanded portMirrors)) :=
      outcome_eq_some_iff.mpr ⟨portMirrors, model, readable_numeric.mpr hread, hmodel,
        settles_numeric.mpr hsettles, rfl⟩
    rw [hnamed, hnumeric, Option.some_inj, settled_numeric_iff hmodel hread.portIds]
    exact ⟨fun h _ => h, fun h => h ⟨portMirrors, model, hread, hmodel, hsettles⟩⟩
  · have hnone : wire.outcome env = none :=
      Option.not_isSome_iff_eq_none.mp (mt outcome_isSome_iff.mp haccept)
    have hnumeric : wire.numeric.outcome env = none := by
      rw [← Option.not_isSome_iff_eq_none, hsome, hnone]
      decide
    exact iff_of_true (hnumeric.trans hnone.symm) fun h => absurd h haccept

/-- A switch that tags a port with one VLAN twice, by its name and by its id. -/
def taggedTwice : WireSwitch where
  config :=
    { id := "sw1", hostname := some "office", model := some .aruba2930F
      managementIp := some "192.0.2.10", credentials := some { username := "admin" }
      vlans := [{ id := 10, name := "staff" }] }
  ports := [{ portId := "1", vlan := .integer 1, taggedVlans := [.string "staff", .integer 10] }]

/-- The name is given up for the id, and the port has VLAN 10 twice. -/
theorem taggedTwice_differs : NamesAgree taggedTwice.config.vlans ∧
    (taggedTwice.outcome plainEnvironment).map (fun s => s.ports.map Port.taggedVlans) =
      some [[10]] ∧
    (taggedTwice.numeric.outcome plainEnvironment).map (fun s => s.ports.map Port.taggedVlans) =
      some [[10, 10]] ∧
    taggedTwice.numeric.outcome plainEnvironment ≠ taggedTwice.outcome plainEnvironment := by
  have hnamed : (taggedTwice.outcome plainEnvironment).map (fun s => s.ports.map Port.taggedVlans) =
      some [[10]] := by rfl
  have hnumeric : (taggedTwice.numeric.outcome plainEnvironment).map
      (fun s => s.ports.map Port.taggedVlans) = some [[10, 10]] := by rfl
  refine ⟨?_, hnamed, hnumeric, fun h => ?_⟩
  · intro v hv w hw _
    rw [List.mem_singleton.mp hv, List.mem_singleton.mp hw]
  · rw [h, hnamed] at hnumeric
    exact absurd hnumeric (by decide)

end SwitchConfigurator
