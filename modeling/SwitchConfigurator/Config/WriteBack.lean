import SwitchConfigurator.Config.SavedOverlay
import SwitchConfigurator.Config.Stored

/-!
# Writing a switch back

A switch that was read from a document, or merged from such switches, can be written and read
again. What is not written is its passwords, the strings that references stand for, and the VLAN
names that its ports still have.
-/

namespace SwitchConfigurator

open Document Keyed

/-! ## Ports -/

/-- A port that gives its VLANs by number. -/
structure Port.ByNumber (port : Port) : Prop where
  vlanName : port.vlanName = none
  taggedVlanRefs : port.taggedVlanRefs = []

/-- A port without the names that are still to be resolved. -/
def Port.numbered (port : Port) : Port := { port with vlanName := none, taggedVlanRefs := [] }

/-- The VLANs of a port are ones that can be read. -/
structure Port.InRange (port : Port) : Prop where
  vlan : 1 ≤ port.vlan ∧ port.vlan ≤ 65535
  taggedVlans : ∀ id ∈ port.taggedVlans, 1 ≤ id ∧ id ≤ 65535

/-- A port is numbered exactly if it is given by numbers. -/
theorem Port.numbered_eq_iff {port : Port} : port.numbered = port ↔ port.ByNumber := by
  obtain ⟨portId, mode, vlan, taggedVlans, description, enabled, poeEnabled, macNotify,
    speedDuplex, vlanName, taggedVlanRefs⟩ := port
  constructor
  · intro h
    obtain ⟨-, -, -, -, -, -, -, -, -, hname, hrefs⟩ := Port.mk.inj h
    exact ⟨hname.symm, hrefs.symm⟩
  · rintro ⟨hname, hrefs⟩
    obtain rfl : vlanName = none := hname
    obtain rfl : taggedVlanRefs = [] := hrefs
    rfl

theorem PortDe.InRange.port {de : PortDe} (h : de.InRange) : de.port.InRange := by
  have hnumber {n : ℤ} (hn : (VlanValue.integer n).InRange) : 1 ≤ n.toNat ∧ n.toNat ≤ 65535 := by
    have hn : 1 ≤ n ∧ n ≤ 65535 := hn
    omega
  constructor
  · show 1 ≤ de.vlan.toRef.id?.getD 1 ∧ de.vlan.toRef.id?.getD 1 ≤ 65535
    have hvlan := h.vlan
    cases hde : de.vlan with
    | integer n =>
      rw [hde] at hvlan
      exact hnumber hvlan
    | string s =>
      show 1 ≤ 1 ∧ 1 ≤ 65535
      decide
  · intro id hid
    have hid : id ∈ if (de.taggedVlans.map VlanValue.toRef).any VlanRef.isName then [] else
        (de.taggedVlans.map VlanValue.toRef).filterMap VlanRef.id? := hid
    split at hid
    · exact absurd hid List.not_mem_nil
    · obtain ⟨ref, href, hid⟩ := List.mem_filterMap.mp hid
      obtain ⟨value, hvalue, rfl⟩ := List.mem_map.mp href
      have hvlan := h.taggedVlans value hvalue
      cases value with
      | integer n =>
        obtain rfl : n.toNat = id := Option.some.inj hid
        exact hnumber hvlan
      | string s => cases hid

/-- A port that was read is in range. -/
theorem Port.inRange_of_read {value : Value} {port : Port} (h : Port.ofValue value = some port) :
    port.InRange := by
  obtain ⟨de, -, hde⟩ := Option.bind_eq_some_iff.mp h
  have hok : de.deserialize = .ok port := by
    cases hread : de.deserialize with
    | error e =>
      rw [hread] at hde
      cases hde
    | ok other =>
      rw [hread] at hde
      exact congrArg Except.ok (Option.some.inj hde)
  obtain ⟨hrange, rfl⟩ := PortDe.deserialize_ok_iff.mp hok
  exact hrange.port

/-- A port is read back without its names. -/
theorem Port.InRange.deserialize_toDe {port : Port} (h : port.InRange) :
    port.toDe.deserialize = .ok port.numbered := by
  have hnumber {id : ℕ} (hid : 1 ≤ id ∧ id ≤ 65535) : (VlanValue.integer id).InRange := by
    show (1 : ℤ) ≤ id ∧ (id : ℤ) ≤ 65535
    omega
  refine PortDe.deserialize_ok_iff.mpr ⟨⟨hnumber h.vlan, ?_⟩, ?_⟩
  · show ∀ value ∈ port.taggedVlans.map fun (id : ℕ) => VlanValue.integer id, value.InRange
    rw [List.forall_mem_map]
    exact fun id hid => hnumber (h.taggedVlans id hid)
  · have hrefs : port.toDe.taggedVlans.map VlanValue.toRef = port.taggedVlans.map VlanRef.id := by
      show (port.taggedVlans.map fun (id : ℕ) => VlanValue.integer id).map _ = _
      rw [List.map_map]
      rfl
    have hnames : (port.taggedVlans.map VlanRef.id).any VlanRef.isName = false := by
      rw [List.any_map, List.any_eq_false]
      exact fun id _ => Bool.false_ne_true
    have hids : (port.taggedVlans.map VlanRef.id).filterMap VlanRef.id? = port.taggedVlans := by
      rw [List.filterMap_map]
      exact List.filterMap_some
    rw [PortDe.port, hrefs]
    unfold PortDe.toPort
    rw [hnames, hids]
    rfl

/-! ## SNMP -/

/-- What is written of the communities can be read. -/
structure SnmpConfig.Writable (snmp : SnmpConfig) : Prop where
  communities : ∀ community ∈ snmp.communities,
    SnmpCommunity.ofValue community.toValue = some community.referenced
  reads : ∀ reads ∈ snmp.reads, SnmpReads.ofValue reads.toValue = some reads.referenced

/-- What was read of SNMP can be written back. -/
theorem SnmpConfig.writable_of_read {value : Value} {snmp : SnmpConfig}
    (h : SnmpConfig.ofValue value = some snmp) : snmp.Writable := by
  obtain ⟨entries, h⟩ := exists_of_record h
  simp only [Option.bind_eq_bind, Option.bind_eq_some_iff, Option.pure_def, Option.some.injEq] at h
  obtain ⟨communities, hcommunities, trapReceivers, -, enabledTraps, -, reads, hreads, rfl⟩ := h
  constructor
  · intro community hcommunity
    obtain ⟨item, hitem⟩ := exists_of_mem_fieldOr hcommunities hcommunity
    exact SnmpCommunity.readsBack item community hitem
  · rintro given rfl
    obtain ⟨item, hitem⟩ := exists_of_fieldOr_optional hreads
    exact SnmpReads.readsBack item given hitem

/-- What can be written back is read as it was, without the values of references. -/
theorem SnmpConfig.Writable.read {snmp : SnmpConfig} (h : snmp.Writable) :
    SnmpConfig.ofValue snmp.toValue = some snmp.referenced := by
  have hcommunities : sequence SnmpCommunity.ofValue
      (ofList SnmpCommunity.toValue snmp.communities) =
        some (snmp.communities.map SnmpCommunity.referenced) := sequence_write h.communities
  have hreceivers : sequence SnmpTrapReceiver.ofValue
      (ofList SnmpTrapReceiver.toValue snmp.trapReceivers) = some snmp.trapReceivers :=
    sequence_of_forall fun receiver _ => receiver.ofValue_toValue
  have htraps : sequence variant (ofList ofVariant snmp.enabledTraps) = some snmp.enabledTraps :=
    sequence_of_forall fun trap _ => variant_ofVariant trap
  have hreads : optional SnmpReads.ofValue (ofOption SnmpReads.toValue snmp.reads) =
      some (snmp.reads.map SnmpReads.referenced) :=
    optional_write (fun _ => by simp [SnmpReads.toValue]) h.reads
  rw [ofValue, toValue, referenced]
  simp [hcommunities, hreceivers, htraps, hreads]

/-! ## Switches -/

/-- What is written of a switch can be read. -/
structure SwitchConfig.Writable (formats : Formats) (switch : SwitchConfig) : Prop where
  readable : switch.Readable formats
  snmp : ∀ snmp ∈ switch.snmp, snmp.Writable
  ports : ∀ port ∈ switch.ports, port.InRange

section

variable {formats : Formats} {switch raw : SwitchConfig}

/-- A switch that was read can be written back. -/
theorem SwitchConfig.writable_of_read {value : Value}
    (h : SwitchConfig.ofValue formats value = some switch) : switch.Writable formats := by
  have hreadable := SwitchConfig.readable formats h
  obtain ⟨entries, h⟩ := exists_of_record h
  obtain ⟨id, -, h⟩ := Option.bind_eq_some_iff.mp h
  obtain ⟨hostname, -, h⟩ := Option.bind_eq_some_iff.mp h
  obtain ⟨model, -, h⟩ := Option.bind_eq_some_iff.mp h
  obtain ⟨managementIp, -, h⟩ := Option.bind_eq_some_iff.mp h
  obtain ⟨credentials, -, h⟩ := Option.bind_eq_some_iff.mp h
  obtain ⟨vlans, -, h⟩ := Option.bind_eq_some_iff.mp h
  obtain ⟨ports, hports, h⟩ := Option.bind_eq_some_iff.mp h
  obtain ⟨portMirrors, -, h⟩ := Option.bind_eq_some_iff.mp h
  obtain ⟨snmp, hsnmp, h⟩ := Option.bind_eq_some_iff.mp h
  obtain ⟨managementVlan, -, h⟩ := Option.bind_eq_some_iff.mp h
  obtain ⟨validation, -, h⟩ := Option.bind_eq_some_iff.mp h
  obtain ⟨vendorSpecific, -, h⟩ := Option.bind_eq_some_iff.mp h
  obtain ⟨settings, -, h⟩ := Option.bind_eq_some_iff.mp h
  obtain rfl := Option.some.inj h
  refine ⟨hreadable, ?_, ?_⟩
  · rintro given rfl
    obtain ⟨item, hitem⟩ := exists_of_fieldOr_optional hsnmp
    exact SnmpConfig.writable_of_read hitem
  · intro port hport
    obtain ⟨item, hitem⟩ := exists_of_mem_fieldOr hports hport
    exact Port.inRange_of_read hitem

/-- A switch is read back without its passwords and secrets, and with its ports numbered. -/
theorem SwitchConfig.Writable.read (h : switch.Writable formats) :
    SwitchConfig.ofValue formats (switch.toValue formats) =
      some { switch.withoutSecrets with ports := switch.ports.map Port.numbered } := by
  apply SwitchConfig.ofValue_toEntries formats h.readable
  rw [List.forall₂_map_left_iff, List.forall₂_map_right_iff, List.forall₂_same]
  exact fun port hport => (h.ports port hport).deserialize_toDe

/-- Writing a switch loses no VLAN of it exactly if its ports give them by number. -/
theorem SwitchConfig.Writable.read_eq_iff (h : switch.Writable formats) :
    SwitchConfig.ofValue formats (switch.toValue formats) = some switch.withoutSecrets ↔
      ∀ port ∈ switch.ports, port.ByNumber := by
  have hports : switch.ports.map Port.numbered = switch.ports ↔
      ∀ port ∈ switch.ports, port.ByNumber := by
    rw [← List.forall₂_eq_eq_eq, List.forall₂_map_left_iff, List.forall₂_same]
    exact forall₂_congr fun port _ => Port.numbered_eq_iff
  rw [h.read, ← hports, Option.some.injEq]
  constructor
  · exact fun heq => congrArg SwitchConfig.ports heq
  · intro heq
    rw [heq]
    rfl

/-- So can what it expands to. -/
theorem SwitchConfig.Writable.expanded (h : raw.Writable formats)
    (hexpand : expandPortRanges raw = .ok switch) : switch.Writable formats := by
  obtain ⟨-, portMirrors, -, rfl⟩ := expandPortRanges_ok_iff.mp hexpand
  obtain ⟨hread, hsnmp, hports⟩ := h
  refine ⟨⟨hread.credentials, hread.vlans, hread.snmp, hread.managementVlan, hread.validation,
    hread.vendorSpecific, hread.settings⟩, hsnmp, ?_⟩
  intro port hport
  obtain ⟨entry, hentry, hport⟩ := List.mem_flatMap.mp hport
  obtain ⟨portId, -, rfl⟩ := List.mem_map.mp hport
  exact ⟨(hports entry hentry).vlan, (hports entry hentry).taggedVlans⟩

end

/-! ## Merged switches -/

section

variable {formats : Formats} {sources : List SwitchSource}

/-- A value is replaced by another, or stays. -/
theorem replaceIfHigher_cases {β : Type} (isSet : Bool) (value : β) (priority : ℕ)
    (taken : β × Option ℕ) : (replaceIfHigher isSet value priority taken).1 = value ∨
      (replaceIfHigher isSet value priority taken).1 = taken.1 := by
  rw [replaceIfHigher]
  split
  · exact .inl rfl
  · exact .inr rfl

theorem SnmpConfig.writable_empty : ({} : SnmpConfig).Writable := by
  constructor
  · intro community hcommunity
    exact absurd hcommunity List.not_mem_nil
  · intro reads hreads
    cases hreads

/-- One step of the merge keeps SNMP writable. -/
theorem mergeSnmpStep_writable {state : SnmpMerge} {config : SwitchSource}
    (hstate : ∀ snmp ∈ state.merged, snmp.Writable)
    (hconfig : ∀ snmp ∈ config.switch.snmp, snmp.Writable) :
    ∀ snmp ∈ (mergeSnmpStep state config).merged, snmp.Writable := by
  rw [mergeSnmpStep]
  cases hsnmp : config.switch.snmp with
  | none => exact hstate
  | some own =>
    have hown := hconfig own hsnmp
    have hmerged : (state.merged.getD {}).Writable := by
      cases hgiven : state.merged with
      | none => exact SnmpConfig.writable_empty
      | some merged => exact hstate merged hgiven
    rintro _ ⟨⟩
    constructor
    · dsimp only
      rcases replaceIfHigher_cases (!own.communities.isEmpty) own.communities config.mergePriority
        ((state.merged.getD {}).communities, state.communitiesPriority) with h | h
      · rw [h]
        exact hown.communities
      · rw [h]
        exact hmerged.communities
    · dsimp only
      rcases replaceIfHigher_cases own.reads.isSome own.reads config.mergePriority
        ((state.merged.getD {}).reads, state.readsPriority) with h | h
      · rw [h]
        exact hown.reads
      · rw [h]
        exact hmerged.reads

/-- So does the merge. -/
theorem mergeSnmpConfigs_writable
    (h : ∀ config ∈ sources, ∀ snmp ∈ config.switch.snmp, snmp.Writable) :
    ∀ snmp ∈ mergeSnmpConfigs sources, snmp.Writable := by
  have hfold (state : SnmpMerge) (hstate : ∀ snmp ∈ state.merged, snmp.Writable) :
      ∀ snmp ∈ (sources.foldl mergeSnmpStep state).merged, snmp.Writable := by
    induction sources generalizing state with
    | nil => exact hstate
    | cons config configs ih =>
      rw [List.forall_mem_cons] at h
      exact ih h.2 _ (mergeSnmpStep_writable hstate h.1)
  apply hfold
  intro snmp hsnmp
  cases hsnmp

/-- What each step keeps, the merge keeps. -/
theorem foldl_mergeIdentityStep_keeps {β : Type} {view : SwitchConfig → β}
    (hstep : ∀ merged config, view (mergeIdentityStep merged config) = view merged)
    (configs : List SwitchSource) (merged : SwitchConfig) :
    view (configs.foldl mergeIdentityStep merged) = view merged := by
  induction configs generalizing merged with
  | nil => rfl
  | cons config configs ih => exact (ih _).trans (hstep merged config)

/-- What is merged from switches that can be written can be written. -/
theorem mergeSingleSwitch_writable (switchId : String)
    (h : ∀ source ∈ sources, source.switch.Writable formats) :
    (mergeSingleSwitch switchId sources).switch.Writable formats := by
  have hsorted : ∀ source ∈ byPriority SwitchSource.mergePriority sources,
      source.switch.Writable formats := fun source hs => h source (mem_byPriority.mp hs)
  have hsnmp := mergeSnmpConfigs_writable fun config hc => (hsorted config hc).snmp
  -- a field that the identity step leaves alone is that of the empty switch it starts from
  have hkeeps {β : Type} (view : SwitchConfig → β)
      (hstep : ∀ merged config, view (mergeIdentityStep merged config) = view merged) :=
    foldl_mergeIdentityStep_keeps hstep (byPriority SwitchSource.mergePriority sources)
      { id := switchId }
  refine ⟨⟨?credentials, ?vlans, ?snmp, ?managementVlan, ?validation, ?vendorSpecific,
    ?settings⟩, hsnmp, ?ports⟩
  case credentials =>
    have hfold := @foldl_mergeIdentityStep _ SwitchConfig.credentials (fun _ _ => rfl)
      (byPriority SwitchSource.mergePriority sources) { id := switchId }
    rw [Option.none_or] at hfold
    rw [mergeSingleSwitch]
    dsimp only
    rw [hfold]
    cases hfind : (byPriority SwitchSource.mergePriority sources).find?
        fun config => config.switch.credentials.isSome with
    | none => rfl
    | some config => exact (hsorted config (List.mem_of_find?_eq_some hfind)).readable.credentials
  case vlans =>
    intro vlan hvlan
    obtain ⟨config, hconfig, hvlan⟩ := mem_of_mem_mergedValues hvlan
    exact (h config hconfig).readable.vlans vlan hvlan
  case snmp =>
    exact optional_write (fun _ => by simp [SnmpConfig.toValue]) fun snmp hs => (hsnmp snmp hs).read
  case managementVlan =>
    rw [mergeSingleSwitch]
    dsimp only
    rw [hkeeps SwitchConfig.managementVlan fun _ _ => rfl]
    rfl
  case validation =>
    rw [mergeSingleSwitch]
    dsimp only
    cases hfind : (byPriority SwitchSource.mergePriority sources).findSome?
        fun config => config.switch.validation with
    | none => rfl
    | some validation =>
      obtain ⟨config, hconfig, hvalidation⟩ := List.exists_of_findSome?_eq_some hfind
      have hread := (hsorted config hconfig).readable.validation
      rw [hvalidation] at hread
      exact hread
  case vendorSpecific =>
    rw [mergeSingleSwitch]
    dsimp only
    rw [hkeeps SwitchConfig.vendorSpecific fun _ _ => rfl]
    rfl
  -- the settings are those of the definition with the highest priority
  case settings =>
    rw [mergeSingleSwitch]
    dsimp only
    cases hlist : byPriority SwitchSource.mergePriority sources with
    | nil => rfl
    | cons config configs =>
      exact (hsorted config (hlist ▸ List.mem_cons_self)).readable.settings
  -- each port is one of some definition, taken over as a whole
  case ports =>
    intro port hport
    obtain ⟨config, hconfig, hport⟩ := mem_of_mem_mergedValues hport
    exact (h config hconfig).ports port hport

end

end SwitchConfigurator
