import SwitchConfigurator.Ui.Forms
import SwitchConfigurator.Foundations.RelatedLists
import SwitchConfigurator.Vendors.Text
import Mathlib.Data.List.Dedup

/-!
# Saving a page that was not changed

What the handlers read of an untouched form, and for which drafts that is the draft again.
-/

namespace SwitchConfigurator.Ui

open List RelatedLists

/-! ## Keys -/

theorem rsplitOnce_eq_none {sep : Char} {s : List Char} (h : sep ∉ s) : rsplitOnce sep s = none :=
    by
  induction s with
  | nil => rfl
  | cons c rest ih =>
    rw [mem_cons, not_or] at h
    rw [rsplitOnce, ih h.2]
    exact if_neg (Ne.symm h.1)

/-- A text is split at its last separator. -/
theorem rsplitOnce_append {sep : Char} {after : List Char} (h : sep ∉ after) (before : List Char) :
    rsplitOnce sep (before ++ sep :: after) = some (before, after) := by
  induction before with
  | nil =>
    rw [nil_append, rsplitOnce, rsplitOnce_eq_none h]
    exact if_pos rfl
  | cons c before ih => rw [cons_append, rsplitOnce, ih]

theorem toList_controlName (field : String) (i : ℕ) :
    (controlName field i).toList = field.toList ++ '.' :: (toString i).toList := by
  have htext : controlName field i = field ++ "." ++ toString i := rfl
  have hsep : ".".toList = ['.'] := rfl
  rw [htext, String.toList_append, String.toList_append, hsep, append_assoc]
  rfl

/-- The name of a control gives its row and field. -/
theorem rowField_controlName {i : ℕ} (hi : i < 2 ^ 64) (field : String) :
    rowField (controlName field i) = some (i, field) := by
  have hdot : '.' ∉ (toString i).toList := by
    intro h
    exact absurd (Cli.isDigit_of_mem_toString h) (by decide)
  rw [rowField, toList_controlName, rsplitOnce_append hdot]
  simp only [Option.bind_eq_bind, Option.bind_some, parseUint_toString hi, String.ofList_toList]

/-! ## Rows -/

/-- What a row submits, under the number of the row. -/
def rowSubmits (vlans : List VlanOption) (row : EditablePort × ℕ) : List (ℕ × String × String) :=
  (row.1.controls vlans).flatMap fun control =>
    control.2.map fun value => (row.2, control.1, value)

/-- The values that a row submits for a field. -/
def rowValues (vlans : List VlanOption) (port : EditablePort) (field : String) : List String :=
  (port.controls vlans).flatMap fun control => if control.1 = field then control.2 else []

variable {vlans : List VlanOption} {ports : List EditablePort}

/-- A form is submitted row by row. -/
theorem rowEntries_submitPorts (h : ports.length ≤ 2 ^ 64) :
    rowEntries (submitPorts vlans ports) = ports.zipIdx.flatMap (rowSubmits vlans) := by
  rw [rowEntries, submitPorts, filterMap_flatMap]
  refine flatMap_congr fun row hrow => ?_
  have hi : row.2 < 2 ^ 64 := by
    have := snd_lt_of_mem_zipIdx hrow
    omega
  rw [filterMap_flatMap]
  refine flatMap_congr fun control _ => ?_
  rw [filterMap_map, ← filterMap_eq_map]
  refine filterMap_congr fun value _ => ?_
  simp only [Function.comp_apply, rowField_controlName hi, Option.map_some]

/-- A field has the values of its own row. -/
theorem rowSubmits_filter (row : EditablePort × ℕ) (i : ℕ) (field : String) :
    ((rowSubmits vlans row).filter fun entry => entry.1 = i ∧ entry.2.1 = field).map
        (fun entry => entry.2.2) =
      if row.2 = i then rowValues vlans row.1 field else [] := by
  rw [rowSubmits, filter_flatMap, map_flatMap]
  by_cases hi : row.2 = i
  · rw [if_pos hi, rowValues]
    refine flatMap_congr fun control _ => ?_
    by_cases hfield : control.1 = field <;> simp [filter_map, Function.comp_def, hi, hfield]
  · rw [if_neg hi]
    refine flatMap_eq_nil_iff.mpr fun control _ => ?_
    simp [hi]

/-- A row has the values that were submitted for it. -/
theorem fieldValues_submitPorts (h : ports.length ≤ 2 ^ 64) {i : ℕ} (hi : i < ports.length) :
    fieldValues (rowEntries (submitPorts vlans ports)) i = rowValues vlans ports[i] := by
  ext1 field
  have hmem : (ports[i], i) ∈ ports.zipIdx :=
    mk_mem_zipIdx_iff_getElem?.mpr (getElem?_eq_getElem hi)
  have hother : ∀ row ∈ ports.zipIdx, row ≠ (ports[i], i) → row.2 ≠ i := by
    rintro ⟨port, j⟩ hrow hne rfl
    rw [mk_mem_zipIdx_iff_getElem?, getElem?_eq_getElem hi] at hrow
    exact hne (by rw [Option.some.inj hrow])
  have hnodup : ports.zipIdx.Nodup := by
    have hsnd : (ports.zipIdx.map Prod.snd).Nodup := by
      rw [zipIdx_map_snd]
      exact nodup_range' _
    exact hsnd.of_map _
  rw [fieldValues, rowEntries_submitPorts h, filter_flatMap, map_flatMap]
  simp only [rowSubmits_filter]
  rw [flatMap_eq_single hnodup fun row hrow hne => if_neg (hother row hrow hne), if_pos hmem]
  exact if_pos rfl

/-- Every row submits its port id, so the numbers of the rows are all there. -/
theorem rowNumbers_submitPorts (h : ports.length ≤ 2 ^ 64) :
    (((rowEntries (submitPorts vlans ports)).map Prod.fst).dedup).insertionSort (· ≤ ·) =
      range ports.length := by
  have hmem : ∀ i, i ∈ (rowEntries (submitPorts vlans ports)).map Prod.fst ↔ i < ports.length := by
    intro i
    rw [rowEntries_submitPorts h, map_flatMap, mem_flatMap]
    constructor
    · rintro ⟨row, hrow, hi⟩
      obtain ⟨entry, hentry, rfl⟩ := mem_map.mp hi
      obtain ⟨control, _, hvalue⟩ := mem_flatMap.mp hentry
      obtain ⟨value, _, rfl⟩ := mem_map.mp hvalue
      have := snd_lt_of_mem_zipIdx hrow
      omega
    · intro hi
      refine ⟨(ports[i], i), mk_mem_zipIdx_iff_getElem?.mpr (getElem?_eq_getElem hi), ?_⟩
      simp [rowSubmits, EditablePort.controls]
  have hperm : (((rowEntries (submitPorts vlans ports)).map Prod.fst).dedup) ~ range ports.length :=
    (perm_ext_iff_of_nodup (nodup_dedup _) nodup_range).mpr fun i => by
      rw [mem_dedup, hmem, mem_range]
  exact ((perm_insertionSort _ _).trans hperm).eq_of_pairwise' (pairwise_insertionSort _ _)
    pairwise_le_range

/-- The ports that are read are those of the rows, sorted. -/
theorem parseRows_submitPorts (h : ports.length ≤ 2 ^ 64) (existing : List Port) :
    parsePortsBulk (submitPorts vlans ports) existing =
      sortPorts (ports.filterMap fun port => parseRow existing (rowValues vlans port)) := by
  rw [parsePortsBulk, rowNumbers_submitPorts h]
  have hrows : range ports.length = ports.zipIdx.map Prod.snd := by
    rw [zipIdx_map_snd, range_eq_range']
  rw [hrows, filterMap_map]
  nth_rewrite 3 [← zipIdx_map_fst 0 ports]
  rw [filterMap_map]
  congr 1
  refine filterMap_congr fun row hrow => ?_
  obtain ⟨port, i⟩ := row
  have hport := mk_mem_zipIdx_iff_getElem?.mp hrow
  obtain ⟨hi, rfl⟩ := List.getElem?_eq_some_iff.mp hport
  simp only [Function.comp_apply, fieldValues_submitPorts h hi]

/-! ## Selected options -/

/-- Where the options that are selected have one value, that value is submitted; where none is
selected, the first option is. -/
theorem submitSelect_map {α : Type} (value : α → String) (p : α → Bool) (l : List α) (v : String)
    (hv : ∀ a ∈ l, p a → value a = v) :
    (submitSelect (l.map fun a => { value := value a, selected := p a })).getLast? =
      if l.any p then some v else l.head?.map value := by
  rw [submitSelect, filter_map]
  have hcomp : (fun o : SelectOption => o.selected) ∘
      (fun a => ({ value := value a, selected := p a } : SelectOption)) = p := rfl
  rw [hcomp, getLast?_map]
  cases hlast : (l.filter p).getLast? with
  | none =>
    have hnone : l.any p = false := by
      rw [any_eq_false]
      exact fun a ha => by
        simpa using filter_eq_nil_iff.mp (getLast?_eq_none_iff.mp hlast) a ha
    simp only [Option.map_none, hnone, Bool.false_eq_true, if_false]
    cases l <;> rfl
  | some a =>
    have ha : a ∈ l ∧ p a = true := mem_filter.mp (mem_of_getLast? hlast)
    have hany : l.any p = true := any_eq_true.mpr ⟨a, ha⟩
    simp only [Option.map_some, hany, if_true, getLast?_singleton, hv a ha.1 ha.2]

/-! ## VLANs -/

/-- The address of a VLAN that is read back: a static one is not among the options. -/
def savedIpConfig : VlanIpConfig → VlanIpConfig
  | .static _ _ => .none
  | ipConfig => ipConfig

theorem ipConfigText_static_ne (address netmask : String) {text : String}
    (h : '/' ∉ text.toList) : ipConfigText (.static address netmask) ≠ text := by
  rintro rfl
  refine h ?_
  have htext : ipConfigText (.static address netmask) = address ++ "/" ++ netmask := rfl
  simp [htext, String.toList_append]

/-- An address is read back as it was submitted. -/
theorem parseIpConfig_submit (v : Vlan) (readOnly : Bool) :
    parseIpConfig (((submitSelect
      (EditableVlan.ipConfigOptions ⟨v.id, v.name, ipConfigText v.ipConfig,
        readOnly⟩)).getLast?).getD
        "") = savedIpConfig v.ipConfig := by
  cases hip : v.ipConfig with
  | none => rfl
  | dhcp => rfl
  | static address netmask =>
    have hnone := ipConfigText_static_ne address netmask (show '/' ∉ "none".toList by decide)
    have hdhcp := ipConfigText_static_ne address netmask (show '/' ∉ "dhcp".toList by decide)
    simp [EditableVlan.ipConfigOptions, submitSelect, hnone, hdhcp, parseIpConfig, savedIpConfig]

/-- Nothing changes exactly if the first match stays the same. -/
theorem updateFirst_eq_self_iff {α : Type} {p : α → Bool} {f : α → α} {l : List α} :
    updateFirst p f l = l ↔ ∀ a, l.find? p = some a → f a = a := by
  induction l with
  | nil => simp [updateFirst]
  | cons a rest ih =>
    rw [updateFirst, find?_cons]
    by_cases hp : p a
    · simp [hp]
    · simp [hp, ih]

/-! ## Ports -/

/-- The port that is read back of the row of a port. -/
def savedPort (vlans : List Vlan) (existing : List Port) (p : Port) : Port :=
  let ids := vlans.map Vlan.id
  let tagged := ids.filter fun id => p.taggedVlans.contains id
  { portId := p.portId
    mode := if tagged.isEmpty then .access else .trunk
    vlan := if p.vlan ∈ ids then p.vlan else ids.head?.getD 1
    taggedVlans := tagged
    description := if p.description = some "" then none else p.description
    enabled := p.enabled
    poeEnabled := p.poeEnabled
    macNotify := ((existing.find? (·.portId = p.portId)).map Port.macNotify).getD false }

section

variable {vlans : List Vlan} {existing : List Port} {p : Port}

/-- The VLAN of a port is one of the options. -/
theorem parse_vlanSelect (h : ∀ v ∈ vlans, v.id < 2 ^ 16) :
    (((submitSelect
      ((portToEditable (vlanOptions vlans) p).vlanSelect (vlanOptions vlans))).getLast?).bind
      fun v => parseUint 16 v.toList).getD 1 =
      if p.vlan ∈ vlans.map Vlan.id then p.vlan else (vlans.map Vlan.id).head?.getD 1 := by
  have hselect := submitSelect_map (fun v : VlanOption => toString v.id) (fun v => v.id == p.vlan)
    (vlanOptions vlans) (toString p.vlan) fun v _ hv => by rw [eq_of_beq hv]
  have hany : (vlanOptions vlans).any (fun v => v.id == p.vlan) = true ↔
      p.vlan ∈ vlans.map Vlan.id := by
    simp [vlanOptions, any_eq_true]
  simp only [EditablePort.vlanSelect, portToEditable]
  rw [hselect]
  by_cases hmem : p.vlan ∈ vlans.map Vlan.id
  · obtain ⟨v, hv, hid⟩ := mem_map.mp hmem
    rw [if_pos (hany.mpr hmem), if_pos hmem, Option.bind_some,
      parseUint_toString (hid ▸ h v hv), Option.getD_some]
  · rw [if_neg (mt hany.mp hmem), if_neg hmem]
    cases vlans with
    | nil => rfl
    | cons v rest =>
      have hid := parseUint_toString (h v mem_cons_self)
      simp only [vlanOptions, map_cons, head?_cons, Option.map_some, Option.bind_some, hid,
        Option.getD_some]

/-- The tagged VLANs are those of the options. -/
theorem parse_taggedSelect (h : ∀ v ∈ vlans, v.id < 2 ^ 16) :
    (submitMultiple (portToEditable (vlanOptions vlans) p).taggedSelect).filterMap
        (fun v => parseUint 16 v.toList) =
      (vlans.map Vlan.id).filter fun id => p.taggedVlans.contains id := by
  rw [submitMultiple, EditablePort.taggedSelect, portToEditable, taggedVlanChoices, vlanOptions]
  rw [map_map, map_map, filter_map, map_map, filter_map, filterMap_map, ← filterMap_eq_map]
  refine filterMap_congr fun v hv => ?_
  exact parseUint_toString (h v (mem_of_mem_filter hv))

/-- The speed is always read as automatic. -/
theorem parse_speedSelect :
    parseSpeedDuplex
      (((submitSelect (portToEditable (vlanOptions vlans) p).speedSelect).getLast?).getD
      "auto") = .auto := by
  have hfirst : ∀ speed : SpeedDuplex, submitSelect
      (["auto", "10-half", "10-full", "100-half", "100-full", "1000-full"].map fun value =>
        { value, selected := speedText speed == value }) = ["auto"] := by
    intro speed
    cases speed <;> rfl
  rw [EditablePort.speedSelect, portToEditable, hfirst]
  rfl

/-- What each control submits is found under its name. -/
theorem rowValues_controls (vlans : List VlanOption) (port : EditablePort) :
    rowValues vlans port "port_id" = [port.portId] ∧
      rowValues vlans port "vlan" = submitSelect (port.vlanSelect vlans) ∧
      rowValues vlans port "tagged_vlans" = submitMultiple port.taggedSelect ∧
      rowValues vlans port "description" = [port.description] ∧
      rowValues vlans port "enabled" = submitCheckbox port.enabled ∧
      rowValues vlans port "poe_enabled" = submitCheckbox port.poeEnabled ∧
      rowValues vlans port "speed_duplex" = submitSelect port.speedSelect := by
  simp [rowValues, EditablePort.controls]

/-- A checkbox is submitted exactly if it is checked. -/
theorem not_isEmpty_submitCheckbox (checked : Bool) :
    (!(submitCheckbox checked).isEmpty) = checked := by
  cases checked <;> rfl

theorem description_getD (description : Option String) :
    (if (description.getD "").isEmpty then none else some (description.getD "")) =
      if description = some "" then none else description := by
  cases description with
  | none => rfl
  | some text => simp [String.isEmpty_iff]

/-- A row is read as a saved port, or as nothing. -/
theorem parseRow_rowValues (h : ∀ v ∈ vlans, v.id < 2 ^ 16) :
    parseRow existing (rowValues (vlanOptions vlans) (portToEditable (vlanOptions vlans) p)) =
      if (trim p.portId.toList).isEmpty then none else some (savedPort vlans existing p) := by
  obtain ⟨hid, hvlan, htagged, hdescription, henabled, hpoe, hspeed⟩ :=
    rowValues_controls (vlanOptions vlans) (portToEditable (vlanOptions vlans) p)
  rw [parseRow]
  simp only [hid, hvlan, htagged, hdescription, henabled, hpoe, hspeed,
    getLast?_singleton, Option.getD_some, not_isEmpty_submitCheckbox, parse_vlanSelect h,
    parse_taggedSelect h, parse_speedSelect]
  have hdescr : (portToEditable (vlanOptions vlans) p).description = p.description.getD "" := rfl
  rw [hdescr, description_getD]
  rfl

end

/-! ## The round trip -/

/-- Two ports that are the same, up to the order of the tagged VLANs. -/
def SamePort (p q : Port) : Prop :=
  { q with taggedVlans := p.taggedVlans } = p ∧ q.taggedVlans ~ p.taggedVlans

/-- Two drafts that are the same, up to the order of the tagged VLANs of each port. -/
def SameDraft (draft draft' : SwitchDraft) : Prop :=
  { draft' with edited := { draft'.edited with ports := draft.edited.ports } } = draft ∧
    Forall₂ SamePort draft.edited.ports draft'.edited.ports

/-- Every form of the two pages leaves the draft as it was. -/
def RoundTrips (mainConfigPath : String) (draft : SwitchDraft) : Prop :=
  ∀ edit ∈ vlanForms mainConfigPath draft ++ [portsForm draft],
    SameDraft draft (draft.after mainConfigPath edit)

/-- The limits of the types of a draft: a VLAN id is a `u16`, a row number a `usize`. -/
structure Representable (draft : SwitchDraft) : Prop where
  vlanIds : ∀ v ∈ draft.edited.vlans, v.id < 2 ^ 16
  ports : draft.edited.ports.length ≤ 2 ^ 64

/-- A VLAN whose form is harmless: the VLAN that is found under its id has its name, and the
address that its row can show. -/
def VlanReturns (vlans : List Vlan) (v : Vlan) : Prop :=
  ∀ w, vlans.find? (·.id == v.id) = some w →
    w.name = v.name ∧ w.ipConfig = savedIpConfig v.ipConfig

/-- A port whose row is harmless. -/
structure PortReturns (vlans : List Vlan) (ports : List Port) (p : Port) : Prop where
  portId : trim p.portId.toList ≠ []
  mode : p.mode = p.inferredMode
  vlan : p.vlan ∈ vlans.map Vlan.id ∨ vlans = [] ∧ p.vlan = 1
  tagged : (vlans.map Vlan.id).filter (fun id => p.taggedVlans.contains id) ~ p.taggedVlans
  description : p.description ≠ some ""
  macNotify : ∀ q, ports.find? (·.portId = p.portId) = some q → q.macNotify = p.macNotify
  speedDuplex : p.speedDuplex = .auto
  vlanName : p.vlanName = none
  taggedVlanRefs : p.taggedVlanRefs = []

theorem SamePort.refl (p : Port) : SamePort p p := ⟨rfl, .refl _⟩

/-- A form of a VLAN has an effect on the VLANs alone. -/
theorem sameDraft_updateVlan_iff {mainConfigPath : String} {draft : SwitchDraft} {v : Vlan}
    {ipConfig : String}
    (hmain : isMainConfigSource (draft.vlanSources.lookup v.id) mainConfigPath = false)
    (hip : parseIpConfig ipConfig = savedIpConfig v.ipConfig) :
    SameDraft draft (draft.after mainConfigPath (.updateVlan v.id v.name ipConfig)) ↔
      VlanReturns draft.edited.vlans v := by
  have hafter : draft.after mainConfigPath (.updateVlan v.id v.name ipConfig) =
      { draft with edited := { draft.edited with
          vlans := updateFirst (·.id == v.id)
            (fun vlan => { vlan with name := v.name, ipConfig := savedIpConfig v.ipConfig })
            draft.edited.vlans } } := by
    simp only [SwitchDraft.after, Edit.result, updateVlan, hmain, hip, Bool.false_eq_true, if_false]
  have hsame : Forall₂ SamePort draft.edited.ports draft.edited.ports :=
    forall₂_same.mpr fun p _ => SamePort.refl p
  rw [hafter, SameDraft, and_iff_left hsame]
  have hvlans : ∀ vlans : List Vlan, { draft with edited := { draft.edited with vlans } } = draft ↔
      vlans = draft.edited.vlans := by
    intro vlans
    constructor
    · intro h
      exact congrArg (fun d => d.edited.vlans) h
    · rintro rfl
      rfl
  rw [show _ = draft ↔ _ from hvlans _, updateFirst_eq_self_iff]
  refine forall₂_congr fun w _ => ?_
  constructor
  · intro h
    exact ⟨(congrArg Vlan.name h).symm, (congrArg Vlan.ipConfig h).symm⟩
  · rintro ⟨hname, hip⟩
    rw [← hname, ← hip]

theorem mode_eq_of_perm {tagged tagged' : List ℕ} (h : tagged' ~ tagged) :
    (if tagged'.isEmpty then PortMode.access else .trunk) =
      if tagged.isEmpty then .access else .trunk := by
  rw [h.isEmpty_eq]

/-- The VLAN stays exactly if it is an option, or the first one without options. -/
theorem vlan_eq_iff {ids : List ℕ} {vlan : ℕ} :
    (if vlan ∈ ids then vlan else ids.head?.getD 1) = vlan ↔ vlan ∈ ids ∨ ids = [] ∧ vlan = 1 := by
  by_cases hmem : vlan ∈ ids
  · simp [hmem]
  · cases ids with
    | nil => simp [eq_comm]
    | cons id rest =>
      have hid : id ≠ vlan := fun h => hmem (h ▸ mem_cons_self)
      simp [hmem, hid]

/-- What the form does not have is taken from the first port of the name. -/
theorem macNotify_eq_iff {ports : List Port} {p : Port} (hp : p ∈ ports) :
    ((ports.find? (·.portId = p.portId)).map Port.macNotify).getD false = p.macNotify ↔
      ∀ q, ports.find? (·.portId = p.portId) = some q → q.macNotify = p.macNotify := by
  obtain ⟨q, hq⟩ : ∃ q, ports.find? (·.portId = p.portId) = some q :=
    Option.isSome_iff_exists.mp (find?_isSome.mpr ⟨p, hp, by simp⟩)
  simp [hq]

/-- A port is the same after saving exactly if it returns. -/
theorem samePort_savedPort_iff {vlans : List Vlan} {ports : List Port} {p : Port} (hp : p ∈ ports) :
    (trim p.portId.toList ≠ [] ∧ SamePort p (savedPort vlans ports p)) ↔
      PortReturns vlans ports p := by
  constructor
  · rintro ⟨hid, hfields, htagged⟩
    refine ⟨hid, ?_, ?_, htagged, ?_, ?_, ?_, ?_, ?_⟩
    · exact (congrArg Port.mode hfields).symm.trans (mode_eq_of_perm htagged)
    · have := vlan_eq_iff.mp (congrArg Port.vlan hfields)
      rwa [map_eq_nil_iff] at this
    · intro h
      have := congrArg Port.description hfields
      simp [savedPort, h] at this
    · exact (macNotify_eq_iff hp).mp (congrArg Port.macNotify hfields)
    · exact (congrArg Port.speedDuplex hfields).symm
    · exact (congrArg Port.vlanName hfields).symm
    · exact (congrArg Port.taggedVlanRefs hfields).symm
  · intro h
    refine ⟨h.portId, ?_, h.tagged⟩
    have hvlan := vlan_eq_iff.mpr (h.vlan.imp_right fun hv => ⟨by rw [hv.1]; rfl, hv.2⟩)
    have hmode := (mode_eq_of_perm h.tagged).trans h.mode.symm
    have hmac := (macNotify_eq_iff hp).mpr h.macNotify
    simp only [savedPort, hvlan, hmode, hmac, if_neg h.description, ← h.speedDuplex, ← h.vlanName,
      ← h.taggedVlanRefs]

instance : IsTrans Port naturalLe where
  trans _ _ _ h h' := le_trans h h'

instance : Std.Total naturalLe where
  total a b := le_total (portNumbers a.portId) (portNumbers b.portId)

/-- Reading a row back keeps its port id, so the ports that are read back are in order already. -/
theorem pairwise_savedPorts (vlans : List Vlan) (ports : List Port) :
    ((sortPorts ports).filterMap fun p =>
      if (trim p.portId.toList).isEmpty then none
      else some (savedPort vlans ports p)).Pairwise naturalLe := by
  refine Pairwise.filterMap _ ?_ (pairwise_insertionSort naturalLe ports)
  intro p q hle p' hp q' hq
  split at hp
  · cases hp
  · split at hq
    · cases hq
    · cases hp
      cases hq
      exact hle

/-- The ports that are read back, in the order of the page. -/
theorem parsePortsBulk_portsForm {vlans : List Vlan} {ports : List Port}
    (hids : ∀ v ∈ vlans, v.id < 2 ^ 16) (hlen : ports.length ≤ 2 ^ 64) :
    parsePortsBulk (submitPorts (vlanOptions vlans)
        ((sortPorts ports).map (portToEditable (vlanOptions vlans)))) ports =
      (sortPorts ports).filterMap fun p =>
        if (trim p.portId.toList).isEmpty then none else some (savedPort vlans ports p) := by
  have hrows : ((sortPorts ports).map (portToEditable (vlanOptions vlans))).length ≤ 2 ^ 64 := by
    rw [length_map, sortPorts, length_insertionSort]
    exact hlen
  rw [parseRows_submitPorts hrows, filterMap_map]
  simp only [Function.comp_def, parseRow_rowValues hids]
  exact (pairwise_savedPorts vlans ports).insertionSort_eq

theorem SamePort.portId_eq {p q : Port} (h : SamePort p q) : q.portId = p.portId := by
  rw [← h.1]

/-- A draft is the same after its ports are saved if they are sorted and each returns. -/
theorem sameDraft_portsForm_iff {mainConfigPath : String} {draft : SwitchDraft}
    (h : Representable draft) :
    SameDraft draft (draft.after mainConfigPath (portsForm draft)) ↔
      draft.edited.ports.Pairwise naturalLe ∧
        ∀ p ∈ draft.edited.ports, PortReturns draft.edited.vlans draft.edited.ports p := by
  have hports : (draft.after mainConfigPath (portsForm draft)).edited.ports = _ :=
    parsePortsBulk_portsForm h.vlanIds h.ports
  have hrest : { draft.after mainConfigPath (portsForm draft) with edited :=
      { (draft.after mainConfigPath (portsForm draft)).edited with ports := draft.edited.ports } } =
        draft := rfl
  rw [SameDraft, and_iff_right hrest, hports]
  have hsaved : ∀ p ∈ draft.edited.ports,
      ((∃ q, (if (trim p.portId.toList).isEmpty then none
          else some (savedPort draft.edited.vlans draft.edited.ports p)) = some q ∧ SamePort p q) ↔
        PortReturns draft.edited.vlans draft.edited.ports p) := by
    intro p hp
    rw [← samePort_savedPort_iff hp]
    by_cases hid : trim p.portId.toList = [] <;> simp [hid]
  constructor
  · intro hsame
    have hsorted : draft.edited.ports.Pairwise naturalLe := by
      refine pairwise_of_forall₂ hsame (pairwise_savedPorts _ _) fun p p' q q' hpq hpq' hle => ?_
      rw [naturalLe, ← hpq.portId_eq, ← hpq'.portId_eq]
      exact hle
    refine ⟨hsorted, fun p hp => (hsaved p hp).mp ?_⟩
    rw [sortPorts, hsorted.insertionSort_eq] at hsame
    exact forall₂_filterMap_iff.mp hsame p hp
  · rintro ⟨hsorted, hreturns⟩
    rw [sortPorts, hsorted.insertionSort_eq]
    exact forall₂_filterMap_iff.mpr fun p hp => (hsaved p hp).mpr (hreturns p hp)

/-- The pages leave a draft as it was exactly if its ports are in the order of their ids and every
VLAN that can be edited, and every port, is one that its row can show. -/
theorem roundTrips_iff {mainConfigPath : String} {draft : SwitchDraft} (h : Representable draft) :
    RoundTrips mainConfigPath draft ↔
      (∀ v ∈ draft.edited.vlans,
          isMainConfigSource (draft.vlanSources.lookup v.id) mainConfigPath = false →
            VlanReturns draft.edited.vlans v) ∧
        draft.edited.ports.Pairwise naturalLe ∧
        ∀ p ∈ draft.edited.ports, PortReturns draft.edited.vlans draft.edited.ports p := by
  rw [RoundTrips, forall_mem_append, forall_mem_singleton, sameDraft_portsForm_iff h]
  refine and_congr_left' ?_
  rw [vlanForms, buildEditableVlans, filterMap_map]
  constructor
  · intro hforms v hv hmain
    have hedit := hforms _ (mem_filterMap.mpr ⟨v, hv, by
      simp only [Function.comp_apply, EditableVlan.submit, hmain, Bool.false_eq_true, if_false]
      rfl⟩)
    exact (sameDraft_updateVlan_iff hmain (parseIpConfig_submit v _)).mp hedit
  · intro hvlans edit hedit
    obtain ⟨v, hv, hsubmit⟩ := mem_filterMap.mp hedit
    cases hmain : isMainConfigSource (draft.vlanSources.lookup v.id) mainConfigPath with
    | true => simp [EditableVlan.submit, hmain] at hsubmit
    | false =>
      simp only [Function.comp_apply, EditableVlan.submit, hmain, Bool.false_eq_true, if_false,
        Option.some.injEq] at hsubmit
      subst hsubmit
      exact (sameDraft_updateVlan_iff hmain (parseIpConfig_submit v _)).mpr (hvlans v hv hmain)

/-- VLANs with and without DHCP, and a port that carries them all. -/
def plainDraft : SwitchDraft where
  switchId := "access-1"
  original := { id := "access-1" }
  edited :=
    { id := "access-1"
      vlans :=
        [{ id := 10, name := "office", ipConfig := .dhcp }, { id := 20, name := "voice" },
          { id := 30, name := "guest" }]
      ports := [{ portId := "port1", mode := .trunk, vlan := 10, taggedVlans := [30, 20] }] }

theorem roundTrips_plainDraft : RoundTrips "main.json" plainDraft := by
  refine (roundTrips_iff ⟨by decide, by decide⟩).mpr ⟨?_, pairwise_singleton _ _, ?_⟩
  · intro v hv _ w hw
    simp only [plainDraft, mem_cons, not_mem_nil, or_false] at hv
    rcases hv with rfl | rfl | rfl
    all_goals
      cases hw
      decide
  · intro p hp
    rw [mem_singleton.mp hp]
    refine ⟨by decide, rfl, by decide, by decide, by decide, ?_, rfl, rfl, rfl⟩
    intro q hq
    cases hq
    rfl

/-- A VLAN with a static address, and a port whose speed is fixed. -/
def fixedDraft : SwitchDraft where
  switchId := "access-1"
  original := { id := "access-1" }
  edited :=
    { id := "access-1"
      vlans := [{ id := 10, name := "office", ipConfig := .static "10.0.0.2" "255.255.255.0" }]
      ports := [{ portId := "port1", vlan := 10, speedDuplex := .thousandFull }] }

/-- Both forms change the draft: the address is dropped, and the speed becomes `auto`. -/
theorem saving_changes_fixedDraft :
    ¬RoundTrips "main.json" fixedDraft ∧
      vlanForms "main.json" fixedDraft = [.updateVlan 10 "office" "none"] ∧
      ¬SameDraft fixedDraft (fixedDraft.after "main.json" (.updateVlan 10 "office" "none")) ∧
      ¬SameDraft fixedDraft (fixedDraft.after "main.json" (portsForm fixedDraft)) := by
  have hvlan : ¬SameDraft fixedDraft
      (fixedDraft.after "main.json" (.updateVlan 10 "office" "none")) := by
    rintro ⟨hrest, _⟩
    exact absurd hrest (by decide)
  have hports : ¬SameDraft fixedDraft (fixedDraft.after "main.json" (portsForm fixedDraft)) := by
    rintro ⟨_, hports⟩
    cases hports with
    | cons hport _ => exact absurd (congrArg Port.speedDuplex hport.1) (by decide +kernel)
  exact ⟨fun h => hports (h _ (mem_append_right _ mem_cons_self)), by decide, hvlan, hports⟩

end SwitchConfigurator.Ui
