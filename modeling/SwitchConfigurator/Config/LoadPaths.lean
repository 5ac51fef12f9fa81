import SwitchConfigurator.Config.Preserve
import SwitchConfigurator.Config.Resolve
import SwitchConfigurator.Config.Unique

/-!
# The two ways to load a file

A file that is loaded alone is validated switch by switch, and a file that is loaded by
`load_multi` goes through a merge first. The steps that follow do not look at the order of the
lists of a switch, so they treat both alike.
-/

namespace SwitchConfigurator

open Keyed RelatedLists

/-- The same switch with its lists in any order, in every field that a merge copies. -/
structure SameMerged (a b : SwitchConfig) : Prop where
  vlans : a.vlans.Perm b.vlans
  ports : a.ports.Perm b.ports
  portMirrors : a.portMirrors.Perm b.portMirrors
  rest : { a with
      vlans := [], ports := [], portMirrors := [], managementVlan := none, vendorSpecific := [] } =
    { b with
      vlans := [], ports := [], portMirrors := [], managementVlan := none, vendorSpecific := [] }

namespace SameMerged

variable {a b c : SwitchConfig}

theorem id_eq (h : SameMerged a b) : a.id = b.id := (SwitchConfig.mk.inj h.rest).1

theorem hostname_eq (h : SameMerged a b) : a.hostname = b.hostname :=
  (SwitchConfig.mk.inj h.rest).2.1

theorem model_eq (h : SameMerged a b) : a.model = b.model := (SwitchConfig.mk.inj h.rest).2.2.1

theorem managementIp_eq (h : SameMerged a b) : a.managementIp = b.managementIp :=
  (SwitchConfig.mk.inj h.rest).2.2.2.1

theorem credentials_eq (h : SameMerged a b) : a.credentials = b.credentials :=
  (SwitchConfig.mk.inj h.rest).2.2.2.2.1

theorem snmp_eq (h : SameMerged a b) : a.snmp = b.snmp :=
  (SwitchConfig.mk.inj h.rest).2.2.2.2.2.2.2.2.1

/-- Either may be read as the merge of the other. -/
theorem symm (h : SameMerged a b) : SameMerged b a :=
  ⟨h.vlans.symm, h.ports.symm, h.portMirrors.symm, h.rest.symm⟩

theorem withSnmp (h : SameMerged a b) (snmp : Option SnmpConfig) :
    SameMerged { a with snmp } { b with snmp } :=
  ⟨h.vlans, h.ports, h.portMirrors, congrArg (fun s => { s with snmp }) h.rest⟩

theorem mapPorts (h : SameMerged a b) (f : Port → Port) :
    SameMerged { a with ports := a.ports.map f } { b with ports := b.ports.map f } :=
  ⟨h.vlans, h.ports.map f, h.portMirrors, h.rest⟩

end SameMerged

/-! ## The steps do not see the order -/

section

variable {env : Environment} {a b r : SwitchConfig}

/-- Secrets are read alike on both paths. -/
theorem resolveSnmpSecrets_same (h : SameMerged a b)
    (hr : (resolveSnmpSecrets env).Succeeds a r) :
    ∃ r', (resolveSnmpSecrets env).Succeeds b r' ∧ SameMerged r r' := by
  have hsame : resolvedSnmp env a = resolvedSnmp env b := by
    rw [resolvedSnmp, resolvedSnmp, h.id_eq, h.snmp_eq]
  unfold InPlace.Succeeds at hr ⊢
  rw [resolveSnmpSecrets_eq] at hr ⊢
  obtain ⟨rfl, hok⟩ := Prod.mk.inj hr
  refine ⟨_, Prod.ext rfl (hsame ▸ hok), ?_⟩
  rw [hsame]
  exact h.withSnmp _

/-- The vendor is supported alike on both paths. -/
theorem checkVendorSupport_same (h : SameMerged a b) :
    checkVendorSupport a = checkVendorSupport b := by
  have hpart (s : SwitchConfig) : checkVendorSupport s =
      checkVendorSupport { id := s.id, model := s.model, snmp := s.snmp } := rfl
  rw [hpart a, hpart b, h.id_eq, h.model_eq, h.snmp_eq]

/-- VLAN names are resolved alike on both paths. -/
theorem resolveVlanNames_same {strict : Bool} (h : SameMerged a b)
    (hr : (resolveVlanNames strict).Succeeds a r) :
    ∃ r', (resolveVlanNames strict).Succeeds b r' ∧ SameMerged r r' := by
  obtain ⟨hagree, hports, rfl⟩ := resolveVlanNames_succeeds.mp hr
  have hname : a.displayName = b.displayName := by
    rw [SwitchConfig.displayName, SwitchConfig.displayName, h.hostname_eq, h.id_eq]
  have hresolve : resolvePort a.displayName a.vlans strict =
      resolvePort b.displayName b.vlans strict := by
    rw [hname]
    exact resolvePort_congr (nameToId_perm hagree h.vlans)
  rw [hresolve] at hports ⊢
  refine ⟨_, resolveVlanNames_succeeds.mpr ⟨hagree.perm h.vlans, ?_, rfl⟩, h.mapPorts _⟩
  exact fun port hport => hports port (h.ports.mem_iff.mpr hport)

/-- The same VLANs are defined on both paths. -/
theorem definedVlans_same {model : SwitchModel} (h : SameMerged a b) (id : ℕ) :
    (definedVlans model a).contains id = (definedVlans model b).contains id := by
  have hperm : (definedVlans model a).Perm (definedVlans model b) :=
    (h.vlans.map Vlan.id).append_right _
  rw [Bool.eq_iff_iff, List.contains_iff_mem, List.contains_iff_mem, hperm.mem_iff]

/-- References are checked alike on both paths. -/
theorem validateVlanReferences_same (h : SameMerged a b)
    (hr : (validateVlanReferences env).Succeeds a r) :
    ∃ r', (validateVlanReferences env).Succeeds b r' ∧ SameMerged r r' := by
  obtain ⟨model, hmodel, hvalid, rfl⟩ := validateVlanReferences_succeeds_iff.mp hr
  have hdefined : (definedVlans model a).contains = (definedVlans model b).contains :=
    funext (definedVlans_same h)
  have herrors : portHasErrors model (definedVlans model a) false =
      portHasErrors model (definedVlans model b) false := by
    funext port
    simp only [portHasErrors, definedVlans_same h]
  have hfilter : filterTagged (definedVlans model a) false =
      filterTagged (definedVlans model b) false := by
    funext port
    simp only [filterTagged, hdefined]
  have hmirrors (mirror : PortMirror) : mirrorHasErrors a.ports mirror =
      mirrorHasErrors b.ports mirror := by
    unfold mirrorHasErrors
    rw [Bool.eq_iff_iff, List.contains_iff_mem, List.contains_iff_mem,
      (h.ports.map Port.portId).mem_iff]
  refine ⟨_, validateVlanReferences_succeeds_iff.mpr ⟨model, h.model_eq ▸ hmodel, ?_, rfl⟩, ?_⟩
  · exact
      { names := fun vlan hv => hvalid.names vlan (h.vlans.mem_iff.mpr hv)
        ports := fun port hp => herrors ▸ hvalid.ports port (h.ports.mem_iff.mpr hp)
        mirrors := fun mirror hm => by
          rw [← hmirrors]
          exact hvalid.mirrors mirror (h.portMirrors.mem_iff.mpr hm) }
  · rw [hfilter]
    exact h.mapPorts _

/-- So all steps but the last succeed alike. -/
theorem resolutionSteps_same (h : SameMerged a b) (hr : (resolutionSteps env).Succeeds a r) :
    ∃ r', (resolutionSteps env).Succeeds b r' ∧ SameMerged r r' := by
  simp only [resolutionSteps, InPlace.andThen_succeeds, InPlace.check_succeeds] at hr ⊢
  obtain ⟨_, ⟨hchecked, hrequired⟩, secrets, hsecrets, _, ⟨rfl, hvendor⟩, named, hnamed, hr⟩ := hr
  obtain rfl := hchecked.symm
  have hmissing : getMissingRequiredFields a = getMissingRequiredFields b := by
    simp only [getMissingRequiredFields, h.hostname_eq, h.model_eq, h.managementIp_eq,
      h.credentials_eq]
  have hrequired' : validateRequiredFields b = .ok () := by
    simpa only [validateRequiredFields, hmissing, h.id_eq] using hrequired
  obtain ⟨secrets', hsecrets', hsame⟩ := resolveSnmpSecrets_same h hsecrets
  obtain ⟨named', hnamed', hsame'⟩ := resolveVlanNames_same hsame hnamed
  obtain ⟨r', hr', hresult⟩ := validateVlanReferences_same hsame' hr
  exact ⟨r', ⟨b, ⟨rfl, hrequired'⟩, secrets', hsecrets', secrets',
    ⟨rfl, checkVendorSupport_same hsame ▸ hvendor⟩, named', hnamed', hr'⟩, hresult⟩

/-! ## What the paths add to the steps -/

/-- Validation is expanding ports and then the steps of resolution. -/
theorem validateSwitchConfig_succeeds_iff : (validateSwitchConfig env).Succeeds a r ↔
    ∃ switch, ExpandsTo a switch ∧ (resolutionSteps env).Succeeds switch r := by
  have hstructure (s : SwitchConfig) : validateStructure env s = .ok () ↔ invalidFields s = [] := by
    rw [← @checkStructure_ok_iff env, checkStructure, withContext_ok]
  simp only [validateSwitchConfig, resolutionSteps, InPlace.andThen_succeeds,
    InPlace.mapError_succeeds, InPlace.assign_succeeds, InPlace.check_succeeds, hstructure]
  constructor
  · rintro ⟨named, ⟨_, ⟨secrets, ⟨_, ⟨_, ⟨switch, hexpand, rfl, hrequired⟩, rfl, hvalid⟩,
      hsecrets⟩, rfl, hvendor⟩, hnames⟩, href⟩
    exact ⟨_, ⟨hexpand, hvalid⟩, _, ⟨rfl, hrequired⟩, _, hsecrets, _, ⟨rfl, hvendor⟩, named, hnames,
      href⟩
  · rintro ⟨switch, ⟨hexpand, hvalid⟩, _, ⟨rfl, hrequired⟩, _, hsecrets, _, ⟨rfl, hvendor⟩, named,
      hnames, href⟩
    exact ⟨named, ⟨_, ⟨_, ⟨_, ⟨_, ⟨_, hexpand, rfl, hrequired⟩, rfl, hvalid⟩, hsecrets⟩, rfl,
      hvendor⟩, hnames⟩, href⟩

/-- A merged switch takes the same steps, and needs a VLAN. -/
theorem checkMergedSteps_succeeds_iff : (checkMergedSteps env).Succeeds a r ↔
    (resolutionSteps env).Succeeds a r ∧ r.vlans ≠ [] := by
  have hvlans (s : SwitchConfig) : validateHasVlans s = .ok () ↔ s.vlans ≠ [] := by
    unfold validateHasVlans
    split
    · next h => simp [List.isEmpty_iff.mp h]
    · next h => simpa [List.isEmpty_iff] using h
  simp only [checkMergedSteps, resolutionSteps, InPlace.andThen_succeeds, InPlace.check_succeeds,
    hvlans]
  constructor
  · rintro ⟨_, ⟨rfl, hrequired⟩, _, hsecrets, _, ⟨rfl, hvendor⟩, _, hnames, _, href, rfl, hne⟩
    exact ⟨⟨_, ⟨rfl, hrequired⟩, _, hsecrets, _, ⟨rfl, hvendor⟩, _, hnames, href⟩, hne⟩
  · rintro ⟨⟨_, ⟨rfl, hrequired⟩, _, hsecrets, _, ⟨rfl, hvendor⟩, _, hnames, href⟩, hne⟩
    exact ⟨_, ⟨rfl, hrequired⟩, _, hsecrets, _, ⟨rfl, hvendor⟩, _, hnames, _, href, rfl, hne⟩

theorem keeps_resolutionSteps (env : Environment) :
    (resolutionSteps env).Keeps SwitchConfig.frame :=
  (InPlace.keeps_check _).andThen ((keeps_resolveSnmpSecrets env).andThen
    ((InPlace.keeps_check _).andThen ((keeps_resolveVlanNames false).andThen
      (keeps_validateVlanReferences env))))

/-- Validation leaves the VLANs alone. -/
theorem vlans_of_accepted (h : (validateSwitchConfig env).Succeeds a r) : r.vlans = a.vlans := by
  obtain ⟨switch, hexpand, hsteps⟩ := validateSwitchConfig_succeeds_iff.mp h
  have hframe := (keeps_resolutionSteps env).of_succeeds hsteps
  have hvlans : r.vlans = switch.vlans := (SwitchConfig.mk.inj hframe).2.2.2.2.2.1
  rw [hvlans, expandPortRanges_frame hexpand.1]

/-- A source that is alone is merged into itself, but for what a merge does not copy. -/
theorem sameMerged_singleton {source : SwitchSource} (h : source.switch.Unique) :
    SameMerged (mergeSingleSwitch source.switch.id [source]).switch source.switch := by
  rw [mergeSingleSwitch_singleton]
  exact ⟨mergedValues_perm_iff.mpr h.vlans, mergedValues_perm_iff.mpr h.ports,
    mergedValues_perm_iff.mpr h.portMirrors, rfl⟩

/-- Expanded ports of distinct keys are distinct. -/
theorem ExpandsTo.unique {raw switch : SwitchConfig} (h : ExpandsTo raw switch)
    (hraw : raw.DistinctKeys) : switch.Unique := by
  have hkeys := expandPortRanges_keys h.1
  rw [SwitchConfig.keys, Keys.mk.injEq] at hkeys
  obtain ⟨-, hvlans, hports, hmirrors⟩ := hkeys
  exact ⟨hvlans ▸ hraw.vlans, hports ▸ hraw.ports, hmirrors ▸ hraw.portMirrors⟩

/-- A switch expands in one way. -/
theorem ExpandsTo.eq {raw switch switch' : SwitchConfig} (h : ExpandsTo raw switch)
    (h' : ExpandsTo raw switch') : switch = switch' := Except.ok.inj (h.1.symm.trans h'.1)

/-- The checks of a merge accept what is merged from one definition exactly if the validation
accepts the definition and it has a VLAN; the two results are the same. -/
theorem merged_alone {raw : SwitchConfig} {source : SwitchSource}
    (hexpand : ExpandsTo raw source.switch) (hraw : raw.DistinctKeys) :
    ((∃ r, (checkMergedSteps env).Succeeds (mergeSingleSwitch raw.id [source]).switch r) ↔
      (∃ r, (validateSwitchConfig env).Succeeds raw r) ∧ raw.vlans ≠ []) ∧
    ∀ r r', (checkMergedSteps env).Succeeds (mergeSingleSwitch raw.id [source]).switch r →
      (validateSwitchConfig env).Succeeds raw r' → SameMerged r r' := by
  have hid : source.switch.id = raw.id := by rw [expandPortRanges_frame hexpand.1]
  have hsame := sameMerged_singleton (hexpand.unique hraw)
  rw [hid] at hsame
  -- one run of the steps is followed by the other one
  have hforward {r : SwitchConfig}
      (hr : (checkMergedSteps env).Succeeds (mergeSingleSwitch raw.id [source]).switch r) :
      ∃ r', (validateSwitchConfig env).Succeeds raw r' ∧ SameMerged r r' := by
    obtain ⟨r', hr', hresult⟩ := resolutionSteps_same hsame (checkMergedSteps_succeeds_iff.mp hr).1
    exact ⟨r', validateSwitchConfig_succeeds_iff.mpr ⟨_, hexpand, hr'⟩, hresult⟩
  refine ⟨⟨?_, ?_⟩, ?_⟩
  · rintro ⟨r, hr⟩
    obtain ⟨r', hr', hresult⟩ := hforward hr
    refine ⟨⟨r', hr'⟩, ?_⟩
    rw [← vlans_of_accepted hr']
    intro hnil
    have hperm := hresult.vlans
    rw [hnil] at hperm
    exact (checkMergedSteps_succeeds_iff.mp hr).2 hperm.eq_nil
  · rintro ⟨⟨r', hr'⟩, hne⟩
    obtain ⟨switch, hswitch, hsteps⟩ := validateSwitchConfig_succeeds_iff.mp hr'
    obtain rfl := hexpand.eq hswitch
    obtain ⟨r, hr, hresult⟩ := resolutionSteps_same hsame.symm hsteps
    refine ⟨r, checkMergedSteps_succeeds_iff.mpr ⟨hr, ?_⟩⟩
    rw [← vlans_of_accepted hr'] at hne
    intro hnil
    have hperm := hresult.vlans
    rw [hnil] at hperm
    exact hne hperm.eq_nil
  · intro r r' hr hr'
    obtain ⟨r'', hr'', hresult⟩ := hforward hr
    have heq : r' = r'' := congrArg Prod.fst ((hr'.symm).trans hr'')
    rwa [heq]

end

/-! ## Whole files -/

section

variable {env : Environment} {file : ConfigFile}

theorem validateSwitchConfig_id (env : Environment) :
    (validateSwitchConfig env).Keeps SwitchConfig.id := by
  have hexpand : (InPlace.assign expandPortRanges).Keeps SwitchConfig.id :=
    InPlace.keeps_assign fun raw switch h => by rw [expandPortRanges_frame h]
  have hsecrets := (resolveSnmpSecrets_keys env).comp Keys.id
  have hnames := (resolveVlanNames_keys false).comp Keys.id
  have hreferences := (validateVlanReferences_keys env).comp Keys.id
  exact hexpand.mapError.andThen (InPlace.keeps_check _).mapError
    |>.andThen (InPlace.keeps_check _).mapError |>.andThen hsecrets
    |>.andThen (InPlace.keeps_check _) |>.andThen hnames |>.andThen hreferences.mapError

/-- The switches of a file that the validation rejects. -/
theorem failures_load (env : Environment) (file : ConfigFile) :
    (load env file).failures.map SwitchValidationFailure.switchId =
      (file.switches.filter fun raw => !accepts env raw).map SwitchConfig.id := by
  show (List.filterMap _ (file.switches.map (validateOne env))).map _ = _
  induction file.switches with
  | nil => rfl
  | cons raw rest ih =>
    cases h : accepts env raw with
    | true =>
      rw [List.map_cons, validateOne_accepted h, List.filter_cons_of_neg (by simp [h]), ← ih]
      rfl
    | false =>
      obtain ⟨failure, hf, hid⟩ := validateOne_rejected h
      rw [List.map_cons, hf, List.filter_cons_of_pos (by simp [h]), List.map_cons, ← ih,
        ← validateSwitchConfig_id env raw, ← hid]
      rfl

/-- A switch is accepted exactly if its validation succeeds. -/
theorem accepts_iff {raw : SwitchConfig} :
    accepts env raw = true ↔ ∃ r, (validateSwitchConfig env).Succeeds raw r := by
  constructor
  · exact fun h => ⟨_, succeeds_of_accepts h⟩
  · rintro ⟨r, h⟩
    have hresult : validateSwitchConfig env raw = (r, .ok ()) := h
    rw [accepts, hresult]
    rfl

/-- A merged switch is accepted exactly if its steps succeed. -/
theorem acceptsMerged_iff {configs : List ConfigWithMetadata} {id : String} :
    acceptsMerged env configs id = true ↔
      ∃ r, (checkMergedSteps env).Succeeds
        (mergeSingleSwitch id (sourcesOf configs id)).switch r := by
  unfold acceptsMerged InPlace.Succeeds
  rcases checkMergedSteps env (mergeSingleSwitch id (sourcesOf configs id)).switch with ⟨r, result⟩
  cases result with
  | ok _ => exact ⟨fun _ => ⟨r, rfl⟩, fun _ => rfl⟩
  | error e =>
    refine ⟨fun h => ?_, fun ⟨_, h⟩ => ?_⟩
    · cases h
    · cases h

/-- What a file has to be for the two paths to agree on it. -/
structure Plain (file : ConfigFile) : Prop where
  expand : ∀ raw ∈ file.switches, ∃ switch, ExpandsTo raw switch
  ids : (file.switches.map SwitchConfig.id).Nodup
  keys : ∀ raw ∈ file.switches, raw.DistinctKeys

section

variable {config : ConfigWithMetadata} {sourceType : ConfigSourceType}

/-- Loading a file keeps the ids of its switches. -/
theorem ids_loadedAs (h : LoadedAs sourceType file config) :
    config.switches.map SwitchConfig.id = file.switches.map SwitchConfig.id := by
  have hids := congrArg (List.map SwitchConfig.id) (identity_expanded h.switches)
  rw [List.map_map, List.map_map] at hids
  exact hids

/-- In a file whose switches have distinct ids, each of them is a source on its own. -/
theorem sourcesOf_alone (h : LoadedAs sourceType file config) (hplain : Plain file)
    {raw : SwitchConfig} (hraw : raw ∈ file.switches) :
    ∃ source, sourcesOf [config] raw.id = [source] ∧ ExpandsTo raw source.switch := by
  obtain ⟨switch, hswitch, hexpand⟩ := exists_of_mem_left h.switches hraw
  have hn : (config.switches.map SwitchConfig.id).Nodup := ids_loadedAs h ▸ hplain.ids
  have hid : raw.id = switch.id := by rw [expandPortRanges_frame hexpand.1]
  refine ⟨⟨switch, config.mergePriority, config.sourceFile⟩, ?_, hexpand⟩
  simp [sourcesOf, hid, filter_key_eq hn hswitch]

/-- Alone, a switch is accepted by the merge if it is valid and has a VLAN. -/
theorem acceptsMerged_alone (h : LoadedAs sourceType file config) (hplain : Plain file)
    {raw : SwitchConfig} (hraw : raw ∈ file.switches) :
    acceptsMerged env [config] raw.id = (accepts env raw && !raw.vlans.isEmpty) := by
  obtain ⟨source, hsources, hexpand⟩ := sourcesOf_alone h hplain hraw
  have hmerged := (@merged_alone env _ _ hexpand (hplain.keys raw hraw)).1
  rw [Bool.eq_iff_iff, acceptsMerged_iff, hsources, hmerged, Bool.and_eq_true, accepts_iff]
  simp

/-- Alone, a switch is merged to what it is validated to. -/
theorem mergedOf_alone (h : LoadedAs sourceType file config) (hplain : Plain file)
    {raw : SwitchConfig} (hraw : raw ∈ file.switches) (haccepts : accepts env raw = true)
    (hvlans : raw.vlans ≠ []) :
    SameMerged (mergedOf env [config] raw.id) (validateSwitchConfig env raw).1 := by
  obtain ⟨source, hsources, hexpand⟩ := sourcesOf_alone h hplain hraw
  obtain ⟨hiff, hsame⟩ := @merged_alone env _ _ hexpand (hplain.keys raw hraw)
  obtain ⟨r, hr⟩ := hiff.mpr ⟨accepts_iff.mp haccepts, hvlans⟩
  have hof : mergedOf env [config] raw.id = r := by
    rw [mergedOf, hsources]
    exact congrArg Prod.fst hr
  rw [hof]
  exact hsame r _ hr (succeeds_of_accepts haccepts)

end

/-- The accepted switches whose VLANs are as asked. -/
theorem valid_load_filter (env : Environment) (file : ConfigFile) (p : List Vlan → Bool) :
    (load env file).valid.filter (fun switch => p switch.vlans) =
      (file.switches.filter fun raw => accepts env raw && p raw.vlans).map
        fun raw => (validateSwitchConfig env raw).1 := by
  rw [valid_load, List.filter_map, List.filter_filter]
  congr 1
  apply List.filter_congr
  intro raw _
  cases haccepts : accepts env raw with
  | true => simp [vlans_of_accepted (succeeds_of_accepts haccepts)]
  | false => simp

/-- The switches that are left out because of the validation, and those without a VLAN. -/
theorem filter_left_out (env : Environment) (raws : List SwitchConfig) :
    (raws.filter fun raw => !(accepts env raw && !raw.vlans.isEmpty)).Perm
      (raws.filter (fun raw => !accepts env raw) ++
        raws.filter fun raw => accepts env raw && raw.vlans.isEmpty) := by
  have hrejected : (raws.filter fun raw => !(accepts env raw && !raw.vlans.isEmpty)).filter
      (fun raw => !accepts env raw) = raws.filter fun raw => !accepts env raw := by
    rw [List.filter_filter]
    apply List.filter_congr
    intro raw _
    cases accepts env raw <;> simp
  have hwithout : (raws.filter fun raw => !(accepts env raw && !raw.vlans.isEmpty)).filter
      (fun raw => !!accepts env raw) =
        raws.filter fun raw => accepts env raw && raw.vlans.isEmpty := by
    rw [List.filter_filter]
    apply List.filter_congr
    intro raw _
    cases accepts env raw <;> simp
  rw [← hrejected, ← hwithout]
  exact (List.filter_append_perm _ _).symm

/-- The two paths agree on the switches that have a VLAN; the others are accepted by the one and
left out by the other. -/
def PathsAgree (env : Environment) (order : MapOrder) (file : ConfigFile) : Prop :=
  ∃ loaded, loadMulti env order file [] = .ok loaded ∧
    (∃ valid, valid.Perm loaded.valid ∧ List.Forall₂ SameMerged valid
      ((load env file).valid.filter fun switch => !switch.vlans.isEmpty)) ∧
    (loaded.failures.map SwitchValidationFailure.switchId).Perm
      ((load env file).failures.map SwitchValidationFailure.switchId ++
        ((load env file).valid.filter fun switch => switch.vlans.isEmpty).map SwitchConfig.id)

/-- The ids of a file, filtered by what the checks of a merge make of them. -/
theorem filter_ids_alone {config : ConfigWithMetadata} {order : MapOrder}
    (hload : LoadedAs .mainConfig file config) (hplain : Plain file) (keep : Bool → Bool) :
    ((order.keys (switchIds [config])).filter fun id =>
      keep (acceptsMerged env [config] id)).Perm ((file.switches.filter fun raw =>
        keep (accepts env raw && !raw.vlans.isEmpty)).map SwitchConfig.id) := by
  have hids : (order.keys (switchIds [config])).Perm (file.switches.map SwitchConfig.id) := by
    have hswitchIds : switchIds [config] = file.switches.map SwitchConfig.id := by
      rw [switchIds, List.flatMap_singleton, ids_loadedAs hload, hplain.ids.dedup]
    rw [← hswitchIds]
    exact order.perm _
  refine (hids.filter _).trans ?_
  have hcongr : file.switches.filter ((fun id => keep (acceptsMerged env [config] id)) ∘
      SwitchConfig.id) = file.switches.filter fun raw =>
        keep (accepts env raw && !raw.vlans.isEmpty) := by
    apply List.filter_congr
    intro raw hraw
    rw [Function.comp_apply, acceptsMerged_alone hload hplain hraw]
  rw [List.filter_map, hcongr]

/-- On a plain file the two paths agree, but for the switches without a VLAN. -/
theorem paths_agree (order : MapOrder) (h : Plain file) : PathsAgree env order file := by
  have hloads : Loads file [] :=
    { expand := fun f hf => List.mem_singleton.mp hf ▸ h.expand
      priorities := fun f hf => absurd hf List.not_mem_nil
      compatible := compatible_of_nodup (by simpa using h.ids) }
  obtain ⟨loaded, hok⟩ := (loadMulti_isOk_iff env order file []).mpr hloads
  obtain ⟨config, folderConfigs, hload, hfolders, hmerge⟩ := loadMulti_ok_iff.mp hok
  obtain rfl := List.forall₂_nil_left_iff.mp hfolders
  have hsingle : byPriority ConfigWithMetadata.mergePriority [config] = [config] := rfl
  rw [hsingle] at hmerge
  obtain ⟨-, -, rfl⟩ := mergeConfigs_ok_iff.mp hmerge
  refine ⟨_, hok, ⟨(file.switches.filter fun raw => accepts env raw && !raw.vlans.isEmpty).map
    fun raw => mergedOf env [config] raw.id, ?_, ?_⟩, ?_⟩
  · rw [valid_outcomes]
    rw [← Function.comp_def (mergedOf env [config]) SwitchConfig.id, ← List.map_map]
    exact (filter_ids_alone hload h fun b => b).symm.map _
  · rw [valid_load_filter env file fun vlans => !vlans.isEmpty, List.forall₂_map_left_iff,
      List.forall₂_map_right_iff, List.forall₂_same]
    intro raw hraw
    obtain ⟨hmem, hkeep⟩ := List.mem_filter.mp hraw
    rw [Bool.and_eq_true] at hkeep
    exact mergedOf_alone hload h hmem hkeep.1 (by simpa using hkeep.2)
  · have hwithout : ((load env file).valid.filter fun switch => switch.vlans.isEmpty).map
        SwitchConfig.id = (file.switches.filter fun raw =>
          accepts env raw && raw.vlans.isEmpty).map SwitchConfig.id := by
      rw [valid_load_filter env file List.isEmpty, List.map_map]
      exact List.map_congr_left fun raw _ => validateSwitchConfig_id env raw
    rw [failureIds_outcomes, failures_load, hwithout, ← List.map_append]
    exact (filter_ids_alone hload h not).trans ((filter_left_out env file.switches).map _)

end

/-- The two paths return the same valid switches, with their lists in any order, and leave out
the same ones. -/
def PathsSame (env : Environment) (order : MapOrder) (file : ConfigFile) : Prop :=
  ∃ loaded, loadMulti env order file [] = .ok loaded ∧
    (∃ valid, valid.Perm loaded.valid ∧
      List.Forall₂ SameUpToOrder valid (load env file).valid) ∧
    ∀ id, id ∈ loaded.failures.map SwitchValidationFailure.switchId ↔
      id ∈ (load env file).failures.map SwitchValidationFailure.switchId

/-- A switch without a VLAN. -/
def bareFile : ConfigFile where
  switches :=
    [{ id := "sw1", hostname := some "office", model := some .aruba2930F
       managementIp := some "192.0.2.10", credentials := some { username := "admin" } }]
  sourceFile := "/etc/switch-configurator/config.yaml"

/-- Two floors, each with VLANs and a range of ports, and a switch without a VLAN. -/
def floorsFile : ConfigFile where
  switches :=
    [{ id := "sw2", hostname := some "ground", model := some .aruba2930F
       managementIp := some "192.0.2.11", credentials := some { username := "admin" }
       vlans := [{ id := 10, name := "staff" }, { id := 20, name := "guests" }]
       ports := [{ portId := "1-3", vlan := 10 },
         { portId := "24", mode := .trunk, vlan := 1, taggedVlans := [10, 20] }] },
     { id := "sw3", hostname := some "first", model := some .aruba2930F
       managementIp := some "192.0.2.12", credentials := some { username := "admin" }
       vlans := [{ id := 10, name := "staff" }]
       ports := [{ portId := "5-6", vlan := 10 }]
       portMirrors := [{ sessionId := "1", sourcePorts := ["5-6"], destinationPort := "8" }] }]
      ++ bareFile.switches
  sourceFile := "/etc/switch-configurator/config.yaml"

/-- Two floors with VLANs and a range of ports, and a switch without a VLAN. -/
theorem paths_agree_floorsFile : PathsAgree plainEnvironment .inserted floorsFile ∧
    ((load plainEnvironment floorsFile).valid.map fun switch =>
      (switch.vlans.map Vlan.id, switch.ports.map Port.portId)) =
        [([10, 20], ["1", "2", "3", "24"]), ([10], ["5", "6"]), ([], [])] := by
  have hexpand : ∀ raw ∈ floorsFile.switches, ∃ switch, ExpandsTo raw switch := by
    intro raw hraw
    rcases hraw with _ | ⟨_, _ | ⟨_, _ | ⟨_, hraw⟩⟩⟩
    · exact ⟨_, rfl, rfl⟩
    · exact ⟨_, rfl, rfl⟩
    · exact ⟨_, rfl, rfl⟩
    · cases hraw
  have hkeys : ∀ raw ∈ floorsFile.switches, raw.DistinctKeys := by
    intro raw hraw
    rcases hraw with _ | ⟨_, _ | ⟨_, _ | ⟨_, hraw⟩⟩⟩
    · exact ⟨by decide, by decide, by decide⟩
    · exact ⟨by decide, by decide, by decide⟩
    · exact ⟨by decide, by decide, by decide⟩
    · cases hraw
  exact ⟨paths_agree .inserted ⟨hexpand, by decide, hkeys⟩, rfl⟩

/-- It is accepted when its file is loaded alone, and left out by `load_multi`. -/
theorem bare_switch_left_out : ¬PathsSame plainEnvironment .inserted bareFile := by
  rintro ⟨loaded, hok, ⟨valid, hperm, hsame⟩, -⟩
  have hload : (load plainEnvironment bareFile).valid.length = 1 := rfl
  have hmulti : loadMulti plainEnvironment .inserted bareFile [] = .ok _ := rfl
  rw [hmulti] at hok
  cases hok
  rw [← hsame.length_eq, hperm.length_eq] at hload
  exact absurd hload (by decide)

end SwitchConfigurator
