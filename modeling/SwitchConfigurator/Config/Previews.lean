import SwitchConfigurator.Config.WriteBack

/-!
# Previews of rejected switches

A validation works on the switch in place, and what its failure leaves is shown as a preview. Here
is when the preview is the switch that was rejected, and when nothing of it is lost by writing it
back.
-/

namespace SwitchConfigurator

open Document Keyed RelatedLists

/-! ## Faithful previews -/

/-- The preview is the switch that was rejected, and can be written back without a loss. Passwords
and the strings that references stand for are not written by design. -/
structure FaithfulPreview (formats : Formats) (raw : SwitchConfig)
    (failure : SwitchValidationFailure) : Prop where
  preview : failure.preview = some raw
  saved : ∀ preview ∈ failure.preview,
    SwitchConfig.ofValue formats (preview.toValue formats) = some raw.withoutSecrets

/-- A switch as it is read from a file or a request. -/
def FromDocument (formats : Formats) (raw : SwitchConfig) : Prop :=
  ∃ value, SwitchConfig.ofValue formats value = some raw

/-- Every port id and every mirror can be expanded. -/
def Expands (raw : SwitchConfig) : Prop := ∃ switch, expandPortRanges raw = .ok switch

/-- Can the string of a community be read, and does it agree with one that is given beside it? -/
def resolvable (env : Environment) (switchId : String) (entry : String × SnmpCommunity) : Bool :=
  (resolveCommunity env switchId entry.1 entry.2).2.isOk

/-- No string is read into a community that lacks it, before one cannot be read. -/
def SecretsSpared (env : Environment) (raw : SwitchConfig) : Prop :=
  checkSnmpSecretSources raw = .ok () → ∀ snmp ∈ raw.snmp,
    ∀ entry ∈ (labelledCommunities snmp).takeWhile (resolvable env raw.id), entry.2.IsRead

/-- The steps before the VLAN references of the ports are looked at all pass. -/
structure ReachesReferences (env : Environment) (raw : SwitchConfig) : Prop where
  sources : checkSnmpSecretSources raw = .ok ()
  secrets : ∀ snmp ∈ raw.snmp, ∀ entry ∈ labelledCommunities snmp,
    resolvable env raw.id entry = true
  vendor : checkVendorSupport raw = .ok ()
  agree : NamesAgree raw.vlans
  names : ∃ model ∈ raw.model, ∀ vlan ∈ raw.vlans, checkVlanName env model vlan = .ok ()

/-- Neither the secrets nor the tagged VLANs of the switch are rewritten. -/
structure StepsSpare (env : Environment) (raw : SwitchConfig) : Prop where
  secrets : SecretsSpared env raw
  tagged : ReachesReferences env raw →
    ∀ port ∈ raw.ports, ∀ id ∈ port.taggedVlans, id ∈ taggable raw

/-- A switch that its validation leaves as it was written. -/
structure SparedAlone (env : Environment) (raw : SwitchConfig) : Prop where
  ports : ∀ port ∈ raw.ports, port.ByNumber
  portIds : Expands raw → Expanded raw
  steps : Expands raw → getMissingRequiredFields raw = [] → invalidFields raw = [] →
    StepsSpare env raw

/-- A merged switch that the checks after the merge leave as it was merged. -/
structure SparedMerged (env : Environment) (merged : SwitchConfig) : Prop where
  ports : ∀ port ∈ merged.ports, port.ByNumber
  steps : getMissingRequiredFields merged = [] → StepsSpare env merged

/-! ## Secrets -/

section

variable {env : Environment} {switchId label : String} {community : SnmpCommunity}
  {snmp : SnmpConfig} {raw : SwitchConfig}

theorem isOk_iff {ε : Type} {r : Except ε Unit} : r.isOk = true ↔ r = .ok () := by
  cases r with
  | ok _ => exact ⟨fun _ => rfl, fun _ => rfl⟩
  | error e => exact ⟨(fun h => nomatch h), (fun h => nomatch h)⟩

/-- A community that cannot be read is left alone. -/
theorem resolveCommunity_spares_of_error {e : Error}
    (h : (resolveCommunity env switchId label community).2 = .error e) :
    (resolveCommunity env switchId label).Spares community :=
  InPlace.assign_spares_of_error h

/-- A string that is read changes a community that did not have it. -/
theorem resolveCommunity_spares_iff (h : resolvable env switchId (label, community) = true) :
    (resolveCommunity env switchId label).Spares community ↔ community.IsRead := by
  have hsucceeds : (resolveCommunity env switchId label).Succeeds community
      (resolveCommunity env switchId label community).1 :=
    InPlace.succeeds_iff.mpr ⟨isOk_iff.mp h, rfl⟩
  obtain ⟨hread, hkeep⟩ := resolveCommunity_succeeds hsucceeds
  constructor
  · intro hspares
    have hsame : (resolveCommunity env switchId label community).1 = community := hspares
    rwa [hsame] at hread
  · exact hkeep

/-- Only automatic reads have a community. -/
theorem readsCommunity_eq_some_iff : snmp.readsCommunity = some community ↔
    ∃ reads, snmp.reads = some reads ∧ reads.mode = .auto ∧ reads.community = some community := by
  rw [SnmpConfig.readsCommunity]
  cases snmp.reads with
  | none => simp
  | some reads => by_cases hmode : reads.mode = .auto <;> simp [Option.filter_some, hmode]

/-- The step spares the SNMP if it spares the community that reads. -/
theorem withReadsCommunity_spares_iff {f : InPlace Error SnmpCommunity} :
    (withReadsCommunity f).Spares snmp ↔ ∀ community ∈ snmp.readsCommunity, f.Spares community := by
  rw [InPlace.Spares, withReadsCommunity]
  cases hcommunity : snmp.readsCommunity with
  | none => simp
  | some community =>
    obtain ⟨reads, hreads, -, hgiven⟩ := readsCommunity_eq_some_iff.mp hcommunity
    rw [hreads]
    constructor
    · rintro h _ ⟨⟩
      have hsame : some { reads with community := some (f community).1 } = snmp.reads :=
        congrArg SnmpConfig.reads h
      rw [hreads] at hsame
      have hsome := congrArg SnmpReads.community (Option.some.inj hsame)
      exact Option.some.inj (hsome.trans hgiven)
    · intro h
      have hsame : (f community).1 = community := h community rfl
      dsimp only
      rw [hsame, ← hgiven, ← hreads]

theorem withReadsCommunity_ok_iff {f : InPlace Error SnmpCommunity} :
    (withReadsCommunity f snmp).2 = .ok () ↔
      ∀ community ∈ snmp.readsCommunity, (f community).2 = .ok () := by
  rw [withReadsCommunity]
  cases hcommunity : snmp.readsCommunity with
  | none => simp
  | some community =>
    obtain ⟨reads, hreads, -⟩ := readsCommunity_eq_some_iff.mp hcommunity
    rw [hreads]
    simp

/-- The communities, in the order in which they are resolved. -/
def resolveListed (env : Environment) (switchId : String) : InPlace Error SnmpConfig :=
  (InPlace.forEach (fun i => resolveCommunity env switchId (communityLabel i)) 0).within
    SnmpConfig.communities fun communities snmp => { snmp with communities }

/-- The listed communities are spared if those up to the first failure were read before. -/
theorem resolveListed_spares_iff : (resolveListed env switchId).Spares snmp ↔
    ∀ entry ∈ (snmp.communities.zipIdx.map fun c => (communityLabel c.2, c.1)).takeWhile
      (resolvable env switchId), entry.2.IsRead := by
  rw [resolveListed, InPlace.within_spares_iff (fun _ => rfl) rfl,
    InPlace.forEach_spares_iff fun _ _ _ h => resolveCommunity_spares_of_error h,
    List.takeWhile_map, List.forall_mem_map]
  refine forall₂_congr fun entry hentry => resolveCommunity_spares_iff ?_
  exact (List.mem_takeWhile_imp hentry :)

/-- They are read if each of them can be. -/
theorem resolveListed_ok_iff : (resolveListed env switchId snmp).2 = .ok () ↔
    ∀ entry ∈ snmp.communities.zipIdx.map fun c => (communityLabel c.2, c.1),
      resolvable env switchId entry = true := by
  rw [List.forall_mem_map]
  show (InPlace.forEach _ 0 snmp.communities).2 = .ok () ↔ _
  rw [InPlace.forEach_ok_iff]
  exact forall₂_congr fun entry _ => isOk_iff.symm

theorem keeps_withReadsCommunity (f : InPlace Error SnmpCommunity) :
    (withReadsCommunity f).Keeps SnmpConfig.communities := by
  intro snmp
  rw [withReadsCommunity]
  split
  · rfl
  · rfl

/-- If the communities are the same, all is. -/
theorem resolveListed_spares (h : (resolveListed env switchId snmp).1.communities =
    snmp.communities) : (resolveListed env switchId).Spares snmp := by
  have hset : (resolveListed env switchId snmp).1 =
    { snmp with communities := (resolveListed env switchId snmp).1.communities } := rfl
  rw [InPlace.Spares, hset, h]

/-- The reads community is the last one that is resolved. -/
theorem resolveReads_spares_iff :
    (withReadsCommunity (resolveCommunity env switchId readsLabel)).Spares snmp ↔
      ∀ entry ∈ ((snmp.readsCommunity.map fun c => (readsLabel, c)).toList).takeWhile
        (resolvable env switchId), entry.2.IsRead := by
  rw [withReadsCommunity_spares_iff]
  cases snmp.readsCommunity with
  | none => simp
  | some community =>
    show (∀ c ∈ some community, _) ↔ ∀ entry ∈ [(readsLabel, community)].takeWhile _, _
    cases hok : resolvable env switchId (readsLabel, community) with
    | true =>
      rw [List.takeWhile_cons_of_pos hok, List.takeWhile_nil, List.forall_mem_singleton,
        ← resolveCommunity_spares_iff hok]
      simp
    | false =>
      rw [List.takeWhile_cons_of_neg (by simp [hok])]
      have hspares : (resolveCommunity env switchId readsLabel).Spares community := by
        rw [resolvable] at hok
        cases hresult : (resolveCommunity env switchId readsLabel community).2 with
        | ok _ =>
          rw [hresult] at hok
          cases hok
        | error e => exact resolveCommunity_spares_of_error hresult
      simpa using hspares

theorem resolveCommunities_eq : resolveCommunities env switchId =
    (resolveListed env switchId).andThen
      (withReadsCommunity (resolveCommunity env switchId readsLabel)) := rfl

/-- All communities are spared if those up to the first failure were read before. -/
theorem resolveCommunities_spares_iff : (resolveCommunities env switchId).Spares snmp ↔
    ∀ entry ∈ (labelledCommunities snmp).takeWhile (resolvable env switchId), entry.2.IsRead := by
  rw [resolveCommunities_eq,
    InPlace.andThen_spares_iff (keeps_withReadsCommunity _) resolveListed_spares,
    resolveListed_ok_iff, resolveListed_spares_iff, resolveReads_spares_iff, labelledCommunities,
    List.takeWhile_append]
  generalize snmp.communities.zipIdx.map (fun c => (communityLabel c.2, c.1)) = listed
  split
  · next hlength =>
    have hall : listed.takeWhile (resolvable env switchId) = listed :=
      (List.takeWhile_prefix _).eq_of_length hlength
    rw [hall, List.forall_mem_append]
    refine and_congr_right fun _ => ⟨fun h => h ?_, fun h _ => h⟩
    exact List.takeWhile_eq_self_iff.mp hall
  · next hlength =>
    refine and_iff_left fun hall => absurd ?_ hlength
    rw [List.takeWhile_eq_self_iff.mpr hall]

/-- Where they are spared, they are read if each of them can be. -/
theorem resolveCommunities_ok_iff (h : (resolveCommunities env switchId).Spares snmp) :
    (resolveCommunities env switchId snmp).2 = .ok () ↔
      ∀ entry ∈ labelledCommunities snmp, resolvable env switchId entry = true := by
  rw [resolveCommunities_eq] at h ⊢
  obtain ⟨hlisted, -⟩ :=
    (InPlace.andThen_spares_iff (keeps_withReadsCommunity _) resolveListed_spares).mp h
  rw [InPlace.andThen_ok_iff_of_spares hlisted, resolveListed_ok_iff, withReadsCommunity_ok_iff,
    labelledCommunities, List.forall_mem_append]
  refine and_congr_right fun _ => ?_
  cases snmp.readsCommunity with
  | none => simp
  | some community => simp [resolvable, isOk_iff]

/-- The second part of `resolveSnmpSecrets`, once the sources are checked. -/
def readSnmp (env : Environment) : InPlace Error SwitchConfig := fun switch =>
  match switch.snmp with
  | none => (switch, .ok ())
  | some snmp =>
    let result := resolveCommunities env switch.id snmp
    ({ switch with snmp := some result.1 }, result.2)

theorem resolveSnmpSecrets_eq_andThen :
    resolveSnmpSecrets env = (InPlace.check checkSnmpSecretSources).andThen (readSnmp env) := rfl

/-- A switch is spared if its communities are. -/
theorem readSnmp_spares_iff : (readSnmp env).Spares raw ↔
    ∀ snmp ∈ raw.snmp, (resolveCommunities env raw.id).Spares snmp := by
  rw [InPlace.Spares, readSnmp]
  cases hsnmp : raw.snmp with
  | none => simp
  | some snmp =>
    constructor
    · rintro h _ ⟨⟩
      exact Option.some.inj ((congrArg SwitchConfig.snmp h).trans hsnmp)
    · intro h
      have hsame : (resolveCommunities env raw.id snmp).1 = snmp := h snmp rfl
      dsimp only
      rw [hsame, ← hsnmp]

theorem readSnmp_ok_iff : (readSnmp env raw).2 = .ok () ↔
    ∀ snmp ∈ raw.snmp, (resolveCommunities env raw.id snmp).2 = .ok () := by
  rw [readSnmp]
  cases raw.snmp with
  | none => simp
  | some snmp => simp

/-- The secrets of a switch are spared if its sources are wrong or its communities are spared. -/
theorem resolveSnmpSecrets_spares_iff :
    (resolveSnmpSecrets env).Spares raw ↔ SecretsSpared env raw := by
  rw [resolveSnmpSecrets_eq_andThen, (InPlace.spares_check _).andThen_iff, readSnmp_spares_iff]
  simp only [resolveCommunities_spares_iff]
  exact Iff.rfl

/-- Where they are spared, they are read if the sources are right and each can be read. -/
theorem resolveSnmpSecrets_ok_iff (h : SecretsSpared env raw) :
    (resolveSnmpSecrets env raw).2 = .ok () ↔ checkSnmpSecretSources raw = .ok () ∧
      ∀ snmp ∈ raw.snmp, ∀ entry ∈ labelledCommunities snmp,
        resolvable env raw.id entry = true := by
  rw [resolveSnmpSecrets_eq_andThen, InPlace.andThen_ok_iff_of_spares (InPlace.spares_check _),
    readSnmp_ok_iff]
  refine and_congr_right fun hsources => forall₂_congr fun snmp hsnmp => ?_
  exact resolveCommunities_ok_iff (resolveCommunities_spares_iff.mpr (h hsources snmp hsnmp))

end

/-! ## VLANs -/

section

variable {env : Environment} {hostname : String} {vlans : List Vlan} {strict : Bool} {port : Port}
  {switch raw : SwitchConfig}

/-- A port that is given by numbers is resolved to itself. -/
theorem Port.ByNumber.resolvePort_self (h : port.ByNumber) :
    (resolvePort hostname vlans strict).Succeeds port port := by
  rw [resolvePort, InPlace.andThen_succeeds]
  refine ⟨port, ?_, ?_⟩
  · rw [InPlace.Succeeds, resolveUntagged, h.vlanName]
  · rw [InPlace.Succeeds, resolveTagged, h.taggedVlanRefs]
    rfl

/-- Where no port has a name, nothing is left to resolve. -/
theorem resolveVlanNames_byNumber (h : ∀ port ∈ switch.ports, port.ByNumber) :
    (resolveVlanNames strict).Spares switch ∧
      ((resolveVlanNames strict switch).2 = .ok () ↔ NamesAgree switch.vlans) := by
  rw [← findAmbiguousVlanName_eq_none_iff, InPlace.Spares, resolveVlanNames]
  cases findAmbiguousVlanName switch.vlans with
  | some collision => simp
  | none =>
    have heach : (InPlace.forEach
        (fun _ => resolvePort switch.displayName switch.vlans strict) 0).Succeeds
          switch.ports switch.ports :=
      InPlace.forEach_succeeds_self fun j hj => (h _ (List.getElem_mem hj)).resolvePort_self
    have hwithin : (InPlace.within SwitchConfig.ports (fun ports switch => { switch with ports })
        (InPlace.forEach (fun _ => resolvePort switch.displayName switch.vlans strict) 0)).Succeeds
          switch switch := InPlace.within_succeeds.mpr ⟨_, heach, rfl⟩
    have heq := (InPlace.succeeds_iff.mp hwithin)
    exact ⟨heq.2.symm, iff_of_true heq.1 rfl⟩

theorem resolveUntagged_vlanName : (resolveUntagged hostname vlans port).1.vlanName = none := by
  rw [resolveUntagged]
  cases hname : port.vlanName with
  | none => exact hname
  | some name =>
    dsimp only
    cases nameToId vlans name with
    | none => rfl
    | some id => rfl

theorem keeps_vlanName_resolveTagged :
    (resolveTagged hostname vlans strict).Keeps Port.vlanName := by
  intro port
  rw [resolveTagged]
  split
  · rfl
  · split
    · rfl
    · rfl

/-- A port whose names cannot be resolved has lost one of them. -/
theorem resolvePort_failed {e : Error}
    (h : (resolvePort hostname vlans strict port).2 = .error e) :
    ¬(resolvePort hostname vlans strict).Spares port := by
  intro hspares
  have hport : (resolvePort hostname vlans strict port).1 = port := hspares
  have hresolved : (resolvePort hostname vlans strict port).1.vlanName = none := by
    have huntagged := @resolveUntagged_vlanName hostname vlans port
    have hkeeps := @keeps_vlanName_resolveTagged hostname vlans strict
    rw [resolvePort, InPlace.andThen]
    rcases hfirst : resolveUntagged hostname vlans port with ⟨named, r⟩
    rw [hfirst] at huntagged
    cases r with
    | ok _ => exact (hkeeps named).trans huntagged
    | error e => exact huntagged
  rw [hport] at hresolved
  -- the untagged VLAN has no name, so a tagged one was taken out
  have hfirst : resolveUntagged hostname vlans port = (port, .ok ()) := by
    rw [resolveUntagged, hresolved]
  rw [resolvePort, InPlace.andThen, hfirst] at h hport
  dsimp only at h hport
  rw [resolveTagged] at h hport
  by_cases hrefs : port.taggedVlanRefs.isEmpty = true
  · rw [if_pos hrefs] at h
    cases h
  · rw [if_neg hrefs] at h hport
    cases hids : resolveRefs hostname port.portId vlans strict port.taggedVlanRefs [] with
    | ok ids =>
      rw [hids] at h
      cases h
    | error e' =>
      rw [hids] at hport
      have hnil : [] = port.taggedVlanRefs := congrArg Port.taggedVlanRefs hport
      exact hrefs (by rw [← hnil]; rfl)

/-- A failure to resolve names has left all alone exactly if two names clash. -/
theorem resolveVlanNames_failed {e : Error} (h : (resolveVlanNames strict switch).2 = .error e) :
    (resolveVlanNames strict).Spares switch ↔ ¬NamesAgree switch.vlans := by
  rw [← findAmbiguousVlanName_eq_none_iff, InPlace.Spares]
  rw [resolveVlanNames] at h ⊢
  cases hcollision : findAmbiguousVlanName switch.vlans with
  | some collision => simp
  | none =>
    rw [hcollision] at h
    refine iff_of_false (fun hspares => ?_) (by simp)
    have hports : (InPlace.forEach
        (fun _ => resolvePort switch.displayName switch.vlans strict) 0 switch.ports).1 =
          switch.ports := congrArg SwitchConfig.ports hspares
    have herror : (InPlace.forEach
        (fun _ => resolvePort switch.displayName switch.vlans strict) 0 switch.ports).2 =
          .error e := h
    obtain ⟨before, port, after, visited, hlist, hfailed, hlength, hleft⟩ :=
      InPlace.forEach_failed herror
    rw [hports, hlist] at hleft
    obtain ⟨-, hrest⟩ := List.append_inj hleft hlength.symm
    exact resolvePort_failed hfailed (List.cons.inj hrest).1.symm

theorem taggable_eq {model : SwitchModel} (hmodel : raw.model = some model) :
    taggable raw = definedVlans model raw := by
  rw [taggable, definedVlans, hmodel]
  rfl

/-- The check of references spares a switch whose tagged VLANs can all be tagged. -/
theorem validateVlanReferences_spares_iff {model : SwitchModel} (hmodel : raw.model = some model) :
    (validateVlanReferences env).Spares raw ↔
      ((∀ vlan ∈ raw.vlans, checkVlanName env model vlan = .ok ()) →
        ∀ port ∈ raw.ports, ∀ id ∈ port.taggedVlans, id ∈ taggable raw) := by
  -- filtering keeps a port exactly where it filters nothing out
  have hport (port : Port) : filterTagged (definedVlans model raw) false port = port ↔
      ∀ id ∈ port.taggedVlans, id ∈ definedVlans model raw := by
    rw [filterTagged, if_neg (by decide)]
    constructor
    · intro h id hid
      have htagged := congrArg Port.taggedVlans h
      exact List.contains_iff_mem.mp (List.filter_eq_self.mp htagged id hid)
    · intro h
      have htagged : port.taggedVlans.filter (definedVlans model raw).contains = port.taggedVlans :=
        List.filter_eq_self.mpr fun id hid => List.contains_iff_mem.mpr (h id hid)
      rw [htagged]
  have hports : { raw with
      ports := raw.ports.map (filterTagged (definedVlans model raw) false) } = raw ↔
        ∀ port ∈ raw.ports, ∀ id ∈ port.taggedVlans, id ∈ taggable raw := by
    rw [taggable_eq hmodel]
    simp only [← hport]
    constructor
    · intro h
      have hmap := congrArg SwitchConfig.ports h
      rw [← List.forall₂_eq_eq_eq, List.forall₂_map_left_iff, List.forall₂_same] at hmap
      exact hmap
    · intro h
      rw [List.map_congr_left h, List.map_id']
  rw [InPlace.Spares, validateVlanReferences, validateVlanReferencesInner, hmodel, ← forM_ok_iff]
  dsimp only
  cases raw.vlans.forM (checkVlanName env model) with
  | error e => simp
  | ok _ =>
    dsimp only
    rw [← hports, hmodel]
    split
    -- the ports were filtered by then, whether the references hold or not
    · exact ⟨fun h _ => h, fun h => h rfl⟩
    · exact ⟨fun h _ => h, fun h => h rfl⟩

end

/-! ## The steps of a validation -/

section

variable {env : Environment} {raw : SwitchConfig}

theorem keeps_snmp_resolveVlanNames (strict : Bool) :
    (resolveVlanNames strict).Keeps SwitchConfig.snmp := by
  intro switch
  rw [resolveVlanNames]
  split
  · rfl
  · rfl

theorem keeps_snmp_validateVlanReferences (env : Environment) :
    (validateVlanReferences env).Keeps SwitchConfig.snmp := by
  intro switch
  rw [validateVlanReferences, validateVlanReferencesInner]
  split
  · rfl
  · split
    · rfl
    · dsimp only
      split
      · rfl
      · rfl

/-- A switch with all required fields has a model. -/
theorem isSome_model (h : getMissingRequiredFields raw = []) : raw.model.isSome = true := by
  rw [getMissingRequiredFields] at h
  cases hmodel : raw.model with
  | some model => rfl
  | none => simp [hmodel] at h

/-- The steps that both paths take once the fields are checked, before a last one that rewrites
what the check of VLAN references does. -/
def referenceSteps (env : Environment) (last : InPlace Error SwitchConfig) :
    InPlace Error SwitchConfig :=
  (resolveSnmpSecrets env).andThen ((InPlace.check checkVendorSupport).andThen
    ((resolveVlanNames false).andThen last))

/-- With ports given by numbers, all steps spare a switch if those on secrets and references do. -/
theorem referenceSteps_spares_iff {last : InPlace Error SwitchConfig}
    (hlast : last.Keeps SwitchConfig.snmp)
    (hrefs : last.Spares raw ↔ (validateVlanReferences env).Spares raw)
    (hports : ∀ port ∈ raw.ports, port.ByNumber) (hmodel : raw.model.isSome = true) :
    (referenceSteps env last).Spares raw ↔ StepsSpare env raw := by
  have hrest : ((InPlace.check checkVendorSupport).andThen
      ((resolveVlanNames false).andThen last)).Keeps SwitchConfig.snmp :=
    (InPlace.keeps_check _).andThen ((keeps_snmp_resolveVlanNames false).andThen hlast)
  have hview (h : (resolveSnmpSecrets env raw).1.snmp = raw.snmp) :
      (resolveSnmpSecrets env).Spares raw := by
    rw [resolveSnmpSecrets_eq] at h
    have h : (resolvedSnmp env raw).1 = raw.snmp := h
    rw [InPlace.Spares, resolveSnmpSecrets_eq, h]
  obtain ⟨hnames, hagree⟩ := @resolveVlanNames_byNumber false raw hports
  obtain ⟨model, hmodel⟩ := Option.isSome_iff_exists.mp hmodel
  rw [referenceSteps, InPlace.andThen_spares_iff hrest hview, resolveSnmpSecrets_spares_iff,
    (InPlace.spares_check _).andThen_iff, hnames.andThen_iff, hagree, hrefs,
    validateVlanReferences_spares_iff hmodel]
  constructor
  · rintro ⟨hsecrets, htagged⟩
    refine ⟨hsecrets, fun h => ?_⟩
    obtain ⟨given, hgiven, hnames⟩ := h.names
    obtain rfl : model = given := Option.some.inj (hmodel.symm.trans hgiven)
    have hread := (resolveSnmpSecrets_ok_iff hsecrets).mpr ⟨h.sources, h.secrets⟩
    exact htagged hread h.vendor h.agree hnames
  · rintro ⟨hsecrets, htagged⟩
    refine ⟨hsecrets, fun hok hvendor hagree hnames => htagged ?_⟩
    obtain ⟨hsources, hread⟩ := (resolveSnmpSecrets_ok_iff hsecrets).mp hok
    exact ⟨hsources, hread, hvendor, hagree, model, hmodel, hnames⟩

/-- What follows the expansion of port ranges. -/
theorem exists_afterExpansion (env : Environment) : ∃ rest context, validateSwitchConfig env =
      ((InPlace.assign expandPortRanges).mapError context).andThen rest ∧
    rest.Keeps SwitchConfig.keys ∧ rest.Keeps SwitchConfig.frame ∧
    ∀ raw : SwitchConfig, (∀ port ∈ raw.ports, port.ByNumber) → (rest.Spares raw ↔
      (getMissingRequiredFields raw = [] → invalidFields raw = [] → StepsSpare env raw)) := by
  rw [validateSwitchConfig]
  simp only [InPlace.andThen_assoc]
  have hkeys (context : SwitchConfig → Error → Error) :=
    (InPlace.keeps_check checkVendorSupport).andThen ((resolveVlanNames_keys false).andThen
      (@InPlace.Keeps.mapError _ _ _ _ _ context (validateVlanReferences_keys env)))
  have hframe (context : SwitchConfig → Error → Error) :=
    (InPlace.keeps_check checkVendorSupport).andThen ((keeps_resolveVlanNames false).andThen
      (@InPlace.Keeps.mapError _ _ _ _ _ context (keeps_validateVlanReferences env)))
  refine ⟨_, _, rfl, ?_, ?_, fun raw hports => ?_⟩
  · exact (InPlace.keeps_check _).mapError.andThen ((InPlace.keeps_check _).mapError.andThen
      ((resolveSnmpSecrets_keys env).andThen (hkeys _)))
  · exact (InPlace.keeps_check _).mapError.andThen ((InPlace.keeps_check _).mapError.andThen
      ((keeps_resolveSnmpSecrets env).andThen (hframe _)))
  · rw [(InPlace.mapError_spares_iff.mpr (InPlace.spares_check _)).andThen_iff,
      (InPlace.mapError_spares_iff.mpr (InPlace.spares_check _)).andThen_iff,
      InPlace.mapError_ok_iff, InPlace.mapError_ok_iff]
    show (validateRequiredFields raw = .ok () → validateStructure env raw = .ok () →
      (referenceSteps env _).Spares raw) ↔ _
    rw [validateRequiredFields_ok_iff, validateStructure_ok_iff]
    refine imp_congr_right fun hrequired => imp_congr_right fun _ => ?_
    refine referenceSteps_spares_iff ?_ InPlace.mapError_spares_iff hports (isSome_model hrequired)
    exact (keeps_snmp_validateVlanReferences env).mapError

/-- A switch without a name among its VLANs comes out of its validation as it went in exactly if
nothing of it is expanded, read or dropped. -/
theorem validateSwitchConfig_spares_iff (hports : ∀ port ∈ raw.ports, port.ByNumber) :
    (validateSwitchConfig env).Spares raw ↔ (Expands raw → Expanded raw) ∧
      (Expands raw → getMissingRequiredFields raw = [] → invalidFields raw = [] →
        StepsSpare env raw) := by
  obtain ⟨rest, context, heq, hkeys, hframe, hrest⟩ := exists_afterExpansion env
  rw [heq]
  cases hexpand : expandPortRanges raw with
  | error e =>
    have hnot : ¬Expands raw := by
      rintro ⟨switch, hswitch⟩
      rw [hexpand] at hswitch
      cases hswitch
    have herror : (InPlace.assign expandPortRanges raw).2 = .error e := by
      rw [InPlace.assign, hexpand]
    -- a range that does not expand ends the validation before anything is changed
    refine iff_of_true ?_ ⟨fun h => absurd h hnot, fun h => absurd h hnot⟩
    refine (InPlace.mapError_spares_iff.mpr
      (InPlace.assign_spares_of_error herror)).andThen_iff.mpr fun hok => ?_
    rw [InPlace.mapError_ok_iff, herror] at hok
    cases hok
  | ok expanded =>
    have hsteps : (((InPlace.assign expandPortRanges).mapError context).andThen rest) raw =
        rest expanded := by
      rw [InPlace.andThen, InPlace.mapError, InPlace.assign, hexpand]
    rw [InPlace.Spares, hsteps]
    constructor
    · intro hspared
      -- the steps behind the expansion change no key and no frame, so the expansion did not either
      have hsameKeys : raw.keys = expanded.keys := by
        rw [← hkeys expanded, hspared]
      have hsameFrame : raw.frame = expanded.frame := by
        rw [← hframe expanded, hspared]
      have hself := expanded_of_expandPortRanges hexpand
      have hexpanded : Expanded raw := by
        constructor
        · intro port hport
          have hids : raw.ports.map Port.portId = expanded.ports.map Port.portId :=
            congrArg Keys.ports hsameKeys
          have hmem : port.portId ∈ expanded.ports.map Port.portId :=
            hids ▸ List.mem_map_of_mem hport
          obtain ⟨other, hother, hid⟩ := List.mem_map.mp hmem
          rw [← hid]
          exact hself.ports other hother
        · have hmirrors : raw.frame.portMirrors = expanded.frame.portMirrors :=
            congrArg SwitchConfig.portMirrors hsameFrame
          have hmirrors : raw.portMirrors = expanded.portMirrors := hmirrors
          rw [hmirrors]
          exact hself.portMirrors
      have hsame : expanded = raw := by
        have hagain := hexpanded.expandPortRanges_eq
        rw [hexpand] at hagain
        exact Except.ok.inj hagain
      rw [hsame] at hspared
      exact ⟨fun _ => hexpanded, fun _ => (hrest raw hports).mp hspared⟩
    · rintro ⟨hexpanded, hspare⟩
      have hexpands : Expands raw := ⟨expanded, hexpand⟩
      -- what is expanded already expands to itself
      have hagain := (hexpanded hexpands).expandPortRanges_eq
      rw [hexpand] at hagain
      obtain rfl := Except.ok.inj hagain
      exact (hrest expanded hports).mpr (hspare hexpands)

/-- So for the steps of a merged switch, where all required fields are there. -/
theorem checkMergedSteps_spares_iff (hports : ∀ port ∈ raw.ports, port.ByNumber) :
    (checkMergedSteps env).Spares raw ↔
      (getMissingRequiredFields raw = [] → StepsSpare env raw) := by
  rw [checkMergedSteps, (InPlace.spares_check _).andThen_iff]
  show (validateRequiredFields raw = .ok () → (referenceSteps env _).Spares raw) ↔ _
  rw [validateRequiredFields_ok_iff]
  refine imp_congr_right fun hrequired => ?_
  refine referenceSteps_spares_iff ?_ ?_ hports (isSome_model hrequired)
  · exact (keeps_snmp_validateVlanReferences env).andThen (InPlace.keeps_check _)
  · -- a check at the end changes nothing
    rw [InPlace.Spares, InPlace.Spares, InPlace.andThen]
    rcases validateVlanReferences env raw with ⟨switch, r⟩
    cases r with
    | ok _ => exact Iff.rfl
    | error e => exact Iff.rfl

end

/-! ## The previews -/

section

variable {env : Environment} {formats : Formats} {raw result : SwitchConfig}
  {failure : SwitchValidationFailure}

/-- A preview is faithful if it is the switch as it was, with ports given by numbers. -/
theorem faithfulPreview_iff (hwritable : raw.Writable formats)
    (hpreview : failure.preview = some result) :
    FaithfulPreview formats raw failure ↔ result = raw ∧ ∀ port ∈ raw.ports, port.ByNumber := by
  constructor
  · rintro ⟨hsame, hsaved⟩
    obtain rfl : result = raw := Option.some.inj (hpreview.symm.trans hsame)
    exact ⟨rfl, hwritable.read_eq_iff.mp (hsaved result hpreview)⟩
  · rintro ⟨rfl, hports⟩
    refine ⟨hpreview, fun preview h => ?_⟩
    obtain rfl : result = preview := Option.some.inj (hpreview.symm.trans h)
    exact hwritable.read_eq_iff.mpr hports

/-- Each refused switch has its preview. -/
theorem previews_validateAllSwitches (env : Environment) (switches : List SwitchConfig) :
    (validateAllSwitches env switches).failures.map SwitchValidationFailure.preview =
      (switches.filter fun raw => !accepts env raw).map fun raw =>
        some (validateSwitchConfig env raw).1 := by
  show (List.filterMap _ (switches.map (validateOne env))).map _ = _
  induction switches with
  | nil => rfl
  | cons raw rest ih =>
    cases h : accepts env raw with
    | true =>
      rw [List.map_cons, validateOne_accepted h, List.filter_cons_of_neg (by simp [h]), ← ih]
      rfl
    | false =>
      have hfailure : ∃ failure, validateOne env raw = .error failure ∧
          failure.preview = some (validateSwitchConfig env raw).1 := by
        rw [accepts] at h
        rw [validateOne]
        rcases hresult : validateSwitchConfig env raw with ⟨switch, r⟩
        rw [hresult] at h
        cases r with
        | ok _ => cases h
        | error e => exact ⟨_, rfl, rfl⟩
      obtain ⟨failure, hf, hpreview⟩ := hfailure
      rw [List.map_cons, hf, List.filter_cons_of_pos (by simp [h]), List.map_cons, ← ih, ← hpreview]
      rfl

/-- The preview of a switch that is loaded from one file. -/
theorem faithfulPreview_alone_iff (hwritable : raw.Writable formats)
    (hpreview : failure.preview = some (validateSwitchConfig env raw).1) :
    FaithfulPreview formats raw failure ↔ SparedAlone env raw := by
  rw [faithfulPreview_iff hwritable hpreview]
  constructor
  · rintro ⟨hsame, hports⟩
    obtain ⟨hids, hsteps⟩ := (validateSwitchConfig_spares_iff hports).mp hsame
    exact ⟨hports, hids, hsteps⟩
  · rintro ⟨hports, hids, hsteps⟩
    exact ⟨(validateSwitchConfig_spares_iff hports).mpr ⟨hids, hsteps⟩, hports⟩

/-- The preview of a switch that is merged from several files. -/
theorem faithfulPreview_merged_iff (hwritable : raw.Writable formats)
    (hpreview : failure.preview = some (checkMergedSteps env raw).1) :
    FaithfulPreview formats raw failure ↔ SparedMerged env raw := by
  rw [faithfulPreview_iff hwritable hpreview]
  constructor
  · rintro ⟨hsame, hports⟩
    exact ⟨hports, (checkMergedSteps_spares_iff hports).mp hsame⟩
  · rintro ⟨hports, hsteps⟩
    exact ⟨(checkMergedSteps_spares_iff hports).mpr hsteps, hports⟩

end

/-- The config of a file whose switches were read from documents. -/
def LoadedFromDocuments (env : Environment) (formats : Formats) (config : ConfigWithMetadata) :
    Prop :=
  ∃ file sourceType, (∀ raw ∈ file.switches, FromDocument formats raw) ∧
    loadWithMetadata env file sourceType = .ok config

theorem FromDocument.writable {formats : Formats} {raw : SwitchConfig}
    (h : FromDocument formats raw) : raw.Writable formats := by
  obtain ⟨value, hvalue⟩ := h
  exact SwitchConfig.writable_of_read hvalue

/-- What is merged from such files can be written. -/
theorem writable_merged {env : Environment} {formats : Formats} {configs : List ConfigWithMetadata}
    (h : ∀ config ∈ configs, LoadedFromDocuments env formats config) (switchId : String) :
    (mergeSingleSwitch switchId (sourcesOf configs switchId)).switch.Writable formats := by
  apply mergeSingleSwitch_writable
  intro source hsource
  obtain ⟨config, hconfig, hsource⟩ := List.mem_flatMap.mp hsource
  obtain ⟨switch, hswitch, rfl⟩ := List.mem_map.mp hsource
  obtain ⟨file, sourceType, hread, hload⟩ := h config hconfig
  have hloaded := loadWithMetadata_ok_iff.mp hload
  obtain ⟨raw, hraw, hexpand⟩ :=
    exists_of_mem_right hloaded.switches (List.mem_of_mem_filter hswitch)
  exact (hread raw hraw).writable.expanded hexpand.1

/-- Previews are faithful exactly where the ports give their VLANs by number and the steps that
were taken had nothing to expand, read or drop; and resolving names leaves a switch alone that it
fails on exactly where the failure is an ambiguous name. -/
theorem previews_faithful_iff (env : Environment) (formats : Formats) (order : MapOrder)
    (switches : List SwitchConfig) (configs : List ConfigWithMetadata) (loaded : Loaded)
    (strict : Bool) (switch : SwitchConfig) (e : Error)
    (hswitches : ∀ raw ∈ switches, FromDocument formats raw)
    (hconfigs : ∀ config ∈ configs, LoadedFromDocuments env formats config)
    (hmerge : mergeConfigs env order configs = .ok loaded)
    (hresolve : (resolveVlanNames strict switch).2 = .error e) :
    List.Forall₂ (fun raw failure => FaithfulPreview formats raw failure ↔ SparedAlone env raw)
      (switches.filter fun raw => !accepts env raw) (validateAllSwitches env switches).failures ∧
    List.Forall₂ (fun switchId failure => failure.switchId = switchId ∧
        (FaithfulPreview formats
          (mergeSingleSwitch switchId (sourcesOf configs switchId)).switch failure ↔
            SparedMerged env (mergeSingleSwitch switchId (sourcesOf configs switchId)).switch))
      ((order.keys (switchIds configs)).filter fun id => !acceptsMerged env configs id)
      loaded.failures ∧
    ((resolveVlanNames strict switch).1 = switch ↔ ¬NamesAgree switch.vlans) := by
  refine ⟨?_, ?_, resolveVlanNames_failed hresolve⟩
  · have hpreviews := previews_validateAllSwitches env switches
    rw [← List.forall₂_eq_eq_eq, List.forall₂_map_left_iff, List.forall₂_map_right_iff] at hpreviews
    have hread : ∀ raw ∈ switches.filter fun raw => !accepts env raw, FromDocument formats raw :=
      fun raw hraw => hswitches raw (List.mem_of_mem_filter hraw)
    refine ((List.forall₂_and_left _ _).mpr ⟨hread, hpreviews.flip⟩).imp ?_
    rintro raw failure ⟨hraw, hpreview⟩
    exact faithfulPreview_alone_iff hraw.writable hpreview
  · obtain ⟨-, -, rfl⟩ := mergeConfigs_ok_iff.mp hmerge
    have hpreviews := failures_outcomes env configs (order.keys (switchIds configs))
    rw [← List.forall₂_eq_eq_eq, List.forall₂_map_left_iff, List.forall₂_map_right_iff] at hpreviews
    refine hpreviews.flip.imp fun switchId failure hpair => ?_
    obtain ⟨hid, hpreview⟩ := Prod.mk.inj hpair
    exact ⟨hid, faithfulPreview_merged_iff (writable_merged hconfigs switchId) hpreview⟩

/-! ## One switch -/

/-- A switch with one VLAN. -/
def staffSwitch (ports : List Port) : SwitchConfig where
  id := "sw1"
  hostname := some "office"
  model := some .aruba2930F
  managementIp := some "192.0.2.10"
  credentials := some { username := "admin" }
  vlans := [{ id := 10, name := "staff" }]
  ports

def staffDocument (ports : List PortDe) : Value :=
  .mapping [("id", .string "sw1"), ("hostname", .string "office"),
    ("model", .string "Aruba2930F"), ("management_ip", .string "192.0.2.10"),
    ("credentials", .mapping [("username", .string "admin")]),
    ("vlans", .sequence [.mapping [("id", .integer 10), ("name", .string "staff")]]),
    ("ports", ofList PortDe.toValue ports)]

/-- Its second port names a VLAN that does not exist. -/
def misspelt : SwitchConfig :=
  staffSwitch [{ portId := "1", vlan := 1, vlanName := some "staff" },
    { portId := "2", vlan := 1, vlanName := some "guests" }]

theorem misspelt_fromDocument : FromDocument plainFormats misspelt :=
  ⟨staffDocument [{ portId := "1", vlan := .string "staff" },
    { portId := "2", vlan := .string "guests" }], by decide +kernel⟩

/-- Its port is in a VLAN that does not exist, by number. -/
def misnumbered : SwitchConfig := staffSwitch [{ portId := "1", vlan := 99 }]

theorem misnumbered_fromDocument : FromDocument plainFormats misnumbered :=
  ⟨staffDocument [{ portId := "1", vlan := .integer 99 }], by decide +kernel⟩

def misnumberedConfig : ConfigWithMetadata where
  switches := [misnumbered]
  mergePriority := 50
  sourceFile := "/etc/switch-configurator/config.yaml"
  sourceType := .mainConfig

theorem previews_faithful_iff_misnumbered :
    ∃ failure, (validateAllSwitches plainEnvironment [misnumbered]).failures = [failure] ∧
      FaithfulPreview plainFormats misnumbered failure := by
  have hexpanded : Expanded misnumbered :=
    ⟨List.forall_mem_singleton.mpr (by decide +kernel), fun _ h => absurd h List.not_mem_nil⟩
  have hload : LoadedFromDocuments plainEnvironment plainFormats misnumberedConfig := by
    refine ⟨⟨[misnumbered], none, misnumberedConfig.sourceFile⟩, .mainConfig,
      List.forall_mem_singleton.mpr misnumbered_fromDocument, loadWithMetadata_ok_iff.mpr ?_⟩
    exact ⟨.cons ⟨hexpanded.expandPortRanges_eq, by decide +kernel⟩ .nil, rfl, rfl,
      (fun h => nomatch h), rfl⟩
  have hmerge := (@mergeConfigs_ok_iff plainEnvironment .inserted [misnumberedConfig] _).mpr
    ⟨List.cons_ne_nil _ _, sameIdentity_iff.mpr (compatible_of_nodup (by decide)), rfl⟩
  have hall := (previews_faithful_iff plainEnvironment plainFormats .inserted [misnumbered]
    [misnumberedConfig] _ false misspelt _ (List.forall_mem_singleton.mpr misnumbered_fromDocument)
    (List.forall_mem_singleton.mpr hload) hmerge rfl).1
  have hrejected : [misnumbered].filter (fun raw => !accepts plainEnvironment raw) =
      [misnumbered] := by decide +kernel
  rw [hrejected] at hall
  obtain ⟨failure, rest, hfaithful, hrest, hfailures⟩ := List.forall₂_cons_left_iff.mp hall
  obtain rfl := List.forall₂_nil_left_iff.mp hrest
  refine ⟨failure, hfailures, hfaithful.mpr ?_⟩
  refine ⟨List.forall_mem_singleton.mpr ⟨rfl, rfl⟩, fun _ => hexpanded, fun _ _ _ => ?_⟩
  refine ⟨fun _ snmp hsnmp => ?_, fun _ => List.forall_mem_singleton.mpr fun id hid => ?_⟩
  · cases hsnmp
  · cases hid

/-- The names of both ports are gone, and the second one shows the placeholder in their place. -/
theorem names_lost : FromDocument plainFormats misspelt ∧
    accepts plainEnvironment misspelt = false ∧
      (∀ failure ∈ (validateAllSwitches plainEnvironment [misspelt]).failures,
        failure.preview.map SwitchConfig.ports =
            some [{ portId := "1", vlan := 10 }, { portId := "2", vlan := 1 }] ∧
          ¬FaithfulPreview plainFormats misspelt failure) ∧
        (resolveVlanNames false misspelt).2.isOk = false ∧
          (resolveVlanNames false misspelt).1 ≠ misspelt := by
  refine ⟨misspelt_fromDocument, by decide +kernel, fun failure hfailure => ?_, by decide +kernel,
    by decide +kernel⟩
  have hmem := List.mem_map_of_mem (f := SwitchValidationFailure.preview) hfailure
  have hrejected : [misspelt].filter (fun raw => !accepts plainEnvironment raw) = [misspelt] := by
    decide +kernel
  rw [previews_validateAllSwitches, hrejected, List.map_singleton, List.mem_singleton] at hmem
  have hports : (validateSwitchConfig plainEnvironment misspelt).1.ports =
      [{ portId := "1", vlan := 10 }, { portId := "2", vlan := 1 }] := by
    decide +kernel
  refine ⟨?_, fun hfaithful => ?_⟩
  · rw [hmem, Option.map_some, hports]
  · rw [hfaithful.preview] at hmem
    have hsame := congrArg SwitchConfig.ports (Option.some.inj hmem)
    rw [hports] at hsame
    revert hsame
    decide

end SwitchConfigurator
