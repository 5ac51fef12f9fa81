import SwitchConfigurator.Api.Rotation
import SwitchConfigurator.Config.Previews

/-!
# A body that is sent back

`GET /switches/{id}/desired-config` gives a stored switch as it is serialised, `PUT` takes a
request. What becomes of a switch whose own body is put back, with its credentials supplied again.
-/

namespace SwitchConfigurator

open Document Keyed RelatedLists

/-! ## Communities without their strings -/

/-- The reads settings after they have been written, read and validated: while reads are off, the
community is not resolved, and the string beside its reference is gone. -/
def SnmpReads.resent (reads : SnmpReads) : SnmpReads :=
  if reads.mode = .auto then reads else reads.referenced

def SnmpConfig.resent (snmp : SnmpConfig) : SnmpConfig :=
  { snmp with reads := snmp.reads.map SnmpReads.resent }

section Communities

variable {env : Environment} {switchId label : String} {community : SnmpCommunity}
variable {snmp snmp' : SnmpConfig} {switch : SwitchConfig}

/-- Without its value, a community still says where it is from. -/
theorem hasReference_referenced : community.referenced.hasReference = community.hasReference := by
  rw [SnmpCommunity.referenced]
  split
  · rfl
  · rfl

/-- Without its value, a community has no source more. -/
theorem OneSource.referenced (h : community.OneSource) : community.referenced.OneSource := by
  cases hreference : community.hasReference with
  | false =>
    rw [SnmpCommunity.referenced, if_neg (by simp [hreference])]
    exact h
  | true =>
    refine ⟨?_, by rw [hasReference_referenced, hreference, Bool.not_true, Bool.and_false]⟩
    rw [SnmpCommunity.referenced, if_pos hreference]
    exact h.1

/-- The string of a community that is up to date is found again. -/
theorem resolveCommunity_referenced
    (h : (resolveCommunity env switchId label).Succeeds community community) :
    (resolveCommunity env switchId label).Succeeds community.referenced community := by
  cases hreference : community.hasReference with
  | false =>
    rw [SnmpCommunity.referenced, if_neg (by simp [hreference])]
    exact h
  | true =>
    rw [SnmpCommunity.referenced, if_pos hreference]
    rw [resolveCommunity, InPlace.assign_succeeds] at h ⊢
    -- the reference is read without looking at the name
    have hsame : readReference env switchId label { community with name := "" } =
        readReference env switchId label community := rfl
    rw [hsame]
    cases hread : readReference env switchId label community with
    | none =>
      have hsome : (readReference env switchId label community).isSome := by
        unfold SnmpCommunity.hasReference at hreference
        unfold readReference
        cases hfile : community.nameFile with
        | some path => rfl
        | none =>
          cases hcredential : community.nameCredential with
          | some id => rfl
          | none => simp [hfile, hcredential] at hreference
      rw [hread] at hsome
      cases hsome
    | some reference =>
      obtain ⟨value, source⟩ := reference
      rw [hread] at h
      obtain ⟨value, rfl, hname⟩ := bind_ok_iff.mp h
      refine bind_ok_iff.mpr ⟨value, rfl, ?_⟩
      rw [if_neg (by simp)]
      split at hname
      · cases hname
      · exact hname

theorem readsCommunity_referenced :
    snmp.referenced.readsCommunity = snmp.readsCommunity.map SnmpCommunity.referenced := by
  unfold SnmpConfig.readsCommunity SnmpConfig.referenced
  cases snmp.reads with
  | none => rfl
  | some reads =>
    have hmode : reads.referenced.mode = reads.mode := rfl
    dsimp only [Option.map_some]
    rw [Option.filter_some, Option.filter_some, hmode]
    split
    · rfl
    · rfl

/-- Where a community settles without its value, so does the one that reads. -/
theorem withReadsCommunity_referenced {f : InPlace Error SnmpCommunity}
    (hf : ∀ community, f.Succeeds community community → f.Succeeds community.referenced community)
    (h : (withReadsCommunity f).Succeeds snmp snmp) :
    (withReadsCommunity f).Succeeds { snmp with reads := snmp.reads.map SnmpReads.referenced }
      snmp.resent := by
  have hreferenced : { snmp with reads := snmp.reads.map SnmpReads.referenced }.readsCommunity =
      snmp.readsCommunity.map SnmpCommunity.referenced := readsCommunity_referenced
  unfold InPlace.Succeeds withReadsCommunity
  rw [hreferenced]
  rcases withReadsCommunity_succeeds h with ⟨-, hnone⟩ |
    ⟨reads, community, result, hreads, hcommunity, hsucceeds, hsame⟩
  · have hresent : snmp.reads.map SnmpReads.resent = snmp.reads.map SnmpReads.referenced := by
      cases hreads : snmp.reads with
      | none => rfl
      | some reads =>
        rw [Option.map_some, Option.map_some, SnmpReads.resent]
        split
        · next hmode =>
          -- reads are on, but there is no community
          have hnothing : reads.community = none := by
            rw [SnmpConfig.readsCommunity, hreads, Option.filter_some, if_pos (by simp [hmode])]
              at hnone
            exact hnone
          rw [SnmpReads.referenced, hnothing]
          cases reads
          cases hnothing
          rfl
        · rfl
    rw [hnone, Option.map_none, SnmpConfig.resent, hresent]
    cases snmp.reads with
    | none => rfl
    | some reads => rfl
  · have hmode := readsCommunity_some hreads hcommunity
    have hgiven : reads.community = some community := by
      rw [SnmpConfig.readsCommunity, hreads, Option.filter_some, if_pos (by simp [hmode])]
        at hcommunity
      exact hcommunity
    have hresult : result = community := by
      have hcommunity' := congrArg SnmpConfig.reads hsame
      rw [hreads] at hcommunity'
      have hsome := congrArg SnmpReads.community (Option.some.inj hcommunity')
      rw [hgiven] at hsome
      exact (Option.some.inj hsome).symm
    subst hresult
    have hfound : f result.referenced = (result, .ok ()) := hf result hsucceeds
    rw [hcommunity, hreads, Option.map_some, Option.map_some]
    dsimp only
    rw [hfound, SnmpConfig.resent, hreads, Option.map_some, SnmpReads.resent, if_pos hmode,
      SnmpReads.referenced, ← hgiven]

/-- The strings that were read are read again. -/
theorem resolveCommunities_referenced
    (h : (resolveCommunities env switchId).Succeeds snmp snmp) :
    (resolveCommunities env switchId).Succeeds snmp.referenced snmp.resent := by
  obtain ⟨listed, hlisted, hreads⟩ := InPlace.andThen_succeeds.mp h
  obtain ⟨communities, heach, rfl⟩ := InPlace.within_succeeds.mp hlisted
  have hsame : communities = snmp.communities := by
    rcases withReadsCommunity_succeeds hreads with ⟨heq, -⟩ | ⟨_, _, _, -, -, -, heq⟩
    · exact (congrArg SnmpConfig.communities heq).symm
    · exact (congrArg SnmpConfig.communities heq).symm
  subst hsame
  refine InPlace.andThen_succeeds.mpr
    ⟨{ snmp with reads := snmp.reads.map SnmpReads.referenced },
      InPlace.within_succeeds.mpr ⟨snmp.communities, ?_, rfl⟩, ?_⟩
  · exact InPlace.forEach_succeeds_map (fun _ _ => resolveCommunity_referenced) heach
  · exact withReadsCommunity_referenced (fun _ => resolveCommunity_referenced) hreads

/-- A switch with the references of a stored one gets its secrets back. -/
theorem resolvedSnmp_referenced {raw : SwitchConfig} (hid : raw.id = switch.id)
    (hsnmp : raw.snmp = switch.snmp.map SnmpConfig.referenced)
    (hsources : checkSnmpSecretSources switch = .ok ())
    (h : resolvedSnmp env switch = (switch.snmp, .ok ())) :
    resolvedSnmp env raw = (switch.snmp.map SnmpConfig.resent, .ok ()) := by
  have hsucceeds : (resolveSnmpSecrets env).Succeeds { id := raw.id, snmp := raw.snmp }
      { id := raw.id, snmp := switch.snmp.map SnmpConfig.resent } := by
    -- two stages: the check of the sources, then the resolution itself
    refine InPlace.andThen_succeeds.mpr ⟨_, InPlace.check_succeeds.mpr ⟨rfl, ?_⟩, ?_⟩
    · rw [checkSnmpSecretSources_ok_iff] at hsources ⊢
      dsimp only
      rw [hsnmp]
      rintro _ hmem
      obtain ⟨snmp, hgiven, rfl⟩ := Option.map_eq_some_iff.mp hmem
      obtain ⟨hlisted, hreads⟩ := hsources snmp hgiven
      constructor
      · show ∀ community ∈ snmp.communities.map SnmpCommunity.referenced, community.OneSource
        rw [List.forall_mem_map]
        exact fun community hmem => OneSource.referenced (hlisted community hmem)
      · rw [readsCommunity_referenced]
        rintro _ hmem
        obtain ⟨community, hcommunity, rfl⟩ := Option.map_eq_some_iff.mp hmem
        exact OneSource.referenced (hreads community hcommunity)
    · unfold InPlace.Succeeds
      dsimp only
      rw [hsnmp, hid]
      rcases resolvedSnmp_ok (congrArg Prod.snd h) with ⟨hnone, -⟩ |
        ⟨snmp, snmp', hsome, hresult, hread⟩
      · rw [hnone]
        rfl
      -- the stored switch is already resolved
      · have hsame : snmp' = snmp := by
          rw [h, hsome] at hresult
          exact (Option.some.inj hresult).symm
        subst hsame
        have hagain : resolveCommunities env switch.id snmp'.referenced = (snmp'.resent, .ok ()) :=
          resolveCommunities_referenced hread
        rw [hsome, Option.map_some, Option.map_some]
        dsimp only
        rw [hagain]
  unfold InPlace.Succeeds at hsucceeds
  unfold resolvedSnmp
  rw [hsucceeds]

end Communities

/-! ## Stored switches can be written -/

section Written

variable {env : Environment} {formats : Formats} {switchId label : String}
variable {community result : SnmpCommunity} {snmp snmp' : SnmpConfig}
variable {raw switch stored : SwitchConfig}

/-- What is written of a community does not show whether its reference has been read. -/
theorem written_resolved (h : (resolveCommunity env switchId label).Succeeds community result) :
    result.toValue = community.toValue ∧ result.referenced = community.referenced := by
  rw [resolveCommunity, InPlace.assign_succeeds] at h
  split at h
  · obtain rfl := Except.ok.inj h
    exact ⟨rfl, rfl⟩
  · next hreference =>
    obtain ⟨value, rfl, hname⟩ := bind_ok_iff.mp h
    split at hname
    · cases hname
    · obtain rfl := Except.ok.inj hname
      cases hhas : community.hasReference with
      | false =>
        rw [readReference_eq_none hhas] at hreference
        cases hreference
      | true =>
        have hstill : { community with name := value }.hasReference = true := hhas
        constructor
        · rw [SnmpCommunity.toValue, SnmpCommunity.toValue, if_pos hhas, if_pos hstill]
        · rw [SnmpCommunity.referenced, SnmpCommunity.referenced, if_pos hhas, if_pos hstill]

/-- Secrets that were read can be written back. -/
theorem SnmpConfig.Writable.resolved (h : snmp.Writable)
    (hresolve : (resolveCommunities env switchId).Succeeds snmp snmp') : snmp'.Writable := by
  obtain ⟨listed, hlisted, hreads⟩ := InPlace.andThen_succeeds.mp hresolve
  obtain ⟨communities, heach, rfl⟩ := InPlace.within_succeeds.mp hlisted
  have hcommunities : ∀ result ∈ communities,
      SnmpCommunity.ofValue result.toValue = some result.referenced := by
    intro result hresult
    obtain ⟨raw, hraw, _, hsucceeds⟩ :=
      exists_of_mem_right (InPlace.forEach_succeeds heach) hresult
    obtain ⟨hvalue, hreferenced⟩ := written_resolved hsucceeds
    rw [hvalue, hreferenced]
    exact h.communities raw hraw
  rcases withReadsCommunity_succeeds hreads with ⟨rfl, -⟩ |
    ⟨reads, community, result, hsome, hcommunity, hsucceeds, rfl⟩
  · exact ⟨hcommunities, h.reads⟩
  · refine ⟨hcommunities, ?_⟩
    rintro _ ⟨⟩
    have hmode := readsCommunity_some hsome hcommunity
    have hgiven : reads.community = some community := by
      have hsome' : snmp.reads = some reads := hsome
      have hcommunity' : snmp.readsCommunity = some community := hcommunity
      rw [SnmpConfig.readsCommunity, hsome', Option.filter_some, if_pos (by simp [hmode])]
        at hcommunity'
      exact hcommunity'
    obtain ⟨hvalue, hreferenced⟩ := written_resolved hsucceeds
    have hread := h.reads reads hsome
    rw [SnmpReads.toValue, SnmpReads.referenced, hgiven] at hread
    rw [SnmpReads.toValue, SnmpReads.referenced]
    simp only [entryIfSome_some, Option.map_some, hvalue, hreferenced] at hread ⊢
    exact hread

/-- A VLAN that the ports of a stored switch may be in is one that can be written. -/
theorem Stored.taggable_inRange (h : Stored env stored) {id : ℕ} (hid : id ∈ taggable stored) :
    1 ≤ id ∧ id ≤ 65535 := by
  obtain ⟨switch, ⟨hexpand, hvalid⟩, -⟩ := validateSwitchConfig_succeeds_iff.mp h
  have hvlans : ∀ vlan ∈ stored.vlans, vlanIdInRange vlan.id = true := by
    have hframe := congrArg SwitchConfig.vlans (expandPortRanges_frame hexpand)
    have hrange := (invalidFields_eq_nil_iff.mp hvalid).2.1
    rw [hframe] at hrange
    exact hrange
  rw [taggable, List.mem_append] at hid
  rcases hid with hid | hid
  · obtain ⟨vlan, hvlan, rfl⟩ := List.mem_map.mp hid
    have hrange := hvlans vlan hvlan
    rw [vlanIdInRange, Bool.and_eq_true, decide_eq_true_iff, decide_eq_true_iff] at hrange
    omega
  · cases hmodel : stored.model with
    | none =>
      rw [hmodel] at hid
      exact absurd hid List.not_mem_nil
    | some model =>
      rw [hmodel] at hid
      have hone : id ∈ model.implicitVlans := hid
      have himplicit : model.implicitVlans = [1] := by cases model <;> rfl
      rw [himplicit, List.mem_singleton] at hone
      omega

/-- The ports of a stored switch are settled. -/
theorem Stored.sound (h : Stored env stored) : Sound stored := (validation_establishes h).1

/-- What the resolution makes of a switch that can be written can be written. -/
theorem SwitchConfig.Writable.settled {model : SwitchModel} (h : raw.Writable formats)
    (hsettles : Settles env model raw) (hstored : Stored env (settled env model raw)) :
    (SwitchConfigurator.settled env model raw).Writable formats := by
  have hsnmp : ∀ snmp ∈ (SwitchConfigurator.settled env model raw).snmp, snmp.Writable := by
    rcases resolvedSnmp_ok hsettles.snmp with ⟨-, hnone⟩ |
      ⟨snmp, snmp', hsome, hresult, hsucceeds⟩
    · intro snmp hmem
      have hmem' : (resolvedSnmp env raw).1 = some snmp := hmem
      rw [hnone] at hmem'
      cases hmem'
    · intro snmp'' hmem
      have hmem' : (resolvedSnmp env raw).1 = some snmp'' := hmem
      rw [hresult] at hmem'
      obtain rfl := Option.some.inj hmem'
      exact (h.snmp snmp hsome).resolved hsucceeds
  have hread := h.readable
  refine ⟨⟨hread.credentials, hread.vlans, ?_, hread.managementVlan, hread.validation,
    hread.vendorSpecific, hread.settings⟩, hsnmp, ?_⟩
  · exact optional_write (fun _ => by simp [SnmpConfig.toValue]) fun snmp hs => (hsnmp snmp hs).read
  · intro port hport
    have hsound := hstored.sound
    exact ⟨hstored.taggable_inRange (hsound.untagged port hport),
      fun id hid => hstored.taggable_inRange (hsound.tagged port hport id hid)⟩

end Written

/-! ## Switches from files -/

/-- A switch that one file gave, or several that were merged. -/
inductive FromFiles (env : Environment) (formats : Formats) (stored : SwitchConfig) : Prop where
  | single (raw : SwitchConfig) (hread : FromDocument formats raw)
    (hvalidated : (validateSwitchConfig env).Succeeds raw stored)
  | merged (order : MapOrder) (main : ConfigFile) (folders : List (List ConfigFile))
    (loaded : Loaded)
    (hread : ∀ file ∈ main :: folders.flatten, ∀ raw ∈ file.switches, FromDocument formats raw)
    (hload : loadMulti env order main folders = .ok loaded) (hvalid : stored ∈ loaded.valid)

section FromFiles

variable {env : Environment} {formats : Formats} {stored : SwitchConfig}

/-- What comes from files is what the store may hold. -/
theorem FromFiles.isStored (h : FromFiles env formats stored) : Stored env stored := by
  cases h with
  | single raw hread hvalidated => exact (validation_establishes hvalidated).2
  | merged order main folders loaded hread hload hvalid =>
    exact stored_of_loadMulti hload stored hvalid

/-- The switches of a loaded file can be written back. -/
theorem LoadedAs.writable {sourceType : ConfigSourceType} {file : ConfigFile}
    {config : ConfigWithMetadata} (h : LoadedAs sourceType file config)
    (hread : ∀ raw ∈ file.switches, FromDocument formats raw) :
    ∀ switch ∈ config.switches, switch.Writable formats := by
  intro switch hswitch
  obtain ⟨raw, hraw, hexpand⟩ := exists_of_mem_right h.switches hswitch
  exact (hread raw hraw).writable.expanded hexpand.1

/-- So can what is stored from files. -/
theorem FromFiles.writable (h : FromFiles env formats stored) : stored.Writable formats := by
  have hstored := h.isStored
  cases h with
  | single raw hread hvalidated =>
    obtain ⟨switch, hexpand, hsteps⟩ := validateSwitchConfig_succeeds_iff.mp hvalidated
    obtain ⟨model, -, hsettles, rfl⟩ := resolutionSteps_succeeds_iff.mp hsteps
    exact (hread.writable.expanded hexpand.1).settled hsettles hstored
  | merged order main folders loaded hread hload hvalid =>
    obtain ⟨merged, model, hmerged, -, hsettles, -, hresult⟩ := mem_valid_loadMulti hload hvalid
    obtain ⟨mainConfig, folderConfigs, hmain, hfolders, rfl⟩ := hmerged
    rw [List.forall_mem_cons] at hread
    rw [hresult] at hstored ⊢
    refine (mergeSingleSwitch_writable _ fun source hsource => ?_).settled hsettles hstored
    obtain ⟨config, hconfig, hsource⟩ := List.mem_flatMap.mp hsource
    obtain ⟨switch, hswitch, rfl⟩ := List.mem_map.mp hsource
    rw [mem_byPriority, List.mem_cons] at hconfig
    rcases hconfig with rfl | hconfig
    · exact hmain.writable hread.1 switch (List.mem_of_mem_filter hswitch)
    · obtain ⟨file, hfile, hloaded⟩ := exists_of_mem_right hfolders hconfig
      exact hloaded.writable (hread.2 file hfile) switch (List.mem_of_mem_filter hswitch)

/-- Written and read again, a stored switch is what it was, but for its secrets. -/
theorem FromFiles.read (h : FromFiles env formats stored) :
    SwitchConfig.ofValue formats (stored.toValue formats) = some stored.withoutSecrets :=
  h.writable.read_eq_iff.mpr fun port hport =>
    ⟨(h.isStored.sound.resolved port hport).1, (h.isStored.sound.resolved port hport).2⟩

/-- A stored switch has credentials. -/
theorem Stored.credentials (h : Stored env stored) : stored.credentials.isSome := by
  obtain ⟨switch, ⟨hexpand, -⟩, hsteps⟩ := validateSwitchConfig_succeeds_iff.mp h
  obtain ⟨model, -, hsettles, -⟩ := resolutionSteps_succeeds_iff.mp hsteps
  have hframe := congrArg SwitchConfig.credentials (expandPortRanges_frame hexpand)
  have hrequired := hsettles.required
  rw [← hframe]
  cases hcredentials : switch.credentials with
  | some credentials => rfl
  | none => simp [getMissingRequiredFields, hcredentials] at hrequired

end FromFiles

/-! ## What is put back -/

/-- A stored switch that was sent back. What a request has no field for is at its default. -/
def SwitchConfig.resent (stored : SwitchConfig) : SwitchConfig :=
  { stored with
    snmp := stored.snmp.map SnmpConfig.resent
    validation := none
    vendorSpecific := []
    settings := {} }

/-- The switch that the body of a stored one describes, before it is validated. -/
def SwitchConfig.sent (stored : SwitchConfig) : SwitchConfig :=
  { stored.resent with snmp := stored.snmp.map SnmpConfig.referenced }

section

variable {env : Environment} {reads : SnmpReads} {raw switch stored : SwitchConfig}

theorem mode_resent : reads.resent.mode = reads.mode := by
  rw [SnmpReads.resent]
  split
  · rfl
  · rfl

theorem isSome_community_resent :
    reads.resent.community.isSome = reads.community.isSome := by
  rw [SnmpReads.resent]
  split
  · rfl
  · exact Option.isSome_map

/-- Sent back, a switch reads its SNMP as before. -/
theorem readsEnabled_resent (hsnmp : raw.snmp = switch.snmp.map SnmpConfig.resent) :
    readsEnabled raw = readsEnabled switch := by
  rw [readsEnabled, readsEnabled, hsnmp]
  cases switch.snmp with
  | none => rfl
  | some snmp =>
    show (snmp.reads.map SnmpReads.resent).any _ = snmp.reads.any _
    rw [Option.any_map]
    congr 1
    funext reads
    show (reads.resent.mode == .auto && reads.resent.community.isSome) = _
    rw [mode_resent, isSome_community_resent]

/-- Sent back, a switch is supported as before. -/
theorem checkVendorSupport_resent (hid : raw.id = switch.id) (hmodel : raw.model = switch.model)
    (hsnmp : raw.snmp = switch.snmp.map SnmpConfig.resent) :
    checkVendorSupport raw = checkVendorSupport switch := by
  have hhosts : (raw.snmp.any fun snmp => snmp.communities.any fun c => !c.allowedHosts.isEmpty) =
      switch.snmp.any fun snmp => snmp.communities.any fun c => !c.allowedHosts.isEmpty := by
    rw [hsnmp, Option.any_map]
    rfl
  rw [checkVendorSupport, checkVendorSupport, hmodel, readsEnabled_resent hsnmp, hhosts, hid]

/-- What is read back of a stored switch is validated. -/
theorem Stored.validated_resent (h : Stored env stored) :
    (validateSwitchConfig env).Succeeds stored.sent stored.resent := by
  obtain ⟨switch, ⟨hexpand, hvalid⟩, hsteps⟩ := validateSwitchConfig_succeeds_iff.mp h
  have hexpanded := h.accepted.expanded
  obtain rfl : stored = switch :=
    Except.ok.inj (hexpanded.expandPortRanges_eq.symm.trans hexpand)
  obtain ⟨model, hmodel, hsettles, hsettled⟩ := resolutionSteps_succeeds_iff.mp hsteps
  have hsnmp : resolvedSnmp env stored.sent = (stored.snmp.map SnmpConfig.resent, .ok ()) :=
    resolvedSnmp_referenced rfl rfl h.checkSnmpSecretSources h.resolvedSnmp_eq
  have hexpands : Expanded stored.sent := ⟨hexpanded.ports, hexpanded.portMirrors⟩
  have hvendor : checkVendorSupport
      { stored.sent with snmp := stored.snmp.map SnmpConfig.resent } = .ok () := by
    have hstored := hsettles.vendor
    rw [h.resolvedSnmp_eq] at hstored
    rw [← hstored]
    exact checkVendorSupport_resent rfl rfl rfl
  -- its ports are resolved already, so resolving them again keeps them
  have hports : stored.ports = stored.ports.map fun port =>
      filterTagged (definedVlans model stored) false (resolvedPort stored.vlans port) :=
    congrArg SwitchConfig.ports hsettled
  refine validateSwitchConfig_succeeds_iff.mpr
    ⟨stored.sent, ⟨hexpands.expandPortRanges_eq, ?_⟩,
      resolutionSteps_succeeds_iff.mpr ⟨model, hmodel, ?_, ?_⟩⟩
  · exact invalidFields_eq_nil_iff.mpr (invalidFields_eq_nil_iff.mp hvalid)
  · exact {
      required := hsettles.required
      snmp := by rw [hsnmp]
      vendor := by rwa [hsnmp]
      agree := hsettles.agree
      names := hsettles.names
      untagged := hsettles.untagged
      speeds := hsettles.speeds
      mirrors := hsettles.mirrors }
  · rw [settled, hsnmp]
    have hkept : stored.resent =
        { stored.resent with
          ports := stored.ports.map fun port =>
            filterTagged (definedVlans model stored) false (resolvedPort stored.vlans port) } := by
      rw [← hports]
      rfl
    exact hkept

end

/-! ## The request -/

namespace Api

/-- `SetSwitchConfigRequest` as it is read from a body. Other entries are not looked at. -/
def SetSwitchConfigRequest.ofValue : Value → Option SetSwitchConfigRequest :=
    record fun entries => do
  let id ← fieldOr "id" none (optional string) entries
  let hostname ← fieldOr "hostname" none (optional string) entries
  let model ← fieldOr "model" none (optional variant) entries
  let managementIp ← fieldOr "management_ip" none (optional string) entries
  let credentials ← fieldOr "credentials" none (optional Credentials.ofValue) entries
  let vlans ← fieldOr "vlans" [] (sequence Vlan.ofValue) entries
  let ports ← fieldOr "ports" [] (sequence Port.ofValue) entries
  let portMirrors ← fieldOr "port_mirrors" [] (sequence PortMirror.ofValue) entries
  let snmp ← fieldOr "snmp" none (optional SnmpConfig.ofValue) entries
  let managementVlan ← fieldOr "management_vlan" none (optional u16) entries
  return { id, hostname, model, managementIp, credentials, vlans, ports, portMirrors, snmp,
           managementVlan }

/-- The request for a switch. -/
def SetSwitchConfigRequest.of (switch : SwitchConfig) : SetSwitchConfigRequest where
  id := some switch.id
  hostname := switch.hostname
  model := switch.model
  managementIp := switch.managementIp
  credentials := switch.credentials
  vlans := switch.vlans
  ports := switch.ports
  portMirrors := switch.portMirrors
  snmp := switch.snmp
  managementVlan := switch.managementVlan

/-- `GET /switches/{id}/desired-config`. -/
def getDesiredConfig (formats : Formats) (id : String) (store : ConfigStore) : StatusCode × Value :=
  match store.switches.find? (·.id = id) with
  | some switch => (.ok, switch.toValue formats)
  | none => (.notFound, .mapping [("error", .string s!"Switch '{id}' not found")])

/-- A body with the credentials supplied again. -/
def resupply (credentials body : Value) : Value := body.modify "credentials" fun _ => credentials

section

variable {formats : Formats} {body credentials : Value} {switch : SwitchConfig}
variable {supplied : Option Credentials}

/-- What is read as a switch is read as the request for it, with the credentials that are
supplied. -/
theorem ofValue_resupply (h : SwitchConfig.ofValue formats body = some switch)
    (hthere : (body.get "credentials").isSome)
    (hread : optional Credentials.ofValue credentials = some supplied) :
    SetSwitchConfigRequest.ofValue (resupply credentials body) =
      some (.of { switch with credentials := supplied }) := by
  cases body with
  | mapping entries =>
    rw [SwitchConfig.ofValue, record_mapping] at h
    obtain ⟨id, hid, h⟩ := Option.bind_eq_some_iff.mp h
    obtain ⟨hostname, hhostname, h⟩ := Option.bind_eq_some_iff.mp h
    obtain ⟨model, hmodel, h⟩ := Option.bind_eq_some_iff.mp h
    obtain ⟨managementIp, hip, h⟩ := Option.bind_eq_some_iff.mp h
    obtain ⟨_, -, h⟩ := Option.bind_eq_some_iff.mp h
    obtain ⟨vlans, hvlans, h⟩ := Option.bind_eq_some_iff.mp h
    obtain ⟨ports, hports, h⟩ := Option.bind_eq_some_iff.mp h
    obtain ⟨portMirrors, hmirrors, h⟩ := Option.bind_eq_some_iff.mp h
    obtain ⟨snmp, hsnmp, h⟩ := Option.bind_eq_some_iff.mp h
    obtain ⟨managementVlan, hmanagement, h⟩ := Option.bind_eq_some_iff.mp h
    obtain ⟨validation, -, h⟩ := Option.bind_eq_some_iff.mp h
    obtain ⟨vendorSpecific, -, h⟩ := Option.bind_eq_some_iff.mp h
    obtain ⟨settings, -, h⟩ := Option.bind_eq_some_iff.mp h
    obtain rfl := Option.some.inj h
    -- replacing the credentials changes no other field of the body
    have hkept {α : Type} {name : String} {default : α} {read : Value → Option α}
        (hne : name ≠ "credentials") :
        fieldOr name default read (entries.map fun e =>
          if e.1 = "credentials" then (e.1, credentials) else e) =
            fieldOr name default read entries := by
      rw [fieldOr, fieldOr, entry_replaced (f := fun _ => credentials), if_neg hne]
    -- the body had credentials (masked ones), so they are replaced and not missing
    have hnew : fieldOr "credentials" none (optional Credentials.ofValue) (entries.map fun e =>
        if e.1 = "credentials" then (e.1, credentials) else e) = some supplied := by
      obtain ⟨value, hvalue⟩ := Option.isSome_iff_exists.mp hthere
      rw [get_mapping] at hvalue
      rw [fieldOr, entry_replaced (f := fun _ => credentials), if_pos rfl, hvalue]
      exact hread
    rw [resupply, modify_mapping, SetSwitchConfigRequest.ofValue, record_mapping]
    refine Option.bind_eq_some_iff.mpr ⟨some id, ?_, ?_⟩
    · rw [hkept (by simp)]
      exact fieldOr_of_field rfl hid
    refine Option.bind_eq_some_iff.mpr ⟨hostname, (hkept (by simp)).trans hhostname, ?_⟩
    refine Option.bind_eq_some_iff.mpr ⟨model, (hkept (by simp)).trans hmodel, ?_⟩
    refine Option.bind_eq_some_iff.mpr ⟨managementIp, (hkept (by simp)).trans hip, ?_⟩
    refine Option.bind_eq_some_iff.mpr ⟨supplied, hnew, ?_⟩
    refine Option.bind_eq_some_iff.mpr ⟨vlans, (hkept (by simp)).trans hvlans, ?_⟩
    refine Option.bind_eq_some_iff.mpr ⟨ports, (hkept (by simp)).trans hports, ?_⟩
    refine Option.bind_eq_some_iff.mpr ⟨portMirrors, (hkept (by simp)).trans hmirrors, ?_⟩
    refine Option.bind_eq_some_iff.mpr ⟨snmp, (hkept (by simp)).trans hsnmp, ?_⟩
    refine Option.bind_eq_some_iff.mpr ⟨managementVlan, (hkept (by simp)).trans hmanagement, ?_⟩
    rfl
  | _ => cases h

end

section

variable {env : Environment} {formats : Formats} {store : ConfigStore} {stored : SwitchConfig}
variable {request : SetSwitchConfigRequest} {result : SwitchConfig} {id : String}

/-- A valid request for a switch that is stored replaces its entry. -/
theorem setSwitchConfig_replaces (hid : request.id.filter (· ≠ id) = none)
    (hfind : store.switches.find? (·.id = id) = some stored)
    (h : (validateSwitchConfig env).Succeeds (request.newConfig id) result) :
    ∃ i, store.switches.findIdx? (·.id = id) = some i ∧
      (setSwitchConfig env id request store).answer.status = .ok ∧
      (setSwitchConfig env id request store).store =
        { store with switches := store.switches.set i result } := by
  obtain ⟨i, hindex⟩ : ∃ i, store.switches.findIdx? (·.id = id) = some i := by
    rw [← Option.isSome_iff_exists, List.findIdx?_isSome, List.any_eq_true]
    exact ⟨stored, List.mem_of_find?_eq_some hfind, by simpa using List.find?_some hfind⟩
  have hrun : setSwitchConfig env id request store =
      { store := { store with switches := store.switches.set i result }
        answer :=
          { status := .ok
            body := [("status", .text "ok"), ("message", .text s!"Switch '{id}' config replaced"),
              ("switch_id", .text id)] } } := by
    unfold InPlace.Succeeds at h
    unfold setSwitchConfig
    rw [hid, hindex, h]
    rfl
  rw [hrun]
  exact ⟨i, hindex, rfl, rfl⟩

/-- The body that GET gives, put back with the credentials, is accepted. It replaces the switch by
one that has the same fields as far as a request has them. -/
theorem desiredConfig_put_back {credentials : Value} (h : FromFiles env formats stored)
    (hfind : store.switches.find? (·.id = stored.id) = some stored)
    (hcredentials : optional Credentials.ofValue credentials = some stored.credentials) :
    ∃ body request i, getDesiredConfig formats stored.id store = (.ok, body) ∧
      SetSwitchConfigRequest.ofValue (resupply credentials body) = some request ∧
      store.switches.findIdx? (·.id = stored.id) = some i ∧
      (setSwitchConfig env stored.id request store).answer.status = .ok ∧
      (setSwitchConfig env stored.id request store).store =
        { store with switches := store.switches.set i stored.resent } := by
  have hbody : getDesiredConfig formats stored.id store = (.ok, stored.toValue formats) := by
    rw [getDesiredConfig, hfind]
  have hthere : ((stored.toValue formats).get "credentials").isSome := by
    obtain ⟨given, hgiven⟩ := Option.isSome_iff_exists.mp h.isStored.credentials
    simp [SwitchConfig.toValue, SwitchConfig.toEntries, hgiven]
  have hsent : SetSwitchConfigRequest.of
      { stored.withoutSecrets with credentials := stored.credentials } = .of stored.sent := rfl
  have hrequest := ofValue_resupply h.read hthere hcredentials
  rw [hsent] at hrequest
  have hid : (SetSwitchConfigRequest.of stored.sent).id.filter (· ≠ stored.id) = none := by
    rw [Option.filter_eq_none_iff]
    rintro _ ⟨⟩
    simp [SwitchConfig.sent, SwitchConfig.resent]
  have hnew : (SetSwitchConfigRequest.of stored.sent).newConfig stored.id = stored.sent := rfl
  obtain ⟨i, hindex, hstatus, hstore⟩ := setSwitchConfig_replaces hid hfind
    (hnew ▸ h.isStored.validated_resent)
  exact ⟨_, _, i, hbody, hrequest, hindex, hstatus, hstore⟩

end

/-! ## A switch with settings -/

/-- A switch whose ports are enforced. Its reads are off; their community has a name as well as a
file. -/
def enforcedSwitch : SwitchConfig where
  id := "sw1"
  hostname := some "office"
  model := some .aruba2930F
  managementIp := some "192.0.2.10"
  credentials := some { username := "admin" }
  vlans := [{ id := 10, name := "staff" }]
  ports := [{ portId := "1", vlan := 10 }]
  snmp := some
    { reads := some { community := some { name := "old", nameFile := some "/run/reads" } } }
  settings := { enforcePortConfig := true }

def enforcedDocument : Value :=
  .mapping [("id", .string "sw1"), ("hostname", .string "office"),
    ("model", .string "Aruba2930F"), ("management_ip", .string "192.0.2.10"),
    ("credentials", .mapping [("username", .string "admin")]),
    ("vlans", .sequence [.mapping [("id", .integer 10), ("name", .string "staff")]]),
    ("ports", .sequence [.mapping [("port_id", .string "1"), ("vlan", .integer 10)]]),
    ("snmp", .mapping [("reads", .mapping [("mode", .string "off"),
      ("community", .mapping [("name", .string "old"), ("name_file", .string "/run/reads")])])]),
    ("settings", .mapping [("enforce_port_config", .bool true)])]

def suppliedCredentials : Value := .mapping [("username", .string "admin")]

/-- A switch with enforced ports, from a file. -/
theorem enforcedSwitch_fromFiles : FromFiles plainEnvironment plainFormats enforcedSwitch := by
  refine .single enforcedSwitch ⟨enforcedDocument, by decide +kernel⟩ ?_
  show validateSwitchConfig _ _ = (_, .ok ())
  decide +kernel

theorem desiredConfig_put_back_enforced : ∃ body request i,
    getDesiredConfig plainFormats "sw1" { switches := [enforcedSwitch] } = (.ok, body) ∧
      SetSwitchConfigRequest.ofValue (resupply suppliedCredentials body) = some request ∧
      [enforcedSwitch].findIdx? (·.id = "sw1") = some i ∧
      (setSwitchConfig plainEnvironment "sw1" request
        { switches := [enforcedSwitch] }).answer.status = .ok ∧
      (setSwitchConfig plainEnvironment "sw1" request { switches := [enforcedSwitch] }).store =
        { switches := [enforcedSwitch].set i enforcedSwitch.resent } :=
  @desiredConfig_put_back plainEnvironment plainFormats { switches := [enforcedSwitch] }
    enforcedSwitch suppliedCredentials enforcedSwitch_fromFiles (by decide +kernel)
    (by decide +kernel)

/-- Sent back, the switch has lost its settings, and the name beside the reference. -/
theorem settings_lost : FromFiles plainEnvironment plainFormats enforcedSwitch ∧
    enforcedSwitch.settings.enforcePortConfig = true ∧
    (SetSwitchConfigRequest.ofValue (resupply suppliedCredentials
        (getDesiredConfig plainFormats "sw1" { switches := [enforcedSwitch] }).2)).map
      (fun request => (setSwitchConfig plainEnvironment "sw1" request
        { switches := [enforcedSwitch] }).store.switches) =
      some [{ enforcedSwitch with
        snmp := some { reads := some { community := some { nameFile := some "/run/reads" } } }
        settings := {} }] := by
  refine ⟨enforcedSwitch_fromFiles, rfl, ?_⟩
  decide +kernel

end Api

end SwitchConfigurator
