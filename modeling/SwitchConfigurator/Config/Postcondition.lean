import SwitchConfigurator.Config.PortExpansion
import SwitchConfigurator.Config.Stable

/-!
# What a validation establishes

Each step of `validate_switch_config` keeps what the steps before it have established and does
nothing on its own result, so that the result is valid and stays as it is.
-/

namespace SwitchConfigurator

open Keyed RelatedLists

/-- What holds of a switch that the validation has let through. -/
structure Sound (switch : SwitchConfig) : Prop where
  untagged : ∀ port ∈ switch.ports, port.vlan ∈ taggable switch
  tagged : ∀ port ∈ switch.ports, ∀ id ∈ port.taggedVlans, id ∈ taggable switch
  resolved : ∀ port ∈ switch.ports, port.vlanName = none ∧ port.taggedVlanRefs = []
  speeds : ∃ model, switch.model = some model ∧
    ∀ port ∈ switch.ports, model.supportsSpeed port.speedDuplex = true
  destinations : ∀ mirror ∈ switch.portMirrors,
    mirror.destinationPort ∉ switch.ports.map Port.portId
  names : ∀ v ∈ switch.vlans, ∀ w ∈ switch.vlans, v.id ≠ w.id → v.name ≠ w.name

/-! ## Secrets -/

section

variable {env : Environment} {switchId label : String} {community result : SnmpCommunity}
variable {snmp snmp' : SnmpConfig} {switch : SwitchConfig}

/-- A community that was read stays as it is. -/
theorem idempotent_resolveCommunity : (resolveCommunity env switchId label).Idempotent := by
  refine InPlace.idempotent_assign fun community result h => ?_
  cases hreference : readReference env switchId label community with
  | none =>
    rw [hreference] at h
    obtain rfl := Except.ok.inj h
    rw [hreference]
  | some reference =>
    obtain ⟨value, source⟩ := reference
    rw [hreference] at h
    obtain ⟨value, rfl, hname⟩ := bind_ok_iff.mp h
    split at hname
    · cases hname
    · obtain rfl := Except.ok.inj hname
      -- the reference is still there, and reads as what the name has been set to
      have hagain : readReference env switchId label { community with name := value } =
          some (.ok value, source) := hreference
      rw [hagain]
      refine bind_ok_iff.mpr ⟨value, rfl, ?_⟩
      rw [if_neg (by simp)]

/-- A community whose sources the checks let pass. -/
def SnmpCommunity.OneSource (community : SnmpCommunity) : Prop :=
  (community.nameFile.isSome && community.nameCredential.isSome) = false ∧
    (community.name.isEmpty && !community.hasReference) = false

/-- The check wants one source for a community. -/
theorem checkSecretSource_ok_iff :
    checkSecretSource switchId label community = .ok () ↔ community.OneSource := by
  unfold checkSecretSource SnmpCommunity.OneSource
  cases community.nameFile.isSome && community.nameCredential.isSome <;>
    cases community.name.isEmpty && !community.hasReference <;> simp

theorem checkSnmpSecretSources_ok_iff : checkSnmpSecretSources switch = .ok () ↔
    ∀ snmp ∈ switch.snmp, (∀ community ∈ snmp.communities, community.OneSource) ∧
      ∀ community ∈ snmp.readsCommunity, community.OneSource := by
  unfold checkSnmpSecretSources
  cases switch.snmp with
  | none => simp
  | some snmp =>
    have hlisted : (∀ entry ∈ labelledCommunities snmp, entry.2.OneSource) ↔
        (∀ community ∈ snmp.communities, community.OneSource) ∧
          ∀ community ∈ snmp.readsCommunity, community.OneSource := by
      have hindexed : ∀ p : SnmpCommunity → Prop,
          (∀ entry ∈ snmp.communities.zipIdx, p entry.1) ↔ ∀ c ∈ snmp.communities, p c := by
        intro p
        rw [← List.forall_mem_map, List.zipIdx_map_fst]
      rw [labelledCommunities, List.forall_mem_append, List.forall_mem_map, hindexed]
      simp
    simp only [forM_ok_iff, checkSecretSource_ok_iff, hlisted, Option.mem_def, Option.some.injEq,
      forall_eq']

/-- Reading a community gives it no second source. -/
theorem OneSource.resolved (h : community.OneSource)
    (hresolve : (resolveCommunity env switchId label).Succeeds community result) :
    result.OneSource := by
  -- the resolution only ever fills in the name
  have hchecked : (resolveCommunity env switchId label).Succeeds community result →
      result.nameFile = community.nameFile ∧ result.nameCredential = community.nameCredential ∧
        (community.hasReference = false → result = community) := by
    intro hresolve
    rw [resolveCommunity, InPlace.assign_succeeds] at hresolve
    split at hresolve
    · obtain rfl := Except.ok.inj hresolve
      exact ⟨rfl, rfl, fun _ => rfl⟩
    · next hreference =>
      obtain ⟨value, rfl, hname⟩ := bind_ok_iff.mp hresolve
      split at hname
      · cases hname
      · obtain rfl := Except.ok.inj hname
        refine ⟨rfl, rfl, fun hnone => ?_⟩
        unfold SnmpCommunity.hasReference at hnone
        unfold readReference at hreference
        split at hreference
        · next hfile => simp [hfile] at hnone
        · next hcredential => simp [hcredential] at hnone
        · cases hreference
  obtain ⟨hfile, hcredential, hsame⟩ := hchecked hresolve
  cases hreference : community.hasReference with
  | false => rwa [hsame hreference]
  | true =>
    have hstill : result.hasReference = true := by
      rw [SnmpCommunity.hasReference, hfile, hcredential]
      exact hreference
    refine ⟨?_, by simp [hstill]⟩
    rw [hfile, hcredential]
    exact h.1

/-! ### All communities of a switch -/

/-- A community is used for reads only where they are automatic. -/
theorem readsCommunity_some {reads : SnmpReads} (hreads : snmp.reads = some reads)
    (hcommunity : snmp.readsCommunity = some community) : reads.mode = .auto := by
  rw [SnmpConfig.readsCommunity, hreads] at hcommunity
  obtain ⟨_, hfilter, -⟩ := Option.bind_eq_some_iff.mp hcommunity
  obtain ⟨heq, hmode⟩ := Option.filter_eq_some_iff.mp hfilter
  obtain rfl := Option.some.inj heq
  simpa using hmode

/-- What the resolution of the service's own read community succeeds with. -/
theorem withReadsCommunity_succeeds {f : InPlace Error SnmpCommunity}
    (h : (withReadsCommunity f).Succeeds snmp snmp') :
    (snmp' = snmp ∧ snmp.readsCommunity = none) ∨
      ∃ reads community result, snmp.reads = some reads ∧ snmp.readsCommunity = some community ∧
        f.Succeeds community result ∧
        snmp' = { snmp with reads := some { reads with community := some result } } := by
  unfold InPlace.Succeeds withReadsCommunity at h
  split at h
  · next reads community hreads hcommunity =>
    obtain ⟨rfl, hok⟩ := Prod.mk.inj h
    exact Or.inr ⟨reads, community, _, hreads, hcommunity, InPlace.succeeds_iff.mpr ⟨hok, rfl⟩, rfl⟩
  · next hnone =>
    obtain ⟨rfl, -⟩ := Prod.mk.inj h
    refine Or.inl ⟨rfl, ?_⟩
    cases hreads : snmp.reads with
    | none => simp [SnmpConfig.readsCommunity, hreads]
    | some reads =>
      refine Option.eq_none_iff_forall_ne_some.mpr fun community hcommunity => ?_
      exact hnone reads community hreads hcommunity

theorem readsCommunity_set {reads : SnmpReads} (hmode : reads.mode = .auto) :
    { snmp with reads := some { reads with community := some result } }.readsCommunity =
      some result := by
  rw [SnmpConfig.readsCommunity, Option.filter_some, if_pos (by simp [hmode])]
  rfl

/-- The step on the reading community may be repeated if the one on it may. -/
theorem idempotent_withReadsCommunity {f : InPlace Error SnmpCommunity} (hf : f.Idempotent) :
    (withReadsCommunity f).Idempotent := by
  intro snmp snmp' h
  rcases withReadsCommunity_succeeds h with ⟨rfl, -⟩ |
    ⟨reads, community, result, hreads, hcommunity, hsucceeds, rfl⟩
  · exact h
  · have hagain : f result = (result, .ok ()) := hf hsucceeds
    unfold InPlace.Succeeds withReadsCommunity
    rw [readsCommunity_set (readsCommunity_some hreads hcommunity)]
    dsimp only
    rw [hagain]

/-- Communities that were read stay as they are. -/
theorem idempotent_resolveCommunities : (resolveCommunities env switchId).Idempotent := by
  intro snmp snmp' h
  obtain ⟨_, hlisted, hreads⟩ := InPlace.andThen_succeeds.mp h
  obtain ⟨communities, hcommunities, rfl⟩ := InPlace.within_succeeds.mp hlisted
  have hagain := InPlace.idempotent_forEach
    (fun i => @idempotent_resolveCommunity env switchId (communityLabel i)) 0 hcommunities
  have hkept : snmp'.communities = communities := by
    rcases withReadsCommunity_succeeds hreads with ⟨rfl, -⟩ | ⟨_, _, _, -, -, -, rfl⟩
    · rfl
    · rfl
  refine InPlace.andThen_succeeds.mpr ⟨snmp', InPlace.within_succeeds.mpr ⟨communities, ?_, ?_⟩,
    idempotent_withReadsCommunity idempotent_resolveCommunity hreads⟩
  · rw [hkept]
    exact hagain
  · rw [← hkept]

/-- Reading the communities gives none a second source. -/
theorem OneSource.resolveCommunities
    (hsources : (∀ community ∈ snmp.communities, community.OneSource) ∧
      ∀ community ∈ snmp.readsCommunity, community.OneSource)
    (h : (resolveCommunities env switchId).Succeeds snmp snmp') :
    (∀ community ∈ snmp'.communities, community.OneSource) ∧
      ∀ community ∈ snmp'.readsCommunity, community.OneSource := by
  obtain ⟨_, hlisted, hreads⟩ := InPlace.andThen_succeeds.mp h
  obtain ⟨communities, hcommunities, rfl⟩ := InPlace.within_succeeds.mp hlisted
  have hrel := InPlace.forEach_succeeds hcommunities
  have hone : ∀ community ∈ communities, community.OneSource := by
    intro community hmem
    obtain ⟨raw, hraw, _, hsucceeds⟩ := exists_of_mem_right hrel hmem
    exact OneSource.resolved (hsources.1 raw hraw) hsucceeds
  rcases withReadsCommunity_succeeds hreads with ⟨rfl, hnone⟩ |
    ⟨reads, community, result, hsome, hcommunity, hsucceeds, rfl⟩
  · exact ⟨hone, by simp [hnone]⟩
  · refine ⟨hone, ?_⟩
    rw [readsCommunity_set (readsCommunity_some hsome hcommunity)]
    rintro _ ⟨⟩
    exact OneSource.resolved (hsources.2 community hcommunity) hsucceeds

theorem idempotent_resolveSnmpSecrets : (resolveSnmpSecrets env).Idempotent := by
  intro raw result h
  obtain ⟨switch, hcheck, hread⟩ := InPlace.andThen_succeeds.mp h
  obtain ⟨rfl, hsources⟩ := InPlace.check_succeeds.mp hcheck
  unfold InPlace.Succeeds at hread
  dsimp only at hread
  cases hsnmp : switch.snmp with
  | none =>
    rw [hsnmp] at hread
    obtain ⟨rfl, -⟩ := Prod.mk.inj hread
    exact h
  | some snmp =>
    rw [hsnmp] at hread
    obtain ⟨rfl, hok⟩ := Prod.mk.inj hread
    have hsucceeds : (resolveCommunities env switch.id).Succeeds snmp
        (resolveCommunities env switch.id snmp).1 := InPlace.succeeds_iff.mpr ⟨hok, rfl⟩
    refine InPlace.andThen_succeeds.mpr ⟨_, InPlace.check_succeeds.mpr ⟨rfl, ?_⟩, ?_⟩
    · rw [checkSnmpSecretSources_ok_iff] at hsources ⊢
      rintro _ ⟨⟩
      exact OneSource.resolveCommunities (hsources snmp hsnmp) hsucceeds
    · have hagain := idempotent_resolveCommunities hsucceeds
      unfold InPlace.Succeeds at hagain ⊢
      dsimp only
      rw [hagain]

end

/-! ## The validation -/

section

variable {env : Environment} {raw result : SwitchConfig}

/-- Resolving a port keeps its VLAN in range. -/
theorem vlanIdInRange_resolved {vlans : List Vlan} {port : Port}
    (hvlans : ∀ vlan ∈ vlans, vlanIdInRange vlan.id = true)
    (hport : vlanIdInRange port.vlan = true) :
    vlanIdInRange (resolvedPort vlans port).vlan = true := by
  show vlanIdInRange ((untaggedId vlans port).getD port.vlan) = true
  cases hid : untaggedId vlans port with
  | none => exact hport
  | some id =>
    unfold untaggedId at hid
    split at hid
    · obtain rfl := Option.some.inj hid
      exact hport
    · obtain ⟨vlan, hvlan, rfl⟩ := Option.map_eq_some_iff.mp hid
      exact hvlans vlan (mem_of_lookup hvlan)

/-- An accepted switch is expanded. -/
theorem Accepted.expanded (h : Accepted raw) : Expanded raw := by
  refine ⟨fun port hport => (h.final port hport).single, fun mirror hmirror => ?_⟩
  obtain ⟨env, first, hfirst⟩ := h
  obtain ⟨-, hmirrors, -, rfl⟩ := validatedAs hfirst
  obtain ⟨entry, hentry, rfl⟩ := List.mem_map.mp hmirror
  exact expandMirror_expanded (hmirrors entry hentry)

/-- A valid switch that is accepted expands to itself. -/
theorem expandsTo_self (h : Accepted raw) (hvalid : invalidFields raw = []) :
    ExpandsTo raw raw :=
  ⟨h.expanded.expandPortRanges_eq, hvalid⟩

/-- The validation accepts what it has let through. -/
theorem settles_settled {model : SwitchModel} (h : Settles env model raw) :
    Settles env model (settled env model raw) := by
  have hsecrets : (resolveSnmpSecrets env).Succeeds
      { id := raw.id, snmp := raw.snmp } { id := raw.id, snmp := (resolvedSnmp env raw).1 } := by
    have hok := h.snmp
    have heq := resolveSnmpSecrets_eq env { id := raw.id, snmp := raw.snmp }
    unfold InPlace.Succeeds
    rw [heq]
    exact Prod.ext rfl hok
  -- resolving twice gives the same section
  have hagain : resolvedSnmp env (settled env model raw) = ((resolvedSnmp env raw).1, .ok ()) := by
    have hfixed : resolveSnmpSecrets env { id := raw.id, snmp := (resolvedSnmp env raw).1 } =
        ({ id := raw.id, snmp := (resolvedSnmp env raw).1 }, .ok ()) :=
      idempotent_resolveSnmpSecrets hsecrets
    show ((resolveSnmpSecrets env { id := raw.id, snmp := (resolvedSnmp env raw).1 }).1.snmp,
      (resolveSnmpSecrets env { id := raw.id, snmp := (resolvedSnmp env raw).1 }).2) = _
    rw [hfixed]
  have hids : (settled env model raw).ports.map Port.portId = raw.ports.map Port.portId := by
    rw [settled, List.map_map]
    exact List.map_congr_left fun port _ => portId_filterTagged _ _ _
  refine ⟨h.required, by rw [hagain], by rw [hagain]; exact h.vendor, h.agree, h.names, ?_, ?_, ?_⟩
  · intro port hport
    obtain ⟨entry, hentry, rfl⟩ := List.mem_map.mp hport
    obtain ⟨id, hdefined, hid⟩ := h.untagged entry hentry
    refine ⟨id, hdefined, ?_⟩
    show some ((untaggedId raw.vlans entry).getD entry.vlan) = some id
    rw [hid]
    rfl
  · intro port hport
    obtain ⟨entry, hentry, rfl⟩ := List.mem_map.mp hport
    exact h.speeds entry hentry
  · intro mirror hmirror
    rw [hids]
    exact h.mirrors mirror hmirror

/-- A switch that settles is sound. -/
theorem sound_settled {model : SwitchModel} (hmodel : raw.model = some model)
    (h : Settles env model raw) : Sound (settled env model raw) := by
  have htaggable : taggable (settled env model raw) = definedVlans model raw := by
    rw [taggable, definedVlans]
    show _ ++ (raw.model.map SwitchModel.implicitVlans).getD [] = _
    rw [hmodel]
    rfl
  have hagain := settles_settled h
  refine ⟨?_, ?_, ?_, ⟨model, hmodel, hagain.speeds⟩, hagain.mirrors, ?_⟩
  · intro port hport
    obtain ⟨entry, hentry, rfl⟩ := List.mem_map.mp hport
    obtain ⟨id, hdefined, hid⟩ := h.untagged entry hentry
    rw [htaggable]
    show (untaggedId raw.vlans entry).getD entry.vlan ∈ _
    rw [hid]
    exact hdefined
  · intro port hport id hid
    obtain ⟨entry, -, rfl⟩ := List.mem_map.mp hport
    rw [htaggable]
    exact List.contains_iff_mem.mp (List.of_mem_filter hid)
  · intro port hport
    obtain ⟨entry, -, rfl⟩ := List.mem_map.mp hport
    exact ⟨rfl, rfl⟩
  · exact fun v hv w hw hne hname => hne (h.agree v hv w hw hname)

/-- A switch that the validation lets through is sound, and validated again it is let through as it
is. -/
theorem validation_establishes (h : (validateSwitchConfig env).Succeeds raw result) :
    Sound result ∧ (validateSwitchConfig env).Succeeds result result := by
  have haccepted : Accepted result := ⟨env, raw, h⟩
  obtain ⟨switch, hexpand, hsteps⟩ := validateSwitchConfig_succeeds_iff.mp h
  obtain ⟨model, hmodel, hsettles, rfl⟩ := resolutionSteps_succeeds_iff.mp hsteps
  refine ⟨sound_settled hmodel hsettles, ?_⟩
  have hvalid : invalidFields (settled env model switch) = [] := by
    obtain ⟨hid, hvlans, hports⟩ := invalidFields_eq_nil_iff.mp hexpand.2
    refine invalidFields_eq_nil_iff.mpr ⟨hid, hvlans, fun port hport => ?_⟩
    obtain ⟨entry, hentry, rfl⟩ := List.mem_map.mp hport
    exact vlanIdInRange_resolved hvlans (hports entry hentry)
  have hagain : (validateSwitchConfig env).Succeeds (settled env model switch)
      (settled env model (settled env model switch)) :=
    validateSwitchConfig_succeeds_iff.mpr ⟨_, expandsTo_self haccepted hvalid,
      resolutionSteps_succeeds_iff.mpr ⟨model, hmodel, settles_settled hsettles, rfl⟩⟩
  -- nothing is left to rewrite
  rwa [haccepted.stable hagain] at hagain

end

/-! ## A range of ports that name a VLAN -/

def labSwitch (ports : List Port) : SwitchConfig where
  id := "sw1"
  hostname := some "lab"
  model := some .aruba2930F
  managementIp := some "10.0.0.2"
  credentials := some { username := "admin" }
  vlans := [{ id := 10, name := "office" }]
  ports := ports

def labPort (portId : String) : Port where
  portId
  vlan := 10
  taggedVlans := [1]

theorem validation_establishes_lab :
    Sound (labSwitch [labPort "1", labPort "2"]) ∧
      (validateSwitchConfig plainEnvironment).Succeeds (labSwitch [labPort "1", labPort "2"])
        (labSwitch [labPort "1", labPort "2"]) :=
  @validation_establishes plainEnvironment
    (labSwitch [{ portId := "1-2", vlan := 1, vlanName := some "office"
                  taggedVlanRefs := [.id 1, .name "guest", .id 99] }])
    (labSwitch [labPort "1", labPort "2"])
    (show validateSwitchConfig plainEnvironment _ = (_, .ok ()) by decide +kernel)

end SwitchConfigurator
