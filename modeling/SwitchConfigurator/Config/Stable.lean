import SwitchConfigurator.Config.LoadPaths

/-!
# Accepted configurations are stable

A configuration that was accepted once has single port ids, no VLAN names left and its secrets
read. What the validation rewrites is in its final form there: when the validation accepts it
again it does not change it.
-/

namespace SwitchConfigurator

open Keyed RelatedLists

/-- The VLANs that ports of the switch can be tagged with. -/
def taggable (switch : SwitchConfig) : List ℕ :=
  switch.vlans.map Vlan.id ++ (switch.model.map SwitchModel.implicitVlans).getD []

/-- A port of the switch after its VLAN names are resolved and its tagged VLANs are checked. -/
def settledPort (switch : SwitchConfig) (port : Port) : Port :=
  filterTagged (taggable switch) false (resolvedPort switch.vlans port)

/-- A mirror with its port ranges expanded. -/
def expandedMirror (mirror : PortMirror) : PortMirror := (expandMirror mirror).toOption.getD mirror

theorem portId_settledPort (switch : SwitchConfig) (port : Port) :
    (settledPort switch port).portId = port.portId := portId_filterTagged _ _ _

theorem expandedMirror_eq {mirror expanded : PortMirror} (h : expandMirror mirror = .ok expanded) :
    expandedMirror mirror = expanded := by
  rw [expandedMirror, h]
  rfl

/-- Expanding a mirror keeps its session. -/
theorem sessionId_expandedMirror (mirror : PortMirror) :
    (expandedMirror mirror).sessionId = mirror.sessionId := by
  unfold expandedMirror
  cases h : expandMirror mirror with
  | ok expanded => exact (expandMirror_sessionId h).symm
  | error e => rfl

/-- The ports that one is expanded to are those of its text. -/
theorem expandedPorts_portIds (port : Port) :
    (expandedPorts port).map Port.portId = (parsePortId port.portId).toOption.getD [] := by
  rw [expandedPorts, List.map_map]
  exact List.map_id _

/-- What a successful validation makes of a switch. -/
structure ValidatedAs (env : Environment) (raw result : SwitchConfig) : Prop where
  model : raw.model.isSome = true
  mirrors : ∀ mirror ∈ raw.portMirrors, expandMirror mirror = .ok (expandedMirror mirror)
  secrets : (resolvedSnmp env raw).2 = .ok ()
  result : result =
    { raw with
      ports := (raw.ports.flatMap expandedPorts).map (settledPort raw)
      portMirrors := raw.portMirrors.map expandedMirror
      snmp := (resolvedSnmp env raw).1 }

section

variable {env : Environment} {raw result : SwitchConfig}

/-- What validation gives, by its parts. -/
theorem validatedAs (h : (validateSwitchConfig env).Succeeds raw result) :
    ValidatedAs env raw result := by
  obtain ⟨switch, ⟨hexpand, -⟩, hsteps⟩ := validateSwitchConfig_succeeds_iff.mp h
  obtain ⟨-, portMirrors, hmirrors, rfl⟩ := expandPortRanges_ok_iff.mp hexpand
  obtain ⟨model, hmodel, hsettles, rfl⟩ := resolutionSteps_succeeds_iff.mp hsteps
  have hmodel : raw.model = some model := hmodel
  have hexpanded (mirror : PortMirror) (hm : mirror ∈ raw.portMirrors) :
      expandMirror mirror = .ok (expandedMirror mirror) := by
    obtain ⟨expanded, -, hexpanded⟩ := exists_of_mem_left hmirrors hm
    rw [expandedMirror_eq hexpanded, hexpanded]
  have hmap : portMirrors = raw.portMirrors.map expandedMirror := by
    have hrel : List.Forall₂ (fun m e => e = expandedMirror m) raw.portMirrors portMirrors :=
      hmirrors.imp fun _ _ h => (expandedMirror_eq h).symm
    rw [← List.forall₂_eq_eq_eq, List.forall₂_map_right_iff]
    exact hrel.flip
  refine ⟨by rw [hmodel]; rfl, hexpanded, hsettles.snmp, ?_⟩
  have hport : settledPort raw = fun port =>
      filterTagged (definedVlans model raw) false (resolvedPort raw.vlans port) := by
    funext port
    rw [settledPort, taggable, hmodel]
    rfl
  rw [hmap, hport]
  rfl

end

/-! ## Ports and mirrors -/

/-- The id names one port, and no VLAN names are left. -/
structure Port.Final (vlans : List ℕ) (port : Port) : Prop where
  single : parsePortId port.portId = .ok [port.portId]
  vlanName : port.vlanName = none
  taggedVlanRefs : port.taggedVlanRefs = []
  tagged : ∀ id ∈ port.taggedVlans, id ∈ vlans

/-- A settled port is final. -/
theorem final_settledPort {switch : SwitchConfig} {raw port : Port} (h : port ∈ expandedPorts raw) :
    (settledPort switch port).Final (taggable switch) where
  single := by
    rw [portId_settledPort]
    obtain ⟨portId, hid, rfl⟩ := List.mem_map.mp h
    cases hparsed : parsePortId raw.portId with
    | error e =>
      rw [hparsed] at hid
      exact absurd hid List.not_mem_nil
    | ok ids =>
      rw [hparsed] at hid
      exact parsePortId_expanded hparsed portId hid
  vlanName := rfl
  taggedVlanRefs := rfl
  tagged id hid := by
    have hmem := List.of_mem_filter hid
    exact List.contains_iff_mem.mp hmem

/-- A final port is not settled any further. -/
theorem Port.Final.settledPort_eq {vlans : List ℕ} {switch : SwitchConfig} {port : Port}
    (h : port.Final vlans) (hvlans : ∀ id ∈ vlans, id ∈ taggable switch) :
    settledPort switch port = port := by
  have hfilter : port.taggedVlans.filter (taggable switch).contains = port.taggedVlans := by
    rw [List.filter_eq_self]
    exact fun id hid => List.contains_iff_mem.mpr (hvlans id (h.tagged id hid))
  have hresolved : resolvedPort switch.vlans port = port := by
    obtain ⟨portId, mode, vlan, taggedVlans, description, enabled, poeEnabled, macNotify,
      speedDuplex, vlanName, taggedVlanRefs⟩ := port
    obtain rfl : vlanName = none := h.vlanName
    obtain rfl : taggedVlanRefs = [] := h.taggedVlanRefs
    rfl
  rw [settledPort, hresolved, filterTagged, if_neg (by decide), hfilter]

/-! ## Secrets -/

/-- A community with a reference has its string. -/
def SnmpCommunity.IsRead (community : SnmpCommunity) : Prop :=
  community.hasReference = true → community.name ≠ ""

section

variable {env env' : Environment} {switchId switchId' label : String}
variable {community result : SnmpCommunity} {snmp snmp' : SnmpConfig}

/-- An accepted secret is not empty. -/
theorem validateValue_ne_empty {raw value : String} (h : validateValue raw label = .ok value) :
    value ≠ "" := by
  unfold validateValue at h
  dsimp only at h
  split at h
  · cases h
  · next hne =>
    split at h
    · cases h
    · cases h
      intro hempty
      rw [String.ofList_eq_empty_iff] at hempty
      exact hne (List.isEmpty_iff.mpr hempty)

theorem readReference_ne_empty {source value : String}
    (h : readReference env switchId label community = some (.ok value, source)) : value ≠ "" := by
  unfold readReference at h
  split at h
  · obtain ⟨hvalue, -⟩ := Prod.mk.inj (Option.some.inj h)
    obtain ⟨raw, -, hraw⟩ := bind_ok_iff.mp hvalue
    exact validateValue_ne_empty hraw
  · obtain ⟨hvalue, -⟩ := Prod.mk.inj (Option.some.inj h)
    unfold readCredential at hvalue
    dsimp only at hvalue
    split at hvalue
    · cases hvalue
    · split at hvalue
      · cases hvalue
      · obtain ⟨raw, -, hraw⟩ := bind_ok_iff.mp hvalue
        exact validateValue_ne_empty hraw
  · cases h

/-- What a successful resolution makes of a community. -/
theorem resolveCommunity_succeeds
    (h : (resolveCommunity env switchId label).Succeeds community result) :
    result.IsRead ∧ (community.IsRead → result = community) := by
  unfold resolveCommunity at h
  rw [InPlace.assign_succeeds] at h
  split at h
  · next hreference =>
    obtain rfl := Except.ok.inj h
    refine ⟨fun hhas => ?_, fun _ => rfl⟩
    -- a community with a reference has something to read
    unfold SnmpCommunity.hasReference at hhas
    unfold readReference at hreference
    split at hreference
    · cases hreference
    · cases hreference
    · next hfile hcredential => simp [hfile, hcredential] at hhas
  · next value source hreference =>
    obtain ⟨value, rfl, hname⟩ := bind_ok_iff.mp h
    have hvalue := readReference_ne_empty hreference
    split at hname
    · cases hname
    · next hagrees =>
      obtain rfl := Except.ok.inj hname
      refine ⟨fun _ => hvalue, fun hread => ?_⟩
      have hhas : community.hasReference = true := by
        unfold SnmpCommunity.hasReference
        unfold readReference at hreference
        split at hreference
        · next hfile => simp [hfile]
        · next hfile hcredential => simp [hcredential]
        · cases hreference
      have hname := hread hhas
      have hsame : community.name = value := by simpa [hname] using hagrees
      rw [← hsame]

/-- The communities of a switch that have their strings read. -/
structure SnmpConfig.IsRead (snmp : SnmpConfig) : Prop where
  communities : ∀ community ∈ snmp.communities, community.IsRead
  reads : ∀ community ∈ snmp.readsCommunity, community.IsRead

/-- Communities that were read stay so, and nothing else is changed. -/
theorem resolveCommunities_succeeds (h : (resolveCommunities env switchId).Succeeds snmp snmp') :
    snmp'.IsRead ∧ (snmp.IsRead → snmp' = snmp) := by
  unfold resolveCommunities at h
  obtain ⟨listed, hlisted, hreads⟩ := InPlace.andThen_succeeds.mp h
  obtain ⟨communities, heach, rfl⟩ := InPlace.within_succeeds.mp hlisted
  have hrel := InPlace.forEach_succeeds heach
  have hread : ∀ community ∈ communities, community.IsRead := by
    intro community hc
    obtain ⟨_, -, _, hsucceeds⟩ := exists_of_mem_right hrel hc
    exact (resolveCommunity_succeeds hsucceeds).1
  have hsame : snmp.IsRead → communities = snmp.communities := by
    intro hsnmp
    refine eq_of_forall₂ hrel fun community hc result hresult => ?_
    obtain ⟨_, hsucceeds⟩ := hresult
    exact (resolveCommunity_succeeds hsucceeds).2 (hsnmp.communities community hc)
  -- the service's own read community is looked at only while reads are on
  unfold InPlace.Succeeds withReadsCommunity at hreads
  split at hreads
  · next reads community hr hc =>
    obtain ⟨rfl, hok⟩ := Prod.mk.inj hreads
    have hsucceeds := InPlace.succeeds_iff.mpr ⟨hok, rfl⟩
    obtain ⟨hisRead, hkeep⟩ := resolveCommunity_succeeds hsucceeds
    have hc : snmp.readsCommunity = some community := hc
    have hr : snmp.reads = some reads := hr
    obtain ⟨hmode, hgiven⟩ : reads.mode = .auto ∧ reads.community = some community := by
      rw [SnmpConfig.readsCommunity, hr] at hc
      obtain ⟨_, hfilter, hcommunity⟩ := Option.bind_eq_some_iff.mp hc
      obtain ⟨heq, hmode⟩ := Option.filter_eq_some_iff.mp hfilter
      obtain rfl := Option.some.inj heq
      exact ⟨by simpa using hmode, hcommunity⟩
    constructor
    · refine ⟨hread, fun community' hc' => ?_⟩
      rw [SnmpConfig.readsCommunity, Option.filter_some, if_pos (by simp [hmode])] at hc'
      obtain rfl := Option.some.inj hc'
      exact hisRead
    · intro hsnmp
      rw [hsame hsnmp, hkeep (hsnmp.reads community hc), ← hgiven, ← hr]
  · next hnone =>
    obtain ⟨rfl, -⟩ := Prod.mk.inj hreads
    constructor
    · refine ⟨hread, fun community hc => ?_⟩
      have hc : snmp.readsCommunity = some community := hc
      cases hr : snmp.reads with
      | none => simp [SnmpConfig.readsCommunity, hr] at hc
      | some reads => exact absurd hc (hnone reads community hr)
    · exact fun hsnmp => by rw [hsame hsnmp]

/-- Secrets that could be read are read, and there is nothing to read without SNMP. -/
theorem resolvedSnmp_ok {switch : SwitchConfig} (h : (resolvedSnmp env switch).2 = .ok ()) :
    (switch.snmp = none ∧ (resolvedSnmp env switch).1 = none) ∨
      ∃ snmp snmp', switch.snmp = some snmp ∧ (resolvedSnmp env switch).1 = some snmp' ∧
        (resolveCommunities env switch.id).Succeeds snmp snmp' := by
  have hsucceeds : (resolveSnmpSecrets env).Succeeds { id := switch.id, snmp := switch.snmp }
      (resolveSnmpSecrets env { id := switch.id, snmp := switch.snmp }).1 :=
    InPlace.succeeds_iff.mpr ⟨h, rfl⟩
  unfold resolvedSnmp
  dsimp only
  generalize (resolveSnmpSecrets env { id := switch.id, snmp := switch.snmp }).1 = result
    at hsucceeds ⊢
  unfold resolveSnmpSecrets at hsucceeds
  obtain ⟨_, hcheck, hread⟩ := InPlace.andThen_succeeds.mp hsucceeds
  obtain ⟨rfl, -⟩ := InPlace.check_succeeds.mp hcheck
  unfold InPlace.Succeeds at hread
  dsimp only at hread
  cases hsnmp : switch.snmp with
  | none =>
    rw [hsnmp] at hread
    left
    obtain ⟨rfl, -⟩ := Prod.mk.inj hread
    exact ⟨rfl, rfl⟩
  | some snmp =>
    rw [hsnmp] at hread
    right
    obtain ⟨rfl, hok⟩ := Prod.mk.inj hread
    exact ⟨snmp, _, rfl, rfl, InPlace.succeeds_iff.mpr ⟨hok, rfl⟩⟩

/-- The secrets of a switch, once they are read, are not read as anything else. -/
theorem resolvedSnmp_again {raw switch : SwitchConfig} (h : (resolvedSnmp env raw).2 = .ok ())
    (hsnmp : switch.snmp = (resolvedSnmp env raw).1) (h' : (resolvedSnmp env' switch).2 = .ok ()) :
    (resolvedSnmp env' switch).1 = switch.snmp := by
  rcases resolvedSnmp_ok h' with ⟨hnone, hresult⟩ | ⟨snmp, snmp', hsome, hresult, hsucceeds⟩
  · rw [hresult, hnone]
  · rw [hresult, hsome]
    rcases resolvedSnmp_ok h with ⟨-, hfirst⟩ | ⟨_, _, -, hfirst, hread⟩
    · rw [hsome, hfirst] at hsnmp
      cases hsnmp
    · rw [hsome, hfirst] at hsnmp
      obtain rfl := Option.some.inj hsnmp
      rw [(resolveCommunities_succeeds hsucceeds).2 (resolveCommunities_succeeds hread).1]

end

/-! ## Accepted switches -/

/-- The ports of an accepted switch are final. -/
theorem Accepted.final {stored : SwitchConfig} (h : Accepted stored) :
    ∀ port ∈ stored.ports, port.Final (taggable stored) := by
  obtain ⟨env, raw, h⟩ := h
  obtain ⟨-, -, -, rfl⟩ := validatedAs h
  intro port hport
  obtain ⟨expanded, hexpanded, rfl⟩ := List.mem_map.mp hport
  obtain ⟨entry, -, hentry⟩ := List.mem_flatMap.mp hexpanded
  exact final_settledPort hentry

/-- The mirrors of an accepted switch are not expanded any further. -/
theorem Accepted.mirrors {stored : SwitchConfig} (h : Accepted stored) :
    ∀ mirror ∈ stored.portMirrors, expandedMirror mirror = mirror := by
  obtain ⟨env, raw, h⟩ := h
  obtain ⟨-, hmirrors, -, rfl⟩ := validatedAs h
  intro mirror hmirror
  obtain ⟨entry, hentry, rfl⟩ := List.mem_map.mp hmirror
  exact expandedMirror_eq (expandMirror_expanded (hmirrors entry hentry))

/-- Nor are its secrets read to anything else. -/
theorem Accepted.secrets {stored switch : SwitchConfig} {env : Environment} (h : Accepted stored)
    (hsnmp : switch.snmp = stored.snmp) (hread : (resolvedSnmp env switch).2 = .ok ()) :
    (resolvedSnmp env switch).1 = stored.snmp := by
  obtain ⟨_, raw, h⟩ := h
  obtain ⟨-, -, hsecrets, rfl⟩ := validatedAs h
  rw [← hsnmp]
  exact resolvedSnmp_again hsecrets hsnmp hread

/-- The validation changes no switch that has been accepted before. -/
theorem Accepted.stable {stored result : SwitchConfig} {env : Environment} (h : Accepted stored)
    (hagain : (validateSwitchConfig env).Succeeds stored result) : result = stored := by
  obtain ⟨-, -, hsecrets, rfl⟩ := validatedAs hagain
  have hexpanded : stored.ports.flatMap expandedPorts = stored.ports := by
    rw [List.flatMap_congr fun port hport => expandedPorts_of_single (h.final port hport).single]
    exact List.flatMap_singleton' _
  have hports : stored.ports.map (settledPort stored) = stored.ports := by
    rw [List.map_congr_left fun port hport => (h.final port hport).settledPort_eq fun _ hid => hid]
    exact List.map_id' _
  have hmirrors : stored.portMirrors.map expandedMirror = stored.portMirrors := by
    rw [List.map_congr_left h.mirrors]
    exact List.map_id' _
  rw [hexpanded, hports, hmirrors, h.secrets rfl hsecrets]

end SwitchConfigurator
