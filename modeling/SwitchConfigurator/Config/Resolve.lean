import SwitchConfigurator.Config.Load

/-!
# Resolving and checking VLANs

What the resolution of VLAN names and the check of VLAN references do to a switch that passes
them, without the loops they take.
-/

namespace SwitchConfigurator

open Keyed RelatedLists

/-! ## Names of VLANs -/

/-- No name stands for two VLAN ids. -/
def NamesAgree (vlans : List Vlan) : Prop :=
  ∀ v ∈ vlans, ∀ w ∈ vlans, v.name = w.name → v.id = w.id

/-- The search goes through the VLANs with the names it has seen. -/
theorem findAmbiguousFrom_eq_none_iff {seen vlans : List Vlan} (hseen : NamesAgree seen) :
    findAmbiguousFrom seen vlans = none ↔ NamesAgree (seen ++ vlans) := by
  induction vlans generalizing seen with
  | nil => simpa [findAmbiguousFrom] using hseen
  | cons vlan rest ih =>
    have hsplit : seen ++ vlan :: rest = (seen ++ [vlan]) ++ rest := by simp
    -- the names seen so far still agree when the next VLAN is added to them
    have hadd (h : ∀ v ∈ seen, v.name = vlan.name → v.id = vlan.id) :
        NamesAgree (seen ++ [vlan]) := by
      intro v hv w hw hname
      rw [List.mem_append, List.mem_singleton] at hv hw
      rcases hv with hv | rfl <;> rcases hw with hw | rfl
      · exact hseen v hv w hw hname
      · exact h v hv hname
      · exact (h w hw hname.symm).symm
      · rfl
    rw [findAmbiguousFrom, hsplit]
    cases hlookup : lookup Vlan.name vlan.name seen with
    | none =>
      have hnone := lookup_eq_none_iff.mp hlookup
      exact ih (hadd fun v hv hname => absurd hname (hnone v hv))
    | some existing =>
      obtain ⟨hmem, hname⟩ := lookup_some hlookup
      dsimp only
      split
      · next hne =>
        simp only [reduceCtorEq, false_iff]
        intro hagree
        exact hne (hagree existing (by simp [hmem]) vlan (by simp) hname)
      · next heq =>
        rw [not_not] at heq
        refine ih (hadd fun v hv hv' => ?_)
        exact (hseen v hv existing hmem (hv'.trans hname.symm)).trans heq

theorem findAmbiguousVlanName_eq_none_iff {vlans : List Vlan} :
    findAmbiguousVlanName vlans = none ↔ NamesAgree vlans :=
  findAmbiguousFrom_eq_none_iff fun _ hv => absurd hv List.not_mem_nil

/-- The order of VLANs has no part in whether names agree. -/
theorem NamesAgree.perm {vlans vlans' : List Vlan} (h : NamesAgree vlans)
    (hperm : vlans.Perm vlans') : NamesAgree vlans' :=
  fun v hv w hw => h v (hperm.mem_iff.mpr hv) w (hperm.mem_iff.mpr hw)

/-- Where names agree, a name stands for the id of any VLAN that has it. -/
theorem nameToId_eq_some_iff {vlans : List Vlan} {name : String} {id : ℕ} (h : NamesAgree vlans) :
    nameToId vlans name = some id ↔ ∃ v ∈ vlans, v.name = name ∧ v.id = id := by
  rw [nameToId, Option.map_eq_some_iff]
  constructor
  · rintro ⟨v, hv, rfl⟩
    exact ⟨v, mem_of_lookup hv, key_of_lookup hv, rfl⟩
  · rintro ⟨v, hv, rfl, rfl⟩
    obtain ⟨w, hw⟩ := exists_lookup_of_mem Vlan.name hv
    exact ⟨w, hw, h w (mem_of_lookup hw) v hv (key_of_lookup hw)⟩

/-- Nor in what a name stands for, where they agree. -/
theorem nameToId_perm {vlans vlans' : List Vlan} (h : NamesAgree vlans)
    (hperm : vlans.Perm vlans') : nameToId vlans = nameToId vlans' := by
  funext name
  apply Option.ext
  intro id
  rw [nameToId_eq_some_iff h, nameToId_eq_some_iff (h.perm hperm)]
  simp only [hperm.mem_iff]

/-! ## Ports -/

/-- What name resolution does to one port. -/
def resolvePort (hostname : String) (vlans : List Vlan) (strict : Bool) : InPlace Error Port :=
  (resolveUntagged hostname vlans).andThen (resolveTagged hostname vlans strict)

theorem resolveRefs_congr {hostname portId : String} {vlans vlans' : List Vlan} {strict : Bool}
    (h : nameToId vlans = nameToId vlans') (refs : List VlanRef) (resolved : List ℕ) :
    resolveRefs hostname portId vlans strict refs resolved =
      resolveRefs hostname portId vlans' strict refs resolved := by
  induction refs generalizing resolved with
  | nil => rfl
  | cons ref rest ih =>
    cases ref with
    | id id => exact ih _
    | name name =>
      rw [resolveRefs, resolveRefs, h]
      dsimp only
      split
      · exact ih _
      · split
        · rfl
        · exact ih _

/-- A port is resolved by what the names stand for. -/
theorem resolvePort_congr {hostname : String} {vlans vlans' : List Vlan} {strict : Bool}
    (h : nameToId vlans = nameToId vlans') :
    resolvePort hostname vlans strict = resolvePort hostname vlans' strict := by
  have huntagged : resolveUntagged hostname vlans = resolveUntagged hostname vlans' := by
    funext port
    rw [resolveUntagged, resolveUntagged, h]
  have htagged : resolveTagged hostname vlans strict = resolveTagged hostname vlans' strict := by
    funext port
    rw [resolveTagged, resolveTagged, resolveRefs_congr h]
  rw [resolvePort, huntagged, htagged, resolvePort]

/-- Name resolution succeeds where it does on every port. -/
theorem resolveVlanNames_succeeds {strict : Bool} {switch result : SwitchConfig} :
    (resolveVlanNames strict).Succeeds switch result ↔ NamesAgree switch.vlans ∧
      (∀ port ∈ switch.ports, (resolvePort switch.displayName switch.vlans strict port).2 = .ok ()) ∧
        result = { switch with
          ports := switch.ports.map fun port =>
            (resolvePort switch.displayName switch.vlans strict port).1 } := by
  rw [← findAmbiguousVlanName_eq_none_iff]
  unfold InPlace.Succeeds resolveVlanNames
  cases findAmbiguousVlanName switch.vlans with
  | some collision => simp
  | none =>
    simp only [true_and]
    show (InPlace.within _ _ _).Succeeds switch result ↔ _
    rw [InPlace.within_succeeds]
    constructor
    · rintro ⟨ports, hports, rfl⟩
      obtain ⟨hok, rfl⟩ := InPlace.forEach_const_succeeds.mp hports
      exact ⟨hok, rfl⟩
    · rintro ⟨hok, rfl⟩
      exact ⟨_, InPlace.forEach_const_succeeds.mpr ⟨hok, rfl⟩, rfl⟩

/-! ## References -/

/-- What the check of VLAN references asks of a switch. -/
structure ReferencesValid (env : Environment) (model : SwitchModel) (switch : SwitchConfig) :
    Prop where
  names : ∀ vlan ∈ switch.vlans, checkVlanName env model vlan = .ok ()
  ports : ∀ port ∈ switch.ports, portHasErrors model (definedVlans model switch) false port = false
  mirrors : ∀ mirror ∈ switch.portMirrors, mirrorHasErrors switch.ports mirror = false

/-- References pass exactly if they are valid, and untagged ports lose nothing. -/
theorem validateVlanReferences_succeeds_iff {env : Environment} {switch result : SwitchConfig} :
    (validateVlanReferences env).Succeeds switch result ↔ ∃ model, switch.model = some model ∧
      ReferencesValid env model switch ∧ result = { switch with
        ports := switch.ports.map (filterTagged (definedVlans model switch) false) } := by
  constructor
  · intro h
    obtain ⟨model, hmodel, hnames, hports, hmirrors, rfl⟩ := validateVlanReferences_succeeds h
    exact ⟨model, hmodel, ⟨forM_ok_iff.mp hnames, hports, hmirrors⟩, rfl⟩
  · rintro ⟨model, hmodel, h, rfl⟩
    have hany : (switch.ports.any (portHasErrors model (definedVlans model switch) false) ||
        switch.portMirrors.any (mirrorHasErrors switch.ports)) = false := by
      rw [Bool.or_eq_false_iff, List.any_eq_false, List.any_eq_false]
      exact ⟨fun p hp => by simp [h.ports p hp], fun m hm => by simp [h.mirrors m hm]⟩
    unfold InPlace.Succeeds validateVlanReferences validateVlanReferencesInner
    simp only [hmodel, forM_ok_iff.mpr h.names, hany, Bool.false_eq_true, ↓reduceIte]

/-! ## The steps together -/

/-- What becomes of the SNMP part of a switch depends on that part and on the id. -/
def resolvedSnmp (env : Environment) (switch : SwitchConfig) :
    Option SnmpConfig × Except Error Unit :=
  let result := resolveSnmpSecrets env { id := switch.id, snmp := switch.snmp }
  (result.1.snmp, result.2)

theorem resolveSnmpSecrets_eq (env : Environment) (switch : SwitchConfig) :
    resolveSnmpSecrets env switch =
      ({ switch with snmp := (resolvedSnmp env switch).1 }, (resolvedSnmp env switch).2) := by
  obtain ⟨id, hostname, model, managementIp, credentials, vlans, ports, portMirrors, snmp,
    managementVlan, validation, vendorSpecific, settings⟩ := switch
  unfold resolvedSnmp resolveSnmpSecrets
  cases snmp with
  | none => rfl
  | some snmp =>
    unfold InPlace.andThen InPlace.check checkSnmpSecretSources
    dsimp only
    cases (labelledCommunities snmp).forM fun c => checkSecretSource id c.1 c.2 with
    | ok _ => rfl
    | error e => rfl

/-- The steps that both paths take once port ranges are expanded. -/
def resolutionSteps (env : Environment) : InPlace Error SwitchConfig :=
  (InPlace.check validateRequiredFields).andThen
    ((resolveSnmpSecrets env).andThen ((InPlace.check checkVendorSupport).andThen
      ((resolveVlanNames false).andThen (validateVlanReferences env))))

/-- The VLAN that a reference stands for. -/
def VlanRef.denoted (vlans : List Vlan) : VlanRef → Option ℕ
  | .id n => some n
  | .name s => nameToId vlans s

/-- The untagged VLAN of a port, unless its name stands for none. -/
def untaggedId (vlans : List Vlan) (port : Port) : Option ℕ :=
  match port.vlanName with
  | none => some port.vlan
  | some name => nameToId vlans name

/-- The tagged VLANs of a port; repetitions are dropped where names are resolved. -/
def taggedIds (vlans : List Vlan) (port : Port) : List ℕ :=
  if port.taggedVlanRefs.isEmpty then port.taggedVlans
  else (port.taggedVlanRefs.filterMap (VlanRef.denoted vlans)).eraseDups

/-- A port with its names resolved. -/
def resolvedPort (vlans : List Vlan) (port : Port) : Port :=
  { port with
    vlan := (untaggedId vlans port).getD port.vlan
    taggedVlans := taggedIds vlans port
    vlanName := none
    taggedVlanRefs := [] }

/-- Otherwise unknown references are left out, and repeated ones. -/
theorem resolveRefs_lenient (hostname portId : String) (vlans : List Vlan) (refs : List VlanRef)
    (seen : List ℕ) : resolveRefs hostname portId vlans false refs seen.eraseDups =
      .ok (seen ++ refs.filterMap (VlanRef.denoted vlans)).eraseDups := by
  induction refs generalizing seen with
  | nil => simp [resolveRefs]
  | cons ref rest ih =>
    have hadd (id : ℕ) : (if seen.eraseDups.contains id then seen.eraseDups
        else seen.eraseDups ++ [id]) = (seen ++ [id]).eraseDups := by
      rw [eraseDups_concat]
      exact if_congr (by simp) rfl rfl
    cases ref with
    | id id =>
      rw [resolveRefs]
      dsimp only
      rw [hadd, ih]
      simp [VlanRef.denoted]
    | name name =>
      rw [resolveRefs]
      dsimp only
      cases hname : nameToId vlans name with
      | some id =>
        dsimp only
        rw [hadd, ih]
        simp [VlanRef.denoted, hname]
      | none =>
        dsimp only
        rw [if_neg (by decide), ih]
        simp [VlanRef.denoted, hname]

theorem resolveTagged_lenient (hostname : String) (vlans : List Vlan) (port : Port) :
    resolveTagged hostname vlans false port =
      ({ port with taggedVlans := taggedIds vlans port, taggedVlanRefs := [] }, .ok ()) := by
  have hrefs := resolveRefs_lenient hostname port.portId vlans port.taggedVlanRefs []
  rw [List.eraseDups_nil, List.nil_append] at hrefs
  unfold resolveTagged taggedIds
  split
  · next hempty =>
    rw [List.isEmpty_iff] at hempty
    obtain ⟨portId, mode, vlan, taggedVlans, description, enabled, poeEnabled, macNotify,
      speedDuplex, vlanName, taggedVlanRefs⟩ := port
    obtain rfl : taggedVlanRefs = [] := hempty
    rfl
  · rw [hrefs]

theorem resolveUntagged_succeeds {hostname : String} {vlans : List Vlan} {port result : Port} :
    (resolveUntagged hostname vlans).Succeeds port result ↔
      ∃ id, untaggedId vlans port = some id ∧
        result = { port with vlan := id, vlanName := none } := by
  obtain ⟨portId, mode, vlan, taggedVlans, description, enabled, poeEnabled, macNotify,
    speedDuplex, vlanName, taggedVlanRefs⟩ := port
  unfold InPlace.Succeeds resolveUntagged untaggedId
  cases vlanName with
  | none => simp [eq_comm]
  | some name =>
    dsimp only
    cases nameToId vlans name with
    | none => simp
    | some id => simp [eq_comm]

/-- Lenient resolution fails on the untagged VLAN of a port alone. -/
theorem resolvePort_succeeds {hostname : String} {vlans : List Vlan} {port result : Port} :
    (resolvePort hostname vlans false).Succeeds port result ↔
      (untaggedId vlans port).isSome = true ∧ result = resolvedPort vlans port := by
  rw [resolvePort, InPlace.andThen_succeeds]
  constructor
  · rintro ⟨middle, huntagged, htagged⟩
    obtain ⟨id, hid, rfl⟩ := resolveUntagged_succeeds.mp huntagged
    unfold InPlace.Succeeds at htagged
    rw [resolveTagged_lenient] at htagged
    rw [resolvedPort, hid, ← (Prod.mk.inj htagged).1]
    exact ⟨rfl, rfl⟩
  · rintro ⟨hsome, rfl⟩
    obtain ⟨id, hid⟩ := Option.isSome_iff_exists.mp hsome
    refine ⟨_, resolveUntagged_succeeds.mpr ⟨id, hid, rfl⟩, ?_⟩
    unfold InPlace.Succeeds
    rw [resolveTagged_lenient, resolvedPort, hid]
    rfl

/-- Name resolution, from what it does to each port. -/
theorem resolveVlanNames_of_port {strict : Bool} {p : Port → Prop} {switch result : SwitchConfig}
    (h : ∀ port r, (resolvePort switch.displayName switch.vlans strict).Succeeds port r ↔
      p port ∧ r = resolvedPort switch.vlans port) :
    (resolveVlanNames strict).Succeeds switch result ↔ NamesAgree switch.vlans ∧
      (∀ port ∈ switch.ports, p port) ∧
        result = { switch with ports := switch.ports.map (resolvedPort switch.vlans) } := by
  have hport (port : Port) :
      (resolvePort switch.displayName switch.vlans strict port).2 = .ok () ↔ p port := by
    constructor
    · exact fun hok => ((h port _).mp (InPlace.succeeds_iff.mpr ⟨hok, rfl⟩)).1
    · exact fun hp => (InPlace.succeeds_iff.mp ((h port _).mpr ⟨hp, rfl⟩)).1
  rw [resolveVlanNames_succeeds]
  simp only [hport]
  refine and_congr_right fun _ => and_congr_right fun hsome => ?_
  have hmap : switch.ports.map (fun port =>
      (resolvePort switch.displayName switch.vlans strict port).1) =
        switch.ports.map (resolvedPort switch.vlans) := by
    apply List.map_congr_left
    intro port hp
    have hsucceeds : (resolvePort switch.displayName switch.vlans strict).Succeeds port
        (resolvedPort switch.vlans port) := (h port _).mpr ⟨hsome port hp, rfl⟩
    exact congrArg Prod.fst hsucceeds
  rw [hmap]

/-- Otherwise a switch is resolved where names agree and no untagged VLAN is missing. -/
theorem resolveVlanNames_lenient {switch result : SwitchConfig} :
    (resolveVlanNames false).Succeeds switch result ↔ NamesAgree switch.vlans ∧
      (∀ port ∈ switch.ports, (untaggedId switch.vlans port).isSome = true) ∧
        result = { switch with ports := switch.ports.map (resolvedPort switch.vlans) } :=
  resolveVlanNames_of_port fun _ _ => resolvePort_succeeds

/-- A port is right if its VLAN is defined and its speed supported. -/
theorem portHasErrors_eq_false_iff {model : SwitchModel} {defined : List ℕ} {port : Port} :
    portHasErrors model defined false port = false ↔
      port.vlan ∈ defined ∧ model.supportsSpeed port.speedDuplex = true := by
  simp [portHasErrors]

/-- A mirror is right if its destination is no configured port. -/
theorem mirrorHasErrors_eq_false_iff {ports : List Port} {mirror : PortMirror} :
    mirrorHasErrors ports mirror = false ↔ mirror.destinationPort ∉ ports.map Port.portId := by
  rw [mirrorHasErrors, Bool.eq_false_iff, ne_eq, List.contains_iff_mem]

/-- What a switch has to be for its resolution to succeed. -/
structure Settles (env : Environment) (model : SwitchModel) (switch : SwitchConfig) : Prop where
  required : getMissingRequiredFields switch = []
  snmp : (resolvedSnmp env switch).2 = .ok ()
  vendor : checkVendorSupport { switch with snmp := (resolvedSnmp env switch).1 } = .ok ()
  agree : NamesAgree switch.vlans
  names : ∀ vlan ∈ switch.vlans, checkVlanName env model vlan = .ok ()
  untagged : ∀ port ∈ switch.ports, ∃ id ∈ definedVlans model switch,
    untaggedId switch.vlans port = some id
  speeds : ∀ port ∈ switch.ports, model.supportsSpeed port.speedDuplex = true
  mirrors : ∀ mirror ∈ switch.portMirrors, mirror.destinationPort ∉ switch.ports.map Port.portId

/-- A switch as its resolution leaves it: tagged VLANs that are not defined are dropped. -/
def settled (env : Environment) (model : SwitchModel) (switch : SwitchConfig) : SwitchConfig :=
  { switch with
    ports := switch.ports.map fun port =>
      filterTagged (definedVlans model switch) false (resolvedPort switch.vlans port)
    snmp := (resolvedSnmp env switch).1 }

/-- References are valid after names were resolved if they were so before. -/
theorem referencesValid_resolved {env : Environment} {model : SwitchModel} {switch : SwitchConfig}
    (hsome : ∀ port ∈ switch.ports, (untaggedId switch.vlans port).isSome = true) :
    ReferencesValid env model { switch with ports := switch.ports.map (resolvedPort switch.vlans) } ↔
      (∀ vlan ∈ switch.vlans, checkVlanName env model vlan = .ok ()) ∧
      (∀ port ∈ switch.ports, ∃ id ∈ definedVlans model switch,
        untaggedId switch.vlans port = some id) ∧
      (∀ port ∈ switch.ports, model.supportsSpeed port.speedDuplex = true) ∧
      ∀ mirror ∈ switch.portMirrors,
        mirror.destinationPort ∉ switch.ports.map Port.portId := by
  -- the reference check reads the resolved id, which is the untagged one of the port
  have hvlan {port : Port} (hp : port ∈ switch.ports) :
      (resolvedPort switch.vlans port).vlan ∈ definedVlans model switch ↔
        ∃ id ∈ definedVlans model switch, untaggedId switch.vlans port = some id := by
    obtain ⟨id, hid⟩ := Option.isSome_iff_exists.mp (hsome port hp)
    simp [resolvedPort, hid]
  have hids : (switch.ports.map (resolvedPort switch.vlans)).map Port.portId =
      switch.ports.map Port.portId := by
    rw [List.map_map]
    rfl
  constructor
  · intro h
    have hport (port : Port) (hp : port ∈ switch.ports) :=
      portHasErrors_eq_false_iff.mp (h.ports _ (List.mem_map_of_mem hp))
    refine ⟨h.names, fun port hp => (hvlan hp).mp (hport port hp).1,
      fun port hp => (hport port hp).2, fun mirror hm => ?_⟩
    rw [← hids]
    exact mirrorHasErrors_eq_false_iff.mp (h.mirrors mirror hm)
  · rintro ⟨hnames, huntagged, hspeeds, hmirrors⟩
    refine ⟨hnames, fun port hp => ?_, fun mirror hm => ?_⟩
    · obtain ⟨raw, hraw, rfl⟩ := List.mem_map.mp hp
      exact portHasErrors_eq_false_iff.mpr
        ⟨(hvlan hraw).mpr (huntagged raw hraw), hspeeds raw hraw⟩
    · rw [mirrorHasErrors_eq_false_iff, hids]
      exact hmirrors mirror hm

/-- When the resolution of a switch succeeds, and what it makes of the switch. -/
theorem resolutionSteps_succeeds_iff {env : Environment} {switch result : SwitchConfig} :
    (resolutionSteps env).Succeeds switch result ↔ ∃ model, switch.model = some model ∧
      Settles env model switch ∧ result = settled env model switch := by
  simp only [resolutionSteps, InPlace.andThen_succeeds, InPlace.check_succeeds]
  have hsnmp {secrets : SwitchConfig} : (resolveSnmpSecrets env).Succeeds switch secrets ↔
      (resolvedSnmp env switch).2 = .ok () ∧
        secrets = { switch with snmp := (resolvedSnmp env switch).1 } := by
    rw [InPlace.succeeds_iff, resolveSnmpSecrets_eq]
  constructor
  · rintro ⟨_, ⟨rfl, hmissing⟩, _, hsecrets, _, ⟨rfl, hvendor⟩, _, hnamed, href⟩
    -- each step in turn: the secrets, the VLAN names, the references
    obtain ⟨hok, rfl⟩ := hsnmp.mp hsecrets
    obtain ⟨hagree, hsome, rfl⟩ := resolveVlanNames_lenient.mp hnamed
    obtain ⟨model, hmodel, hvalid, rfl⟩ := validateVlanReferences_succeeds_iff.mp href
    obtain ⟨hnames, huntagged, hspeeds, hmirrors⟩ := (referencesValid_resolved hsome).mp hvalid
    refine ⟨model, hmodel, ⟨validateRequiredFields_ok_iff.mp hmissing, hok, hvendor, hagree, hnames, huntagged, hspeeds,
      hmirrors⟩, ?_⟩
    rw [settled]
    congr 1
    exact List.map_map
  · rintro ⟨model, hmodel, h, rfl⟩
    have hsome : ∀ port ∈ switch.ports, (untaggedId switch.vlans port).isSome = true := by
      intro port hp
      obtain ⟨id, -, hid⟩ := h.untagged port hp
      rw [hid]
      rfl
    refine ⟨switch, ⟨rfl, validateRequiredFields_ok_iff.mpr h.required⟩, _, hsnmp.mpr ⟨h.snmp, rfl⟩, _,
      ⟨rfl, h.vendor⟩, _, resolveVlanNames_lenient.mpr ⟨h.agree, hsome, rfl⟩, ?_⟩
    refine validateVlanReferences_succeeds_iff.mpr ⟨model, hmodel, ?_, ?_⟩
    · refine (referencesValid_resolved ?_).mpr ⟨h.names, h.untagged, h.speeds, h.mirrors⟩
      exact hsome
    · rw [settled]
      congr 1
      rw [List.map_map]
      rfl

end SwitchConfigurator
