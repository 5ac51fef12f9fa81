import SwitchConfigurator.Config.Secrets
import SwitchConfigurator.Foundations.RelatedLists

/-!
# Validation of a switch configuration

`validate_switch_config` of `config.rs` and the steps it takes, in the order it takes
them. A step works on the switch in place: what a failed validation leaves behind is
what the caller goes on to show, so the model keeps it. Log lines are left out.
-/

namespace SwitchConfigurator

open Keyed RelatedLists

/-! ## Port ranges -/

def expandPort (port : Port) : Except Error (List Port) :=
  (·.map fun portId => { port with portId }) <$> parsePortId port.portId

def expandMirror (mirror : PortMirror) : Except Error PortMirror := do
  let sourcePorts ← mirror.sourcePorts.mapM parsePortId
  let destPorts ← parsePortId mirror.destinationPort
  if destPorts.length > 1 then
    .error [s!"Mirror session '{mirror.sessionId}': destination_port must be a single port, got: {mirror.destinationPort}"]
  else
    .ok { mirror with
      sourcePorts := sourcePorts.flatten
      destinationPort := destPorts.headD "" }

def expandPortRanges (switch : SwitchConfig) : Except Error SwitchConfig := do
  let ports ← switch.ports.mapM expandPort
  let portMirrors ← switch.portMirrors.mapM expandMirror
  .ok { switch with ports := ports.flatten, portMirrors }

/-- The expansion goes entry by entry. -/
theorem expandPortRanges_ok {raw switch : SwitchConfig} (h : expandPortRanges raw = .ok switch) :
    ∃ ports portMirrors, List.Forall₂ (fun p e => expandPort p = .ok e) raw.ports ports ∧
      List.Forall₂ (fun m e => expandMirror m = .ok e) raw.portMirrors portMirrors ∧
        switch = { raw with ports := ports.flatten, portMirrors } := by
  unfold expandPortRanges at h
  cases hports : raw.ports.mapM expandPort with
  | error e =>
    rw [hports] at h
    cases h
  | ok ports =>
    cases hmirrors : raw.portMirrors.mapM expandMirror with
    | error e =>
      rw [hports, hmirrors] at h
      cases h
    | ok portMirrors =>
      rw [hports, hmirrors] at h
      cases h
      exact ⟨ports, portMirrors, mapM_ok_iff.mp hports, mapM_ok_iff.mp hmirrors, rfl⟩

/-- The ports that an entry stands for, where its port id names any. -/
def expandedPorts (port : Port) : List Port :=
  ((parsePortId port.portId).toOption.getD []).map fun portId => { port with portId }

/-- A port expands exactly if its text is parsed. -/
theorem expandPort_ok_iff {port : Port} {ports : List Port} : expandPort port = .ok ports ↔
    (∃ ids, parsePortId port.portId = .ok ids) ∧ ports = expandedPorts port := by
  unfold expandPort expandedPorts
  cases parsePortId port.portId with
  | error e => simp
  | ok ids =>
    simp only [Except.ok.injEq, exists_eq', true_and]
    exact ⟨fun h => (Except.ok.inj h).symm, fun h => congrArg Except.ok h.symm⟩

/-- A switch expands exactly if its ports and mirrors do. -/
theorem expandPortRanges_ok_iff {raw switch : SwitchConfig} :
    expandPortRanges raw = .ok switch ↔ (∀ port ∈ raw.ports, ∃ ids,
      parsePortId port.portId = .ok ids) ∧ ∃ portMirrors,
        List.Forall₂ (fun m e => expandMirror m = .ok e) raw.portMirrors portMirrors ∧
          switch = { raw with ports := raw.ports.flatMap expandedPorts, portMirrors } := by
  constructor
  · intro h
    obtain ⟨ports, portMirrors, hports, hmirrors, rfl⟩ := expandPortRanges_ok h
    simp only [expandPort_ok_iff] at hports
    obtain ⟨hids, rfl⟩ := forall₂_map_iff.mp hports
    exact ⟨hids, portMirrors, hmirrors, rfl⟩
  · rintro ⟨hids, portMirrors, hmirrors, rfl⟩
    have hports : raw.ports.mapM expandPort = .ok (raw.ports.map expandedPorts) := by
      rw [mapM_ok_iff]
      simp only [expandPort_ok_iff]
      exact forall₂_map_iff.mpr ⟨hids, rfl⟩
    unfold expandPortRanges
    rw [hports, mapM_ok_iff.mpr hmirrors]
    rfl

/-! ## Expanding twice -/

/-- A text that names one port under its own name leaves it as it is. -/
theorem expandedPorts_of_single {port : Port} (h : parsePortId port.portId = .ok [port.portId]) :
    expandedPorts port = [port] := by
  rw [expandedPorts, h]
  rfl

/-- A mirror that was expanded is not expanded further. -/
theorem expandMirror_expanded {mirror expanded : PortMirror}
    (h : expandMirror mirror = .ok expanded) : expandMirror expanded = .ok expanded := by
  obtain ⟨sources, hsources, h⟩ := bind_ok_iff.mp h
  obtain ⟨destPorts, hdest, h⟩ := bind_ok_iff.mp h
  split at h
  · cases h
  next hlength =>
  obtain ⟨dest, rest, rfl⟩ := List.exists_cons_of_ne_nil (parsePortId_ne_nil hdest)
  obtain rfl := Except.ok.inj h
  have hfixed : ∀ id ∈ sources.flatten, parsePortId id = .ok [id] := by
    intro id hid
    obtain ⟨ids, hids, hid⟩ := List.mem_flatten.mp hid
    obtain ⟨port, -, hparsed⟩ := exists_of_mem_left (mapM_ok_iff.mp hsources).flip hids
    exact parsePortId_expanded hparsed id hid
  have hagain : sources.flatten.mapM parsePortId =
      .ok (sources.flatten.map fun id => [id]) := by
    rw [mapM_ok_iff, List.forall₂_map_right_iff, List.forall₂_same]
    exact hfixed
  have hflatten : (sources.flatten.map fun id => [id]).flatten = sources.flatten := by
    rw [← List.flatMap_def, List.flatMap_singleton']
  have hdestAgain : parsePortId dest = .ok [dest] :=
    parsePortId_expanded hdest dest List.mem_cons_self
  refine bind_ok_iff.mpr ⟨_, hagain, bind_ok_iff.mpr ⟨_, hdestAgain, ?_⟩⟩
  rw [if_neg (by simp), hflatten]
  rfl

/-! ## Required fields and structure -/

def getMissingRequiredFields (switch : SwitchConfig) : List String :=
  (if switch.hostname.isNone then ["hostname"] else [])
    ++ (if switch.model.isNone then ["model"] else [])
    ++ (if switch.managementIp.isNone then ["management_ip"] else [])
    ++ (if switch.credentials.isNone then ["credentials"] else [])

def validateRequiredFields (switch : SwitchConfig) : Except Error Unit :=
  let missingFields := getMissingRequiredFields switch
  if missingFields.isEmpty then .ok ()
  else .error [SwitchValidationError.formatLogMessage
    { switchId := switch.id, missingFields, contributingSources := [] }]

/-- The check passes exactly if no required field is missing. -/
theorem validateRequiredFields_ok_iff {switch : SwitchConfig} :
    validateRequiredFields switch = .ok () ↔ getMissingRequiredFields switch = [] := by
  unfold validateRequiredFields
  cases getMissingRequiredFields switch <;> simp

/-- `range(min = 1, max = 4094)`. -/
def vlanIdInRange (id : ℕ) : Bool := 1 ≤ id && id ≤ 4094

/-- The fields that fail their `validate` attributes. -/
def invalidFields (switch : SwitchConfig) : List String :=
  (if switch.id.isEmpty then ["id"] else [])
    ++ (switch.vlans.zipIdx.filter fun v => !vlanIdInRange v.1.id).map
      (fun v => s!"vlans[{v.2}].id")
    ++ (switch.ports.zipIdx.filter fun p => !vlanIdInRange p.1.vlan).map
      (fun p => s!"ports[{p.2}].vlan")

/-- No field is invalid exactly if there is an id and all VLANs are in range. -/
theorem invalidFields_eq_nil_iff {switch : SwitchConfig} : invalidFields switch = [] ↔
    switch.id ≠ "" ∧ (∀ vlan ∈ switch.vlans, vlanIdInRange vlan.id = true) ∧
      ∀ port ∈ switch.ports, vlanIdInRange port.vlan = true := by
  have hzip {α : Type} (l : List α) (p : α → Bool) {text : α × ℕ → String} :
      (l.zipIdx.filter fun a => !p a.1).map text = [] ↔ ∀ a ∈ l, p a = true := by
    rw [List.map_eq_nil_iff, List.filter_eq_nil_iff]
    constructor
    · intro h a ha
      obtain ⟨i, hi, rfl⟩ := List.mem_iff_getElem.mp ha
      have hmem : (l[i], i) ∈ l.zipIdx := by
        rw [List.mem_zipIdx_iff_getElem?]
        simp
      simpa using h _ hmem
    · intro h a ha
      have hmem := List.fst_mem_of_mem_zipIdx ha
      simp [h _ hmem]
  rw [invalidFields, List.append_eq_nil_iff, List.append_eq_nil_iff, and_assoc]
  refine and_congr ?_ (and_congr (hzip switch.vlans fun vlan => vlanIdInRange vlan.id)
    (hzip switch.ports fun port => vlanIdInRange port.vlan))
  by_cases h : switch.id = "" <;> simp [h]

def validateStructure (env : Environment) (switch : SwitchConfig) : Except Error Unit :=
  if (invalidFields switch).isEmpty then .ok ()
  else .error [env.validationErrors (invalidFields switch)]

/-- The check passes exactly if no field is invalid. -/
theorem validateStructure_ok_iff {env : Environment} {switch : SwitchConfig} :
    validateStructure env switch = .ok () ↔ invalidFields switch = [] := by
  unfold validateStructure
  cases invalidFields switch <;> simp

/-! ## VLAN names -/

/-- The loop of `find_ambiguous_vlan_name`; `seen` is its map from names to ids. -/
def findAmbiguousFrom (seen : List Vlan) : List Vlan → Option (String × ℕ × ℕ)
  | [] => none
  | vlan :: rest =>
    match lookup Vlan.name vlan.name seen with
    | some existing =>
      if existing.id ≠ vlan.id then some (vlan.name, existing.id, vlan.id)
      else findAmbiguousFrom (seen ++ [vlan]) rest
    | none => findAmbiguousFrom (seen ++ [vlan]) rest

def findAmbiguousVlanName (vlans : List Vlan) : Option (String × ℕ × ℕ) :=
  findAmbiguousFrom [] vlans

/-- How messages name a switch: by hostname, or by id where it has none. -/
def SwitchConfig.displayName (switch : SwitchConfig) : String := switch.hostname.getD switch.id

def nameToId (vlans : List Vlan) (name : String) : Option ℕ :=
  (lookup Vlan.name name vlans).map Vlan.id

def resolveUntagged (hostname : String) (vlans : List Vlan) : InPlace Error Port := fun port =>
  match port.vlanName with
  | none => (port, .ok ())
  | some name =>
    -- The name is taken out of the port before it is looked up.
    match nameToId vlans name with
    | some id => ({ port with vlanName := none, vlan := id }, .ok ())
    | none => ({ port with vlanName := none },
        .error [s!"Switch '{hostname}' port {port.portId}: untagged VLAN name '{name}' does not match any defined VLAN."])

/-- The ids that tagged references stand for, each once, in order. -/
def resolveRefs (hostname portId : String) (vlans : List Vlan) (strict : Bool) :
    List VlanRef → List ℕ → Except Error (List ℕ)
  | [], resolved => .ok resolved
  | ref :: rest, resolved =>
    let add (id : ℕ) := if resolved.contains id then resolved else resolved ++ [id]
    match ref with
    | .id id => resolveRefs hostname portId vlans strict rest (add id)
    | .name name =>
      match nameToId vlans name with
      | some id => resolveRefs hostname portId vlans strict rest (add id)
      | none =>
        if strict then
          .error [s!"Switch '{hostname}' port {portId}: tagged VLAN name '{name}' does not match any defined VLAN."]
        else resolveRefs hostname portId vlans strict rest resolved

def resolveTagged (hostname : String) (vlans : List Vlan) (strict : Bool) :
    InPlace Error Port := fun port =>
  if port.taggedVlanRefs.isEmpty then (port, .ok ())
  else
    match resolveRefs hostname port.portId vlans strict port.taggedVlanRefs [] with
    | .ok resolved => ({ port with taggedVlanRefs := [], taggedVlans := resolved }, .ok ())
    | .error e => ({ port with taggedVlanRefs := [] }, .error e)

/-- Resolve the VLAN names of every port into ids. -/
def resolveVlanNames (strict : Bool) : InPlace Error SwitchConfig := fun switch =>
  match findAmbiguousVlanName switch.vlans with
  | some (name, existingId, id) =>
    (switch, .error [s!"Switch '{switch.displayName}': VLAN name '{name}' is ambiguous — it is defined for both VLAN {existingId} and VLAN {id}. VLAN names referenced by ports must be unique."])
  | none =>
    InPlace.within SwitchConfig.ports (fun ports switch => { switch with ports })
      (InPlace.forEach (fun _ =>
        (resolveUntagged switch.displayName switch.vlans).andThen
          (resolveTagged switch.displayName switch.vlans strict)) 0) switch

/-! ## VLAN references -/

/-- The `Debug` form of a model. -/
def SwitchModel.debug : SwitchModel → String
  | aruba2530_24G_POE => "Aruba2530_24G_POE"
  | aruba2530_8G_POE => "Aruba2530_8G_POE"
  | aruba2530_48G_2SFP => "Aruba2530_48G_2SFP"
  | aruba2540_24G => "Aruba2540_24G"
  | aruba2540_48G_4SFP => "Aruba2540_48G_4SFP"
  | aruba2930F => "Aruba2930F"
  | fortiswitch124F_FPOE => "Fortiswitch124F_FPOE"
  | ciscoCatalyst9300_24P_UPOE => "CiscoCatalyst9300_24P_UPOE"

/-- Does the regular expression `\d+-\d+` match somewhere? -/
def hasNumberRange (digit : Char → Bool) : List Char → Bool
  | [] => false
  | a :: rest =>
    (match rest with
      | hyphen :: b :: _ => digit a && hyphen == '-' && digit b
      | _ => false) || hasNumberRange digit rest

def checkVlanName (env : Environment) (model : SwitchModel) (vlan : Vlan) : Except Error Unit :=
  let maxNameLen := model.maxVlanNameLength
  if vlan.name.utf8ByteSize > maxNameLen then
    .error [s!"VLAN {vlan.id} name '{vlan.name}' is {vlan.name.utf8ByteSize} characters, but switch model {model.debug} only supports up to {maxNameLen} characters"]
  else if hasNumberRange env.regexDigit vlan.name.toList then
    .error [s!"VLAN {vlan.id} name '{vlan.name}' contains a number range pattern (e.g., '8-10'). Aruba switches interpret this as a range. Use 'Access 8_10 port sw' or 'Access 8 10 port sw' instead."]
  else .ok ()

def definedVlans (model : SwitchModel) (switch : SwitchConfig) : List ℕ :=
  switch.vlans.map Vlan.id ++ model.implicitVlans

/-- Does a port refer to an unknown VLAN, or use a speed the model lacks? -/
def portHasErrors (model : SwitchModel) (defined : List ℕ) (strict : Bool) (port : Port) : Bool :=
  !defined.contains port.vlan || !model.supportsSpeed port.speedDuplex
    || strict && port.taggedVlans.any fun id => !defined.contains id

def filterTagged (defined : List ℕ) (strict : Bool) (port : Port) : Port :=
  if strict then port
  else { port with taggedVlans := port.taggedVlans.filter defined.contains }

/-- Is a mirror destination also in the port list? -/
def mirrorHasErrors (ports : List Port) (mirror : PortMirror) : Bool :=
  (ports.map Port.portId).contains mirror.destinationPort

def validateVlanReferencesInner (env : Environment) (strict : Bool) :
    InPlace Error SwitchConfig := fun switch =>
  match switch.model with
  -- Not reached: the required fields have been checked before.
  | none => (switch, .error ["model validated"])
  | some model =>
    match switch.vlans.forM (checkVlanName env model) with
    | .error e => (switch, .error e)
    | .ok _ =>
      let defined := definedVlans model switch
      let filtered := { switch with ports := switch.ports.map (filterTagged defined strict) }
      -- Every problem is logged before the validation fails for all of them.
      if switch.ports.any (portHasErrors model defined strict)
          || switch.portMirrors.any (mirrorHasErrors switch.ports) then
        (filtered, .error [s!"Configuration validation failed for switch '{switch.displayName}': Port/VLAN/mirror reference errors (see logs above)"])
      else (filtered, .ok ())

def validateVlanReferences (env : Environment) : InPlace Error SwitchConfig :=
  validateVlanReferencesInner env false

/-! ## The validation -/

def validateSwitchConfig (env : Environment) : InPlace Error SwitchConfig :=
  ((InPlace.assign expandPortRanges).mapError fun switch e =>
      s!"Port range expansion failed for switch '{switch.id}'" :: e)
  |>.andThen ((InPlace.check validateRequiredFields).mapError fun switch e =>
      s!"Required field validation failed for switch '{switch.id}'" :: e)
  |>.andThen ((InPlace.check (validateStructure env)).mapError fun switch e =>
      s!"Structural validation failed for switch '{switch.displayName}'" :: e)
  |>.andThen (resolveSnmpSecrets env)
  |>.andThen (InPlace.check checkVendorSupport)
  |>.andThen (resolveVlanNames false)
  |>.andThen ((validateVlanReferences env).mapError fun switch e =>
      s!"VLAN reference validation failed for switch '{switch.displayName}'" :: e)

/-- The configurations that some input makes the validation accept. -/
def Accepted (switch : SwitchConfig) : Prop :=
  ∃ env raw, (validateSwitchConfig env).Succeeds raw switch

/-- An environment without secrets. -/
def plainEnvironment : Environment where
  readToString := fun _ => .error "No such file or directory (os error 2)"
  credentialsDir := none
  regexDigit := Char.isDigit
  validationErrors := fun fields => ", ".intercalate fields

/-- A switch that passes has a model that supports what it asks for. -/
theorem validateVlanReferences_succeeds {env : Environment} {switch result : SwitchConfig}
    (h : (validateVlanReferences env).Succeeds switch result) :
    ∃ model, switch.model = some model ∧
      switch.vlans.forM (checkVlanName env model) = .ok () ∧
      (∀ port ∈ switch.ports, portHasErrors model (definedVlans model switch) false port = false) ∧
      (∀ mirror ∈ switch.portMirrors, mirrorHasErrors switch.ports mirror = false) ∧
      result = { switch with
        ports := switch.ports.map (filterTagged (definedVlans model switch) false) } := by
  unfold InPlace.Succeeds validateVlanReferences validateVlanReferencesInner at h
  cases hm : switch.model with
  | none => simp [hm] at h
  | some model =>
    cases hn : switch.vlans.forM (checkVlanName env model) with
    | error e => simp [hm, hn] at h
    | ok u =>
      simp only [hm, hn] at h
      split at h
      · simp at h
      · next hb =>
        rw [Bool.or_eq_true, not_or, Bool.not_eq_true, Bool.not_eq_true] at hb
        refine ⟨model, rfl, hn, ?_, ?_, (congrArg Prod.fst h).symm⟩
        · exact fun port hp => Bool.eq_false_iff.mpr (List.any_eq_false.mp hb.1 port hp)
        · exact fun mirror hp => Bool.eq_false_iff.mpr (List.any_eq_false.mp hb.2 mirror hp)

@[simp] theorem portId_filterTagged (defined : List ℕ) (strict : Bool) (port : Port) :
    (filterTagged defined strict port).portId = port.portId := by
  unfold filterTagged
  split <;> rfl

/-- In an accepted configuration no mirror destination is in the port list. -/
theorem Accepted.destination_not_port {switch : SwitchConfig} (h : Accepted switch)
    {mirror : PortMirror} (hm : mirror ∈ switch.portMirrors) :
    mirror.destinationPort ∉ switch.ports.map Port.portId := by
  obtain ⟨env, raw, h⟩ := h
  simp only [validateSwitchConfig, InPlace.andThen_succeeds, InPlace.mapError_succeeds] at h
  obtain ⟨checked, -, h⟩ := h
  obtain ⟨model, -, -, -, hmirrors, rfl⟩ := validateVlanReferences_succeeds h
  have hports : (checked.ports.map (filterTagged (definedVlans model checked) false)).map
      Port.portId = checked.ports.map Port.portId := by
    rw [List.map_map]
    exact List.map_congr_left fun port _ => portId_filterTagged _ _ port
  have hdest := hmirrors mirror hm
  rw [hports]
  simpa [mirrorHasErrors] using hdest

end SwitchConfigurator
