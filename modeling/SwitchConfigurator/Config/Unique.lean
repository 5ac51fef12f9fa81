import SwitchConfigurator.Config.Load

/-!
# Distinct keys

Which keys of an accepted configuration are distinct. The validation looks for no repeated key,
so they are those that were distinct in the input, port ids after their ranges are expanded.
-/

namespace SwitchConfigurator

structure SwitchConfig.Unique (switch : SwitchConfig) : Prop where
  vlans : (switch.vlans.map Vlan.id).Nodup
  ports : (switch.ports.map Port.portId).Nodup
  portMirrors : (switch.portMirrors.map PortMirror.sessionId).Nodup

/-- The ports that the entries of a port list name. -/
def namedPorts (ports : List Port) : List String :=
  ports.flatMap fun port => (parsePortId port.portId).toOption.getD []

/-- A configuration as it is written has distinct keys, overlaps of port ranges included. -/
structure SwitchConfig.DistinctKeys (raw : SwitchConfig) : Prop where
  vlans : (raw.vlans.map Vlan.id).Nodup
  ports : (namedPorts raw.ports).Nodup
  portMirrors : (raw.portMirrors.map PortMirror.sessionId).Nodup

/-! ## What the validation keeps -/

/-- The keys of a switch. -/
structure Keys where
  id : String
  vlans : List ℕ
  ports : List String
  portMirrors : List String

def SwitchConfig.keys (switch : SwitchConfig) : Keys where
  id := switch.id
  vlans := switch.vlans.map Vlan.id
  ports := switch.ports.map Port.portId
  portMirrors := switch.portMirrors.map PortMirror.sessionId

/-- Reading secrets keeps the keys. -/
theorem resolveSnmpSecrets_keys (env : Environment) :
    (resolveSnmpSecrets env).Keeps SwitchConfig.keys := by
  apply (InPlace.keeps_check _).andThen
  intro switch
  dsimp only
  split
  · rfl
  · rfl

theorem resolveUntagged_portId (hostname : String) (vlans : List Vlan) :
    (resolveUntagged hostname vlans).Keeps Port.portId := by
  intro port
  rw [resolveUntagged]
  split
  · rfl
  · split
    · rfl
    · rfl

theorem resolveTagged_portId (hostname : String) (vlans : List Vlan) (strict : Bool) :
    (resolveTagged hostname vlans strict).Keeps Port.portId := by
  intro port
  rw [resolveTagged]
  split
  · rfl
  · split
    · rfl
    · rfl

/-- So does resolving names. -/
theorem resolveVlanNames_keys (strict : Bool) :
    (resolveVlanNames strict).Keeps SwitchConfig.keys := by
  intro switch
  rw [resolveVlanNames]
  split
  · rfl
  · have hports := InPlace.keeps_forEach (fun _ =>
      (resolveUntagged_portId switch.displayName switch.vlans).andThen
        (resolveTagged_portId switch.displayName switch.vlans strict)) 0 switch.ports
    show Keys.mk _ _ _ _ = Keys.mk _ _ _ _
    rw [Keys.mk.injEq]
    exact ⟨rfl, rfl, hports, rfl⟩

/-- So does checking references. -/
theorem validateVlanReferences_keys (env : Environment) :
    (validateVlanReferences env).Keeps SwitchConfig.keys := by
  intro switch
  rw [validateVlanReferences, validateVlanReferencesInner]
  split
  · rfl
  · next model _ =>
    split
    · rfl
    · have hports : (switch.ports.map (filterTagged (definedVlans model switch) false)).map
          Port.portId = switch.ports.map Port.portId := by
        rw [List.map_map]
        exact List.map_congr_left fun port _ => portId_filterTagged _ _ port
      dsimp only
      split
      · exact congrArg (Keys.mk _ _ · _) hports
      · exact congrArg (Keys.mk _ _ · _) hports

/-! ## What the expansion of port ranges makes of the keys -/

/-- A port is expanded to the ports that its text names. -/
theorem expandPort_names {port : Port} {ports : List Port} (h : expandPort port = .ok ports) :
    parsePortId port.portId = .ok (ports.map Port.portId) := by
  unfold expandPort at h
  cases hids : parsePortId port.portId with
  | error e =>
    rw [hids] at h
    cases h
  | ok ids =>
    rw [hids] at h
    cases h
    rw [List.map_map]
    exact congrArg Except.ok (List.map_id _).symm

/-- So are all ports of a switch. -/
theorem namedPorts_of_expanded {raw : List Port} {ports : List (List Port)}
    (h : List.Forall₂ (fun port expanded => expandPort port = .ok expanded) raw ports) :
    namedPorts raw = ports.flatten.map Port.portId := by
  induction h with
  | nil => rfl
  | cons hport _ ih =>
    rw [namedPorts, List.flatMap_cons, expandPort_names hport, List.flatten_cons, List.map_append,
      ← ih]
    rfl

/-- A mirror is expanded under its session. -/
theorem expandMirror_sessionId {mirror expanded : PortMirror}
    (h : expandMirror mirror = .ok expanded) : mirror.sessionId = expanded.sessionId := by
  unfold expandMirror at h
  cases hsources : mirror.sourcePorts.mapM parsePortId with
  | error e =>
    rw [hsources] at h
    cases h
  | ok sourcePorts =>
    cases hdest : parsePortId mirror.destinationPort with
    | error e =>
      rw [hsources, hdest] at h
      cases h
    | ok destPorts =>
      rw [hsources, hdest] at h
      simp only [bind, Except.bind] at h
      split at h
      · cases h
      · cases h
        rfl

/-- Expanding changes the keys of ports only, to those that are named. -/
theorem expandPortRanges_keys {raw switch : SwitchConfig}
    (h : expandPortRanges raw = .ok switch) : switch.keys =
      { id := raw.id
        vlans := raw.vlans.map Vlan.id
        ports := namedPorts raw.ports
        portMirrors := raw.portMirrors.map PortMirror.sessionId } := by
  obtain ⟨ports, portMirrors, hports, hmirrors, rfl⟩ := expandPortRanges_ok h
  have hsessions : raw.portMirrors.map PortMirror.sessionId =
      portMirrors.map PortMirror.sessionId := by
    rw [← List.forall₂_eq_eq_eq, List.forall₂_map_left_iff, List.forall₂_map_right_iff]
    exact hmirrors.imp fun _ _ => expandMirror_sessionId
  rw [namedPorts_of_expanded hports, hsessions]
  rfl

/-! ## Accepted configurations -/

section

variable {env : Environment} {raw switch : SwitchConfig}

/-- An accepted switch has the keys of what it was expanded to. -/
theorem keys_of_accepted (h : (validateSwitchConfig env).Succeeds raw switch) : switch.keys =
    { id := raw.id
      vlans := raw.vlans.map Vlan.id
      ports := namedPorts raw.ports
      portMirrors := raw.portMirrors.map PortMirror.sessionId } := by
  simp only [validateSwitchConfig, InPlace.andThen_succeeds, InPlace.mapError_succeeds,
    InPlace.assign_succeeds, InPlace.check_succeeds] at h
  obtain ⟨named, ⟨_, ⟨secrets, ⟨_, ⟨_, ⟨expanded, hexpand, rfl, -⟩, rfl, -⟩, hsecrets⟩, rfl, -⟩,
    hnames⟩, href⟩ := h
  rw [← expandPortRanges_keys hexpand, (validateVlanReferences_keys env).of_succeeds href,
    (resolveVlanNames_keys false).of_succeeds hnames,
    (resolveSnmpSecrets_keys env).of_succeeds hsecrets]

/-- Its keys are distinct exactly if those in the file were. -/
theorem unique_of_accepted_iff (h : (validateSwitchConfig env).Succeeds raw switch) :
    switch.Unique ↔ raw.DistinctKeys := by
  have hkeys := keys_of_accepted h
  rw [SwitchConfig.keys, Keys.mk.injEq] at hkeys
  obtain ⟨-, hvlans, hports, hmirrors⟩ := hkeys
  constructor
  · rintro ⟨hv, hp, hm⟩
    exact ⟨hvlans ▸ hv, hports ▸ hp, hmirrors ▸ hm⟩
  · rintro ⟨hv, hp, hm⟩
    exact ⟨hvlans ▸ hv, hports ▸ hp, hmirrors ▸ hm⟩

end

/-- Does the validation accept the switch? -/
def accepts (env : Environment) (raw : SwitchConfig) : Bool := (validateSwitchConfig env raw).2.isOk

section

variable {env : Environment} {raw : SwitchConfig}

theorem succeeds_of_accepts (h : accepts env raw = true) :
    (validateSwitchConfig env).Succeeds raw (validateSwitchConfig env raw).1 := by
  unfold accepts at h
  show validateSwitchConfig env raw = _
  rcases hresult : validateSwitchConfig env raw with ⟨switch, r⟩
  rw [hresult] at h
  cases r with
  | ok _ => rfl
  | error e => cases h

theorem validateOne_accepted (h : accepts env raw = true) :
    validateOne env raw = .ok (validateSwitchConfig env raw).1 := by
  have hsucceeds : validateSwitchConfig env raw = _ := succeeds_of_accepts h
  rw [validateOne, hsucceeds]

/-- A switch that is not accepted is reported under its id. -/
theorem validateOne_rejected (h : accepts env raw = false) :
    ∃ failure, validateOne env raw = .error failure ∧
      failure.switchId = (validateSwitchConfig env raw).1.id := by
  unfold accepts at h
  unfold validateOne
  rcases hresult : validateSwitchConfig env raw with ⟨switch, r⟩
  rw [hresult] at h
  cases r with
  | ok _ => cases h
  | error e => exact ⟨_, rfl, rfl⟩

end

/-- The switches of a file that is loaded alone are those that the validation accepts. -/
theorem valid_load (env : Environment) (file : ConfigFile) : (load env file).valid =
    (file.switches.filter (accepts env)).map fun raw => (validateSwitchConfig env raw).1 := by
  show List.filterMap _ (file.switches.map (validateOne env)) = _
  induction file.switches with
  | nil => rfl
  | cons raw rest ih =>
    cases h : accepts env raw with
    | true =>
      rw [List.map_cons, validateOne_accepted h, List.filter_cons_of_pos h, List.map_cons, ← ih]
      rfl
    | false =>
      obtain ⟨failure, hf, -⟩ := validateOne_rejected h
      rw [List.map_cons, hf, List.filter_cons_of_neg (by simp [h]), ← ih]
      rfl

/-- The valid switches are those that are accepted, in order. -/
theorem ids_load (env : Environment) (file : ConfigFile) :
    (load env file).valid.map SwitchConfig.id =
      (file.switches.filter (accepts env)).map SwitchConfig.id := by
  rw [valid_load, List.map_map]
  apply List.map_congr_left
  intro raw hraw
  have hkeys := keys_of_accepted (succeeds_of_accepts (List.mem_filter.mp hraw).2)
  exact congrArg Keys.id hkeys

/-- An accepted configuration has distinct keys exactly if the input has, and the switches of a
file have distinct ids exactly if no two of its accepted entries share one. -/
theorem unique_iff (env : Environment) :
    (∀ raw switch, (validateSwitchConfig env).Succeeds raw switch →
      (switch.Unique ↔ raw.DistinctKeys)) ∧
    ∀ file, ((load env file).valid.map SwitchConfig.id).Nodup ↔
      ((file.switches.filter (accepts env)).map SwitchConfig.id).Nodup := by
  refine ⟨fun raw switch h => unique_of_accepted_iff h, fun file => ?_⟩
  rw [ids_load]

/-- A switch whose port entries overlap, and which has VLAN 10 twice. -/
def repeatedRaw : SwitchConfig where
  id := "sw1"
  hostname := some "office"
  model := some .aruba2930F
  managementIp := some "192.0.2.10"
  credentials := some { username := "admin" }
  vlans := [{ id := 10, name := "staff" }, { id := 10, name := "guests" }]
  ports := [{ portId := "1-3", vlan := 1 }, { portId := "3", vlan := 10 }]

def repeatedSwitch : SwitchConfig :=
  { repeatedRaw with
    ports := [{ portId := "1", vlan := 1 }, { portId := "2", vlan := 1 },
      { portId := "3", vlan := 1 }, { portId := "3", vlan := 10 }] }

/-- A switch with a repeated VLAN. -/
theorem unique_iff_repeatedSwitch : repeatedSwitch.Unique ↔ repeatedRaw.DistinctKeys :=
  (unique_iff plainEnvironment).1 repeatedRaw repeatedSwitch rfl

/-- No path looks for repeated keys. -/
theorem repeated_accepted :
    (validateSwitchConfig plainEnvironment).Succeeds repeatedRaw repeatedSwitch ∧
      ¬repeatedSwitch.Unique ∧
        ¬((load plainEnvironment { switches := [repeatedRaw, repeatedRaw], sourceFile := "" }).valid.map
          SwitchConfig.id).Nodup := by
  refine ⟨rfl, fun h => ?_, ?_⟩
  · have hports := h.ports
    revert hports
    decide
  · rw [ids_load]
    have hids : (([repeatedRaw, repeatedRaw].filter (accepts plainEnvironment)).map
        SwitchConfig.id) = ["sw1", "sw1"] := rfl
    rw [hids]
    decide

end SwitchConfigurator
