import Mathlib.Data.List.Infix
import SwitchConfigurator.Config.Resolve
import SwitchConfigurator.Config.Serde

/-!
# Overlay files

`validate_overlay_config` of `config.rs`, and `save_overlay` with `prefer_vlan_names_in_yaml` of
`api/handlers.rs`, up to the text that is written.
-/

namespace SwitchConfigurator

open Document Keyed RelatedLists

/-! ## Validation of an overlay -/

/-- The loop over VLANs; `seen` has the ids that it has passed. -/
def checkOverlayVlans (switchId : String) (seen : List ℕ) : List Vlan → Except Error Unit
  | [] => .ok ()
  | vlan :: rest =>
    if seen.contains vlan.id then
      .error [s!"Duplicate VLAN ID {vlan.id} in switch '{switchId}'"]
    else if vlan.id < 1 || vlan.id > 4094 then
      .error [s!"VLAN ID {vlan.id} is out of range (1-4094) in switch '{switchId}'"]
    else checkOverlayVlans switchId (vlan.id :: seen) rest

def checkOverlayPorts (switchId : String) (seen : List String) : List Port → Except Error Unit
  | [] => .ok ()
  | port :: rest =>
    if seen.contains port.portId then
      .error [s!"Duplicate port ID '{port.portId}' in switch '{switchId}'"]
    else checkOverlayPorts switchId (port.portId :: seen) rest

/-- The VLANs that ports of an overlay may refer to. -/
def overlayVlans (known : List ℕ) (switch : SwitchConfig) : List ℕ :=
  switch.vlans.map Vlan.id ++ known ++ (switch.model.map SwitchModel.implicitVlans).getD [1]

def checkOverlayPort (valid : List ℕ) (port : Port) : Except Error Unit :=
  if !valid.contains port.vlan then
    .error [s!"Port {port.portId} references VLAN {port.vlan} which is not defined. Add VLAN {port.vlan} to the vlans list first."]
  else port.taggedVlans.forM fun tagged =>
    if !valid.contains tagged then
      .error [s!"Port {port.portId} has tagged VLAN {tagged} which is not defined. Add VLAN {tagged} to the vlans list first."]
    else .ok ()

def checkOverlayMirror (ports : List Port) (mirror : PortMirror) : Except Error Unit :=
  if (ports.map Port.portId).contains mirror.destinationPort then
    .error [s!"Mirror session {mirror.sessionId} destination port {mirror.destinationPort} is also in the ports list. Mirror destination ports are special-purpose and must not be configured as regular ports."]
  else .ok ()

def checkOverlayReferences (known : List ℕ) (switch : SwitchConfig) : Except Error Unit := do
  switch.ports.forM (checkOverlayPort (overlayVlans known switch))
  switch.portMirrors.forM (checkOverlayMirror switch.ports)

/-- `validate_overlay_config`; `known` are the VLANs that other files define. -/
def validateOverlayConfig (known : List ℕ) : InPlace Error SwitchConfig :=
  (InPlace.check checkSnmpSecretSources)
  |>.andThen (InPlace.check checkVendorSupport)
  |>.andThen ((InPlace.assign expandPortRanges).mapError fun switch e =>
      s!"Port range expansion failed for switch '{switch.id}'" :: e)
  |>.andThen (InPlace.check fun switch => checkOverlayVlans switch.id [] switch.vlans)
  |>.andThen (InPlace.check fun switch => checkOverlayPorts switch.id [] switch.ports)
  -- An overlay is strict: a name that is unknown here is refused.
  |>.andThen ((resolveVlanNames true).mapError fun switch e =>
      s!"VLAN name resolution failed for switch '{switch.id}'" :: e)
  |>.andThen (InPlace.check (checkOverlayReferences known))

/-! ## Names in place of ids -/

/-- The last name that is given for an id. -/
def nameOf (names : List (ℕ × String)) (id : ℕ) : Option String := names.reverse.lookup id

def preferName (names : List (ℕ × String)) (value : Value) : Value :=
  match value.asU64.bind (nameOf names) with
  | some name => .string name
  | none => value

def preferNamesInPort (names : List (ℕ × String)) (port : Value) : Value :=
  (port.modify "vlan" (preferName names)).modify "tagged_vlans" fun tagged =>
    match tagged with
    | .sequence items => .sequence (items.map (preferName names))
    | _ => tagged

def idAndName (vlan : Value) : Option (ℕ × String) :=
  match (vlan.get "id").bind Value.asU64, (vlan.get "name").bind Value.asStr with
  | some id, some name => some (id, name)
  | _, _ => none

/-- The ids and names of a switch's own VLANs. -/
def vlanNames (switch : Value) : List (ℕ × String) :=
  (((switch.get "vlans").bind Value.asSequence).getD []).filterMap idAndName

def preferNamesInSwitch (switch : Value) : Value :=
  if (vlanNames switch).isEmpty then switch
  else switch.modify "ports" fun ports =>
    match ports with
    | .sequence items => .sequence (items.map (preferNamesInPort (vlanNames switch)))
    | _ => ports

/-! ## The files that are there -/

/-- A folder of configuration files; none where one of them cannot be read or parsed. -/
structure ConfigFolder where
  path : String
  files : Option (List ConfigFile)

/-- The files that the service is started with, the main one if it can be read and parsed. -/
structure ConfigPaths where
  main : Option ConfigFile
  folders : List ConfigFolder

/-- The VLANs that a loaded file defines for a switch. -/
def ConfigWithMetadata.vlanIds (config : ConfigWithMetadata) (switchId : String) : List ℕ :=
  (config.switches.filter fun switch => switch.id = switchId).flatMap fun switch =>
    switch.vlans.map Vlan.id

/-- `known_external_vlan_ids`: a file that does not load is passed over. -/
def knownExternalVlanIds (env : Environment) (paths : ConfigPaths)
    (switchId excludingFile : String) : List ℕ :=
  let fromMain := paths.main.toList.flatMap fun file =>
    if file.sourceFile = excludingFile then []
    else match loadWithMetadata env file .mainConfig with
      | .ok config => config.vlanIds switchId
      | .error _ => []
  let fromFolders := paths.folders.flatMap fun folder =>
    match folder.files.map (scanConfigFolder env) with
    | some (.ok configs) => configs.flatMap fun config =>
      if config.sourceFile = excludingFile then [] else config.vlanIds switchId
    | _ => []
  fromMain ++ fromFolders

/-! ## Saving -/

/-- A `SaveOverlayRequest`. -/
structure SaveOverlayRequest where
  filename : String
  mergePriority : ℕ
  switches : List SwitchConfig
  deriving DecidableEq, Repr

def SaveOverlayRequest.ofValue (formats : Formats) : Value → Option SaveOverlayRequest :=
  record fun entries => do
    let filename ← field "filename" string entries
    let mergePriority ← field "merge_priority" u16 entries
    let switches ← field "config"
      (record (field "switches" (sequence (SwitchConfig.ofValue formats)))) entries
    return { filename, mergePriority, switches }

/-- What `serde_yaml` does with texts. A file starts with its priority. -/
structure YamlText where
  Text : Type
  /-- `format!("merge_priority: {}\n\n{}", priority, serde_yaml::to_string(value))`. -/
  document : ℕ → Value → Text
  parse : Text → Option Value
  parse_document : ∀ priority switches,
    parse (document priority (.mapping [("switches", switches)])) =
      some (.mapping [("merge_priority", ofNat priority), ("switches", switches)])

/-- A response that is not a success. -/
structure ApiError where
  status : ℕ
  error : String
  deriving DecidableEq, Repr

/-- A file that a request makes the service write, and the switches it was made from. -/
structure SavedOverlay (yaml : YamlText) where
  filePath : String
  mergePriority : ℕ
  switches : List SwitchConfig
  content : yaml.Text

def validateOverlayFilename (filename : String) : Except ApiError Unit :=
  if "..".toList <:+: filename.toList ∨ '/' ∈ filename.toList ∨ '\\' ∈ filename.toList then
    .error ⟨400, "Invalid filename: path traversal not allowed"⟩
  else if ¬(".yaml".toList <:+ filename.toList) ∧ ¬(".yml".toList <:+ filename.toList) then
    .error ⟨400, "Filename must end with .yaml or .yml"⟩
  else .ok ()

/-- Validate the switches in turn; the first failure ends it. -/
def validateOverlays (known : String → List ℕ) :
    List SwitchConfig → Except ApiError (List SwitchConfig)
  | [] => .ok []
  | switch :: rest =>
    match validateOverlayConfig (known switch.id) switch with
    | (accepted, .ok _) => (accepted :: ·) <$> validateOverlays known rest
    | (_, .error e) => .error ⟨400, s!"Validation failed: {Error.display e}"⟩

/-- `save_overlay`, up to the write itself. -/
def saveOverlay (env : Environment) (formats : Formats) (yaml : YamlText) (paths : ConfigPaths)
    (request : SaveOverlayRequest) : Except ApiError (SavedOverlay yaml) := do
  validateOverlayFilename request.filename
  if request.mergePriority ≤ 10 ∨ request.mergePriority > 9999 then
    .error ⟨400, "merge_priority must be between 11 and 9999 for overlay files"⟩
  else
    match paths.folders.head? with
    | none => .error ⟨500, "No config folder configured"⟩
    | some folder => do
      let filePath := joinPath folder.path request.filename
      let switches ← validateOverlays
        (fun switchId => knownExternalVlanIds env paths switchId filePath) request.switches
      let values := switches.map fun switch => preferNamesInSwitch (switch.toValue formats)
      .ok { filePath
            mergePriority := request.mergePriority
            switches
            content := yaml.document request.mergePriority
              (.mapping [("switches", .sequence values)]) }

/-! ## Reading a file -/

def ConfigFile.ofValue (formats : Formats) (sourceFile : String) : Value → Option ConfigFile :=
  record fun entries => do
    let mergePriority ← fieldOr "merge_priority" none (optional u16) entries
    let switches ← field "switches" (sequence (SwitchConfig.ofValue formats)) entries
    return { switches, mergePriority, sourceFile }

/-- The file that is read where the saved one is, if it can be parsed. -/
def SavedOverlay.read {yaml : YamlText} (formats : Formats) (saved : SavedOverlay yaml) :
    Option ConfigFile := do
  let value ← yaml.parse saved.content
  ConfigFile.ofValue formats saved.filePath value

/-! ## What an accepted overlay is -/

/-- Distinct keys that are not among those seen, one entry at a time. -/
theorem distinct_cons_iff {α κ : Type} {key : α → κ} {a : α} {l : List α} {seen : List κ} :
    (((a :: l).map key).Nodup ∧ ∀ b ∈ a :: l, key b ∉ seen) ↔
      key a ∉ seen ∧ (l.map key).Nodup ∧ ∀ b ∈ l, key b ∉ key a :: seen := by
  rw [List.map_cons, List.nodup_cons, List.forall_mem_cons, List.mem_map]
  simp only [List.mem_cons, not_or]
  constructor
  · rintro ⟨⟨hfirst, hn⟩, ha, hrest⟩
    exact ⟨ha, hn, fun b hb => ⟨fun hkey => hfirst ⟨b, hb, hkey⟩, hrest b hb⟩⟩
  · rintro ⟨ha, hn, hrest⟩
    refine ⟨⟨?_, hn⟩, ha, fun b hb => (hrest b hb).2⟩
    rintro ⟨b, hb, hkey⟩
    exact (hrest b hb).1 hkey

/-- The VLANs of an overlay are in order if none is repeated or out of range. -/
theorem checkOverlayVlans_ok_iff {switchId : String} {seen : List ℕ} {vlans : List Vlan} :
    checkOverlayVlans switchId seen vlans = .ok () ↔
      ((vlans.map Vlan.id).Nodup ∧ ∀ vlan ∈ vlans, vlan.id ∉ seen) ∧
        ∀ vlan ∈ vlans, vlanIdInRange vlan.id = true := by
  induction vlans generalizing seen with
  | nil => simp [checkOverlayVlans]
  | cons vlan rest ih =>
    have hrange : vlanIdInRange vlan.id = true ↔ ¬(vlan.id < 1 ∨ vlan.id > 4094) := by
      simp only [vlanIdInRange, Bool.and_eq_true, decide_eq_true_eq]
      omega
    rw [checkOverlayVlans, distinct_cons_iff, List.forall_mem_cons, hrange]
    by_cases hseen : vlan.id ∈ seen
    · simp [hseen]
    · by_cases hbounds : vlan.id < 1 ∨ vlan.id > 4094
      · rw [if_neg (by simpa using hseen), if_pos (by simpa using hbounds)]
        exact iff_of_false (by simp) fun h => h.2.1 hbounds
      · rw [if_neg (by simpa using hseen), if_neg (by simpa using hbounds), ih]
        simp only [hseen, hbounds, not_false_eq_true, true_and]

/-- The ports are in order if none is repeated. -/
theorem checkOverlayPorts_ok_iff {switchId : String} {seen : List String} {ports : List Port} :
    checkOverlayPorts switchId seen ports = .ok () ↔
      (ports.map Port.portId).Nodup ∧ ∀ port ∈ ports, port.portId ∉ seen := by
  induction ports generalizing seen with
  | nil => simp [checkOverlayPorts]
  | cons port rest ih =>
    rw [checkOverlayPorts, distinct_cons_iff]
    by_cases hseen : port.portId ∈ seen
    · simp [hseen]
    · rw [if_neg (by simpa using hseen), ih]
      simp only [hseen, not_false_eq_true, true_and]

/-- A port is in order if its VLANs are known. -/
theorem checkOverlayPort_ok_iff {valid : List ℕ} {port : Port} :
    checkOverlayPort valid port = .ok () ↔
      port.vlan ∈ valid ∧ ∀ id ∈ port.taggedVlans, id ∈ valid := by
  rw [checkOverlayPort]
  by_cases hvlan : port.vlan ∈ valid
  · have hcontains : (!valid.contains port.vlan) = false := by simpa using hvlan
    rw [hcontains, if_neg (by decide), forM_ok_iff]
    simp [hvlan]
  · have hcontains : (!valid.contains port.vlan) = true := by simpa using hvlan
    rw [hcontains, if_pos rfl]
    simp [hvlan]

/-- All references are in order if those of every port and mirror are. -/
theorem checkOverlayReferences_ok_iff {known : List ℕ} {switch : SwitchConfig} :
    checkOverlayReferences known switch = .ok () ↔
      (∀ port ∈ switch.ports, port.vlan ∈ overlayVlans known switch ∧
        ∀ id ∈ port.taggedVlans, id ∈ overlayVlans known switch) ∧
      ∀ mirror ∈ switch.portMirrors,
        mirror.destinationPort ∉ switch.ports.map Port.portId := by
  have hmirror (mirror : PortMirror) : checkOverlayMirror switch.ports mirror = .ok () ↔
      mirror.destinationPort ∉ switch.ports.map Port.portId := by
    rw [checkOverlayMirror]
    by_cases h : mirror.destinationPort ∈ switch.ports.map Port.portId
    · rw [if_pos (List.contains_iff_mem.mpr h)]
      simp [h]
    · rw [if_neg (mt List.contains_iff_mem.mp h)]
      simp [h]
  simp only [← checkOverlayPort_ok_iff, ← hmirror, ← forM_ok_iff]
  rw [checkOverlayReferences, bind_ok_iff]
  exact ⟨fun ⟨_, hports, h⟩ => ⟨hports, h⟩, fun ⟨hports, h⟩ => ⟨(), hports, h⟩⟩

/-! ## Strict resolution -/

/-- The names of a list of references all stand for VLANs. -/
def RefsKnown (vlans : List Vlan) (refs : List VlanRef) : Prop :=
  ∀ ref ∈ refs, (ref.denoted vlans).isSome = true

/-- Strictly, references have to be known, and are resolved as otherwise. -/
theorem resolveRefs_strict {hostname portId : String} {vlans : List Vlan} {refs : List VlanRef}
    {seen result : List ℕ} :
    resolveRefs hostname portId vlans true refs seen = .ok result ↔ RefsKnown vlans refs ∧
      resolveRefs hostname portId vlans false refs seen = .ok result := by
  induction refs generalizing seen with
  | nil => simp [resolveRefs, RefsKnown]
  | cons ref rest ih =>
    rw [RefsKnown, List.forall_mem_cons]
    cases ref with
    | id id =>
      rw [resolveRefs, resolveRefs]
      dsimp only
      rw [ih]
      simp [VlanRef.denoted, RefsKnown]
    | name name =>
      rw [resolveRefs, resolveRefs]
      dsimp only
      cases hname : nameToId vlans name with
      | some id =>
        dsimp only
        rw [ih]
        simp [VlanRef.denoted, hname, RefsKnown]
      | none => simp [VlanRef.denoted, hname]

/-- Strictly, tagged references have to be known. -/
theorem resolveTagged_strict {hostname : String} {vlans : List Vlan} {port result : Port} :
    (resolveTagged hostname vlans true).Succeeds port result ↔
      RefsKnown vlans port.taggedVlanRefs ∧
        (resolveTagged hostname vlans false).Succeeds port result := by
  unfold InPlace.Succeeds resolveTagged
  split
  · next hempty =>
    rw [List.isEmpty_iff] at hempty
    simp [hempty, RefsKnown]
  · have hlenient := resolveRefs_lenient hostname port.portId vlans port.taggedVlanRefs []
    rw [List.eraseDups_nil] at hlenient
    by_cases hknown : RefsKnown vlans port.taggedVlanRefs
    · rw [hlenient, resolveRefs_strict.mpr ⟨hknown, hlenient⟩]
      simp only [hknown, true_and]
    · cases hstrict : resolveRefs hostname port.portId vlans true port.taggedVlanRefs [] with
      | ok r => exact absurd (resolveRefs_strict.mp hstrict).1 hknown
      | error e => simp [hknown]

/-- Strictly, a port is resolved if all its references are known. -/
theorem resolvePort_strict {hostname : String} {vlans : List Vlan} {port result : Port} :
    (resolvePort hostname vlans true).Succeeds port result ↔
      (RefsKnown vlans port.taggedVlanRefs ∧ (untaggedId vlans port).isSome = true) ∧
        result = resolvedPort vlans port := by
  rw [and_assoc, ← resolvePort_succeeds, resolvePort, resolvePort, InPlace.andThen_succeeds,
    InPlace.andThen_succeeds]
  have hrefs {middle : Port} (h : (resolveUntagged hostname vlans).Succeeds port middle) :
      middle.taggedVlanRefs = port.taggedVlanRefs := by
    obtain ⟨id, -, rfl⟩ := resolveUntagged_succeeds.mp h
    rfl
  constructor
  · rintro ⟨middle, huntagged, htagged⟩
    obtain ⟨hknown, hlenient⟩ := resolveTagged_strict.mp htagged
    exact ⟨hrefs huntagged ▸ hknown, middle, huntagged, hlenient⟩
  · rintro ⟨hknown, middle, huntagged, hlenient⟩
    exact ⟨middle, huntagged, resolveTagged_strict.mpr ⟨hrefs huntagged ▸ hknown, hlenient⟩⟩

/-- Strictly, a switch is resolved if those of all ports are known. -/
theorem resolveVlanNames_strict {switch result : SwitchConfig} :
    (resolveVlanNames true).Succeeds switch result ↔ NamesAgree switch.vlans ∧
      (∀ port ∈ switch.ports, RefsKnown switch.vlans port.taggedVlanRefs ∧
        (untaggedId switch.vlans port).isSome = true) ∧
        result = { switch with ports := switch.ports.map (resolvedPort switch.vlans) } :=
  resolveVlanNames_of_port fun _ _ => resolvePort_strict

/-! ## The validation as a whole -/

/-- What an overlay has to be once its port ranges are expanded. -/
structure OverlayValid (known : List ℕ) (switch : SwitchConfig) : Prop where
  secrets : checkSnmpSecretSources switch = .ok ()
  vendor : checkVendorSupport switch = .ok ()
  vlanIds : (switch.vlans.map Vlan.id).Nodup
  inRange : ∀ vlan ∈ switch.vlans, vlanIdInRange vlan.id = true
  portIds : (switch.ports.map Port.portId).Nodup
  agree : NamesAgree switch.vlans
  names : ∀ port ∈ switch.ports, RefsKnown switch.vlans port.taggedVlanRefs ∧
    (untaggedId switch.vlans port).isSome = true
  references : ∀ port ∈ switch.ports,
    (resolvedPort switch.vlans port).vlan ∈ overlayVlans known switch ∧
      ∀ id ∈ (resolvedPort switch.vlans port).taggedVlans, id ∈ overlayVlans known switch
  mirrors : ∀ mirror ∈ switch.portMirrors, mirror.destinationPort ∉ switch.ports.map Port.portId

/-- An overlay is accepted exactly if it is valid as expanded. -/
theorem validateOverlayConfig_succeeds_iff {known : List ℕ} {raw result : SwitchConfig} :
    (validateOverlayConfig known).Succeeds raw result ↔
      ∃ switch, expandPortRanges raw = .ok switch ∧ OverlayValid known switch ∧
        result = { switch with ports := switch.ports.map (resolvedPort switch.vlans) } := by
  simp only [validateOverlayConfig, InPlace.andThen_succeeds, InPlace.check_succeeds,
    InPlace.mapError_succeeds, InPlace.assign_succeeds]
  have hports {switch : SwitchConfig} :
      (switch.ports.map (resolvedPort switch.vlans)).map Port.portId =
        switch.ports.map Port.portId := by
    rw [List.map_map]
    rfl
  -- the first checks look at fields that the expansion leaves alone
  have hsecrets {switch : SwitchConfig} (h : expandPortRanges raw = .ok switch) :
      checkSnmpSecretSources switch = checkSnmpSecretSources raw ∧
        checkVendorSupport switch = checkVendorSupport raw := by
    rw [expandPortRanges_frame h]
    exact ⟨rfl, rfl⟩
  constructor
  · rintro ⟨_, ⟨_, ⟨_, ⟨switch, ⟨_, ⟨_, ⟨rfl, hsources⟩, rfl, hvendor⟩, hexpand⟩, rfl, hvlans⟩,
      rfl, hids⟩, hnamed⟩, rfl, hrefs⟩
    obtain ⟨hagree, hnames, rfl⟩ := resolveVlanNames_strict.mp hnamed
    obtain ⟨⟨hdistinct, -⟩, hrange⟩ := checkOverlayVlans_ok_iff.mp hvlans
    obtain ⟨href, hmirrors⟩ := checkOverlayReferences_ok_iff.mp hrefs
    obtain ⟨hsame, hsame'⟩ := hsecrets hexpand
    refine ⟨_, hexpand, ⟨hsame.trans hsources, hsame'.trans hvendor, hdistinct, hrange,
      (checkOverlayPorts_ok_iff.mp hids).1, hagree, hnames, ?_, ?_⟩, rfl⟩
    · exact List.forall_mem_map.mp href
    · rw [← hports]
      exact hmirrors
  · rintro ⟨switch, hexpand, h, rfl⟩
    obtain ⟨hsame, hsame'⟩ := hsecrets hexpand
    refine ⟨_, ⟨_, ⟨_, ⟨switch, ⟨raw, ⟨raw, ⟨rfl, hsame ▸ h.secrets⟩, rfl, hsame' ▸ h.vendor⟩,
      hexpand⟩, rfl, ?_⟩, rfl, ?_⟩, resolveVlanNames_strict.mpr ⟨h.agree, h.names, rfl⟩⟩, rfl, ?_⟩
    · exact checkOverlayVlans_ok_iff.mpr ⟨⟨h.vlanIds, fun _ _ => List.not_mem_nil⟩, h.inRange⟩
    · exact checkOverlayPorts_ok_iff.mpr ⟨h.portIds, fun _ _ => List.not_mem_nil⟩
    · refine checkOverlayReferences_ok_iff.mpr ⟨List.forall_mem_map.mpr h.references, ?_⟩
      show ∀ mirror ∈ switch.portMirrors, _
      rw [hports]
      exact h.mirrors

end SwitchConfigurator
