import SwitchConfigurator.Config.Outcome
import SwitchConfigurator.Config.OverlayRoundTrip

/-!
# The round trip of a saved overlay

A request that `save_overlay` grants is followed through the file it leaves: reading the file,
resolving its names on their own, and merging it with other files.
-/

namespace SwitchConfigurator

open Document Keyed RelatedLists

section

variable {env : Environment} {formats : Formats} {yaml : YamlText} {paths : ConfigPaths}
  {request : SaveOverlayRequest} {saved : SavedOverlay yaml}

/-! ## What is saved -/

/-- Overlays are accepted exactly if each of them is. -/
theorem validateOverlays_ok_iff {known : String → List ℕ} {raws accepted : List SwitchConfig} :
    validateOverlays known raws = .ok accepted ↔ List.Forall₂ (fun raw switch =>
      (validateOverlayConfig (known raw.id)).Succeeds raw switch) raws accepted := by
  -- on the overlays; the first one that is refused ends it
  induction raws generalizing accepted with
  | nil =>
    rw [validateOverlays, List.forall₂_nil_left_iff, Except.ok.injEq]
    exact eq_comm
  | cons raw rest ih =>
    rw [validateOverlays, List.forall₂_cons_left_iff]
    rcases hvalid : validateOverlayConfig (known raw.id) raw with ⟨switch, result⟩
    cases result with
    | error e =>
      refine iff_of_false (by simp) ?_
      rintro ⟨b, u, hb, -, -⟩
      unfold InPlace.Succeeds at hb
      rw [hvalid] at hb
      cases hb
    | ok _ =>
      constructor
      · intro h
        cases hrest : validateOverlays known rest with
        | error e =>
          simp [hrest] at h
        | ok switches =>
          rw [hrest] at h
          cases h
          exact ⟨switch, switches, hvalid, ih.mp hrest, rfl⟩
      · rintro ⟨b, u, hb, hu, rfl⟩
        have hsame : b = switch := congrArg Prod.fst (hb.symm.trans hvalid)
        dsimp only
        rw [ih.mpr hu, hsame]
        rfl

/-- What a request that is granted writes. -/
structure Saves (env : Environment) (formats : Formats) (paths : ConfigPaths)
    (request : SaveOverlayRequest) (saved : SavedOverlay yaml) : Prop where
  priority : 10 < saved.mergePriority ∧ saved.mergePriority ≤ 9999
  switches : List.Forall₂ (fun raw switch => (validateOverlayConfig
    (knownExternalVlanIds env paths raw.id saved.filePath)).Succeeds raw switch)
      request.switches saved.switches
  content : saved.content = yaml.document saved.mergePriority (.mapping [("switches",
    .sequence (saved.switches.map fun switch => preferNamesInSwitch (switch.toValue formats)))])

/-- A save that goes through is one of the accepted switches. -/
theorem saveOverlay_ok (h : saveOverlay env formats yaml paths request = .ok saved) :
    Saves env formats paths request saved := by
  rw [saveOverlay, bind_ok_iff] at h
  obtain ⟨_, -, h⟩ := h
  split at h
  · cases h
  · next hrange =>
    rw [not_or] at hrange
    split at h
    · cases h
    · obtain ⟨switches, hvalid, h⟩ := bind_ok_iff.mp h
      have hswitches := validateOverlays_ok_iff.mp hvalid
      obtain rfl := Except.ok.inj h
      exact ⟨⟨not_le.mp hrange.1, not_lt.mp hrange.2⟩, hswitches, rfl⟩

/-- What a submitted switch is accepted as: its port ranges expanded, its names resolved. -/
def Denotes (submitted accepted : SwitchConfig) : Prop :=
  ∃ expanded, expandPortRanges submitted = .ok expanded ∧
    (resolveVlanNames true).Succeeds expanded accepted

/-- What is known of a switch that was accepted. -/
theorem Saves.accepted (h : Saves env formats paths request saved) {accepted : SwitchConfig}
    (hmem : accepted ∈ saved.switches) : ∃ raw ∈ request.switches, ∃ known switch,
      (∀ id ∈ known, vlanIdInRange id = true) ∧ expandPortRanges raw = .ok switch ∧
        OverlayValid known switch ∧ accepted = switch.resolved := by
  obtain ⟨raw, hraw, hvalid⟩ := exists_of_mem_left h.switches.flip hmem
  obtain ⟨switch, hexpand, hoverlay, hresolved⟩ := validateOverlayConfig_succeeds_iff.mp hvalid
  have hknown := knownExternalVlanIds_inRange env paths raw.id saved.filePath
  exact ⟨raw, hraw, _, switch, hknown, hexpand, hoverlay, hresolved⟩

/-- What is saved denotes what was asked for. -/
theorem Saves.denotes (h : Saves env formats paths request saved) :
    List.Forall₂ Denotes request.switches saved.switches := by
  refine h.switches.imp fun raw accepted hvalid => ?_
  obtain ⟨switch, hexpand, hoverlay, rfl⟩ := validateOverlayConfig_succeeds_iff.mp hvalid
  exact ⟨switch, hexpand, resolveVlanNames_strict.mpr ⟨hoverlay.agree, hoverlay.names, rfl⟩⟩

/-! ## Reading the file -/

/-- The file that a saved overlay is read as. -/
def SavedOverlay.file (saved : SavedOverlay yaml) : ConfigFile :=
  { switches := saved.switches.map SwitchConfig.stored
    mergePriority := some saved.mergePriority
    sourceFile := saved.filePath }

/-- The file, with its metadata. -/
def SavedOverlay.config (saved : SavedOverlay yaml) : ConfigWithMetadata :=
  { switches := saved.switches.map SwitchConfig.stored
    mergePriority := saved.mergePriority
    sourceFile := saved.filePath
    sourceType := .folderConfig }

/-- A saved overlay is read back as its file. -/
theorem Saves.read (h : Saves env formats paths request saved)
    (hread : ∀ raw ∈ request.switches, raw.Readable formats) :
    saved.read formats = some saved.file := by
  have hpriority : optional u16 (ofNat saved.mergePriority) = some (some saved.mergePriority) := by
    have hlt : saved.mergePriority < 2 ^ 16 := by
      have hle := h.priority.2
      omega
    exact optional_ofNat hlt
  have hswitches : sequence (SwitchConfig.ofValue formats)
      (ofList (fun switch => preferNamesInSwitch (switch.toValue formats)) saved.switches) =
        some (saved.switches.map SwitchConfig.stored) := by
    apply sequence_write
    intro accepted hmem
    obtain ⟨raw, hraw, known, switch, hknown, hexpand, hvalid, rfl⟩ := h.accepted hmem
    exact hvalid.read_stored hknown hexpand (hread raw hraw)
  rw [SavedOverlay.read, h.content, yaml.parse_document, Option.bind_eq_bind, Option.bind_some,
    ConfigFile.ofValue, record_mapping]
  refine Option.bind_eq_some_iff.mpr ⟨some saved.mergePriority, ?_, ?_⟩
  · rw [fieldOr_cons_self, hpriority]
  · refine Option.bind_eq_some_iff.mpr ⟨saved.switches.map SwitchConfig.stored, ?_, rfl⟩
    rw [field_cons_ne (by decide), field_cons_self]
    exact hswitches

/-- The file loads if its switches have ids; their port ranges are expanded already. -/
theorem Saves.loads_iff (h : Saves env formats paths request saved) :
    loadWithMetadata env saved.file .folderConfig = .ok saved.config ↔
      ∀ raw ∈ request.switches, raw.id ≠ "" := by
  have hid {raw switch : SwitchConfig} (hexpand : expandPortRanges raw = .ok switch) :
      switch.resolved.stored.id = raw.id := by
    rw [expandPortRanges_frame hexpand]
    rfl
  rw [loadWithMetadata_ok_iff]
  constructor
  · intro hload raw hraw
    obtain ⟨accepted, haccepted, hvalid⟩ := exists_of_mem_left h.switches hraw
    obtain ⟨switch, hexpand, -, rfl⟩ := validateOverlayConfig_succeeds_iff.mp hvalid
    have hmem : switch.resolved.stored ∈ saved.file.switches := List.mem_map_of_mem haccepted
    obtain ⟨read, -, hread⟩ := exists_of_mem_left hload.switches hmem
    have hfields := (invalidFields_eq_nil_iff.mp hread.2).1
    rw [expandPortRanges_frame hread.1] at hfields
    exact hid hexpand ▸ hfields
  · intro hids
    refine ⟨?_, rfl, rfl, fun _ => h.priority.1, rfl⟩
    show List.Forall₂ ExpandsTo (saved.switches.map _) (saved.switches.map _)
    rw [List.forall₂_map_left_iff, List.forall₂_map_right_iff, List.forall₂_same]
    intro accepted hmem
    obtain ⟨raw, hraw, known, switch, hknown, hexpand, hvalid, rfl⟩ := h.accepted hmem
    refine hvalid.expandsTo_stored hknown hexpand ?_
    exact (hid hexpand).trans_ne (hids raw hraw)

/-- Its names resolve to what was accepted. -/
theorem Saves.resolves (h : Saves env formats paths request saved) :
    List.Forall₂ (fun accepted read =>
      (resolveVlanNames false).Succeeds read accepted.withoutSecrets.writtenOnce)
      saved.switches saved.config.switches := by
  show List.Forall₂ _ saved.switches (saved.switches.map SwitchConfig.stored)
  rw [List.forall₂_map_right_iff, List.forall₂_same]
  intro accepted hmem
  obtain ⟨raw, -, known, switch, hknown, -, hvalid, rfl⟩ := h.accepted hmem
  exact hvalid.resolve_stored hknown

/-! ## The file among others -/

/-- A port that a merge takes from the file stays what it was accepted as, where the VLANs of the
overlay have their names in the merged list. -/
theorem Saves.port_of_valid (h : Saves env formats paths request saved) {order : MapOrder}
    {main : ConfigFile} {folders : List (List ConfigFile)} {loaded : Loaded}
    {accepted result merged : SwitchConfig} {port : Port}
    (hload : loadMulti env order main folders = .ok loaded) (hresult : result ∈ loaded.valid)
    (hmerged : MergedFrom main folders result.id merged) (haccepted : accepted ∈ saved.switches)
    (hkept : NamesKept accepted.vlans merged.vlans) (hport : port ∈ accepted.ports)
    (htaken : port.stored accepted.vlans ∈ merged.ports) :
    ∃ model, result.model = some model ∧
      filterTagged (definedVlans model result) false (port.writtenOnce accepted.vlans) ∈
        result.ports := by
  obtain ⟨other, model, hother, hmodel, hsettles, -, hresult⟩ := mem_valid_loadMulti hload hresult
  obtain rfl := hmerged.eq hother
  obtain ⟨raw, -, known, switch, hknown, -, hvalid, rfl⟩ := h.accepted haccepted
  have hresolved := resolvedPort_stored hsettles.agree hkept (hvalid.settled hknown port hport)
  have hmodel' : result.model = some model := by
    rw [hresult]
    exact hmodel
  have hdefined : definedVlans model result = definedVlans model merged := by
    rw [hresult]
    rfl
  refine ⟨model, hmodel', ?_⟩
  rw [hdefined, ← hresolved, hresult]
  exact List.mem_map_of_mem htaken

/-- The round trip of the switches that a request submits. -/
theorem saved_overlay_round_trip {body : Value}
    (hrequest : SaveOverlayRequest.ofValue formats body = some request)
    (hsave : saveOverlay env formats yaml paths request = .ok saved)
    (hids : ∀ raw ∈ request.switches, raw.id ≠ "") :
    List.Forall₂ Denotes request.switches saved.switches ∧
    (∃ file config, saved.read formats = some file ∧
      loadWithMetadata env file .folderConfig = .ok config ∧
        List.Forall₂ (fun accepted read => (resolveVlanNames false).Succeeds read
          accepted.withoutSecrets.writtenOnce) saved.switches config.switches) ∧
    ∀ order main folders loaded, loadMulti env order main folders = .ok loaded →
      ∀ result ∈ loaded.valid, ∀ merged, MergedFrom main folders result.id merged →
        ∀ accepted ∈ saved.switches, NamesKept accepted.vlans merged.vlans →
          ∀ port ∈ accepted.ports, port.stored accepted.vlans ∈ merged.ports →
            ∃ model, result.model = some model ∧
              filterTagged (definedVlans model result) false (port.writtenOnce accepted.vlans) ∈
                result.ports := by
  have hreadable : ∀ raw ∈ request.switches, raw.Readable formats := by
    obtain ⟨entries, h⟩ := exists_of_record hrequest
    obtain ⟨filename, -, h⟩ := Option.bind_eq_some_iff.mp h
    obtain ⟨priority, -, h⟩ := Option.bind_eq_some_iff.mp h
    obtain ⟨switches, hswitches, h⟩ := Option.bind_eq_some_iff.mp h
    obtain rfl := Option.some.inj h
    obtain ⟨config, -, hconfig⟩ := Option.bind_eq_some_iff.mp hswitches
    obtain ⟨entries, hconfig⟩ := exists_of_record hconfig
    obtain ⟨items, -, hitems⟩ := Option.bind_eq_some_iff.mp hconfig
    intro raw hraw
    obtain ⟨item, hitem⟩ := exists_of_mem_sequence hitems hraw
    exact SwitchConfig.readable formats hitem
  have h := saveOverlay_ok hsave
  exact ⟨h.denotes, ⟨saved.file, saved.config, h.read hreadable, h.loads_iff.mpr hids, h.resolves⟩,
    fun _ _ _ _ hload _ hresult _ hmerged _ haccepted hkept _ hport htaken =>
      h.port_of_valid hload hresult hmerged haccepted hkept hport htaken⟩

end

/-! ## One overlay -/

/-- Durations are written in nanoseconds, and no JSON value but `null` is. -/
def plainFormats : Formats where
  parseDuration text :=
    (some (Nat.ofDigitChars 10 (text.toList.takeWhile Char.isDigit) 0)).filter (· < 2 ^ 64 * 10 ^ 9)
  formatDuration d := String.ofList (Nat.toDigits 10 d ++ ['n', 's'])
  json _ := "null"
  ofJson _ := .null
  duration_lt := by
    intro text d h
    rw [Option.filter_eq_some_iff] at h
    exact of_decide_eq_true h.2
  parse_format := by
    intro d h
    have hdigits : (Nat.toDigits 10 d ++ ['n', 's']).takeWhile Char.isDigit =
        Nat.toDigits 10 d := by
      rw [List.takeWhile_append_of_pos]
      · simp [show Char.isDigit 'n' = false by decide]
      · intro c hc
        exact Nat.isDigit_of_mem_toDigits (by decide) (by decide) hc
    rw [String.toList_ofList, hdigits, Nat.ofDigitChars_toDigits (by decide) (by decide),
      Option.filter_some, if_pos (decide_eq_true h)]
  json_ofJson _ := rfl

/-- A text that is kept as the document it was made from. -/
def plainYaml : YamlText where
  Text := ℕ × Value
  document priority value := (priority, value)
  parse text := match text.2 with
    | .mapping entries => some (.mapping (("merge_priority", ofNat text.1) :: entries))
    | _ => none
  parse_document _ _ := rfl

/-- A request for ports in a VLAN that they name. -/
def overlayBody : Value :=
  .mapping [("filename", .string "ports.yaml"), ("merge_priority", .integer 100),
    ("config", .mapping [("switches", .sequence [.mapping [("id", .string "sw1"),
      ("credentials", .mapping [("username", .string "admin"), ("password", .string "secret")]),
      ("vlans", .sequence [.mapping [("id", .integer 10), ("name", .string "staff")]]),
      ("ports", .sequence [.mapping [("port_id", .string "1-2"), ("vlan", .string "staff")]])]])])]

def overlayRequest : SaveOverlayRequest where
  filename := "ports.yaml"
  mergePriority := 100
  switches :=
    [{ id := "sw1", credentials := some { username := "admin", password := some "secret" }
       vlans := [{ id := 10, name := "staff" }]
       ports := [{ portId := "1-2", vlan := 1, vlanName := some "staff" }] }]



theorem overlayBody_request :
    SaveOverlayRequest.ofValue plainFormats overlayBody = some overlayRequest := by decide +kernel

def overlayMain (vlans : List Vlan) : ConfigFile where
  switches :=
    [{ id := "sw1", hostname := some "office", model := some .aruba2930F
       managementIp := some "192.0.2.10", credentials := some { username := "admin" }, vlans }]
  sourceFile := "/etc/switch-configurator/config.yaml"

def overlayPaths (vlans : List Vlan) : ConfigPaths where
  main := some (overlayMain vlans)
  folders := [{ path := "/etc/switch-configurator/config.d", files := some [] }]

def overlayAccepted : SwitchConfig where
  id := "sw1"
  credentials := some { username := "admin", password := some "secret" }
  vlans := [{ id := 10, name := "staff" }]
  ports := [{ portId := "1", vlan := 10 }, { portId := "2", vlan := 10 }]

def overlaySaved : SavedOverlay plainYaml where
  filePath := "/etc/switch-configurator/config.d/ports.yaml"
  mergePriority := 100
  switches := [overlayAccepted]
  content := (100, .mapping [("switches",
    .sequence [preferNamesInSwitch (overlayAccepted.toValue plainFormats)])])

/-- What the request writes, where it is granted. -/
theorem overlayRequest_saved (vlans : List Vlan)
    (h : validateOverlays (fun switchId => knownExternalVlanIds plainEnvironment
      (overlayPaths vlans) switchId "/etc/switch-configurator/config.d/ports.yaml")
        overlayRequest.switches = .ok [overlayAccepted]) :
    saveOverlay plainEnvironment plainFormats plainYaml (overlayPaths vlans) overlayRequest =
      .ok overlaySaved := by
  have hname : validateOverlayFilename overlayRequest.filename = .ok () := by decide +kernel
  have hpath : joinPath "/etc/switch-configurator/config.d" overlayRequest.filename =
      "/etc/switch-configurator/config.d/ports.yaml" := by decide +kernel
  rw [saveOverlay]
  refine bind_ok_iff.mpr ⟨(), hname, ?_⟩
  rw [if_neg (by decide)]
  show (validateOverlays (fun switchId => knownExternalVlanIds plainEnvironment
    (overlayPaths vlans) switchId
      (joinPath "/etc/switch-configurator/config.d" overlayRequest.filename)) _ >>= _) = _
  rw [hpath, h, overlaySaved]
  rfl

/-- The merged switch, where the main file has the given VLANs. -/
def overlayResult (vlans : List Vlan) (vlan : ℕ) : SwitchConfig where
  id := "sw1"
  hostname := some "office"
  model := some .aruba2930F
  managementIp := some "192.0.2.10"
  credentials := some { username := "admin" }
  vlans
  ports := [{ portId := "1", vlan }, { portId := "2", vlan }]

/-- What the two files say of the switch. -/
def overlaySources (vlans : List Vlan) : List SwitchSource :=
  [{ switch := (overlayMain vlans).switches.headD { id := "" }, mergePriority := 50
     sourceFile := (overlayMain vlans).sourceFile },
   { switch := overlayAccepted.stored, mergePriority := 100, sourceFile := overlaySaved.filePath }]

theorem overlay_mergedFrom (vlans : List Vlan) (h : loadWithMetadata plainEnvironment
    (overlayMain vlans) .mainConfig = .ok
      { switches := (overlayMain vlans).switches, mergePriority := 50
        sourceFile := (overlayMain vlans).sourceFile, sourceType := .mainConfig }) :
    MergedFrom (overlayMain vlans) [[overlaySaved.file]] "sw1"
      (mergeSingleSwitch "sw1" (overlaySources vlans)).switch := by
  have hfile : loadWithMetadata plainEnvironment overlaySaved.file .folderConfig =
      .ok overlaySaved.config := rfl
  exact ⟨_, _, loadWithMetadata_ok_iff.mp h, .cons (loadWithMetadata_ok_iff.mp hfile) .nil, rfl⟩

theorem saved_overlay_round_trip_ports :
    List.Forall₂ Denotes overlayRequest.switches overlaySaved.switches ∧
    (∃ file config, overlaySaved.read plainFormats = some file ∧
      loadWithMetadata plainEnvironment file .folderConfig = .ok config ∧
        List.Forall₂ (fun accepted read => (resolveVlanNames false).Succeeds read
          accepted.withoutSecrets.writtenOnce) overlaySaved.switches config.switches) ∧
    ∃ model, some SwitchModel.aruba2930F = some model ∧
      filterTagged (definedVlans model (overlayResult [{ id := 10, name := "staff" }] 10)) false
        { portId := "1", vlan := 10 } ∈
          (overlayResult [{ id := 10, name := "staff" }] 10).ports := by
  have hsave := overlayRequest_saved [{ id := 10, name := "staff" }] (by decide +kernel)
  obtain ⟨hdenotes, hread, hmerge⟩ :=
    saved_overlay_round_trip overlayBody_request hsave (by decide)
  refine ⟨hdenotes, hread, ?_⟩
  have hload : loadMulti plainEnvironment .inserted (overlayMain [{ id := 10, name := "staff" }])
      [[overlaySaved.file]] = .ok ⟨[overlayResult [{ id := 10, name := "staff" }] 10], []⟩ := rfl
  refine hmerge .inserted _ _ _ hload _ List.mem_cons_self _ (overlay_mergedFrom _ rfl)
    overlayAccepted List.mem_cons_self ?_ { portId := "1", vlan := 10 } List.mem_cons_self ?_
  · rw [NamesKept]
    decide +kernel
  · decide +kernel

/-- The password of the submitted switch is lost on the way, and its ports end up in another VLAN
once the main file gives the name to that one. -/
theorem saved_overlay_differs :
    saveOverlay plainEnvironment plainFormats plainYaml
      (overlayPaths [{ id := 10, name := "office" }, { id := 20, name := "staff" }])
      overlayRequest = .ok overlaySaved ∧
    overlaySaved.read plainFormats = some overlaySaved.file ∧
    loadWithMetadata plainEnvironment overlaySaved.file .folderConfig = .ok overlaySaved.config ∧
    ¬List.Forall₂ (fun submitted read => ∃ accepted, Denotes submitted accepted ∧
      (resolveVlanNames false).Succeeds read accepted)
        overlayRequest.switches overlaySaved.config.switches ∧
    loadMulti plainEnvironment .inserted
      (overlayMain [{ id := 10, name := "office" }, { id := 20, name := "staff" }])
      [[overlaySaved.file]] = .ok
        ⟨[overlayResult [{ id := 10, name := "office" }, { id := 20, name := "staff" }] 20], []⟩ ∧
    ∀ port ∈ overlayAccepted.ports, port.vlan = 10 := by
  refine ⟨overlayRequest_saved _ (by decide +kernel), ?_, rfl, ?_, rfl, by decide⟩
  · decide +kernel
  · intro h
    cases h with
    | cons hread _ =>
      obtain ⟨accepted, ⟨expanded, hexpand, hstrict⟩, hlenient⟩ := hread
      cases hexpand
      have haccepted : accepted = overlayAccepted := (congrArg Prod.fst hstrict).symm
      have hread : accepted = { overlayAccepted with
          credentials := some { username := "admin" } } := (congrArg Prod.fst hlenient).symm
      rw [haccepted] at hread
      exact absurd hread (by decide +kernel)

end SwitchConfigurator
