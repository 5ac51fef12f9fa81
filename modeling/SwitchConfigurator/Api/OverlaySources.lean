import Mathlib.Data.List.Find
import SwitchConfigurator.Api.OverlayStore

/-!
# Overlays that are saved, listed and loaded

What the other requests and the next load find of a file that was saved, and how the files that are
listed for a switch compare with those that a load makes it from.
-/

namespace SwitchConfigurator.Overlays

open Document Keyed FileStore RelatedLists

/-! ## The last part of a path -/

/-- A folder's name ends in a slash where files are looked for in it. -/
theorem slash_of_inside (folder : String) : inside folder = "" ∨
    ∃ front, (inside folder).toList = front ++ ['/'] := by
  rw [inside, joinPath]
  split
  · next h =>
    rw [String.append_empty]
    rcases Bool.or_eq_true_iff.mp h with h | h
    · exact .inl (String.isEmpty_iff.mp h)
    · have hlast : folder.toList.getLast? = some '/' := by simpa using h
      exact .inr (List.getLast?_eq_some_iff.mp hlast)
  · refine .inr ⟨folder.toList, ?_⟩
    rw [String.append_empty, String.toList_append]
    rfl

/-- The name of a file is the part of its path behind the last slash. -/
theorem rtakeWhile_joinPath {folder name : String} (h : '/' ∉ name.toList) :
    (joinPath folder name).toList.rtakeWhile (fun c => c ≠ '/') = name.toList := by
  have hname : ∀ c ∈ name.toList.reverse, decide (c ≠ '/') = true := by
    intro c hc
    rw [List.mem_reverse] at hc
    exact decide_eq_true fun heq => h (heq ▸ hc)
  rw [joinPath_eq, String.toList_append, List.rtakeWhile, List.reverse_append,
    List.takeWhile_append_of_pos hname]
  rcases slash_of_inside folder with hempty | ⟨front, hfront⟩
  · rw [hempty]
    simp
  · simp [hfront]

/-- A path without a slash in its last part has one name. -/
theorem name_of_joinPath {folder folder' name name' : String} (h : '/' ∉ name.toList)
    (h' : '/' ∉ name'.toList) (heq : joinPath folder name = joinPath folder' name') :
    name = name' := by
  apply String.toList_injective
  rw [← rtakeWhile_joinPath h, ← rtakeWhile_joinPath h', heq]

section

variable {env : Environment} {formats : Formats} {yaml : YamlText}
variable {locations : ConfigLocations} {live : List SwitchConfig}
variable {fault : Option (Fault yaml)} {disk disk' : Files yaml}
variable {request : SaveOverlayRequest} {saved : SavedOverlay yaml} {file folder : String}
variable {priority : ℕ} {switchId : String}

/-! ## What a saved file declares -/

theorem get_modify_ne {name other : String} {f : Value → Value} {value : Value}
    (h : name ≠ other) : (value.modify other f).get name = value.get name := by
  cases value with
  | mapping entries => rw [modify_mapping, get_mapping, entry_replaced, if_neg h, get_mapping]
  | _ => rfl

/-- Preferring names leaves the id of a switch alone. -/
theorem id_preferNamesInSwitch {switch : SwitchConfig} :
    ((preferNamesInSwitch (switch.toValue formats)).get "id").bind Value.asStr =
      some switch.id := by
  have hid : ((switch.toValue formats).get "id").bind Value.asStr = some switch.id := by
    rw [SwitchConfig.toValue, SwitchConfig.toEntries]
    simp
  rw [preferNamesInSwitch]
  split
  · exact hid
  · rw [get_modify_ne (by decide)]
    exact hid

/-- A save keeps the ids of the switches it was asked for. -/
theorem ids_of_saves {paths : ConfigPaths} (h : Saves env formats paths request saved) :
    saved.switches.map SwitchConfig.id = request.switches.map SwitchConfig.id := by
  have hids : List.Forall₂ (fun raw switch : SwitchConfig => raw.id = switch.id)
      request.switches saved.switches := by
    refine h.switches.imp fun raw accepted hvalid => ?_
    obtain ⟨switch, hexpand, -, rfl⟩ := validateOverlayConfig_succeeds_iff.mp hvalid
    rw [expandPortRanges_frame hexpand]
  rw [← List.forall₂_eq_eq_eq, List.forall₂_map_left_iff, List.forall₂_map_right_iff]
  exact hids.flip.imp fun _ _ h => h.symm

/-- A saved file declares the switches of its request. -/
theorem declares_saved {paths : ConfigPaths} (h : Saves env formats paths request saved)
    (hcontent : disk.contentAt file = some (.ok saved.content)) :
    fileDeclaresSwitch yaml disk file switchId = true ↔
      switchId ∈ request.switches.map SwitchConfig.id := by
  have hread : (readToString yaml disk file).toOption.bind yaml.parse =
      yaml.parse saved.content := by
    rw [readToString, hcontent]
    rfl
  rw [fileDeclaresSwitch, hread, h.content, yaml.parse_document, ← ids_of_saves h]
  have hlisted : ∀ values : List Value, listedSwitches (.mapping
      [("merge_priority", ofNat saved.mergePriority), ("switches", .sequence values)]) =
        values := by
    intro values
    rw [listedSwitches, get_mapping, entry_cons_ne (by decide), entry_cons_self]
    rfl
  dsimp only
  rw [hlisted, List.any_map, List.any_eq_true, List.mem_map]
  simp only [Function.comp_apply, id_preferNamesInSwitch, Option.some.injEq, decide_eq_true_eq]

/-- A request that was granted has written its file. -/
theorem handle_saveOverlay_ok (h : handle env formats (some locations) live fault disk
    (.saveOverlay request) = (disk', .ok (.saved file priority))) : ∃ saved,
      saveOverlay env formats yaml (knownPaths formats (some locations) disk) request = .ok saved ∧
        file = saved.filePath ∧ priority = saved.mergePriority ∧
          disk' = disk.write file (.ok saved.content) := by
  have hsave : saveOverlayFile env formats (some locations) fault disk request =
      (disk', .ok (.saved file priority)) := h
  rw [saveOverlayFile] at hsave
  cases hgranted : saveOverlay env formats yaml (knownPaths formats (some locations) disk)
      request with
  | error e =>
    rw [hgranted] at hsave
    cases hsave
  | ok saved =>
    rw [hgranted] at hsave
    dsimp only at hsave
    unfold writeFile at hsave
    split at hsave
    · cases hsave
    · next hwrite =>
      split at hwrite
      · cases hwrite
      · cases hwrite
      · cases hwrite
        cases hsave
        exact ⟨saved, rfl, rfl, rfl, rfl⟩

/-! ## What is found of a saved file -/

/-- A file of the first folder that declares the switch is the one that is found. -/
theorem findSwitchOverlayFile_first (hfolder : locations.folders.head? = some folder)
    (hdeclares : fileDeclaresSwitch yaml disk (joinPath folder request.filename) switchId = true) :
    findSwitchOverlayFile yaml disk (some locations) switchId request.filename =
      .ok (joinPath folder request.filename) := by
  obtain ⟨rest, hrest⟩ := List.head?_eq_some_iff.mp hfolder
  have hfound : (locations.folders.map (joinPath · request.filename)).find?
      (fun path => fileDeclaresSwitch yaml disk path switchId) =
        some (joinPath folder request.filename) := by
    rw [hrest]
    exact List.find?_cons_of_pos (p := fun path => fileDeclaresSwitch yaml disk path switchId)
      hdeclares
  rw [findSwitchOverlayFile_eq, hfound]

/-- What declares no switch, before or after, does not change what is found. -/
theorem findSwitchOverlayFile_congr {filename : String}
    (h : ∀ folder ∈ locations.folders,
      fileDeclaresSwitch yaml disk' (joinPath folder filename) switchId =
        fileDeclaresSwitch yaml disk (joinPath folder filename) switchId) :
    findSwitchOverlayFile yaml disk' (some locations) switchId filename =
      findSwitchOverlayFile yaml disk (some locations) switchId filename := by
  rw [findSwitchOverlayFile_eq, findSwitchOverlayFile_eq, List.find?_map, List.find?_map]
  have hfind : locations.folders.find? ((fun path => fileDeclaresSwitch yaml disk' path switchId) ∘
      (joinPath · filename)) = locations.folders.find?
        ((fun path => fileDeclaresSwitch yaml disk path switchId) ∘ (joinPath · filename)) :=
    List.find?_congr h
  rw [hfind]

/-- What is found is what is shown. -/
theorem readOverlay_of_find {filename path : String} {text : yaml.Text}
    (hname : OverlayName filename)
    (hfind : findSwitchOverlayFile yaml disk (some locations) switchId filename = .ok path)
    (htext : disk.contentAt path = some (.ok text)) :
    readOverlay (some locations) disk switchId filename = .ok (.content text) := by
  have hread : readToString yaml disk path = .ok text := by
    rw [readToString, htext]
    rfl
  rw [readOverlay, validateOverlayFilename_ok_iff.mpr hname, hfind]
  simp only [bind, Except.bind, hread]

/-- The switches of a request that was read can be read again from the file that is saved. -/
theorem readable_of_request {body : Value}
    (h : SaveOverlayRequest.ofValue formats body = some request) :
    ∀ raw ∈ request.switches, raw.Readable formats := by
  obtain ⟨entries, h⟩ := exists_of_record h
  obtain ⟨filename, -, h⟩ := Option.bind_eq_some_iff.mp h
  obtain ⟨priority, -, h⟩ := Option.bind_eq_some_iff.mp h
  obtain ⟨switches, hswitches, h⟩ := Option.bind_eq_some_iff.mp h
  obtain rfl := Option.some.inj h
  obtain ⟨config, -, hconfig⟩ := Option.bind_eq_some_iff.mp hswitches
  obtain ⟨entries, hconfig⟩ := exists_of_record hconfig
  obtain ⟨items, -, hitems⟩ := Option.bind_eq_some_iff.mp hconfig
  intro raw hraw
  obtain ⟨item, hitem⟩ := exists_of_mem_sequence hitems hraw
  exact SwitchConfig.readable formats hitem

/-- A saved file is parsed as the file that it was written from. -/
theorem parseFile_saved {paths : ConfigPaths} (h : Saves env formats paths request saved)
    (hreadable : ∀ raw ∈ request.switches, raw.Readable formats) :
    parseFile formats yaml saved.filePath (.ok saved.content) = some saved.file :=
  h.read hreadable

/-- The sources of a live switch are the main file and what the folders have of it. -/
theorem configSources_live (h : switchId ∈ live.map SwitchConfig.id) :
    configSources formats (some locations) live disk switchId =
      .ok (.sources (byPriority Source.priority
        (⟨locations.main, priorityOf formats disk locations.main 50, "main"⟩ ::
          locations.folders.flatMap (folderSources formats disk switchId)))) := by
  obtain ⟨switch, hmem, hid⟩ := List.mem_map.mp h
  rw [configSources, if_pos ⟨switch, hmem, hid⟩]

/-- A file is listed as one of a folder where it is one that the loader looks at, and declares the
switch. -/
theorem mem_sources_iff {path : String} :
    (⟨path, priority, "folder"⟩ : Source) ∈ byPriority Source.priority
      (⟨locations.main, priorityOf formats disk locations.main 50, "main"⟩ ::
        locations.folders.flatMap (folderSources formats disk switchId)) ↔
      ∃ folder ∈ locations.folders, ∃ name ∈ declaring disk switchId folder,
        joinPath folder name = path ∧ priorityOf formats disk path 100 = priority := by
  rw [mem_byPriority, List.mem_cons, List.mem_flatMap]
  constructor
  · rintro (heq | ⟨folder, hfolder, hmem⟩)
    · have htype : "folder" = "main" := congrArg Source.sourceType heq
      exact absurd htype (by decide)
    · obtain ⟨name, hname, heq⟩ := List.mem_map.mp hmem
      cases heq
      exact ⟨folder, hfolder, name, hname, rfl, rfl⟩
  · rintro ⟨folder, hfolder, name, hname, rfl, rfl⟩
    exact .inr ⟨folder, hfolder, List.mem_map_of_mem hname⟩

/-- A folder declares a switch by each of its scanned files that does. -/
theorem mem_declaring_iff {name : String} : name ∈ declaring disk switchId folder ↔
    (disk.contentAt (joinPath folder name) ≠ none ∧ name ≠ "" ∧ '/' ∉ name.toList) ∧
      isYaml name = true ∧ fileDeclaresSwitch yaml disk (joinPath folder name) switchId = true := by
  rw [declaring, List.mem_filter, Disk.mem_names, Bool.and_eq_true, joinPath_eq]

/-- What is found of a file that was saved: it is shown and deleted for the switches that the
request had, and for no others; deleting it undoes the save; and it is listed for these switches
where the loader would look at it, with the priority of the request. -/
theorem saved_overlay_found {body : Value}
    (hrequest : SaveOverlayRequest.ofValue formats body = some request)
    (hsave : handle env formats (some locations) live fault disk (.saveOverlay request) =
      (disk', .ok (.saved file priority))) : ∃ text, disk' = disk.write file (.ok text) ∧
    (∀ switchId ∈ request.switches.map SwitchConfig.id,
      readOverlay (some locations) disk' switchId request.filename = .ok (.content text) ∧
      handle env formats (some locations) live none disk'
        (.deleteOverlay switchId request.filename) =
          (disk'.remove file, .ok (.deleted request.filename))) ∧
    (∀ switchId ∉ request.switches.map SwitchConfig.id,
      findSwitchOverlayFile yaml disk' (some locations) switchId request.filename =
        findSwitchOverlayFile yaml (disk.remove file) (some locations) switchId
          request.filename) ∧
    (disk.contentAt file = none → disk'.remove file = disk) ∧
    ∀ switchId ∈ live.map SwitchConfig.id, ∃ sources,
      configSources formats (some locations) live disk' switchId = .ok (.sources sources) ∧
        ((⟨file, priority, "folder"⟩ : Source) ∈ sources ↔
          switchId ∈ request.switches.map SwitchConfig.id ∧ isYaml request.filename = true) := by
  obtain ⟨saved, hgranted, rfl, rfl, rfl⟩ := handle_saveOverlay_ok hsave
  obtain ⟨hname, -, configFolder, hhead, hpath⟩ := saveOverlay_located hgranted
  have hfolder := head?_configPaths hhead
  have hsaves := saveOverlay_ok hgranted
  have hcontent : (disk.write saved.filePath (.ok saved.content)).contentAt saved.filePath =
      some (.ok saved.content) := Disk.contentAt_write_self
  have hdeclares : ∀ {switchId}, fileDeclaresSwitch yaml
      (disk.write saved.filePath (.ok saved.content)) saved.filePath switchId = true ↔
        switchId ∈ request.switches.map SwitchConfig.id := declares_saved hsaves hcontent
  have hfirst : ∀ switchId ∈ request.switches.map SwitchConfig.id,
      findSwitchOverlayFile yaml (disk.write saved.filePath (.ok saved.content)) (some locations)
        switchId request.filename = .ok saved.filePath := by
    intro switchId hid
    rw [hpath]
    refine findSwitchOverlayFile_first hfolder ?_
    rw [← hpath]
    exact hdeclares.mpr hid
  refine ⟨saved.content, rfl, fun switchId hid => ⟨?_, ?_⟩, fun switchId hid => ?_,
    Disk.remove_write, fun switchId hlive => ⟨_, configSources_live hlive, ?_⟩⟩
  · exact readOverlay_of_find hname (hfirst switchId hid) hcontent
  · exact handle_deleteOverlay hname (hfirst switchId hid)
  · refine findSwitchOverlayFile_congr fun folder _ => ?_
    by_cases heq : saved.filePath = joinPath folder request.filename
    · -- neither the file that was saved nor one that is not there
      rw [← heq]
      have hnot : fileDeclaresSwitch yaml (disk.write saved.filePath (.ok saved.content))
          saved.filePath switchId = false :=
        Bool.eq_false_iff.mpr fun h => hid (hdeclares.mp h)
      have hgone : fileDeclaresSwitch yaml (disk.remove saved.filePath) saved.filePath switchId =
          false := by
        rw [Bool.eq_false_iff]
        intro h
        obtain ⟨text, htext⟩ := exists_text_of_declares h
        rw [Disk.contentAt_remove_self] at htext
        cases htext
      rw [hnot, hgone]
    · rw [fileDeclaresSwitch_congr (Disk.contentAt_write_of_ne heq),
        fileDeclaresSwitch_congr (Disk.contentAt_remove_of_ne heq)]
  · rw [mem_sources_iff]
    constructor
    · rintro ⟨folder, -, name, hmem, heq, -⟩
      obtain ⟨⟨-, -, hslash⟩, hyaml, hid⟩ := mem_declaring_iff.mp hmem
      rw [heq] at hid
      obtain rfl := name_of_joinPath hslash hname.noSlash (heq.trans hpath)
      exact ⟨hdeclares.mp hid, hyaml⟩
    · rintro ⟨hid, hyaml⟩
      refine ⟨configFolder.path, List.mem_of_mem_head? hfolder, request.filename, ?_, hpath.symm,
        ?_⟩
      · rw [mem_declaring_iff, ← hpath, hcontent]
        exact ⟨⟨Option.some_ne_none _, hname.ne_empty, hname.noSlash⟩, hyaml, hdeclares.mpr hid⟩
      · rw [priorityOf, readToString, hcontent, Option.getD_some,
          parseFile_saved hsaves (readable_of_request hrequest)]
        rfl

end

/-! ## An overlay for a switch -/

def overlayLocations : ConfigLocations where
  main := "/etc/switch-configurator/config.yaml"
  folders := ["/etc/switch-configurator/config.d"]

/-- A main file that defines the switch, with priority 20. -/
def mainText : plainYaml.Text :=
  (20, .mapping [("switches", .sequence [.mapping [("id", .string "sw1"),
    ("hostname", .string "office"), ("management_ip", .string "192.0.2.10"),
    ("vlans", .sequence [.mapping [("id", .integer 20), ("name", .string "guests")]])]])])

def mainOnly : Files plainYaml where
  files := [⟨overlayLocations.main, .ok mainText⟩]
  distinct := List.nodup_singleton _

def withOverlay : Files plainYaml :=
  mainOnly.write overlaySaved.filePath (.ok overlaySaved.content)

theorem handle_overlayRequest :
    handle plainEnvironment plainFormats (some overlayLocations) [] none mainOnly
      (.saveOverlay overlayRequest) =
        (withOverlay, .ok (.saved overlaySaved.filePath overlaySaved.mergePriority)) := by
  have hname : validateOverlayFilename overlayRequest.filename = .ok () := by decide +kernel
  have hpath : joinPath "/etc/switch-configurator/config.d" overlayRequest.filename =
      "/etc/switch-configurator/config.d/ports.yaml" := by decide +kernel
  have hvalid : validateOverlays (fun switchId => knownExternalVlanIds plainEnvironment
      (knownPaths plainFormats (some overlayLocations) mainOnly) switchId
        "/etc/switch-configurator/config.d/ports.yaml") overlayRequest.switches =
          .ok [overlayAccepted] := by decide +kernel
  have hgranted : saveOverlay plainEnvironment plainFormats plainYaml
      (knownPaths plainFormats (some overlayLocations) mainOnly) overlayRequest =
        .ok overlaySaved := by
    rw [saveOverlay]
    refine bind_ok_iff.mpr ⟨(), hname, ?_⟩
    rw [if_neg (by decide)]
    show (validateOverlays (fun switchId => knownExternalVlanIds plainEnvironment
      (knownPaths plainFormats (some overlayLocations) mainOnly) switchId
        (joinPath "/etc/switch-configurator/config.d" overlayRequest.filename)) _ >>= _) = _
    rw [hpath, hvalid, overlaySaved]
    rfl
  show saveOverlayFile plainEnvironment plainFormats (some overlayLocations) none mainOnly
    overlayRequest = _
  rw [saveOverlayFile, hgranted]
  rfl

theorem saved_overlay_found_ports :
    readOverlay (some overlayLocations) withOverlay "sw1" "ports.yaml" =
      .ok (.content overlaySaved.content) ∧
    withOverlay.remove overlaySaved.filePath = mainOnly ∧
    ∃ sources, configSources plainFormats (some overlayLocations) [{ id := "sw1" }] withOverlay
      "sw1" = .ok (.sources sources) ∧
        (⟨overlaySaved.filePath, 100, "folder"⟩ : Source) ∈ sources := by
  have hsave : handle plainEnvironment plainFormats (some overlayLocations) [{ id := "sw1" }] none
      mainOnly (.saveOverlay overlayRequest) =
        (withOverlay, .ok (.saved overlaySaved.filePath overlaySaved.mergePriority)) :=
    handle_overlayRequest
  obtain ⟨text, htext, hfound, -, hundone, hsources⟩ :=
    saved_overlay_found overlayBody_request hsave
  have hcontent : (.ok text : Content plainYaml) = .ok overlaySaved.content := by
    have hat := congrArg (Disk.contentAt · overlaySaved.filePath) htext
    rw [withOverlay, Disk.contentAt_write_self, Disk.contentAt_write_self] at hat
    exact (Option.some.inj hat).symm
  obtain rfl := Except.ok.inj hcontent
  have hmem : "sw1" ∈ overlayRequest.switches.map SwitchConfig.id := by decide
  refine ⟨(hfound "sw1" hmem).1, hundone (by decide +kernel), ?_⟩
  obtain ⟨sources, hlisted, hiff⟩ := hsources "sw1" (by decide)
  exact ⟨sources, hlisted, hiff.mpr ⟨hmem, by decide +kernel⟩⟩

end SwitchConfigurator.Overlays
