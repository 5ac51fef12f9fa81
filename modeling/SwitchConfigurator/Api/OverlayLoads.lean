import Mathlib.Data.List.Perm.Basic
import SwitchConfigurator.Api.OverlaySources

/-!
# Overlays and the next load

The files of a folder are listed as a directory gives them, and loaded by their names; what is said
of the one order holds of the other up to a permutation.
-/

namespace SwitchConfigurator.Overlays

open Document Keyed FileStore RelatedLists

/-- A list is read exactly if every item of it is. -/
theorem mapM_some_iff {α β : Type*} {f : α → Option β} {l : List α} {l' : List β} :
    l.mapM f = some l' ↔ List.Forall₂ (fun a b => f a = some b) l l' := by
  induction l generalizing l' with
  | nil =>
    rw [List.mapM_nil, List.forall₂_nil_left_iff]
    exact ⟨fun h => (Option.some.inj h).symm, fun h => congrArg some h.symm⟩
  | cons a l ih =>
    rw [List.mapM_cons, List.forall₂_cons_left_iff]
    constructor
    · intro h
      obtain ⟨b, hb, h⟩ := Option.bind_eq_some_iff.mp h
      obtain ⟨rest, hrest, h⟩ := Option.bind_eq_some_iff.mp h
      exact ⟨b, rest, hb, ih.mp hrest, (Option.some.inj h).symm⟩
    · rintro ⟨b, rest, hb, hrest, rfl⟩
      rw [hb, ih.mpr hrest]
      rfl

/-- Related lists have the same images under functions that agree on related members. -/
theorem map_eq_map_of_forall₂ {α β γ : Type*} {R : α → β → Prop} {f : α → γ} {g : β → γ}
    {l : List α} {l' : List β} (h : List.Forall₂ R l l') (hfg : ∀ a b, R a b → f a = g b) :
    l.map f = l'.map g := by
  induction h with
  | nil => rfl
  | cons hab _ ih => rw [List.map_cons, List.map_cons, hfg _ _ hab, ih]

section

variable {env : Environment} {formats : Formats} {yaml : YamlText} {order : MapOrder}
variable {locations : ConfigLocations} {live : List SwitchConfig}
variable {fault : Option (Fault yaml)} {disk disk' : Files yaml}
variable {request : SaveOverlayRequest} {main file : ConfigFile} {files : List ConfigFile}
variable {config : ConfigWithMetadata} {folder path switchId : String}

/-! ## A file that is parsed -/

theorem id_of_ofValue {value : Value} {switch : SwitchConfig}
    (h : SwitchConfig.ofValue formats value = some switch) :
    (value.get "id").bind Value.asStr = some switch.id := by
  cases value with
  | mapping entries =>
    obtain ⟨id, hid, h⟩ := Option.bind_eq_some_iff.mp h
    obtain ⟨_, -, h⟩ := Option.bind_eq_some_iff.mp h
    obtain ⟨_, -, h⟩ := Option.bind_eq_some_iff.mp h
    obtain ⟨_, -, h⟩ := Option.bind_eq_some_iff.mp h
    obtain ⟨_, -, h⟩ := Option.bind_eq_some_iff.mp h
    obtain ⟨_, -, h⟩ := Option.bind_eq_some_iff.mp h
    obtain ⟨_, -, h⟩ := Option.bind_eq_some_iff.mp h
    obtain ⟨_, -, h⟩ := Option.bind_eq_some_iff.mp h
    obtain ⟨_, -, h⟩ := Option.bind_eq_some_iff.mp h
    obtain ⟨_, -, h⟩ := Option.bind_eq_some_iff.mp h
    obtain ⟨_, -, h⟩ := Option.bind_eq_some_iff.mp h
    obtain ⟨_, -, h⟩ := Option.bind_eq_some_iff.mp h
    obtain ⟨_, -, h⟩ := Option.bind_eq_some_iff.mp h
    obtain rfl := Option.some.inj h
    rw [get_mapping]
    obtain ⟨value, hvalue, hstring⟩ := Option.bind_eq_some_iff.mp hid
    rw [hvalue, Option.bind_some]
    cases value with
    | string s => exact hstring
    | _ => cases hstring
  | _ => cases h

/-- A file that is parsed declares the switches that are read from it. -/
structure Parsed (formats : Formats) {yaml : YamlText} (disk : Files yaml) (path : String)
    (file : ConfigFile) : Prop where
  sourceFile : file.sourceFile = path
  declares : ∀ switchId, fileDeclaresSwitch yaml disk path switchId = true ↔
    ∃ switch ∈ file.switches, switch.id = switchId
  priority : ∀ default, priorityOf formats disk path default = file.mergePriority.getD default

/-- A file that parses was read as text and has its own path. -/
theorem parsed_of_parseFile (h : parseFile formats yaml path (readToString yaml disk path) =
    some file) : Parsed formats disk path file := by
  have hfile := h
  rw [parseFile] at h
  obtain ⟨text, htext, h⟩ := Option.bind_eq_some_iff.mp h
  obtain ⟨value, hvalue, h⟩ := Option.bind_eq_some_iff.mp h
  refine ⟨?_, fun switchId => ?_, fun default => ?_⟩
  · obtain ⟨entries, h⟩ := exists_of_record h
    obtain ⟨_, -, h⟩ := Option.bind_eq_some_iff.mp h
    obtain ⟨_, -, h⟩ := Option.bind_eq_some_iff.mp h
    obtain rfl := Option.some.inj h
    rfl
  · cases value with
    | mapping entries =>
      obtain ⟨_, -, h⟩ := Option.bind_eq_some_iff.mp h
      obtain ⟨switches, hswitches, h⟩ := Option.bind_eq_some_iff.mp h
      obtain rfl := Option.some.inj h
      obtain ⟨listed, hlisted, hread⟩ := Option.bind_eq_some_iff.mp hswitches
      cases listed with
      | sequence items =>
        have hitems := mapM_some_iff.mp hread
        have hids := map_eq_map_of_forall₂ (g := fun switch => some switch.id) hitems
          fun _ _ => id_of_ofValue
        have hlist : listedSwitches (.mapping entries) = items := by
          rw [listedSwitches, get_mapping, hlisted]
          rfl
        rw [fileDeclaresSwitch, htext, Option.bind_some, hvalue]
        dsimp only
        rw [hlist, List.any_eq_true]
        -- the listing compares the bare ids, the loader the ones of the parsed switches
        have hmem : (∃ item ∈ items, decide ((item.get "id").bind Value.asStr = some switchId) =
            true) ↔ some switchId ∈ items.map fun item => (item.get "id").bind Value.asStr := by
          simp only [decide_eq_true_eq, List.mem_map]
        rw [hmem, hids, List.mem_map]
        simp only [Option.some.injEq]
      | _ => cases hread
    | _ => cases h
  · rw [priorityOf, hfile]
    rfl

/-! ## The files of a folder -/

/-- What a scan takes of a folder are the names with a YAML extension. -/
theorem perm_scannedNames :
    (scannedNames yaml disk folder).Perm ((disk.names (inside folder)).filter isYaml) :=
  List.mergeSort_perm _ _

theorem mem_scannedNames {name : String} : name ∈ scannedNames yaml disk folder ↔
    (disk.contentAt (joinPath folder name) ≠ none ∧ name ≠ "" ∧ '/' ∉ name.toList) ∧
      isYaml name = true := by
  rw [perm_scannedNames.mem_iff, List.mem_filter, Disk.mem_names, joinPath_eq]

/-- No file is scanned twice. -/
theorem nodup_scannedNames : (scannedNames yaml disk folder).Nodup :=
  perm_scannedNames.nodup_iff.mpr (Disk.nodup_names.filter _)

/-- Each file of a scan was parsed from the name that it was found under. -/
theorem parsed_of_scanFolder (h : scanFolder formats yaml disk folder = some files) :
    List.Forall₂ (fun name file => Parsed formats disk (joinPath folder name) file)
      (scannedNames yaml disk folder) files :=
  (mapM_some_iff.mp h).imp fun _ _ => parsed_of_parseFile

/-- The names after a save: the one of the file that was saved, and the others. -/
theorem perm_scannedNames_write {filename : String} {content : Content yaml}
    (hname : OverlayName filename) (hyaml : isYaml filename = true) :
    (scannedNames yaml (disk.write (joinPath folder filename) content) folder).Perm
      (filename :: (scannedNames yaml disk folder).filter fun name => name ≠ filename) := by
  rw [List.perm_ext_iff_of_nodup nodup_scannedNames]
  · intro name
    rw [mem_scannedNames, List.mem_cons, List.mem_filter, mem_scannedNames, decide_eq_true_eq]
    by_cases heq : name = filename
    · subst heq
      simp [hname.ne_empty, hname.noSlash, hyaml]
    · rw [Disk.contentAt_write_of_ne fun h => heq (joinPath_inj.mp h).symm]
      simp [heq]
  · rw [List.nodup_cons]
    refine ⟨fun hmem => ?_, nodup_scannedNames.filter _⟩
    exact absurd rfl (of_decide_eq_true (List.mem_filter.mp hmem).2)

/-- The next scan of the folder finds the file that was saved, and the others as they were. -/
theorem scanFolder_write {filename : String} {content : Content yaml} (hname : OverlayName filename)
    (hyaml : isYaml filename = true)
    (hfile : parseFile formats yaml (joinPath folder filename) content = some file)
    (hscan : scanFolder formats yaml disk folder = some files) : ∃ files',
      scanFolder formats yaml (disk.write (joinPath folder filename) content) folder = some files' ∧
        files'.Perm (file :: files.filter fun other =>
          other.sourceFile ≠ joinPath folder filename) := by
  -- what one name of the folder is read as
  let parses (disk : Files yaml) (name : String) (file : ConfigFile) : Prop :=
    parseFile formats yaml (joinPath folder name)
      (readToString yaml disk (joinPath folder name)) = some file
  have hother : List.Forall₂ (parses (disk.write (joinPath folder filename) content))
      ((scannedNames yaml disk folder).filter fun name => name ≠ filename)
      (files.filter fun other => other.sourceFile ≠ joinPath folder filename) := by
    have hkept : List.Forall₂ (parses disk)
        ((scannedNames yaml disk folder).filter fun name => name ≠ filename)
        (files.filter fun other => other.sourceFile ≠ joinPath folder filename) := by
      refine List.rel_filter (R := parses disk) ?_ (mapM_some_iff.mp hscan)
      intro name other hparse
      show decide (name ≠ filename) = true ↔
        decide (other.sourceFile ≠ joinPath folder filename) = true
      rw [decide_eq_true_eq, decide_eq_true_eq, (parsed_of_parseFile hparse).sourceFile, Ne,
        Ne, joinPath_inj]
    rw [List.forall₂_iff_zip] at hkept ⊢
    refine ⟨hkept.1, fun hzip => ?_⟩
    have hparse := hkept.2 hzip
    have hne := of_decide_eq_true (List.mem_filter.mp (List.of_mem_zip hzip).1).2
    rename_i name other
    -- another name is another path, so its content is untouched
    have hpath : joinPath folder filename ≠ joinPath folder name := fun h =>
      hne (joinPath_inj.mp h).symm
    show parseFile formats yaml _ (readToString yaml _ _) = _
    rw [readToString_congr (Disk.contentAt_write_of_ne hpath)]
    exact hparse
  have hself : parses (disk.write (joinPath folder filename) content) filename file := by
    show parseFile formats yaml _ (readToString yaml _ _) = _
    rw [readToString, Disk.contentAt_write_self]
    exact hfile
  obtain ⟨files', hfiles, hperm⟩ := List.perm_comp_forall₂
    (perm_scannedNames_write hname hyaml) (List.Forall₂.cons hself hother)
  exact ⟨files', mapM_some_iff.mpr hfiles, hperm⟩

/-! ## The next load -/

/-- Loading a file keeps the ids of its switches. -/
theorem ids_of_loadedAs {sourceType : ConfigSourceType} (h : LoadedAs sourceType file config) :
    config.switches.map SwitchConfig.id = file.switches.map SwitchConfig.id := by
  refine (map_eq_map_of_forall₂ h.switches fun raw switch hexpands => ?_).symm
  rw [expandPortRanges_frame hexpands.1]

/-- A folder loads exactly if every file in it does. -/
theorem scanConfigFolder_ok_iff {configs : List ConfigWithMetadata} :
    scanConfigFolder env files = .ok configs ↔
      List.Forall₂ (LoadedAs .folderConfig) files configs := by
  rw [scanConfigFolder, mapM_ok_iff]
  simp only [withContext_ok, loadWithMetadata_ok_iff]

/-- A folder that loads before an overlay with the ids of its switches is saved loads afterwards,
with the overlay in place of what was under its name: with the path and the priority that it was
saved with, and with the switches that the request was accepted for, as they are stored. -/
theorem saved_overlay_loaded {body : Value} {filePath : String} {priority : ℕ}
    {configs : List ConfigWithMetadata}
    (hrequest : SaveOverlayRequest.ofValue formats body = some request)
    (hsave : handle env formats (some locations) live fault disk (.saveOverlay request) =
      (disk', .ok (.saved filePath priority)))
    (hids : ∀ raw ∈ request.switches, raw.id ≠ "") (hyaml : isYaml request.filename = true)
    (hfolder : locations.folders.head? = some folder)
    (hscan : scanFolder formats yaml disk folder = some files)
    (hload : scanConfigFolder env files = .ok configs) : ∃ files' configs' config,
      scanFolder formats yaml disk' folder = some files' ∧
      scanConfigFolder env files' = .ok configs' ∧
      configs'.Perm (config :: configs.filter fun other => other.sourceFile ≠ filePath) ∧
      config.sourceFile = filePath ∧ filePath = joinPath folder request.filename ∧
      config.mergePriority = priority ∧ priority = request.mergePriority ∧
      config.switches.map SwitchConfig.id = request.switches.map SwitchConfig.id ∧
      ∃ accepted, List.Forall₂ Denotes request.switches accepted ∧
        config.switches = accepted.map SwitchConfig.stored ∧
        List.Forall₂ (fun accepted read => (resolveVlanNames false).Succeeds read
          accepted.withoutSecrets.writtenOnce) accepted config.switches := by
  obtain ⟨saved, hgranted, rfl, rfl, rfl⟩ := handle_saveOverlay_ok hsave
  obtain ⟨hname, hpriority, configFolder, hhead, hpath⟩ := saveOverlay_located hgranted
  obtain rfl : configFolder.path = folder :=
    Option.some.inj ((head?_configPaths hhead).symm.trans hfolder)
  have hsaves := saveOverlay_ok hgranted
  have hfile := parseFile_saved hsaves (readable_of_request hrequest)
  have hloads : LoadedAs .folderConfig saved.file saved.config :=
    loadWithMetadata_ok_iff.mp (hsaves.loads_iff.mpr hids)
  rw [hpath] at hfile ⊢
  obtain ⟨files', hfiles, hperm⟩ := scanFolder_write hname hyaml hfile hscan
  -- the other files of the folder load as they did before
  have hothers : List.Forall₂ (LoadedAs .folderConfig)
      (files.filter fun other => other.sourceFile ≠ joinPath configFolder.path request.filename)
      (configs.filter fun other =>
        other.sourceFile ≠ joinPath configFolder.path request.filename) := by
    refine List.rel_filter (R := LoadedAs .folderConfig) ?_ (scanConfigFolder_ok_iff.mp hload)
    intro file config hloaded
    show decide (file.sourceFile ≠ joinPath configFolder.path request.filename) = true ↔
      decide (config.sourceFile ≠ joinPath configFolder.path request.filename) = true
    rw [decide_eq_true_eq, decide_eq_true_eq, hloaded.sourceFile]
  obtain ⟨configs', hconfigs, hperm'⟩ :=
    List.perm_comp_forall₂ hperm (List.Forall₂.cons hloads hothers)
  refine ⟨files', configs', saved.config, hfiles, scanConfigFolder_ok_iff.mpr hconfigs, hperm',
    hpath, rfl, rfl, hpriority, ?_, saved.switches, hsaves.denotes, rfl, hsaves.resolves⟩
  rw [ids_of_loadedAs hloads, ← ids_of_saves hsaves]
  show (saved.switches.map SwitchConfig.stored).map SwitchConfig.id = _
  rw [List.map_map]
  rfl

/-! ## What is listed and what is loaded -/

/-- Does the file define the switch? -/
abbrev Defines (switchId : String) (switches : List SwitchConfig) : Prop :=
  ∃ switch ∈ switches, switch.id = switchId

/-- A file of a folder, as it is listed. -/
def sourceOf (file : ConfigFile) : Source :=
  ⟨file.sourceFile, file.mergePriority.getD 100, "folder"⟩

/-- The sources listed for a folder are its scanned files that define the switch. -/
theorem perm_folderSources (h : scanFolder formats yaml disk folder = some files) :
    (folderSources formats disk switchId folder).Perm
      ((files.filter fun file => Defines switchId file.switches).map sourceOf) := by
  have hparsed := parsed_of_scanFolder h
  have hfiltered : List.Forall₂
      (fun name file => Parsed formats disk (joinPath folder name) file)
      ((scannedNames yaml disk folder).filter fun name =>
        fileDeclaresSwitch yaml disk (joinPath folder name) switchId)
      (files.filter fun file => Defines switchId file.switches) := by
    refine List.rel_filter (R := fun name file =>
      Parsed formats disk (joinPath folder name) file) ?_ hparsed
    intro name file hfile
    show fileDeclaresSwitch yaml disk (joinPath folder name) switchId = true ↔
      decide (Defines switchId file.switches) = true
    rw [hfile.declares, decide_eq_true_eq]
  have hmap := map_eq_map_of_forall₂ (g := sourceOf) (f := fun name =>
      (⟨joinPath folder name, priorityOf formats disk (joinPath folder name) 100, "folder"⟩ :
        Source))
    hfiltered fun name file hfile => by rw [hfile.priority, sourceOf, hfile.sourceFile]
  rw [← hmap]
  refine List.Perm.map _ ?_
  -- the same names, once in the order of the directory and once in their own
  have hdeclaring : declaring disk switchId folder =
      ((disk.names (inside folder)).filter isYaml).filter fun name =>
        fileDeclaresSwitch yaml disk (joinPath folder name) switchId := by
    rw [declaring, List.filter_filter]
    refine List.filter_congr fun name _ => ?_
    rw [Bool.and_comm]
  rw [hdeclaring]
  exact (perm_scannedNames.symm).filter _

/-- So are those of several folders. -/
theorem perm_flatMap_folderSources {folders : List String} {filess : List (List ConfigFile)}
    (h : List.Forall₂ (fun folder files => scanFolder formats yaml disk folder = some files)
      folders filess) :
    (folders.flatMap (folderSources formats disk switchId)).Perm
      ((filess.flatten.filter fun file => Defines switchId file.switches).map sourceOf) := by
  induction h with
  | nil => exact .refl _
  | cons hscan _ ih =>
    rw [List.flatMap_cons, List.flatten_cons, List.filter_append, List.map_append]
    exact (perm_folderSources hscan).append ih

/-- Where the files load, those that are listed for a switch are the main one and each file of the
folders that defines the switch, with the priorities by which the load merges them, and in their
order. -/
theorem sources_agree {folders : List (List ConfigFile)} {loaded : Loaded}
    (hmain : parseFile formats yaml locations.main (readToString yaml disk locations.main) =
      some main)
    (hscan : List.Forall₂ (fun folder files => scanFolder formats yaml disk folder = some files)
      locations.folders folders)
    (hload : loadMulti env order main folders = .ok loaded)
    (hlive : switchId ∈ live.map SwitchConfig.id) : ∃ mainConfig configs sources,
      LoadedAs .mainConfig main mainConfig ∧
      List.Forall₂ (LoadedAs .folderConfig) folders.flatten configs ∧
      configSources formats (some locations) live disk switchId = .ok (.sources sources) ∧
      sources.Pairwise (fun a b => a.priority ≤ b.priority) ∧
      sources.Perm (⟨locations.main, mainConfig.mergePriority, "main"⟩ ::
        (configs.filter fun config => Defines switchId config.switches).map fun config =>
          ⟨config.sourceFile, config.mergePriority, "folder"⟩) := by
  obtain ⟨mainConfig, configs, hmainConfig, hconfigs, -⟩ := loadMulti_ok_iff.mp hload
  refine ⟨mainConfig, configs, _, hmainConfig, hconfigs, configSources_live hlive,
    pairwise_byPriority _, (perm_byPriority _).trans ?_⟩
  have hpriority : priorityOf formats disk locations.main 50 = mainConfig.mergePriority := by
    rw [(parsed_of_parseFile hmain).priority, hmainConfig.mergePriority]
    rfl
  -- the files that define the switch are those whose loaded configs do
  have hdefined : List.Forall₂ (LoadedAs .folderConfig)
      (folders.flatten.filter fun file => Defines switchId file.switches)
      (configs.filter fun config => Defines switchId config.switches) := by
    refine List.rel_filter (R := LoadedAs .folderConfig) ?_ hconfigs
    intro file config hloaded
    show decide (Defines switchId file.switches) = true ↔
      decide (Defines switchId config.switches) = true
    rw [decide_eq_true_eq, decide_eq_true_eq, Defines, Defines, ← List.mem_map, ← List.mem_map,
      ids_of_loadedAs hloaded]
  have hsources := map_eq_map_of_forall₂ (f := sourceOf)
    (g := fun config => (⟨config.sourceFile, config.mergePriority, "folder"⟩ : Source)) hdefined
    fun file config hloaded => by
      rw [sourceOf, hloaded.sourceFile, hloaded.mergePriority]
      rfl
  rw [hpriority, ← hsources]
  exact (perm_flatMap_folderSources hscan).cons _

end

/-! ## The overlay and the main file -/

/-- The ports are stored in the VLAN `staff` that they were submitted with. -/
theorem saved_overlay_loaded_ports : ∃ files' configs' config,
    scanFolder plainFormats plainYaml withOverlay "/etc/switch-configurator/config.d" =
      some files' ∧
    scanConfigFolder plainEnvironment files' = .ok configs' ∧ configs'.Perm [config] ∧
    config.sourceFile = overlaySaved.filePath ∧ config.mergePriority = 100 ∧
    config.switches.map SwitchConfig.id = ["sw1"] ∧
    ∃ accepted, List.Forall₂ Denotes overlayRequest.switches accepted ∧
      config.switches = accepted.map SwitchConfig.stored := by
  have hyaml : isYaml overlayRequest.filename = true := by decide +kernel
  have hscan : scanFolder plainFormats plainYaml mainOnly "/etc/switch-configurator/config.d" =
      some [] := by decide +kernel
  have hload : scanConfigFolder plainEnvironment [] = .ok [] := rfl
  obtain ⟨files', configs', config, hfiles, hconfigs, hperm, hpath, -, hpriority, -, hids, accepted,
    hdenotes, hswitches, -⟩ := saved_overlay_loaded overlayBody_request handle_overlayRequest
      (by decide) hyaml rfl hscan hload
  exact ⟨files', configs', config, hfiles, hconfigs, hperm, hpath, hpriority, hids, accepted,
    hdenotes, hswitches⟩

def mainFile : ConfigFile where
  switches :=
    [{ id := "sw1", hostname := some "office", managementIp := some "192.0.2.10"
       vlans := [{ id := 20, name := "guests" }] }]
  mergePriority := some 20
  sourceFile := overlayLocations.main

/-- A main file and a folder with one overlay of a port. -/
theorem sources_agree_ports : ∃ mainConfig configs sources,
    LoadedAs .mainConfig mainFile mainConfig ∧
    List.Forall₂ (LoadedAs .folderConfig) [overlaySaved.file] configs ∧
    configSources plainFormats (some overlayLocations) [{ id := "sw1" }] withOverlay "sw1" =
      .ok (.sources sources) ∧
    sources.Pairwise (fun a b => a.priority ≤ b.priority) ∧
    sources.Perm (⟨overlayLocations.main, mainConfig.mergePriority, "main"⟩ ::
      (configs.filter fun config => Defines "sw1" config.switches).map fun config =>
        ⟨config.sourceFile, config.mergePriority, "folder"⟩) := by
  have hmain : parseFile plainFormats plainYaml overlayLocations.main
      (readToString plainYaml withOverlay overlayLocations.main) = some mainFile := by
    decide +kernel
  have hscan : scanFolder plainFormats plainYaml withOverlay "/etc/switch-configurator/config.d" =
      some [overlaySaved.file] := by decide +kernel
  have hload : loadMulti plainEnvironment .inserted mainFile [[overlaySaved.file]] =
      .ok ⟨[], _⟩ := rfl
  exact sources_agree hmain (.cons hscan .nil) hload (by decide)

end SwitchConfigurator.Overlays
