import SwitchConfigurator.Api.OverlayFiles

/-!
# What requests do to configuration files

Which files a run of requests can touch, what is found of a file that was saved, and that the files
that are listed for a switch are those that a load makes it from.
-/

namespace SwitchConfigurator.Overlays

open Document Keyed FileStore TransitionSystem

/-! ## Names and paths -/

/-- What a name has to be for an overlay to be saved, shown or deleted under it. -/
structure OverlayName (name : String) : Prop where
  noParent : ¬"..".toList <:+: name.toList
  noSlash : '/' ∉ name.toList
  noBackslash : '\\' ∉ name.toList
  yaml : ".yaml".toList <:+ name.toList ∨ ".yml".toList <:+ name.toList

/-- The check accepts exactly the names of overlays. -/
theorem validateOverlayFilename_ok_iff {name : String} :
    validateOverlayFilename name = .ok () ↔ OverlayName name := by
  rw [validateOverlayFilename]
  split
  · next hbad =>
    refine iff_of_false (by simp) ?_
    rintro ⟨hparent, hslash, hbackslash, -⟩
    rcases hbad with h | h | h
    · exact hparent h
    · exact hslash h
    · exact hbackslash h
  · next hgood =>
    obtain ⟨hparent, hslash, hbackslash⟩ : _ ∧ _ ∧ _ := by simpa only [not_or] using hgood
    split
    · next hbad =>
      refine iff_of_false (by simp) ?_
      rintro ⟨-, -, -, hyaml | hyaml⟩
      · exact hbad.1 hyaml
      · exact hbad.2 hyaml
    · next hyaml =>
      refine iff_of_true rfl ⟨hparent, hslash, hbackslash, ?_⟩
      by_contra hnone
      exact hyaml (not_or.mp hnone)

theorem OverlayName.ne_empty {name : String} (h : OverlayName name) : name ≠ "" := by
  rintro rfl
  rcases h.yaml with h | h
  · exact absurd (List.suffix_nil.mp h) (by decide)
  · exact absurd (List.suffix_nil.mp h) (by decide)

theorem joinPath_eq (folder name : String) : joinPath folder name = inside folder ++ name := by
  rw [inside, joinPath, joinPath]
  split
  · rw [String.append_empty]
  · rw [String.append_empty]

/-- In one folder, another name is another path. -/
theorem joinPath_inj {folder name name' : String} :
    joinPath folder name = joinPath folder name' ↔ name = name' := by
  rw [joinPath_eq, joinPath_eq, String.append_right_inj]

section

variable {env : Environment} {formats : Formats} {yaml : YamlText}
variable {locations : ConfigLocations} {live : List SwitchConfig}
variable {fault : Option (Fault yaml)} {disk disk' : Files yaml} {path : String}
variable {switchId filename : String}

/-- A file reads as its contents do. -/
theorem readToString_congr (h : disk'.contentAt path = disk.contentAt path) :
    readToString yaml disk' path = readToString yaml disk path := by
  rw [readToString, h, readToString]

/-- Whether a file declares a switch depends on its contents alone. -/
theorem fileDeclaresSwitch_congr (h : disk'.contentAt path = disk.contentAt path) :
    fileDeclaresSwitch yaml disk' path switchId = fileDeclaresSwitch yaml disk path switchId := by
  rw [fileDeclaresSwitch, readToString_congr h, fileDeclaresSwitch]

/-- A file that declares a switch can be read. -/
theorem exists_text_of_declares (h : fileDeclaresSwitch yaml disk path switchId = true) :
    ∃ text, disk.contentAt path = some (.ok text) := by
  rw [fileDeclaresSwitch, readToString] at h
  cases hcontent : disk.contentAt path with
  | none =>
    rw [hcontent] at h
    cases h
  | some content =>
    rw [hcontent] at h
    cases content with
    | ok text => exact ⟨text, rfl⟩
    | error e => cases h

theorem findSwitchOverlayFile_eq :
    findSwitchOverlayFile yaml disk (some locations) switchId filename =
      match (locations.folders.map (joinPath · filename)).find? fun path =>
        fileDeclaresSwitch yaml disk path switchId with
      | some path => .ok path
      | none => .error ⟨404, s!"File '{filename}' not found for switch '{switchId}'"⟩ := by
  rw [findSwitchOverlayFile]
  have hfound : ∀ path,
      ((disk.contentAt path).isSome && fileDeclaresSwitch yaml disk path switchId) =
      fileDeclaresSwitch yaml disk path switchId := by
    intro path
    rw [Bool.and_eq_right_iff_imp]
    intro h
    obtain ⟨text, htext⟩ := exists_text_of_declares h
    rw [htext]
    rfl
  exact congrArg (List.find? · (locations.folders.map (joinPath · filename))) (funext hfound) ▸ rfl

/-- What is found is in a folder of the configuration, and declares the switch. -/
theorem findSwitchOverlayFile_ok
    (h : findSwitchOverlayFile yaml disk (some locations) switchId filename = .ok path) :
    (∃ folder ∈ locations.folders, path = joinPath folder filename) ∧
      fileDeclaresSwitch yaml disk path switchId = true := by
  rw [findSwitchOverlayFile_eq] at h
  split at h
  · next found hfound =>
    obtain rfl := Except.ok.inj h
    obtain ⟨folder, hfolder, rfl⟩ := List.mem_map.mp (List.mem_of_find?_eq_some hfound)
    have hdeclares := List.find?_some hfound
    exact ⟨⟨folder, hfolder, rfl⟩, hdeclares⟩
  · cases h

/-! ## One request -/

/-- What a write leaves at its path. -/
def leftBy (fault : Option (Fault yaml)) (text : yaml.Text) : Option (Content yaml) :=
  match fault with
  | some (.write _ left) => left
  | _ => some (.ok text)

/-- A write that goes wrong leaves what the fault says. -/
theorem contentAt_writeFile (text : yaml.Text) :
    (writeFile fault disk path text).1.contentAt path = leftBy fault text := by
  match fault with
  | some (.write _ (some _)) => exact Disk.contentAt_write_self
  | some (.write _ none) => exact Disk.contentAt_remove_self
  | some (.remove _) | none => exact Disk.contentAt_write_self

/-- Whatever becomes of a write, other files are as they were. -/
theorem writeFile_frame {other : String} (text : yaml.Text) (h : other ≠ path) :
    (writeFile fault disk path text).1.contentAt other = disk.contentAt other := by
  unfold writeFile
  split
  · exact Disk.contentAt_write_of_ne h.symm
  · exact Disk.contentAt_remove_of_ne h.symm
  · exact Disk.contentAt_write_of_ne h.symm

/-- Where a request that is granted is saved. -/
theorem saveOverlay_located {paths : ConfigPaths} {request : SaveOverlayRequest}
    {saved : SavedOverlay yaml} (h : saveOverlay env formats yaml paths request = .ok saved) :
    OverlayName request.filename ∧ saved.mergePriority = request.mergePriority ∧
      ∃ folder, paths.folders.head? = some folder ∧
        saved.filePath = joinPath folder.path request.filename := by
  rw [saveOverlay, bind_ok_iff] at h
  obtain ⟨_, hname, h⟩ := h
  split at h
  · cases h
  · split at h
    · cases h
    · next folder hfolder =>
      obtain ⟨switches, -, h⟩ := bind_ok_iff.mp h
      obtain rfl := Except.ok.inj h
      exact ⟨validateOverlayFilename_ok_iff.mp hname, rfl, folder, hfolder, rfl⟩

theorem head?_configPaths {folder : ConfigFolder}
    (h : (knownPaths formats (some locations) disk).folders.head? = some folder) :
    locations.folders.head? = some folder.path := by
  have hmap : (locations.folders.map fun path =>
      (⟨path, scanFolder formats yaml disk path⟩ : ConfigFolder)).head? = some folder := h
  rw [List.head?_map, Option.map_eq_some_iff] at hmap
  obtain ⟨path, hpath, rfl⟩ := hmap
  exact hpath

/-- The request is granted as the files are, and saves its overlay in the first of the folders. -/
structure Grants (env : Environment) (formats : Formats) (locations : ConfigLocations)
    (disk : Files yaml) (request : SaveOverlayRequest) (saved : SavedOverlay yaml) : Prop where
  granted : saveOverlay env formats yaml (knownPaths formats (some locations) disk) request =
    .ok saved
  name : OverlayName request.filename
  folder : ∃ folder, locations.folders.head? = some folder ∧
    saved.filePath = joinPath folder request.filename

/-- A save that goes through has been granted. -/
theorem grants_of_saveOverlay {request : SaveOverlayRequest} {saved : SavedOverlay yaml}
    (h : saveOverlay env formats yaml (knownPaths formats (some locations) disk) request =
      .ok saved) : Grants env formats locations disk request saved := by
  obtain ⟨hname, -, folder, hfolder, hpath⟩ := saveOverlay_located h
  exact ⟨h, hname, folder.path, head?_configPaths hfolder, hpath⟩

/-- What a request may have done to the files. -/
inductive Effect (env : Environment) (formats : Formats) (locations : ConfigLocations)
    (fault : Option (Fault yaml)) (disk : Files yaml) : Request → Files yaml → Prop
  | none {request : Request} : Effect env formats locations fault disk request disk
  | write {request : SaveOverlayRequest} {saved : SavedOverlay yaml} {disk' : Files yaml} :
      Grants env formats locations disk request saved →
      disk'.contentAt saved.filePath = leftBy fault saved.content →
      (∀ path, path ≠ saved.filePath → disk'.contentAt path = disk.contentAt path) →
      Effect env formats locations fault disk (.saveOverlay request) disk'
  | remove {switchId filename folder : String} : OverlayName filename →
      folder ∈ locations.folders →
      fileDeclaresSwitch yaml disk (joinPath folder filename) switchId = true →
      Effect env formats locations fault disk (.deleteOverlay switchId filename)
        (disk.remove (joinPath folder filename))

/-- What any request does to the files is one of four effects. -/
theorem effect_handle (request : Request) : Effect env formats locations fault disk request
    (handle env formats (some locations) live fault disk request).1 := by
  cases request with
  | saveOverlay request =>
    show Effect env formats locations fault disk _
      (saveOverlayFile env formats (some locations) fault disk request).1
    rw [saveOverlayFile]
    -- every check runs before the disk is touched
    cases hsave : saveOverlay env formats yaml (knownPaths formats (some locations) disk)
        request with
    | error e => exact .none
    | ok saved =>
      have heffect : Effect env formats locations fault disk (.saveOverlay request)
          (writeFile fault disk saved.filePath saved.content).1 :=
        .write (grants_of_saveOverlay hsave) (contentAt_writeFile _) fun _ hne =>
          writeFile_frame saved.content hne
      dsimp only
      generalize writeFile fault disk saved.filePath saved.content = written at heffect
      obtain ⟨disk', outcome⟩ := written
      cases outcome with
      | error e => exact heffect
      | ok _ => exact heffect
  | readMainConfig => exact .none
  | readOverlay switchId filename => exact .none
  | deleteOverlay switchId filename =>
    show Effect env formats locations fault disk _
      (deleteOverlay (some locations) fault disk switchId filename).1
    rw [deleteOverlay]
    split
    · exact .none
    · next path hfind =>
      obtain ⟨_, hname, hfind⟩ := bind_ok_iff.mp hfind
      obtain ⟨⟨folder, hfolder, rfl⟩, hdeclares⟩ := findSwitchOverlayFile_ok hfind
      have hname := validateOverlayFilename_ok_iff.mp hname
      -- a fault may still keep the file in place
      unfold removeFile
      split
      · next hremove =>
        split at hremove
        · cases hremove
          exact .none
        · cases hremove
      · next hremove =>
        split at hremove
        · cases hremove
        · cases hremove
          exact .remove hname hfolder hdeclares
  | configSources switchId => exact .none

/-- An overlay for no switch at all, which is always granted. -/
theorem handle_saveOverlay_nil {folder : String} {priority : ℕ} (hname : OverlayName filename)
    (hfolder : locations.folders.head? = some folder)
    (hpriority : 10 < priority ∧ priority ≤ 9999) :
    (handle env formats (some locations) live none disk
      (.saveOverlay ⟨filename, priority, []⟩)).1 = disk.write (joinPath folder filename)
        (.ok (yaml.document priority (.mapping [("switches", .sequence [])]))) := by
  have hhead : (knownPaths formats (some locations) disk).folders.head? =
      some ⟨folder, scanFolder formats yaml disk folder⟩ := by
    show (locations.folders.map _).head? = _
    rw [List.head?_map, hfolder]
    rfl
  have hsave : saveOverlay env formats yaml (knownPaths formats (some locations) disk)
      ⟨filename, priority, []⟩ = .ok
        { filePath := joinPath folder filename, mergePriority := priority, switches := []
          content := yaml.document priority (.mapping [("switches", .sequence [])]) } := by
    rw [saveOverlay]
    refine bind_ok_iff.mpr ⟨(), validateOverlayFilename_ok_iff.mpr hname, ?_⟩
    have hrange : ¬(priority ≤ 10 ∨ priority > 9999) := by omega
    rw [if_neg hrange, hhead]
    rfl
  show (saveOverlayFile env formats (some locations) none disk ⟨filename, priority, []⟩).1 = _
  rw [saveOverlayFile, hsave]
  rfl

/-! ## Runs of requests -/

variable {init : Files yaml} {tr : List (Files yaml × Request × Option (Fault yaml))}

/-- The path is in the first of the folders, under a name that an overlay may have. -/
def Writable (locations : ConfigLocations) (path : String) : Prop :=
  ∃ folder filename, locations.folders.head? = some folder ∧ OverlayName filename ∧
    path = joinPath folder filename

/-- The file is in one of the folders, under a name that an overlay may have, and declares a
switch. -/
def Deletable (locations : ConfigLocations) (disk : Files yaml) (path : String) : Prop :=
  ∃ folder ∈ locations.folders, ∃ filename, OverlayName filename ∧
    path = joinPath folder filename ∧
      ∃ switchId, fileDeclaresSwitch yaml disk path switchId = true

/-- One of the requests was granted and saved its overlay at the path: this is what the write left
there. -/
def SavedAt (env : Environment) (formats : Formats) (locations : ConfigLocations)
    (tr : List (Files yaml × Request × Option (Fault yaml))) (path : String)
    (content : Option (Content yaml)) : Prop :=
  ∃ before request fault, (before, .saveOverlay request, fault) ∈ tr ∧
    ∃ saved, Grants env formats locations before request saved ∧ path = saved.filePath ∧
      content = leftBy fault saved.content

/-- One of the requests deleted the overlay at the path, for a switch that the file declared then.
The file was the one of the start, or an overlay that had been saved. -/
def DeletedAt (env : Environment) (formats : Formats) (locations : ConfigLocations)
    (disk : Files yaml) (tr : List (Files yaml × Request × Option (Fault yaml)))
    (path : String) : Prop :=
  ∃ before switchId filename fault, (before, .deleteOverlay switchId filename, fault) ∈ tr ∧
    (∃ folder ∈ locations.folders, path = joinPath folder filename) ∧ OverlayName filename ∧
      fileDeclaresSwitch yaml before path switchId = true ∧
        (before.contentAt path = disk.contentAt path ∨
          SavedAt env formats locations tr path (before.contentAt path))

/-- Later requests do not undo that one was granted. -/
theorem SavedAt.mono {tr' : List (Files yaml × Request × Option (Fault yaml))}
    {content : Option (Content yaml)} (h : SavedAt env formats locations tr path content)
    (hsub : tr ⊆ tr') : SavedAt env formats locations tr' path content := by
  obtain ⟨before, request, fault, hmem, h⟩ := h
  exact ⟨before, request, fault, hsub hmem, h⟩

theorem DeletedAt.mono {tr' : List (Files yaml × Request × Option (Fault yaml))}
    (h : DeletedAt env formats locations disk tr path) (hsub : tr ⊆ tr') :
    DeletedAt env formats locations disk tr' path := by
  obtain ⟨before, switchId, filename, fault, hmem, hpath, hname, hdeclares, hwas⟩ := h
  exact ⟨before, switchId, filename, fault, hsub hmem, hpath, hname, hdeclares,
    hwas.imp_right fun hsaved => hsaved.mono hsub⟩

/-- Whatever requests are made and whatever goes wrong with them, a file is what it was, or what a
request that was granted and saved an overlay there has left, or is gone: by a request to delete it
for a switch that it declared. -/
theorem files_of_run (h : (store env formats (some locations) live init).Run disk tr disk')
    (path : String) : disk'.contentAt path = disk.contentAt path ∨
      SavedAt env formats locations tr path (disk'.contentAt path) ∨
      disk'.contentAt path = none ∧ DeletedAt env formats locations disk tr path := by
  induction h with
  | nil => exact .inl rfl
  | @snoc tr before event after _ hstep ih =>
    have hsub : tr ⊆ tr ++ [(before, event)] := List.subset_append_left _ _
    have hlast : (before, event) ∈ tr ++ [(before, event)] :=
      List.mem_append_right _ (List.mem_singleton_self _)
    obtain ⟨request, fault⟩ := event
    have hafter : (handle env formats (some locations) live fault before request).1 = after :=
      Option.some.inj hstep
    have heffect : Effect env formats locations fault before request after :=
      hafter ▸ effect_handle request
    -- where the step leaves the file as it was, nothing changes
    have hkept (hsame : after.contentAt path = before.contentAt path) :
        after.contentAt path = disk.contentAt path ∨
          SavedAt env formats locations (tr ++ [(before, request, fault)]) path
            (after.contentAt path) ∨
          after.contentAt path = none ∧
            DeletedAt env formats locations disk (tr ++ [(before, request, fault)]) path := by
      rw [hsame]
      exact ih.imp_right (Or.imp (·.mono hsub) (And.imp_right (·.mono hsub)))
    cases heffect with
    | none => exact hkept rfl
    | @write request saved _ hgrants hleft hframe =>
      by_cases hpath : path = saved.filePath
      · subst hpath
        exact .inr (.inl ⟨before, request, fault, hlast, saved, hgrants, rfl, hleft⟩)
      · exact hkept (hframe path hpath)
    | @remove switchId filename folder hname hfolder hdeclares =>
      by_cases hpath : joinPath folder filename = path
      · subst hpath
        rcases ih with hsame | hsaved | ⟨hgone, -⟩
        · exact .inr (.inr ⟨Disk.contentAt_remove_self, before, switchId, filename, fault, hlast,
            ⟨folder, hfolder, rfl⟩, hname, hdeclares, .inl hsame⟩)
        · exact .inr (.inr ⟨Disk.contentAt_remove_self, before, switchId, filename, fault, hlast,
            ⟨folder, hfolder, rfl⟩, hname, hdeclares, .inr (hsaved.mono hsub)⟩)
        · -- what is gone declares nothing
          obtain ⟨text, htext⟩ := exists_text_of_declares hdeclares
          rw [hgone] at htext
          cases htext
      · exact hkept (Disk.contentAt_remove_of_ne hpath)

/-- A file that can neither be written nor deleted stays as it is. -/
theorem same_or_changeable (h : (store env formats (some locations) live init).Run disk tr disk')
    (path : String) : disk'.contentAt path = disk.contentAt path ∨ Writable locations path ∨
      Deletable locations disk path := by
  induction h with
  | nil => exact .inl rfl
  | @snoc tr before event after _ hstep ih =>
    obtain ⟨request, fault⟩ := event
    have hafter : (handle env formats (some locations) live fault before request).1 = after :=
      Option.some.inj hstep
    have heffect : Effect env formats locations fault before request after :=
      hafter ▸ effect_handle request
    rcases ih with hsame | hchangeable
    · cases heffect with
      | none => exact .inl hsame
      | @write request saved _ hgrants _ hframe =>
        by_cases hpath : path = saved.filePath
        · obtain ⟨folder, hfolder, hfile⟩ := hgrants.folder
          exact .inr (.inl ⟨folder, request.filename, hfolder, hgrants.name, hpath.trans hfile⟩)
        · exact .inl ((hframe path hpath).trans hsame)
      | @remove switchId filename folder hname hfolder hdeclares =>
        by_cases hpath : joinPath folder filename = path
        · subst hpath
          -- up to here the file is the one of the start
          rw [fileDeclaresSwitch_congr hsame] at hdeclares
          exact .inr (.inr ⟨folder, hfolder, filename, hname, rfl, switchId, hdeclares⟩)
        · exact .inl ((Disk.contentAt_remove_of_ne hpath).trans hsame)
    · exact .inr hchangeable

end

def noFiles : Files plainYaml := ⟨[], List.nodup_nil⟩

/-- One folder, into which an overlay for no switch is saved. -/
def oneFolder : ConfigLocations := ⟨"config.yaml", ["config.d"]⟩

def emptySaved : Files plainYaml :=
  noFiles.write (joinPath "config.d" "empty.yaml") (.ok (11, .mapping [("switches", .sequence [])]))

/-- The file was not there, and is what the request saved. -/
theorem files_of_run_empty : SavedAt plainEnvironment plainFormats oneFolder
    [(noFiles, .saveOverlay ⟨"empty.yaml", 11, []⟩, none)] "config.d/empty.yaml"
    (emptySaved.contentAt "config.d/empty.yaml") := by
  have hname : OverlayName "empty.yaml" := validateOverlayFilename_ok_iff.mp (by decide +kernel)
  have hstep : (store plainEnvironment plainFormats (some oneFolder) [] noFiles).step noFiles
      (.saveOverlay ⟨"empty.yaml", 11, []⟩, none) = some emptySaved :=
    congrArg some (handle_saveOverlay_nil hname rfl (by decide))
  have hcontent : (emptySaved.contentAt "config.d/empty.yaml").isSome = true := by decide +kernel
  rcases files_of_run (Run.nil.snoc hstep) "config.d/empty.yaml" with hsame | hsaved | ⟨hgone, -⟩
  · rw [hsame] at hcontent
    cases hcontent
  · exact hsaved
  · rw [hgone] at hcontent
    cases hcontent

/-! ### What a run can change -/

section

variable {env : Environment} {formats : Formats} {yaml : YamlText}
variable {locations : ConfigLocations} {live : List SwitchConfig} {disk init : Files yaml}
variable {path switchId filename : String}

/-- A file that is found is deleted. -/
theorem handle_deleteOverlay (hname : OverlayName filename)
    (hfind : findSwitchOverlayFile yaml disk (some locations) switchId filename = .ok path) :
    handle env formats (some locations) live none disk (.deleteOverlay switchId filename) =
      (disk.remove path, .ok (.deleted filename)) := by
  show deleteOverlay (some locations) none disk switchId filename = _
  have hfound : (do validateOverlayFilename filename
                    findSwitchOverlayFile yaml disk (some locations) switchId filename) =
      .ok path :=
    bind_ok_iff.mpr ⟨(), validateOverlayFilename_ok_iff.mpr hname, hfind⟩
  rw [deleteOverlay, hfound]
  rfl

/-- A deletion leaves fewer files. -/
theorem length_remove_lt {content : Content yaml} (h : disk.contentAt path = some content) :
    (disk.remove path).files.length < disk.files.length := by
  show (disk.files.filter _).length < _
  rw [List.length_filter_lt_length_iff_exists]
  exact ⟨_, Disk.contentAt_eq_some_iff.mp h, by simp⟩

/-- A file that hides behind others of its name is deleted once these are. -/
theorem exists_run_deleting (hname : OverlayName filename)
    (hpath : path ∈ locations.folders.map (joinPath · filename))
    (hdeclares : fileDeclaresSwitch yaml disk path switchId = true) :
    ∃ tr disk', (store env formats (some locations) live init).Run disk tr disk' ∧
      disk'.contentAt path = none := by
  induction hlength : disk.files.length using Nat.strong_induction_on generalizing disk with
  | h n ih =>
    have hsome : ((locations.folders.map (joinPath · filename)).find? fun path =>
        fileDeclaresSwitch yaml disk path switchId).isSome = true :=
      List.find?_isSome.mpr ⟨path, hpath, hdeclares⟩
    obtain ⟨found, hfound⟩ := Option.isSome_iff_exists.mp hsome
    have hfind :
        findSwitchOverlayFile yaml disk (some locations) switchId filename = .ok found := by
      rw [findSwitchOverlayFile_eq, hfound]
    have hstep : (store env formats (some locations) live init).step disk
        (.deleteOverlay switchId filename, none) = some (disk.remove found) :=
      congrArg some (congrArg Prod.fst (handle_deleteOverlay hname hfind))
    have hfirst := Run.nil.snoc hstep
    by_cases heq : found = path
    · subst heq
      exact ⟨_, _, hfirst, Disk.contentAt_remove_self⟩
    · obtain ⟨text, htext⟩ := exists_text_of_declares (findSwitchOverlayFile_ok hfind).2
      have hkept : fileDeclaresSwitch yaml (disk.remove found) path switchId = true := by
        rw [fileDeclaresSwitch_congr (Disk.contentAt_remove_of_ne heq)]
        exact hdeclares
      obtain ⟨tr, disk', hrun, hgone⟩ :=
        ih _ (hlength ▸ length_remove_lt htext) hkept rfl
      exact ⟨_, disk', hfirst.append hrun, hgone⟩

/-- The files that requests can change, the main one included: those that can be written, as they
are in the first folder, and those that can be deleted, as they are in a folder and declare a
switch. -/
theorem requests_change_iff : (∃ tr disk',
    (store env formats (some locations) live disk).Run disk tr disk' ∧
      disk'.contentAt path ≠ disk.contentAt path) ↔
      Writable locations path ∨ Deletable locations disk path := by
  constructor
  · rintro ⟨tr, disk', hrun, hne⟩
    exact (same_or_changeable hrun path).resolve_left hne
  · rintro (⟨folder, filename, hfolder, hname, rfl⟩ |
      ⟨folder, hfolder, filename, hname, rfl, switchId, hdeclares⟩)
    · -- one of two texts is not the one that is there
      have hrun : ∀ priority, 10 < priority ∧ priority ≤ 9999 → ∃ tr disk',
          (store env formats (some locations) live disk).Run disk tr disk' ∧
            disk'.contentAt (joinPath folder filename) = some (.ok
              (yaml.document priority (.mapping [("switches", .sequence [])]))) := by
        intro priority hpriority
        have hstep : (store env formats (some locations) live disk).step disk
            (.saveOverlay ⟨filename, priority, []⟩, none) = _ :=
          congrArg some (handle_saveOverlay_nil hname hfolder hpriority)
        exact ⟨_, _, Run.nil.snoc hstep, Disk.contentAt_write_self⟩
      obtain ⟨tr, disk₁, hrun₁, hfirst⟩ := hrun 11 (by omega)
      obtain ⟨tr', disk₂, hrun₂, hsecond⟩ := hrun 12 (by omega)
      by_cases hsame : disk₁.contentAt (joinPath folder filename) =
          disk.contentAt (joinPath folder filename)
      · refine ⟨tr', disk₂, hrun₂, fun hsame' => ?_⟩
        have htexts := hfirst.symm.trans (hsame.trans (hsame'.symm.trans hsecond))
        have hparse := congrArg yaml.parse (Except.ok.inj (Option.some.inj htexts))
        rw [yaml.parse_document, yaml.parse_document] at hparse
        cases hparse
      · exact ⟨tr, disk₁, hrun₁, hsame⟩
    · obtain ⟨tr, disk', hrun, hgone⟩ : ∃ tr disk',
          (store env formats (some locations) live disk).Run disk tr disk' ∧
            disk'.contentAt (joinPath folder filename) = none :=
        exists_run_deleting hname (List.mem_map_of_mem hfolder) hdeclares
      obtain ⟨text, htext⟩ := exists_text_of_declares hdeclares
      refine ⟨tr, disk', hrun, ?_⟩
      rw [hgone, htext]
      exact (Option.some_ne_none _).symm

end

end SwitchConfigurator.Overlays
