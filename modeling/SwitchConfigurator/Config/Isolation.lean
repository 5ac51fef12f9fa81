import SwitchConfigurator.Config.Load

/-!
# Isolation of switches

Two loads whose files differ in the definitions of one switch. A run of `load_multi` keeps the
files of the two loads related, and what it makes of another switch is the same in both, as long
as neither load, or both, fail as a whole.
-/

namespace SwitchConfigurator

open Keyed RelatedLists

/-- The same file, but for its definitions of one switch. -/
structure SameFileExcept (switchId : String) (file file' : ConfigFile) : Prop where
  mergePriority : file.mergePriority = file'.mergePriority
  sourceFile : file.sourceFile = file'.sourceFile
  switches : file.switches.filter (fun switch => switch.id ≠ switchId) =
    file'.switches.filter fun switch => switch.id ≠ switchId

structure SameExcept (switchId : String) (config config' : ConfigWithMetadata) : Prop where
  mergePriority : config.mergePriority = config'.mergePriority
  sourceFile : config.sourceFile = config'.sourceFile
  switches : config.switches.filter (fun switch => switch.id ≠ switchId) =
    config'.switches.filter fun switch => switch.id ≠ switchId

/-- What a load yields for a switch, unless it fails as a whole. -/
def yieldsFor (switchId : String) :
    Except Error Loaded → Option (List SwitchConfig × List SwitchValidationFailure)
  | .ok loaded =>
    some (loaded.valid.filter fun switch => switch.id = switchId,
      loaded.failures.filter fun failure => failure.switchId = switchId)
  | .error _ => none

section

variable {env : Environment} {order order' : MapOrder} {a b : String}

/-! ## The files -/

/-- Expanding the definitions and dropping those of one switch can be done in either order. -/
theorem filter_expanded {raws switches : List SwitchConfig}
    (h : List.Forall₂ ExpandsTo raws switches) :
    List.Forall₂ ExpandsTo (raws.filter fun switch => switch.id ≠ b)
      (switches.filter fun switch => switch.id ≠ b) := by
  induction h with
  | nil => exact .nil
  | @cons raw switch _ _ hraw _ ih =>
    have hid : switch.id = raw.id := by rw [expandPortRanges_frame hraw.1]
    by_cases hb : raw.id = b
    · have hb' := hid.trans hb
      simpa [hb, hb'] using ih
    · have hb' : switch.id ≠ b := fun h => hb (hid.symm.trans h)
      simpa [hb, hb'] using List.Forall₂.cons hraw ih

/-- Files that differ in one switch load to configurations that do. -/
theorem SameFileExcept.loadedAs {sourceType : ConfigSourceType} {file file' : ConfigFile}
    {config config' : ConfigWithMetadata} (h : SameFileExcept b file file')
    (hload : LoadedAs sourceType file config) (hload' : LoadedAs sourceType file' config') :
    SameExcept b config config' where
  mergePriority := by rw [hload.mergePriority, hload'.mergePriority, h.mergePriority]
  sourceFile := by rw [hload.sourceFile, hload'.sourceFile, h.sourceFile]
  switches := by
    have hexpanded : List.Forall₂ ExpandsTo _ _ := filter_expanded (b := b) hload.switches
    have hexpanded' : List.Forall₂ ExpandsTo _ _ := filter_expanded (b := b) hload'.switches
    rw [h.switches] at hexpanded
    rw [← List.forall₂_eq_eq_eq]
    refine forall₂_comp (fun raw switch switch' hraw hraw' => ?_) hexpanded hexpanded'
    exact Except.ok.inj (hraw.1.symm.trans hraw'.1)

/-! ## One switch of the merged files -/

/-- Every other switch has the same sources. -/
theorem SameExcept.sources {config config' : ConfigWithMetadata} (h : SameExcept b config config')
    (hab : a ≠ b) : sourcesOf [config] a = sourcesOf [config'] a := by
  have hfilter (switches : List SwitchConfig) : switches.filter (fun switch => switch.id = a) =
      (switches.filter fun switch => switch.id ≠ b).filter fun switch => switch.id = a := by
    rw [List.filter_filter]
    apply List.filter_congr
    intro switch _
    by_cases hid : switch.id = a
    · simp [hid, hab]
    · simp [hid]
  simp only [sourcesOf, List.flatMap_cons, List.flatMap_nil, List.append_nil]
  rw [hfilter config.switches, h.switches, ← hfilter config'.switches, h.mergePriority,
    h.sourceFile]

/-- So it has over all files. -/
theorem sourcesOf_congr {configs configs' : List ConfigWithMetadata}
    (h : List.Forall₂ (SameExcept b) configs configs') (hab : a ≠ b) :
    sourcesOf configs a = sourcesOf configs' a := by
  induction h with
  | nil => rfl
  | cons hconfig _ ih =>
    have hfirst := hconfig.sources hab
    simp only [sourcesOf, List.flatMap_cons, List.flatMap_nil, List.append_nil] at hfirst ih ⊢
    rw [hfirst, ih]

/-- The outcome of one switch, as a load on its own. -/
def alone (outcome : Except SwitchValidationFailure SwitchConfig) : Loaded := collect [outcome]

/-- The outcomes of several switches are collected one by one. -/
theorem collect_map (f : String → Except SwitchValidationFailure SwitchConfig)
    (ids : List String) :
    (collect (ids.map f)).valid = ids.flatMap (fun id => (alone (f id)).valid) ∧
      (collect (ids.map f)).failures = ids.flatMap fun id => (alone (f id)).failures := by
  induction ids with
  | nil => exact ⟨rfl, rfl⟩
  | cons id ids ih =>
    rw [List.flatMap_cons, List.flatMap_cons, ← ih.1, ← ih.2, List.map_cons]
    cases f id with
    | ok switch => exact ⟨rfl, rfl⟩
    | error failure => exact ⟨rfl, rfl⟩

/-- Alone, a switch is reported under its own id. -/
theorem id_of_alone {configs : List ConfigWithMetadata} {id : String} :
    (∀ switch ∈ (alone (outcomeOf env configs id)).valid, switch.id = id) ∧
      ∀ failure ∈ (alone (outcomeOf env configs id)).failures, failure.switchId = id := by
  cases haccepts : acceptsMerged env configs id with
  | true =>
    rw [outcomeOf_ok haccepts]
    refine ⟨fun switch hswitch => ?_, fun failure hfailure => absurd hfailure List.not_mem_nil⟩
    rw [List.mem_singleton.mp hswitch, id_mergedOf]
  | false =>
    obtain ⟨failure, houtcome, hid, -⟩ := outcomeOf_error haccepts
    rw [houtcome]
    refine ⟨fun switch hswitch => absurd hswitch List.not_mem_nil, fun failure' hfailure => ?_⟩
    rw [List.mem_singleton.mp hfailure, hid]

/-- What a merge yields for a switch is told by the sources of that switch. -/
theorem yieldsFor_mergeConfigs {configs : List ConfigWithMetadata} {loaded : Loaded}
    (h : mergeConfigs env order configs = .ok loaded) :
    yieldsFor a (.ok loaded) =
      if sourcesOf configs a = [] then some ([], [])
      else some ((alone (outcomeOf env configs a)).valid,
        (alone (outcomeOf env configs a)).failures) := by
  obtain ⟨-, -, rfl⟩ := mergeConfigs_ok_iff.mp h
  have hn : (order.keys (switchIds configs)).Nodup :=
    (order.perm _).nodup_iff.mpr (List.nodup_dedup _)
  have hmem : a ∈ order.keys (switchIds configs) ↔ ¬sourcesOf configs a = [] := by
    rw [(order.perm _).mem_iff, mem_switchIds]
  obtain ⟨hvalid, hfailures⟩ := collect_map (outcomeOf env configs) (order.keys (switchIds configs))
  -- only the outcome of the switch itself passes the filter
  have hv : (collect ((order.keys (switchIds configs)).map (outcomeOf env configs))).valid.filter
      (fun switch => switch.id = a) = if a ∈ order.keys (switchIds configs) then
        (alone (outcomeOf env configs a)).valid else [] := by
    rw [hvalid, List.filter_flatMap, flatMap_eq_single hn]
    · congr 1
      exact List.filter_eq_self.mpr fun switch hs => decide_eq_true (id_of_alone.1 switch hs)
    · intro id _ hid
      refine List.filter_eq_nil_iff.mpr fun switch hs => ?_
      rw [id_of_alone.1 switch hs, decide_eq_true_eq]
      exact hid
  have hf : (collect ((order.keys (switchIds configs)).map (outcomeOf env configs))).failures.filter
      (fun failure => failure.switchId = a) = if a ∈ order.keys (switchIds configs) then
        (alone (outcomeOf env configs a)).failures else [] := by
    rw [hfailures, List.filter_flatMap, flatMap_eq_single hn]
    · congr 1
      exact List.filter_eq_self.mpr fun failure hs => decide_eq_true (id_of_alone.2 failure hs)
    · intro id _ hid
      refine List.filter_eq_nil_iff.mpr fun failure hs => ?_
      rw [id_of_alone.2 failure hs, decide_eq_true_eq]
      exact hid
  rw [yieldsFor, hv, hf]
  by_cases hnil : sourcesOf configs a = []
  · simp [hmem, hnil]
  · simp [hmem, hnil]

/-! ## Two loads -/

variable {main main' : ConfigFile} {folders folders' : List (List ConfigFile)}

/-- Two loads that succeed yield the same for a switch whose definitions are the same. -/
theorem yieldsFor_loadMulti (hab : a ≠ b) (hmain : SameFileExcept b main main')
    (hfolders : List.Forall₂ (List.Forall₂ (SameFileExcept b)) folders folders')
    {loaded loaded' : Loaded} (h : loadMulti env order main folders = .ok loaded)
    (h' : loadMulti env order' main' folders' = .ok loaded') :
    yieldsFor a (.ok loaded) = yieldsFor a (.ok loaded') := by
  obtain ⟨mainConfig, configs, hload, hloads, hmerge⟩ := loadMulti_ok_iff.mp h
  obtain ⟨mainConfig', configs', hload', hloads', hmerge'⟩ := loadMulti_ok_iff.mp h'
  have hfiles : List.Forall₂ (SameFileExcept b) folders.flatten folders'.flatten :=
    List.rel_flatten hfolders
  have hbetween : List.Forall₂ (fun file' config =>
      ∃ file, SameFileExcept b file file' ∧ LoadedAs .folderConfig file config)
      folders'.flatten configs :=
    forall₂_comp (fun file _ _ hsame hload => ⟨file, hsame, hload⟩) hfiles hloads
  have hconfigs : List.Forall₂ (SameExcept b) configs configs' :=
    forall₂_comp (fun _ _ _ ⟨_, hsame, hload⟩ hload' => hsame.loadedAs hload hload') hbetween
      hloads'
  have hsorted : List.Forall₂ (SameExcept b)
      (byPriority ConfigWithMetadata.mergePriority (mainConfig :: configs))
      (byPriority ConfigWithMetadata.mergePriority (mainConfig' :: configs')) :=
    forall₂_byPriority (fun _ _ h => h.mergePriority) (.cons (hmain.loadedAs hload hload') hconfigs)
  have hsources := sourcesOf_congr hsorted hab
  rw [yieldsFor_mergeConfigs hmerge, yieldsFor_mergeConfigs hmerge', outcomeOf, outcomeOf, hsources]

/-- The definitions of one switch change what is yielded for another exactly if they decide
whether the load fails as a whole. -/
theorem isolated_iff (hab : a ≠ b) (hmain : SameFileExcept b main main')
    (hfolders : List.Forall₂ (List.Forall₂ (SameFileExcept b)) folders folders') :
    yieldsFor a (loadMulti env order main folders) =
        yieldsFor a (loadMulti env order' main' folders') ↔
      (Loads main folders ↔ Loads main' folders') := by
  rw [← loadMulti_isOk_iff env order, ← loadMulti_isOk_iff env order' main']
  cases h : loadMulti env order main folders with
  | error e =>
    cases h' : loadMulti env order' main' folders' with
    | error e' => simp [yieldsFor]
    | ok loaded' => simp [yieldsFor]
  | ok loaded =>
    cases h' : loadMulti env order' main' folders' with
    | error e' => simp [yieldsFor]
    | ok loaded' =>
      have hsame := yieldsFor_loadMulti hab hmain hfolders h h'
      simp [hsame]

end

/-- Two switches in one file; the ports of the second one are given by its argument. -/
def twoSwitches (ports : String) : ConfigFile where
  switches :=
    [{ id := "sw1", hostname := some "office", model := some .aruba2930F
       managementIp := some "192.0.2.10", credentials := some { username := "admin" }
       vlans := [{ id := 10, name := "staff" }] },
     { id := "sw2", ports := [{ portId := ports, vlan := 1 }] }]
  sourceFile := "/etc/switch-configurator/config.yaml"

theorem twoSwitches_same (ports ports' : String) :
    SameFileExcept "sw2" (twoSwitches ports) (twoSwitches ports') := ⟨rfl, rfl, rfl⟩

/-- The file with two switches loads if the second one's ports expand. -/
theorem twoSwitches_loads {ports : String}
    (h : ∃ switch, ExpandsTo { id := "sw2", ports := [{ portId := ports, vlan := 1 }] } switch) :
    Loads (twoSwitches ports) [] where
  expand := by
    rintro file hfile raw hraw
    obtain rfl := List.mem_singleton.mp hfile
    rcases List.mem_cons.mp hraw with rfl | hraw
    · exact ⟨_, rfl, rfl⟩
    · obtain rfl := List.mem_singleton.mp hraw
      exact h
  priorities := fun file hfile => absurd hfile List.not_mem_nil
  compatible := by
    have hids : ((twoSwitches ports :: [].flatten).flatMap ConfigFile.switches).map
        SwitchConfig.id = ["sw1", "sw2"] := rfl
    apply compatible_of_nodup
    rw [hids]
    decide

/-- Another range for the second switch. -/
theorem isolated_iff_twoSwitches :
    yieldsFor "sw1" (loadMulti plainEnvironment .inserted (twoSwitches "1-3") []) =
        yieldsFor "sw1" (loadMulti plainEnvironment .inserted (twoSwitches "1-2") []) ↔
      (Loads (twoSwitches "1-3") [] ↔ Loads (twoSwitches "1-2") []) :=
  isolated_iff (by decide) (twoSwitches_same "1-3" "1-2") .nil

/-- A range that runs backwards in the ports of one switch leaves both without a configuration. -/
theorem backward_range_aborts : SameFileExcept "sw2" (twoSwitches "1-3") (twoSwitches "5-3") ∧
    yieldsFor "sw1" (loadMulti plainEnvironment .inserted (twoSwitches "1-3") []) ≠
      yieldsFor "sw1" (loadMulti plainEnvironment .inserted (twoSwitches "5-3") []) := by
  refine ⟨twoSwitches_same _ _, ?_⟩
  have hloads : Loads (twoSwitches "1-3") [] := twoSwitches_loads ⟨_, rfl, rfl⟩
  obtain ⟨loaded, hok⟩ := (loadMulti_isOk_iff plainEnvironment .inserted _ _).mpr hloads
  have herror : loadMulti plainEnvironment .inserted (twoSwitches "5-3") [] = .error _ := rfl
  rw [hok, herror]
  simp [yieldsFor]

end SwitchConfigurator
