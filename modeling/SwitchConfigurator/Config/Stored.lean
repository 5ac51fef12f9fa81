import SwitchConfigurator.Api.PatchMerge
import SwitchConfigurator.Config.PortExpansion
import SwitchConfigurator.Config.Postcondition

/-!
# What is in the store

Whichever way a switch gets into the store, from one file, from several files, by a PUT or by a
PATCH, validating it again lets it through as it is.
-/

namespace SwitchConfigurator

open Keyed RelatedLists

/-- A switch that the validation lets through as it is. -/
def Stored (env : Environment) (switch : SwitchConfig) : Prop :=
  (validateSwitchConfig env).Succeeds switch switch

variable {env : Environment}

/-- What is stored was accepted. -/
theorem Stored.accepted {switch : SwitchConfig} (h : Stored env switch) : Accepted switch :=
  ⟨env, switch, h⟩

/-! ## Merged switches -/

/-- What is merged is from some source. -/
theorem mem_of_mem_mergedValues {κ α : Type} [Ord κ] [Std.TransOrd κ] [Std.LawfulEqOrd κ]
    [BEq κ] [LawfulBEq κ] {key : α → κ} {entries : SwitchConfig → List α}
    {sources : List SwitchSource} {a : α}
    (h : a ∈ mergedValues (keyedEntries key entries (byPriority SwitchSource.mergePriority sources))) :
    ∃ source ∈ sources, a ∈ entries source.switch := by
  have hlookup := (mem_mergedValues fun _ => key_of_mem_keyedEntries).mp h
  obtain ⟨source, hsource, hentry⟩ := List.mem_flatMap.mp (mem_of_lookup_pairs hlookup)
  obtain ⟨b, hb, heq⟩ := List.mem_map.mp hentry
  obtain ⟨-, rfl⟩ := Prod.mk.inj heq
  exact ⟨source, mem_byPriority.mp hsource, hb⟩

/-- A merged switch has the id that it was merged for. -/
theorem id_mergeSingleSwitch (switchId : String) (sources : List SwitchSource) :
    (mergeSingleSwitch switchId sources).switch.id = switchId := by
  have hid (configs : List SwitchSource) (merged : SwitchConfig) :
      (configs.foldl mergeIdentityStep merged).id = merged.id := by
    induction configs generalizing merged with
    | nil => rfl
    | cons source configs ih => exact ih _
  exact hid _ _

/-- A merge of expanded and valid definitions is expanded and valid. -/
theorem expandsTo_merged {switchId : String} {sources : List SwitchSource} (hid : switchId ≠ "")
    (h : ∀ source ∈ sources, Expanded source.switch ∧ invalidFields source.switch = []) :
    ExpandsTo (mergeSingleSwitch switchId sources).switch
      (mergeSingleSwitch switchId sources).switch := by
  constructor
  · refine Expanded.expandPortRanges_eq ⟨fun port hport => ?_, fun mirror hmirror => ?_⟩
    · obtain ⟨source, hsource, hport⟩ := mem_of_mem_mergedValues hport
      exact (h source hsource).1.ports port hport
    · obtain ⟨source, hsource, hmirror⟩ := mem_of_mem_mergedValues hmirror
      exact (h source hsource).1.portMirrors mirror hmirror
  · refine invalidFields_eq_nil_iff.mpr ⟨?_, fun vlan hvlan => ?_, fun port hport => ?_⟩
    · rwa [id_mergeSingleSwitch]
    · obtain ⟨source, hsource, hvlan⟩ := mem_of_mem_mergedValues hvlan
      exact (invalidFields_eq_nil_iff.mp (h source hsource).2).2.1 vlan hvlan
    · obtain ⟨source, hsource, hport⟩ := mem_of_mem_mergedValues hport
      exact (invalidFields_eq_nil_iff.mp (h source hsource).2).2.2 port hport

/-! ## Ways into the store -/

/-- From one file. -/
theorem stored_of_validateAllSwitches {switches : List SwitchConfig} :
    ∀ switch ∈ (validateAllSwitches env switches).valid, Stored env switch := by
  intro switch hswitch
  obtain ⟨raw, -, hraw⟩ := List.mem_map.mp (mem_valid_collect.mp hswitch)
  unfold validateOne at hraw
  split at hraw
  · next result hvalidated =>
    obtain rfl := Except.ok.inj hraw
    exact (validation_establishes hvalidated).2
  · cases hraw

/-- The definitions in loaded files are expanded and valid. -/
theorem definitions_loadedAs {sourceType : ConfigSourceType} {file : ConfigFile}
    {config : ConfigWithMetadata} (h : LoadedAs sourceType file config) :
    ∀ switch ∈ config.switches, Expanded switch ∧ invalidFields switch = [] := by
  intro switch hswitch
  obtain ⟨raw, -, hexpand⟩ := exists_of_mem_right h.switches hswitch
  exact ⟨expanded_of_expandPortRanges hexpand.1, hexpand.2⟩

/-- From files that are merged. -/
theorem stored_of_mergeConfigs {order : MapOrder} {configs : List ConfigWithMetadata}
    {loaded : Loaded} (hmerge : mergeConfigs env order configs = .ok loaded)
    (hconfigs : ∀ config ∈ configs, ∀ switch ∈ config.switches,
      Expanded switch ∧ invalidFields switch = []) :
    ∀ switch ∈ loaded.valid, Stored env switch := by
  obtain ⟨-, -, rfl⟩ := mergeConfigs_ok_iff.mp hmerge
  intro switch hswitch
  rw [valid_outcomes] at hswitch
  obtain ⟨id, hid, rfl⟩ := List.mem_map.mp hswitch
  obtain ⟨hmem, haccepts⟩ := List.mem_filter.mp hid
  rw [(order.perm _).mem_iff, mem_switchIds] at hmem
  obtain ⟨first, hfirst⟩ := List.exists_mem_of_ne_nil _ hmem
  have hsources : ∀ source ∈ sourcesOf configs id, source.switch.id = id ∧
      Expanded source.switch ∧ invalidFields source.switch = [] := by
    intro source hsource
    obtain ⟨config, hconfig, hsource⟩ := List.mem_flatMap.mp hsource
    obtain ⟨switch, hswitch, rfl⟩ := List.mem_map.mp hsource
    obtain ⟨hswitch, hid⟩ := List.mem_filter.mp hswitch
    exact ⟨of_decide_eq_true hid, hconfigs config hconfig switch hswitch⟩
  have hne : id ≠ "" := by
    rw [← (hsources first hfirst).1]
    exact (invalidFields_eq_nil_iff.mp (hsources first hfirst).2.2).1
  obtain ⟨result, hresult⟩ := acceptsMerged_iff.mp haccepts
  have hsteps := (checkMergedSteps_succeeds_iff.mp hresult).1
  have heq : mergedOf env configs id = result := congrArg Prod.fst hresult
  rw [heq]
  exact (validation_establishes (validateSwitchConfig_succeeds_iff.mpr
    ⟨_, expandsTo_merged hne fun source hsource => (hsources source hsource).2, hsteps⟩)).2

/-- From a main file and config folders. -/
theorem stored_of_loadMulti {order : MapOrder} {main : ConfigFile}
    {folders : List (List ConfigFile)} {loaded : Loaded}
    (h : loadMulti env order main folders = .ok loaded) :
    ∀ switch ∈ loaded.valid, Stored env switch := by
  obtain ⟨mainConfig, folderConfigs, hmain, hfolders, hmerge⟩ := loadMulti_ok_iff.mp h
  refine stored_of_mergeConfigs hmerge fun config hconfig => ?_
  rw [mem_byPriority, List.mem_cons] at hconfig
  rcases hconfig with rfl | hconfig
  · exact definitions_loadedAs hmain
  · obtain ⟨file, -, hloaded⟩ := exists_of_mem_right hfolders hconfig
    exact definitions_loadedAs hloaded

/-- By a PUT, whatever it is answered with. -/
theorem stored_of_setSwitchConfig {id : String} {request : Api.SetSwitchConfigRequest}
    {store : Api.ConfigStore} (h : ∀ switch ∈ store.switches, Stored env switch) :
    ∀ switch ∈ (Api.setSwitchConfig env id request store).store.switches, Stored env switch := by
  intro switch hswitch
  unfold Api.setSwitchConfig at hswitch
  split at hswitch
  · exact h switch hswitch
  · dsimp only at hswitch
    split at hswitch
    · exact h switch hswitch
    · split at hswitch
      · exact h switch hswitch
      · next result _ hvalidated =>
        have hnew : Stored env result := (validation_establishes hvalidated).2
        split at hswitch
        · rcases List.mem_or_eq_of_mem_set hswitch with hold | rfl
          · exact h switch hold
          · exact hnew
        · rcases List.mem_append.mp hswitch with hold | hold
          · exact h switch hold
          · rw [List.mem_singleton.mp hold]
            exact hnew

/-- By a PATCH. -/
theorem stored_of_patches {id : String} {request : Api.PatchSwitchConfigRequest}
    {store : Api.ConfigStore} {before result : SwitchConfig}
    (h : Api.Patches env id request store before result) : Stored env result :=
  (validation_establishes h.validated).2

end SwitchConfigurator
