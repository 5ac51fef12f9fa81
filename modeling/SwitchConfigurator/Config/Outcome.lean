import SwitchConfigurator.Config.Isolation
import SwitchConfigurator.Config.LoadPaths

/-!
# The outcome of one switch

What `load_multi` yields for a switch, told from the definitions of the switch in the files: they
are merged, and the merged switch is settled or left out.
-/

namespace SwitchConfigurator

open Keyed RelatedLists

/-- The switch that is merged from the definitions in the files, before it is checked. -/
def MergedFrom (main : ConfigFile) (folders : List (List ConfigFile)) (switchId : String)
    (merged : SwitchConfig) : Prop :=
  ∃ mainConfig folderConfigs, LoadedAs .mainConfig main mainConfig ∧
    List.Forall₂ (LoadedAs .folderConfig) folders.flatten folderConfigs ∧
      merged = (mergeSingleSwitch switchId (sourcesOf
        (byPriority ConfigWithMetadata.mergePriority (mainConfig :: folderConfigs))
          switchId)).switch

section

variable {env : Environment} {order : MapOrder} {main : ConfigFile}
  {folders : List (List ConfigFile)} {loaded : Loaded} {switchId : String}
  {merged merged' result : SwitchConfig}

/-- A file is loaded in one way. -/
theorem LoadedAs.eq {sourceType : ConfigSourceType} {file : ConfigFile}
    {config config' : ConfigWithMetadata} (h : LoadedAs sourceType file config)
    (h' : LoadedAs sourceType file config') : config = config' := by
  have hswitches : config.switches = config'.switches := by
    rw [← List.forall₂_eq_eq_eq]
    exact forall₂_comp (fun _ _ _ hraw hraw' => hraw.eq hraw') h.switches h'.switches
  have hpriority := h.mergePriority.trans h'.mergePriority.symm
  have hfile := h.sourceFile.trans h'.sourceFile.symm
  have htype := h.sourceType.trans h'.sourceType.symm
  cases config
  cases config'
  dsimp only at hswitches hpriority hfile htype
  rw [hswitches, hpriority, hfile, htype]

theorem loadedAs_eq {sourceType : ConfigSourceType} {files : List ConfigFile}
    {configs configs' : List ConfigWithMetadata}
    (h : List.Forall₂ (LoadedAs sourceType) files configs)
    (h' : List.Forall₂ (LoadedAs sourceType) files configs') : configs = configs' := by
  rw [← List.forall₂_eq_eq_eq]
  exact forall₂_comp (fun _ _ _ hfile hfile' => hfile.eq hfile') h h'

/-- A switch is merged in one way. -/
theorem MergedFrom.eq (h : MergedFrom main folders switchId merged)
    (h' : MergedFrom main folders switchId merged') : merged = merged' := by
  obtain ⟨mainConfig, configs, hmain, hfolders, rfl⟩ := h
  obtain ⟨mainConfig', configs', hmain', hfolders', rfl⟩ := h'
  rw [hmain.eq hmain', loadedAs_eq hfolders hfolders']

/-- A valid switch is the settled merge of its definitions. -/
theorem mem_valid_loadMulti (h : loadMulti env order main folders = .ok loaded)
    (hresult : result ∈ loaded.valid) : ∃ merged model,
      MergedFrom main folders result.id merged ∧ merged.model = some model ∧
        Settles env model merged ∧ merged.vlans ≠ [] ∧ result = settled env model merged := by
  obtain ⟨mainConfig, configs, hmain, hfolders, hmerge⟩ := loadMulti_ok_iff.mp h
  obtain ⟨-, -, rfl⟩ := mergeConfigs_ok_iff.mp hmerge
  obtain ⟨switchId, -, houtcome⟩ := List.mem_map.mp (mem_valid_collect.mp hresult)
  cases haccepts : acceptsMerged env
      (byPriority ConfigWithMetadata.mergePriority (mainConfig :: configs)) switchId with
  | false =>
    obtain ⟨failure, herror, -, -⟩ := outcomeOf_error haccepts
    rw [herror] at houtcome
    cases houtcome
  | true =>
    rw [outcomeOf_ok haccepts] at houtcome
    obtain rfl := Except.ok.inj houtcome
    obtain ⟨r, hr⟩ := acceptsMerged_iff.mp haccepts
    have hsame : mergedOf env (byPriority ConfigWithMetadata.mergePriority (mainConfig :: configs))
        switchId = r := congrArg Prod.fst hr
    obtain ⟨hsteps, hvlans⟩ := checkMergedSteps_succeeds_iff.mp hr
    obtain ⟨model, hmodel, hsettles, rfl⟩ := resolutionSteps_succeeds_iff.mp hsteps
    rw [id_mergedOf]
    exact ⟨_, model, ⟨mainConfig, configs, hmain, hfolders, rfl⟩, hmodel, hsettles, hvlans, hsame⟩

end

end SwitchConfigurator
