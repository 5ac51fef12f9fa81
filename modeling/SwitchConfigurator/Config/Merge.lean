import SwitchConfigurator.Foundations.KeyedMerge
import SwitchConfigurator.Models

/-!
# Merging the sources of one switch

`merge_single_switch` and `merge_snmp_configs` of `config.rs`. The ordered maps of the
source are ordered maps here, too; the priority that two of them keep beside each entry
is never read and is left out.
-/

namespace SwitchConfigurator

open Keyed

/-- One switch as one config file has it: a `ConfigWithMetadata` whose list of switches is
that switch alone, as `merge_configs` makes them. -/
structure SwitchSource where
  switch : SwitchConfig
  /-- 0 is the highest priority. -/
  mergePriority : ℕ
  sourceFile : String
  deriving DecidableEq, Repr

/-! ## SNMP -/

/-- The merged lists, and the priority of the source each was taken from. -/
structure SnmpMerge where
  merged : Option SnmpConfig := none
  communitiesPriority : Option ℕ := none
  trapReceiversPriority : Option ℕ := none
  enabledTrapsPriority : Option ℕ := none
  readsPriority : Option ℕ := none
  deriving DecidableEq, Repr

/-- Take a value that is set, unless one of the same or a higher priority is there. -/
def replaceIfHigher {β : Type} (isSet : Bool) (value : β) (priority : ℕ)
    (taken : β × Option ℕ) : β × Option ℕ :=
  if isSet && taken.2.all (priority < ·) then (value, some priority) else taken

def mergeSnmpStep (state : SnmpMerge) (config : SwitchSource) : SnmpMerge :=
  match config.switch.snmp with
  | none => state
  | some snmp =>
    let merged := state.merged.getD {}
    let communities := replaceIfHigher (!snmp.communities.isEmpty) snmp.communities
      config.mergePriority (merged.communities, state.communitiesPriority)
    let trapReceivers := replaceIfHigher (!snmp.trapReceivers.isEmpty) snmp.trapReceivers
      config.mergePriority (merged.trapReceivers, state.trapReceiversPriority)
    let enabledTraps := replaceIfHigher (!snmp.enabledTraps.isEmpty) snmp.enabledTraps
      config.mergePriority (merged.enabledTraps, state.enabledTrapsPriority)
    let reads := replaceIfHigher snmp.reads.isSome snmp.reads
      config.mergePriority (merged.reads, state.readsPriority)
    { merged := some
        { communities := communities.1
          trapReceivers := trapReceivers.1
          enabledTraps := enabledTraps.1
          reads := reads.1 }
      communitiesPriority := communities.2
      trapReceiversPriority := trapReceivers.2
      enabledTrapsPriority := enabledTraps.2
      readsPriority := reads.2 }

def mergeSnmpConfigs (configs : List SwitchSource) : Option SnmpConfig :=
  (configs.foldl mergeSnmpStep {}).merged

/-! ## The merge -/

/-- Identity fields and credentials: the first one that is set stays. -/
def mergeIdentityStep (merged : SwitchConfig) (config : SwitchSource) : SwitchConfig :=
  { merged with
    hostname := merged.hostname.or config.switch.hostname
    model := merged.model.or config.switch.model
    managementIp := merged.managementIp.or config.switch.managementIp
    credentials := merged.credentials.or config.switch.credentials }

/-- The keyed entries of all sources, in the order the loops visit them. -/
def keyedEntries {κ α : Type} (key : α → κ) (entries : SwitchConfig → List α)
    (configs : List SwitchSource) : List (κ × α) :=
  configs.flatMap fun config => (entries config.switch).map fun a => (key a, a)

/-- The same entries, each with the file it is from. -/
def keyedFiles {κ α : Type} (key : α → κ) (entries : SwitchConfig → List α)
    (configs : List SwitchSource) : List (κ × String) :=
  configs.flatMap fun config =>
    (entries config.switch).map fun a => (key a, config.sourceFile)

structure MergedSwitch where
  switch : SwitchConfig
  vlanSources : Std.TreeMap ℕ String
  portSources : Std.TreeMap String String

/-- Merge one switch's sources. No step of it fails. -/
def mergeSingleSwitch (switchId : String) (sources : List SwitchSource) : MergedSwitch :=
  let configs := byPriority SwitchSource.mergePriority sources
  let identity := configs.foldl mergeIdentityStep { id := switchId }
  { switch :=
      { identity with
        vlans := mergedValues (keyedEntries Vlan.id SwitchConfig.vlans configs)
        ports := mergedValues (keyedEntries Port.portId SwitchConfig.ports configs)
        portMirrors :=
          mergedValues (keyedEntries PortMirror.sessionId SwitchConfig.portMirrors configs)
        snmp := mergeSnmpConfigs configs
        validation := configs.findSome? fun config => config.switch.validation
        settings := (configs.head?.map fun config => config.switch.settings).getD {} }
    vlanSources := firstWins (keyedFiles Vlan.id SwitchConfig.vlans configs)
    portSources := firstWins (keyedFiles Port.portId SwitchConfig.ports configs) }

/-! ## Who wins -/

/-- The keys are those of all sources, each once, with the first entry that the
highest-priority source of the key has for it. -/
structure MergedByKey {κ α : Type} [DecidableEq κ] (key : α → κ)
    (entries : SwitchConfig → List α) (sources : List SwitchSource) (merged : List α) : Prop where
  keys : ∀ k, k ∈ merged.map key ↔ ∃ s ∈ sources, k ∈ (entries s.switch).map key
  once : (merged.map key).Nodup
  value : ∀ a ∈ merged, ∃ s, IsHighest SwitchSource.mergePriority
    (fun s => key a ∈ (entries s.switch).map key) sources s ∧
    (entries s.switch).find? (fun b => key b = key a) = some a

/-- The files named are those of the highest-priority sources. -/
def FilesByKey {κ α : Type} [Ord κ] (key : α → κ) (entries : SwitchConfig → List α)
    (sources : List SwitchSource) (files : Std.TreeMap κ String) : Prop :=
  ∀ k file, files[k]? = some file ↔ ∃ s, IsHighest SwitchSource.mergePriority
    (fun s => k ∈ (entries s.switch).map key) sources s ∧ s.sourceFile = file

section ByKey

variable {κ α : Type} [DecidableEq κ] {key : α → κ}
  {entries : SwitchConfig → List α} {sources : List SwitchSource}

theorem find?_key_isSome {l : List α} {k : κ} :
    (l.find? fun a => k == key a).isSome = true ↔ k ∈ l.map key := by
  rw [List.find?_isSome]
  simp only [beq_iff_eq, List.mem_map]
  exact exists_congr fun a => and_congr_right fun _ => eq_comm

/-- A key is found in the first configuration that has it. -/
theorem lookup_keyedEntries {configs : List SwitchSource} {k : κ} :
    (keyedEntries key entries configs).lookup k =
      configs.findSome? fun config => (entries config.switch).find? fun a => k == key a := by
  rw [keyedEntries, lookup_flatMap]
  simp only [lookup_map_pair, Option.map_id']

omit [DecidableEq κ] in
theorem key_of_mem_keyedEntries {configs : List SwitchSource} {entry : κ × α}
    (h : entry ∈ keyedEntries key entries configs) : key entry.2 = entry.1 := by
  obtain ⟨config, _, hentry⟩ := List.mem_flatMap.mp h
  obtain ⟨a, _, rfl⟩ := List.mem_map.mp hentry
  rfl

variable [Ord κ] [Std.TransOrd κ] [Std.LawfulEqOrd κ]

/-- Where no priority is repeated, each key comes from its source of highest priority. -/
theorem mergedValues_byKey (hn : (sources.map SwitchSource.mergePriority).Nodup) :
    MergedByKey key entries sources
      (mergedValues (keyedEntries key entries (byPriority SwitchSource.mergePriority sources))) where
  keys := by
    intro k
    rw [map_key_mergedValues fun _ => key_of_mem_keyedEntries, List.mem_map]
    constructor
    · rintro ⟨⟨k', a⟩, hmem, rfl⟩
      have hlookup := mem_toList_firstWins.mp hmem
      -- the priorities differ, so the first of the sorted sources is the one of highest priority
      rw [lookup_keyedEntries, findSome?_byPriority hn] at hlookup
      obtain ⟨s, hs, -⟩ := hlookup
      exact ⟨s, hs.mem, find?_key_isSome.mp hs.holds⟩
    · rintro ⟨s, hs, hk⟩
      cases hlookup : (keyedEntries key entries
          (byPriority SwitchSource.mergePriority sources)).lookup k with
      | some a => exact ⟨(k, a), mem_toList_firstWins.mpr hlookup, rfl⟩
      | none =>
        rw [lookup_keyedEntries, findSome?_byPriority_eq_none] at hlookup
        have hsome := find?_key_isSome.mpr hk
        simp [hlookup s hs] at hsome
  once := by
    rw [map_key_mergedValues fun _ => key_of_mem_keyedEntries]
    exact nodup_keys_firstWins _
  value := by
    intro a ha
    have hlookup := (mem_mergedValues fun _ => key_of_mem_keyedEntries).mp ha
    rw [lookup_keyedEntries, findSome?_byPriority hn] at hlookup
    obtain ⟨s, hs, hfind⟩ := hlookup
    refine ⟨s, ⟨hs.mem, find?_key_isSome.mp hs.holds, ?_⟩, ?_⟩
    · intro t ht hk
      exact hs.least t ht (find?_key_isSome.mpr hk)
    · rw [← hfind]
      congr 1
      funext b
      rw [beq_eq_decide]
      exact decide_eq_decide.mpr eq_comm

/-- So does the file that is named for it. -/
theorem firstWins_filesByKey (hn : (sources.map SwitchSource.mergePriority).Nodup) :
    FilesByKey key entries sources
      (firstWins (keyedFiles key entries (byPriority SwitchSource.mergePriority sources))) := by
  intro k file
  rw [getElem?_firstWins, keyedFiles, lookup_flatMap]
  simp only [lookup_map_pair]
  rw [findSome?_byPriority hn]
  refine exists_congr fun s => ?_
  simp only [Option.isSome_map, find?_key_isSome]
  refine and_congr_right fun hs => ?_
  obtain ⟨a, ha⟩ := Option.isSome_iff_exists.mp (find?_key_isSome.mpr hs.holds)
  simp [ha]

end ByKey

/-! ## Fields that are taken whole -/

/-- An identity field is the first one set. -/
theorem foldl_mergeIdentityStep {β : Type} {field : SwitchConfig → Option β}
    (hstep : ∀ merged config, field (mergeIdentityStep merged config) =
      (field merged).or (field config.switch))
    (configs : List SwitchSource) (merged : SwitchConfig) :
    field (configs.foldl mergeIdentityStep merged) = (field merged).or
      ((configs.find? fun config => (field config.switch).isSome).elim none
        fun config => field config.switch) := by
  induction configs generalizing merged with
  | nil => simp
  | cons config configs ih =>
    rw [List.foldl_cons, ih, hstep, Option.or_assoc, List.find?_cons]
    cases hf : field config.switch <;> simp [hf]

/-- Once a list is taken, sources that follow in sorted order do not replace it. -/
theorem foldl_replaceIfHigher_of_taken {β : Type} {isSet : SwitchSource → Bool}
    {value : SwitchSource → β} {configs : List SwitchSource} {b : β} {priority : ℕ}
    (h : ∀ config ∈ configs, priority ≤ config.mergePriority) :
    configs.foldl (fun taken config =>
      replaceIfHigher (isSet config) (value config) config.mergePriority taken)
      (b, some priority) = (b, some priority) := by
  induction configs with
  | nil => rfl
  | cons config configs ih =>
    have hle : priority ≤ config.mergePriority := h config List.mem_cons_self
    have hstay : replaceIfHigher (isSet config) (value config) config.mergePriority
        (b, some priority) = (b, some priority) := by
      have hlt : ¬ config.mergePriority < priority := by omega
      simp [replaceIfHigher, hlt]
    rw [List.foldl_cons, hstay]
    exact ih fun config hc => h config (List.mem_cons_of_mem _ hc)

/-- Going through the sources in ascending order leaves what the last one sets. -/
theorem foldl_replaceIfHigher {β : Type} {isSet : SwitchSource → Bool}
    {value : SwitchSource → β} {configs : List SwitchSource} {b : β}
    (hsorted : configs.Pairwise fun c d => c.mergePriority ≤ d.mergePriority) :
    (configs.foldl (fun taken config =>
      replaceIfHigher (isSet config) (value config) config.mergePriority taken) (b, none)).1 =
      (configs.find? isSet).elim b value := by
  induction configs with
  | nil => rfl
  | cons config configs ih =>
    rw [List.pairwise_cons] at hsorted
    rw [List.foldl_cons, List.find?_cons]
    cases hset : isSet config with
    | true =>
      have htake : replaceIfHigher true (value config) config.mergePriority (b, none) =
          (value config, some config.mergePriority) := rfl
      rw [htake, foldl_replaceIfHigher_of_taken hsorted.1]
      rfl
    | false =>
      have hstay : replaceIfHigher false (value config) config.mergePriority (b, none) =
          (b, none) := rfl
      rw [hstay]
      exact ih hsorted.2

/-- One list of the SNMP merge, followed through the loop on its own. -/
theorem foldl_mergeSnmpStep {β : Type} {part : SnmpMerge → β × Option ℕ}
    {isSet : SnmpConfig → Bool} {value : SnmpConfig → β}
    (hstep : ∀ state config, part (mergeSnmpStep state config) =
      replaceIfHigher (config.switch.snmp.any isSet) (value (config.switch.snmp.getD {}))
        config.mergePriority (part state))
    (configs : List SwitchSource) (state : SnmpMerge) :
    part (configs.foldl mergeSnmpStep state) =
      configs.foldl (fun taken config => replaceIfHigher (config.switch.snmp.any isSet)
        (value (config.switch.snmp.getD {})) config.mergePriority taken) (part state) := by
  induction configs generalizing state with
  | nil => rfl
  | cons config configs ih => rw [List.foldl_cons, ih, hstep, List.foldl_cons]

/-- Each part of the SNMP configuration is replaced on its own. -/
theorem mergeSnmpStep_part {β : Type} {part : SnmpMerge → β × Option ℕ}
    {isSet : SnmpConfig → Bool} {value : SnmpConfig → β} {state : SnmpMerge}
    {config : SwitchSource}
    (h : ∀ snmp, config.switch.snmp = some snmp → part (mergeSnmpStep state config) =
      replaceIfHigher (isSet snmp) (value snmp) config.mergePriority (part state)) :
    part (mergeSnmpStep state config) =
      replaceIfHigher (config.switch.snmp.any isSet) (value (config.switch.snmp.getD {}))
        config.mergePriority (part state) := by
  cases hs : config.switch.snmp with
  | none => simp [mergeSnmpStep, hs, replaceIfHigher]
  | some snmp => exact h snmp hs

/-- There is an SNMP configuration if any source has one. -/
theorem isSome_foldl_mergeSnmpStep (configs : List SwitchSource) (state : SnmpMerge) :
    (configs.foldl mergeSnmpStep state).merged.isSome =
      (state.merged.isSome || configs.any fun config => config.switch.snmp.isSome) := by
  induction configs generalizing state with
  | nil => simp
  | cons config configs ih =>
    rw [List.foldl_cons, ih, mergeSnmpStep, List.any_cons]
    cases config.switch.snmp <;> simp

section Fields

variable {sources : List SwitchSource} (hn : (sources.map SwitchSource.mergePriority).Nodup)
include hn

/-- A field of the identity comes from the highest source that has it. -/
theorem identity_takenFromHighest {β : Type} {field : SwitchConfig → Option β}
    (hstep : ∀ merged config, field (mergeIdentityStep merged config) =
      (field merged).or (field config.switch)) {merged : SwitchConfig}
    (hnone : field merged = none) :
    TakenFromHighest SwitchSource.mergePriority (fun s => (field s.switch).isSome = true)
      (fun s => field s.switch) none sources
      (field ((byPriority SwitchSource.mergePriority sources).foldl mergeIdentityStep merged)) := by
  rw [foldl_mergeIdentityStep hstep, hnone, Option.none_or]
  exact takenFromHighest_find? hn

/-- A list of the SNMP merge is the one of the highest-priority source that sets it. -/
theorem snmp_takenFromHighest {β : Type} (part : SnmpMerge → β × Option ℕ)
    (isSet : SnmpConfig → Bool) (value : SnmpConfig → β)
    (hstep : ∀ state config snmp, config.switch.snmp = some snmp →
      part (mergeSnmpStep state config) =
        replaceIfHigher (isSet snmp) (value snmp) config.mergePriority (part state))
    {default : β} (hstart : part {} = (default, none)) :
    TakenFromHighest SwitchSource.mergePriority (fun s => s.switch.snmp.any isSet = true)
      (fun s => value (s.switch.snmp.getD {})) default sources
      (part ((byPriority SwitchSource.mergePriority sources).foldl mergeSnmpStep {})).1 := by
  have hpart (state : SnmpMerge) (config : SwitchSource) :=
    mergeSnmpStep_part (hstep state config)
  rw [foldl_mergeSnmpStep hpart, hstart, foldl_replaceIfHigher (pairwise_byPriority sources)]
  exact takenFromHighest_find? hn

end Fields

/-- The result of a merge: every keyed component by key, every other one whole from the
highest-priority source that has it. -/
structure MergedSwitch.Wins (merged : MergedSwitch) (sources : List SwitchSource) : Prop where
  vlans : MergedByKey Vlan.id SwitchConfig.vlans sources merged.switch.vlans
  ports : MergedByKey Port.portId SwitchConfig.ports sources merged.switch.ports
  portMirrors :
    MergedByKey PortMirror.sessionId SwitchConfig.portMirrors sources merged.switch.portMirrors
  vlanSources : FilesByKey Vlan.id SwitchConfig.vlans sources merged.vlanSources
  portSources : FilesByKey Port.portId SwitchConfig.ports sources merged.portSources
  hostname : TakenFromHighest SwitchSource.mergePriority
    (fun s => s.switch.hostname.isSome = true) (·.switch.hostname) none sources
    merged.switch.hostname
  model : TakenFromHighest SwitchSource.mergePriority
    (fun s => s.switch.model.isSome = true) (·.switch.model) none sources merged.switch.model
  managementIp : TakenFromHighest SwitchSource.mergePriority
    (fun s => s.switch.managementIp.isSome = true) (·.switch.managementIp) none sources
    merged.switch.managementIp
  credentials : TakenFromHighest SwitchSource.mergePriority
    (fun s => s.switch.credentials.isSome = true) (·.switch.credentials) none sources
    merged.switch.credentials
  snmp : merged.switch.snmp.isSome = sources.any fun s => s.switch.snmp.isSome
  communities : TakenFromHighest SwitchSource.mergePriority
    (fun s => s.switch.snmp.any (fun snmp => !snmp.communities.isEmpty) = true)
    (fun s => (s.switch.snmp.getD {}).communities) [] sources
    (merged.switch.snmp.getD {}).communities
  trapReceivers : TakenFromHighest SwitchSource.mergePriority
    (fun s => s.switch.snmp.any (fun snmp => !snmp.trapReceivers.isEmpty) = true)
    (fun s => (s.switch.snmp.getD {}).trapReceivers) [] sources
    (merged.switch.snmp.getD {}).trapReceivers
  enabledTraps : TakenFromHighest SwitchSource.mergePriority
    (fun s => s.switch.snmp.any (fun snmp => !snmp.enabledTraps.isEmpty) = true)
    (fun s => (s.switch.snmp.getD {}).enabledTraps) [] sources
    (merged.switch.snmp.getD {}).enabledTraps
  reads : TakenFromHighest SwitchSource.mergePriority
    (fun s => s.switch.snmp.any (fun snmp => snmp.reads.isSome) = true)
    (fun s => (s.switch.snmp.getD {}).reads) none sources (merged.switch.snmp.getD {}).reads

/-- In each part, the source of highest priority wins. -/
theorem mergeSingleSwitch_wins (switchId : String) {sources : List SwitchSource}
    (hn : (sources.map SwitchSource.mergePriority).Nodup) :
    (mergeSingleSwitch switchId sources).Wins sources where
  vlans := mergedValues_byKey hn
  ports := mergedValues_byKey hn
  portMirrors := mergedValues_byKey hn
  vlanSources := firstWins_filesByKey hn
  portSources := firstWins_filesByKey hn
  hostname := identity_takenFromHighest hn (fun _ _ => rfl) rfl
  model := identity_takenFromHighest hn (fun _ _ => rfl) rfl
  managementIp := identity_takenFromHighest hn (fun _ _ => rfl) rfl
  credentials := identity_takenFromHighest hn (fun _ _ => rfl) rfl
  snmp := by
    have h := isSome_foldl_mergeSnmpStep (byPriority SwitchSource.mergePriority sources) {}
    rw [(perm_byPriority sources).any_eq] at h
    exact h
  communities := snmp_takenFromHighest hn
    (fun m => ((m.merged.getD {}).communities, m.communitiesPriority))
    (fun snmp => !snmp.communities.isEmpty) SnmpConfig.communities
    (fun _ _ _ hs => by simp [mergeSnmpStep, hs]) rfl
  trapReceivers := snmp_takenFromHighest hn
    (fun m => ((m.merged.getD {}).trapReceivers, m.trapReceiversPriority))
    (fun snmp => !snmp.trapReceivers.isEmpty) SnmpConfig.trapReceivers
    (fun _ _ _ hs => by simp [mergeSnmpStep, hs]) rfl
  enabledTraps := snmp_takenFromHighest hn
    (fun m => ((m.merged.getD {}).enabledTraps, m.enabledTrapsPriority))
    (fun snmp => !snmp.enabledTraps.isEmpty) SnmpConfig.enabledTraps
    (fun _ _ _ hs => by simp [mergeSnmpStep, hs]) rfl
  reads := snmp_takenFromHighest hn
    (fun m => ((m.merged.getD {}).reads, m.readsPriority))
    (fun snmp => snmp.reads.isSome) SnmpConfig.reads
    (fun _ _ _ hs => by simp [mergeSnmpStep, hs]) rfl

/-- Without equal priorities the order of the sources has no part in the merge. -/
theorem mergeSingleSwitch_perm (switchId : String) {sources sources' : List SwitchSource}
    (hp : sources'.Perm sources) (hn : (sources.map SwitchSource.mergePriority).Nodup) :
    mergeSingleSwitch switchId sources' = mergeSingleSwitch switchId sources := by
  have hsort := byPriority_perm hp.symm hn
  unfold mergeSingleSwitch
  rw [hsort]

/-- With distinct priorities the merge is by key, whatever the order of the sources. -/
theorem mergeSingleSwitch_by_key (switchId : String) (sources : List SwitchSource)
    (hn : (sources.map SwitchSource.mergePriority).Nodup) :
    (mergeSingleSwitch switchId sources).Wins sources ∧
      ∀ sources', sources'.Perm sources →
        mergeSingleSwitch switchId sources' = mergeSingleSwitch switchId sources :=
  ⟨mergeSingleSwitch_wins switchId hn, fun _ hp => mergeSingleSwitch_perm switchId hp hn⟩

/-- The main file, and a folder file that overrides one of its VLANs. -/
def officeSources : List SwitchSource :=
  [{ switch := { id := "sw1", hostname := some "office", vlans := [{ id := 10, name := "staff" }] }
     mergePriority := 50
     sourceFile := "/etc/switch-configurator/config.yaml" },
   { switch := { id := "sw1", vlans := [{ id := 10, name := "guests" }, { id := 20, name := "cameras" }] }
     mergePriority := 10
     sourceFile := "/etc/switch-configurator/switches.d/guests.yaml" }]

theorem mergeSingleSwitch_by_key_office :
    (mergeSingleSwitch "sw1" officeSources).Wins officeSources :=
  (mergeSingleSwitch_by_key "sw1" officeSources (by decide)).1

end SwitchConfigurator
