import SwitchConfigurator.Config.Load
import SwitchConfigurator.Config.Preserve

/-!
# Conflicts between sources

What `merge_configs` reports as a conflict, and what it decides by the order in which files of
one priority are scanned.
-/

namespace SwitchConfigurator

open Keyed

/-! ## Definitions that count the same -/

/-- The sources of the highest priority among those that define the part define the same. -/
def Undisputed {β : Type} (part : SwitchConfig → Option β) (sources : List SwitchSource) : Prop :=
  Unanimous SwitchSource.mergePriority (fun s => part s.switch) sources

/-- What a file offers for a part of a switch: its first entry for the switch that has the part. -/
def ConfigWithMetadata.offers {β : Type} (part : SwitchConfig → Option β) (switchId : String)
    (config : ConfigWithMetadata) : Option β :=
  (config.switches.filter fun switch => switch.id = switchId).findSome? part

/-- The files of the highest priority among those that define the part define the same. -/
def FilesAgree {β : Type} (part : SwitchConfig → Option β) (switchId : String)
    (configs : List ConfigWithMetadata) : Prop :=
  Unanimous ConfigWithMetadata.mergePriority (ConfigWithMetadata.offers part switchId) configs

/-- No VLAN, port, mirror session or SNMP list has two definitions that differ and count the
same. -/
structure Unconflicted (sources : List SwitchSource) : Prop where
  vlans : ∀ k, Undisputed (fun s => s.vlans.find? fun v => v.id = k) sources
  ports : ∀ k, Undisputed (fun s => s.ports.find? fun p => p.portId = k) sources
  portMirrors : ∀ k, Undisputed (fun s => s.portMirrors.find? fun m => m.sessionId = k) sources
  communities : Undisputed SwitchConfig.communities sources
  trapReceivers : Undisputed SwitchConfig.trapReceivers sources
  enabledTraps : Undisputed SwitchConfig.enabledTraps sources
  reads : Undisputed SwitchConfig.reads sources

/-- Nor do two files differ on a part that is taken whole. -/
structure Settled (switchId : String) (configs : List ConfigWithMetadata) : Prop
    extends Unconflicted (sourcesOf configs switchId) where
  credentials : FilesAgree SwitchConfig.credentials switchId configs
  validation : FilesAgree SwitchConfig.validation switchId configs
  settings : FilesAgree (fun s => some s.settings) switchId configs

section

variable {sources sources' : List SwitchSource} {configs configs' : List ConfigWithMetadata}
  {switchId : String}

/-- What nobody disputes is picked in any order of the sources. -/
theorem Undisputed.picked_eq {β : Type} {part : SwitchConfig → Option β}
    (h : Undisputed part sources) (hperm : sources'.Perm sources) :
    picked part sources' = picked part sources := findSome?_byPriority_perm_iff.mpr h sources' hperm

/-- Sources that agree dispute nothing. -/
theorem undisputed_of_agree {β : Type} {field : SwitchConfig → Option β}
    (h : Agree field sources) : Undisputed field sources := by
  intro s t hs ht
  obtain ⟨a, ha⟩ := Option.isSome_iff_exists.mp hs.holds
  obtain ⟨b, hb⟩ := Option.isSome_iff_exists.mp ht.holds
  rw [ha, hb, h s hs.mem t ht.mem a ha b hb]

/-- What is picked for a switch is picked over the configurations, by their priority. -/
theorem picked_sourcesOf {β : Type} (part : SwitchConfig → Option β) :
    picked part (sourcesOf configs switchId) =
      (byPriority ConfigWithMetadata.mergePriority configs).findSome?
        (ConfigWithMetadata.offers part switchId) := by
  have hweight : ∀ config : ConfigWithMetadata, ∀ s ∈ (config.switches.filter
      fun switch => switch.id = switchId).map
        (fun switch => SwitchSource.mk switch config.mergePriority config.sourceFile),
      s.mergePriority = config.mergePriority := by
    intro config s hs
    obtain ⟨switch, _, rfl⟩ := List.mem_map.mp hs
    rfl
  rw [picked, sourcesOf, findSome?_byPriority_flatMap hweight]
  congr 1
  funext config
  rw [List.findSome?_map]
  rfl

/-- A part does not depend on the order of the files exactly if they agree on it. -/
theorem picked_perm_iff {β : Type} {part : SwitchConfig → Option β} :
    (∀ configs', configs'.Perm configs → picked part (sourcesOf configs' switchId) =
      picked part (sourcesOf configs switchId)) ↔ FilesAgree part switchId configs := by
  simp only [picked_sourcesOf]
  exact findSome?_byPriority_perm_iff

/-- Rearranged configurations give a switch the same sources, rearranged. -/
theorem sourcesOf_perm (h : configs'.Perm configs) :
    (sourcesOf configs' switchId).Perm (sourcesOf configs switchId) := h.flatMap_right _

theorem settled_nil (switchId : String) : Settled switchId [] := by
  have hentries {β : Type} (part : SwitchConfig → Option β) :
      Undisputed part (sourcesOf [] switchId) := fun _ _ hs => absurd hs.mem List.not_mem_nil
  have hfiles {β : Type} (part : SwitchConfig → Option β) : FilesAgree part switchId [] :=
    fun _ _ hs => absurd hs.mem List.not_mem_nil
  exact
    { vlans := fun _ => hentries _, ports := fun _ => hentries _
      portMirrors := fun _ => hentries _, communities := hentries _
      trapReceivers := hentries _, enabledTraps := hentries _, reads := hentries _
      credentials := hfiles _, validation := hfiles _, settings := hfiles _ }

end

/-! ## The merged switch -/

section

variable {sources sources' : List SwitchSource} {switchId : String}

/-- The keyed entries of a merge are told apart by what is picked for each key. -/
theorem mergedValues_picked {κ α : Type} [DecidableEq κ] [Ord κ] [Std.TransOrd κ]
    [Std.LawfulEqOrd κ] {key : α → κ} {entries : SwitchConfig → List α}
    (h : ∀ k, picked (fun s => (entries s).find? fun a => key a = k) sources' =
      picked (fun s => (entries s).find? fun a => key a = k) sources) :
    mergedValues (keyedEntries key entries (byPriority SwitchSource.mergePriority sources')) =
      mergedValues (keyedEntries key entries (byPriority SwitchSource.mergePriority sources)) :=
  mergedValues_congr fun k => by rw [lookup_picked, lookup_picked, h k]

/-- An SNMP configuration is determined by its parts. -/
theorem snmp_ext {a b : SwitchConfig} (hsnmp : a.snmp.isSome = b.snmp.isSome)
    (hcommunities : a.communities = b.communities) (hreceivers : a.trapReceivers = b.trapReceivers)
    (htraps : a.enabledTraps = b.enabledTraps) (hreads : a.reads = b.reads) : a.snmp = b.snmp := by
  have hlist {α : Type} {l l' : List α} (h : nonempty l = nonempty l') : l = l' := by
    cases l <;> cases l' <;> simp_all [nonempty]
  unfold SwitchConfig.communities at hcommunities
  unfold SwitchConfig.trapReceivers at hreceivers
  unfold SwitchConfig.enabledTraps at htraps
  unfold SwitchConfig.reads at hreads
  cases ha : a.snmp with
  | none =>
    cases hb : b.snmp with
    | none => rfl
    | some y => simp [ha, hb] at hsnmp
  | some x =>
    cases hb : b.snmp with
    | none => simp [ha, hb] at hsnmp
    | some y =>
      simp only [ha, hb, Option.bind_some] at hcommunities hreceivers htraps hreads
      obtain ⟨communities, trapReceivers, enabledTraps, reads⟩ := x
      obtain ⟨communities', trapReceivers', enabledTraps', reads'⟩ := y
      obtain rfl : communities = communities' := hlist hcommunities
      obtain rfl : trapReceivers = trapReceivers' := hlist hreceivers
      obtain rfl : enabledTraps = enabledTraps' := hlist htraps
      obtain rfl : reads = reads' := hreads
      rfl

/-- Every part that a merge copies is picked alike. -/
structure SamePicks (sources' sources : List SwitchSource) : Prop where
  hostname : picked SwitchConfig.hostname sources' = picked SwitchConfig.hostname sources
  model : picked SwitchConfig.model sources' = picked SwitchConfig.model sources
  managementIp : picked SwitchConfig.managementIp sources' =
    picked SwitchConfig.managementIp sources
  credentials : picked SwitchConfig.credentials sources' = picked SwitchConfig.credentials sources
  vlans : ∀ k, picked (fun s => s.vlans.find? fun v => v.id = k) sources' =
    picked (fun s => s.vlans.find? fun v => v.id = k) sources
  ports : ∀ k, picked (fun s => s.ports.find? fun p => p.portId = k) sources' =
    picked (fun s => s.ports.find? fun p => p.portId = k) sources
  portMirrors : ∀ k, picked (fun s => s.portMirrors.find? fun m => m.sessionId = k) sources' =
    picked (fun s => s.portMirrors.find? fun m => m.sessionId = k) sources
  snmp : (sources'.any fun s => s.switch.snmp.isSome) = sources.any fun s => s.switch.snmp.isSome
  communities : picked SwitchConfig.communities sources' = picked SwitchConfig.communities sources
  trapReceivers : picked SwitchConfig.trapReceivers sources' =
    picked SwitchConfig.trapReceivers sources
  enabledTraps : picked SwitchConfig.enabledTraps sources' =
    picked SwitchConfig.enabledTraps sources
  reads : picked SwitchConfig.reads sources' = picked SwitchConfig.reads sources
  validation : picked SwitchConfig.validation sources' = picked SwitchConfig.validation sources
  settings : picked (fun s => some s.settings) sources' = picked (fun s => some s.settings) sources

attribute [ext] SwitchConfig

/-- A merged switch is what is picked for its parts. -/
theorem mergeSingleSwitch_congr (h : SamePicks sources' sources) :
    (mergeSingleSwitch switchId sources').switch = (mergeSingleSwitch switchId sources).switch := by
  have hpicks' := mergeSingleSwitch_picks switchId sources'
  have hpicks := mergeSingleSwitch_picks switchId sources
  apply SwitchConfig.ext
  · rw [hpicks'.id, hpicks.id]
  · rw [hpicks'.hostname, hpicks.hostname, h.hostname]
  · rw [hpicks'.model, hpicks.model, h.model]
  · rw [hpicks'.managementIp, hpicks.managementIp, h.managementIp]
  · rw [hpicks'.credentials, hpicks.credentials, h.credentials]
  · exact mergedValues_picked h.vlans
  · exact mergedValues_picked h.ports
  · exact mergedValues_picked h.portMirrors
  · apply snmp_ext
    · rw [hpicks'.snmp, hpicks.snmp, h.snmp]
    · rw [hpicks'.communities, hpicks.communities, h.communities]
    · rw [hpicks'.trapReceivers, hpicks.trapReceivers, h.trapReceivers]
    · rw [hpicks'.enabledTraps, hpicks.enabledTraps, h.enabledTraps]
    · rw [hpicks'.reads, hpicks.reads, h.reads]
  · rw [hpicks'.managementVlan, hpicks.managementVlan]
  · rw [hpicks'.validation, hpicks.validation, h.validation]
  · rw [hpicks'.vendorSpecific, hpicks.vendorSpecific]
  · rw [hpicks'.settings, hpicks.settings, h.settings]

end

section

variable {configs configs' : List ConfigWithMetadata} {switchId : String}

/-- A switch whose parts are settled is merged alike from the files in any order. -/
theorem Settled.samePicks (h : Settled switchId configs)
    (hsame : SameIdentity (sourcesOf configs switchId)) (hperm : configs'.Perm configs) :
    SamePicks (sourcesOf configs' switchId) (sourcesOf configs switchId) where
  hostname := (undisputed_of_agree hsame.hostname).picked_eq (sourcesOf_perm hperm)
  model := (undisputed_of_agree hsame.model).picked_eq (sourcesOf_perm hperm)
  managementIp := (undisputed_of_agree hsame.managementIp).picked_eq (sourcesOf_perm hperm)
  credentials := picked_perm_iff.mpr h.credentials configs' hperm
  vlans k := (h.vlans k).picked_eq (sourcesOf_perm hperm)
  ports k := (h.ports k).picked_eq (sourcesOf_perm hperm)
  portMirrors k := (h.portMirrors k).picked_eq (sourcesOf_perm hperm)
  snmp := (sourcesOf_perm hperm).any_eq
  communities := h.communities.picked_eq (sourcesOf_perm hperm)
  trapReceivers := h.trapReceivers.picked_eq (sourcesOf_perm hperm)
  enabledTraps := h.enabledTraps.picked_eq (sourcesOf_perm hperm)
  reads := h.reads.picked_eq (sourcesOf_perm hperm)
  validation := picked_perm_iff.mpr h.validation configs' hperm
  settings := picked_perm_iff.mpr h.settings configs' hperm

/-- Whether sources agree does not depend on their order. -/
theorem Agree.perm {β : Type} {field : SwitchConfig → Option β} {sources sources' :
    List SwitchSource} (hperm : sources'.Perm sources) (h : Agree field sources) :
    Agree field sources' :=
  fun s hs t ht => h s (hperm.mem_iff.mp hs) t (hperm.mem_iff.mp ht)

/-- Nor does whether they have one identity. -/
theorem SameIdentity.perm {sources sources' : List SwitchSource}
    (hperm : sources'.Perm sources) (h : SameIdentity sources) : SameIdentity sources' where
  hostname := h.hostname.perm hperm
  managementIp := h.managementIp.perm hperm
  model := h.model.perm hperm

end

/-! ## Detection -/

/-- The same switches in any order, and the same ones left out with the same previews. -/
structure Loaded.Same (a b : Loaded) : Prop where
  valid : a.valid.Perm b.valid
  failures : (a.failures.map fun f => (f.switchId, f.preview)).Perm
    (b.failures.map fun f => (f.switchId, f.preview))

/-- Two definitions that count the same and differ are an error. -/
def Detects (env : Environment) (configs : List ConfigWithMetadata) : Prop :=
  (∃ id, ¬Unconflicted (sourcesOf configs id)) → ∀ order, ∃ e, mergeConfigs env order configs = .error e

/-- A merge that succeeds yields the same from the files in any order. -/
def ScanIndependent (env : Environment) (configs : List ConfigWithMetadata) : Prop :=
  ∀ configs', configs'.Perm configs → ∀ order order' loaded,
    mergeConfigs env order configs = .ok loaded →
      ∃ loaded', mergeConfigs env order' configs' = .ok loaded' ∧ loaded'.Same loaded

section

variable {env : Environment} {configs configs' : List ConfigWithMetadata} {switchId : String}

theorem eq_nil_iff_of_perm {α : Type} {l l' : List α} (h : l.Perm l') : l = [] ↔ l' = [] := by
  rw [← List.length_eq_zero_iff, h.length_eq, List.length_eq_zero_iff]

/-- Rearranged configurations are of the same switches. -/
theorem mem_switchIds_perm (hperm : configs'.Perm configs) :
    switchId ∈ switchIds configs' ↔ switchId ∈ switchIds configs := by
  rw [mem_switchIds, mem_switchIds, ne_eq, ne_eq, eq_nil_iff_of_perm (sourcesOf_perm hperm)]

/-- Rearranged configurations list the same ids, rearranged. -/
theorem switchIds_perm (hperm : configs'.Perm configs) :
    (switchIds configs').Perm (switchIds configs) :=
  (List.perm_ext_iff_of_nodup (List.nodup_dedup _) (List.nodup_dedup _)).mpr fun _ =>
    mem_switchIds_perm hperm

/-- Where every switch is settled, the order of the files makes no difference. -/
theorem same_of_settled (hperm : configs'.Perm configs)
    (hsame : ∀ id, SameIdentity (sourcesOf configs id)) (h : ∀ id, Settled id configs)
    {ids ids' : List String} (hids : ids'.Perm ids) :
    (collect (ids'.map (outcomeOf env configs'))).Same (collect (ids.map (outcomeOf env configs))) := by
  have hmerged (id : String) : (mergeSingleSwitch id (sourcesOf configs' id)).switch =
      (mergeSingleSwitch id (sourcesOf configs id)).switch :=
    mergeSingleSwitch_congr ((h id).samePicks (hsame id) hperm)
  have hof : mergedOf env configs' = mergedOf env configs := by
    funext id
    rw [mergedOf, hmerged, mergedOf]
  have haccepts : acceptsMerged env configs' = acceptsMerged env configs := by
    funext id
    rw [acceptsMerged, hmerged, acceptsMerged]
  constructor
  · rw [valid_outcomes, valid_outcomes, hof, haccepts]
    exact (hids.filter _).map _
  · rw [failures_outcomes, failures_outcomes, hof, haccepts]
    exact (hids.filter _).map _

/-- The switches of a load, accepted or not. -/
theorem mem_same {ids ids' : List String}
    (h : (collect (ids'.map (outcomeOf env configs'))).Same
      (collect (ids.map (outcomeOf env configs)))) (hmem : switchId ∈ ids') :
    mergedOf env configs' switchId = mergedOf env configs switchId := by
  have hvalid := h.valid
  have hfailures := h.failures
  rw [valid_outcomes, valid_outcomes] at hvalid
  rw [failures_outcomes, failures_outcomes] at hfailures
  cases haccepts : acceptsMerged env configs' switchId with
  | true =>
    have hin := hvalid.mem_iff.mp (List.mem_map_of_mem (List.mem_filter.mpr ⟨hmem, haccepts⟩))
    obtain ⟨id, -, heq⟩ := List.mem_map.mp hin
    have hid := congrArg SwitchConfig.id heq
    rw [id_mergedOf, id_mergedOf] at hid
    rw [← heq, hid]
  | false =>
    have hreject : (!acceptsMerged env configs' switchId) = true := by simp [haccepts]
    have hin := hfailures.mem_iff.mp
      (List.mem_map_of_mem (f := fun id => (id, some (mergedOf env configs' id)))
        (List.mem_filter.mpr ⟨hmem, hreject⟩))
    obtain ⟨id, -, heq⟩ := List.mem_map.mp hin
    rw [Prod.mk.injEq, Option.some.injEq] at heq
    obtain ⟨rfl, heq⟩ := heq
    exact heq.symm

/-- Where the order of the files does not matter, each switch is merged alike. -/
theorem ScanIndependent.mergedOf_eq (h : ScanIndependent env configs)
    (hsame : ∀ id, SameIdentity (sourcesOf configs id)) (hperm : configs'.Perm configs)
    (hmem : switchId ∈ switchIds configs) :
    mergedOf env configs' switchId = mergedOf env configs switchId := by
  have hne : configs ≠ [] := by
    rintro rfl
    cases hmem
  obtain ⟨loaded', hok, hloaded⟩ := h configs' hperm .inserted .inserted _
    (mergeConfigs_ok_iff.mpr ⟨hne, hsame, rfl⟩)
  obtain ⟨-, -, rfl⟩ := mergeConfigs_ok_iff.mp hok
  exact mem_same hloaded ((mem_switchIds_perm hperm).mpr hmem)

/-- So is each part that the checks leave alone. -/
theorem ScanIndependent.filesAgree {β : Type} {part : SwitchConfig → Option β}
    (h : ScanIndependent env configs) (hsame : ∀ id, SameIdentity (sourcesOf configs id))
    (hpart : ∀ sources, sources ≠ [] →
      picked part sources = part (mergeSingleSwitch switchId sources).switch.frame) :
    FilesAgree part switchId configs := by
  refine picked_perm_iff.mp fun configs' hperm => ?_
  by_cases hmem : switchId ∈ switchIds configs
  · have hmem' := (mem_switchIds_perm hperm).mpr hmem
    rw [hpart _ (mem_switchIds.mp hmem), hpart _ (mem_switchIds.mp hmem'),
      ← frame_mergedOf env, ← frame_mergedOf env,
      h.mergedOf_eq hsame hperm hmem]
  · have hnil : sourcesOf configs switchId = [] := by
      by_contra hne
      exact hmem (mem_switchIds.mpr hne)
    have hnil' : sourcesOf configs' switchId = [] :=
      (eq_nil_iff_of_perm (sourcesOf_perm hperm)).mpr hnil
    rw [hnil, hnil']

/-- The settings are picked from the sources as a whole. -/
theorem picked_settings (switchId : String) {sources : List SwitchSource} (h : sources ≠ []) :
    picked (fun s => some s.settings) sources =
      some (mergeSingleSwitch switchId sources).switch.settings := by
  rw [(mergeSingleSwitch_picks switchId sources).settings]
  obtain ⟨s, hs⟩ := List.exists_mem_of_ne_nil sources h
  cases hpicked : picked (fun s => some s.settings) sources with
  | some settings => rfl
  | none => cases findSome?_byPriority_eq_none.mp hpicked s hs

/-- A load detects every conflict and does not depend on the order of the files exactly if the
sources of some switch give different identity fields, which is reported, or all is settled. -/
theorem detects_iff (env : Environment) (configs : List ConfigWithMetadata) :
    Detects env configs ∧ ScanIndependent env configs ↔
      (∃ id, ¬SameIdentity (sourcesOf configs id)) ∨ ∀ id, Settled id configs := by
  constructor
  · rintro ⟨hdetects, hscan⟩
    by_cases hidentity : ∃ id, ¬SameIdentity (sourcesOf configs id)
    · exact .inl hidentity
    have hsame (id : String) : SameIdentity (sourcesOf configs id) := by
      by_contra hid
      exact hidentity ⟨id, hid⟩
    refine .inr fun id => ?_
    -- the merge accepts, so a conflict would have gone undetected
    have hunconflicted : Unconflicted (sourcesOf configs id) := by
      by_contra hid
      obtain ⟨e, he⟩ := hdetects ⟨id, hid⟩ .inserted
      by_cases hne : configs = []
      · subst hne
        exact hid (settled_nil id).toUnconflicted
      · rw [mergeConfigs_ok_iff.mpr ⟨hne, hsame, rfl⟩] at he
        cases he
    exact
      { hunconflicted with
        credentials := hscan.filesAgree hsame fun sources _ =>
          (mergeSingleSwitch_picks id sources).credentials.symm
        validation := hscan.filesAgree hsame fun sources _ =>
          (mergeSingleSwitch_picks id sources).validation.symm
        settings := hscan.filesAgree hsame fun _ hne => picked_settings id hne }
  · rintro (hidentity | hsettled)
    -- files that disagree on the identity are refused in any order
    · refine ⟨fun _ order => mergeConfigs_error hidentity, ?_⟩
      intro configs' _ order order' loaded hok
      obtain ⟨id, hid⟩ := hidentity
      exact absurd ((mergeConfigs_ok_iff.mp hok).2.1 id) hid
    · refine ⟨?_, ?_⟩
      · rintro ⟨id, hid⟩
        exact absurd (hsettled id).toUnconflicted hid
      · intro configs' hperm order order' loaded hok
        obtain ⟨hne, hsame, rfl⟩ := mergeConfigs_ok_iff.mp hok
        have hne' : configs' ≠ [] := fun h => hne ((eq_nil_iff_of_perm hperm).mp h)
        have hsame' (id : String) : SameIdentity (sourcesOf configs' id) :=
          (hsame id).perm (sourcesOf_perm hperm)
        refine ⟨_, mergeConfigs_ok_iff.mpr ⟨hne', hsame', rfl⟩, ?_⟩
        exact same_of_settled hperm hsame hsettled
          ((order'.perm _).trans ((switchIds_perm hperm).trans (order.perm _).symm))

end

/-- The main file, and two folder files of the same priority that name VLAN 10 differently. -/
def tiedFiles : List ConfigWithMetadata :=
  [{ switches :=
       [{ id := "sw1", hostname := some "office", model := some .aruba2530_24G_POE
          managementIp := some "10.0.0.2", credentials := some { username := "admin" } }]
     mergePriority := 50
     sourceFile := "/etc/switch-configurator/config.yaml"
     sourceType := .mainConfig },
   { switches := [{ id := "sw1", vlans := [{ id := 10, name := "staff" }] }]
     mergePriority := 100
     sourceFile := "/etc/switch-configurator/switches.d/a.yaml"
     sourceType := .folderConfig },
   { switches := [{ id := "sw1", vlans := [{ id := 10, name := "guests" }] }]
     mergePriority := 100
     sourceFile := "/etc/switch-configurator/switches.d/b.yaml"
     sourceType := .folderConfig }]

/-- Two files of one priority, with one VLAN under two names. -/
theorem tiedFiles_sameIdentity (id : String) : SameIdentity (sourcesOf tiedFiles id) := by
  by_cases hid : "sw1" = id
  · subst hid
    have hnone : validateSwitchIdentity "sw1" (sourcesOf tiedFiles "sw1") = [] := by decide
    exact validateSwitchIdentity_eq_nil_iff.mp hnone
  · have hnil : sourcesOf tiedFiles id = [] := by simp [sourcesOf, tiedFiles, hid]
    rw [hnil]
    exact .nil

theorem tiedFiles_disputed :
    ¬FilesAgree (fun s => s.vlans.find? fun v => v.id = 10) "sw1" tiedFiles := by
  intro h
  have hsame := picked_perm_iff.mpr h tiedFiles.reverse (List.reverse_perm tiedFiles)
  revert hsame
  decide

/-- The tie is not reported, and the file that is scanned first decides it. -/
theorem tie_undetected :
    ¬Detects plainEnvironment tiedFiles ∧ ¬ScanIndependent plainEnvironment tiedFiles := by
  constructor
  · intro hdetects
    have hconflict : ¬Unconflicted (sourcesOf tiedFiles "sw1") := fun h =>
      tiedFiles_disputed (picked_perm_iff.mp fun files hperm =>
        (h.vlans 10).picked_eq (sourcesOf_perm hperm))
    obtain ⟨e, he⟩ := hdetects ⟨"sw1", hconflict⟩ .inserted
    have hne : tiedFiles ≠ [] := List.cons_ne_nil _ _
    rw [mergeConfigs_ok_iff.mpr ⟨hne, tiedFiles_sameIdentity, rfl⟩] at he
    cases he
  · intro hscan
    refine tiedFiles_disputed (picked_perm_iff.mp fun files hperm => ?_)
    have hmem : "sw1" ∈ switchIds tiedFiles := by decide
    have hmerged := congrArg (fun s => s.frame.vlans.find? fun v => v.id = 10)
      (hscan.mergedOf_eq tiedFiles_sameIdentity hperm hmem)
    simp only [frame_mergedOf] at hmerged
    rw [← (mergeSingleSwitch_picks "sw1" _).vlans, ← (mergeSingleSwitch_picks "sw1" _).vlans]
    exact hmerged

end SwitchConfigurator
