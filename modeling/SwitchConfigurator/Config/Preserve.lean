import SwitchConfigurator.Config.Merge

/-!
# What a merge keeps

The merged switch part by part, for any priorities: a part is the one of the first source in
the sorted list that has it. `merge_single_switch` starts from a blank switch and copies the
parts it names, so a part that it does not name is lost.
-/

namespace SwitchConfigurator

open Keyed

/-- A list, where it is not empty. -/
def nonempty {α : Type} (l : List α) : Option (List α) := if l.isEmpty then none else some l

def SwitchConfig.communities (switch : SwitchConfig) : Option (List SnmpCommunity) :=
  switch.snmp.bind fun snmp => nonempty snmp.communities

def SwitchConfig.trapReceivers (switch : SwitchConfig) : Option (List SnmpTrapReceiver) :=
  switch.snmp.bind fun snmp => nonempty snmp.trapReceivers

def SwitchConfig.enabledTraps (switch : SwitchConfig) : Option (List TrapType) :=
  switch.snmp.bind fun snmp => nonempty snmp.enabledTraps

def SwitchConfig.reads (switch : SwitchConfig) : Option SnmpReads :=
  switch.snmp.bind SnmpConfig.reads

/-- What the first source in the order of priorities says. -/
def picked {β : Type} (part : SwitchConfig → Option β) (sources : List SwitchSource) : Option β :=
  (byPriority SwitchSource.mergePriority sources).findSome? fun s => part s.switch

/-- The merged switch, part by part. -/
structure SwitchConfig.Picks (merged : SwitchConfig) (switchId : String)
    (sources : List SwitchSource) : Prop where
  id : merged.id = switchId
  hostname : merged.hostname = picked SwitchConfig.hostname sources
  model : merged.model = picked SwitchConfig.model sources
  managementIp : merged.managementIp = picked SwitchConfig.managementIp sources
  credentials : merged.credentials = picked SwitchConfig.credentials sources
  vlans : ∀ k, merged.vlans.find? (fun v => v.id = k) =
    picked (fun s => s.vlans.find? fun v => v.id = k) sources
  ports : ∀ k, merged.ports.find? (fun p => p.portId = k) =
    picked (fun s => s.ports.find? fun p => p.portId = k) sources
  portMirrors : ∀ k, merged.portMirrors.find? (fun m => m.sessionId = k) =
    picked (fun s => s.portMirrors.find? fun m => m.sessionId = k) sources
  snmp : merged.snmp.isSome = sources.any fun s => s.switch.snmp.isSome
  communities : merged.communities = picked SwitchConfig.communities sources
  trapReceivers : merged.trapReceivers = picked SwitchConfig.trapReceivers sources
  enabledTraps : merged.enabledTraps = picked SwitchConfig.enabledTraps sources
  reads : merged.reads = picked SwitchConfig.reads sources
  validation : merged.validation = picked SwitchConfig.validation sources
  settings : merged.settings = (picked (fun s => some s.settings) sources).getD {}
  managementVlan : merged.managementVlan = none
  vendorSpecific : merged.vendorSpecific = []

section

variable {sources : List SwitchSource}

theorem findSome?_eq_find?_elim {σ β : Type} (f : σ → Option β) (l : List σ) :
    l.findSome? f = (l.find? fun s => (f s).isSome).elim none f := by
  induction l with
  | nil => rfl
  | cons s l ih =>
    rw [List.findSome?_cons, List.find?_cons]
    cases hs : f s with
    | some b => simp [hs]
    | none => simpa using ih

/-- A field of the identity is picked in order of priority. -/
theorem picked_identity {β : Type} (field : SwitchConfig → Option β)
    (hstep : ∀ merged config, field (mergeIdentityStep merged config) =
      (field merged).or (field config.switch)) {merged : SwitchConfig}
    (hnone : field merged = none) :
    field ((byPriority SwitchSource.mergePriority sources).foldl mergeIdentityStep merged) =
      picked field sources := by
  rw [foldl_mergeIdentityStep hstep, hnone, Option.none_or, picked, findSome?_eq_find?_elim]

/-- A key is looked up in order of priority. -/
theorem lookup_picked {κ α : Type} [DecidableEq κ] (key : α → κ) (entries : SwitchConfig → List α)
    (k : κ) : (keyedEntries key entries (byPriority SwitchSource.mergePriority sources)).lookup k =
      picked (fun s => (entries s).find? fun a => key a = k) sources := by
  rw [lookup_keyedEntries, picked]
  congr 1
  funext s
  congr 1
  funext a
  rw [beq_eq_decide]
  exact decide_eq_decide.mpr eq_comm

/-- A keyed list is merged key by key. -/
theorem picked_keyed {κ α : Type} [DecidableEq κ] [Ord κ] [Std.TransOrd κ] [Std.LawfulEqOrd κ]
    (key : α → κ) (entries : SwitchConfig → List α) (k : κ) :
    (mergedValues (keyedEntries key entries
      (byPriority SwitchSource.mergePriority sources))).find? (fun a => key a = k) =
        picked (fun s => (entries s).find? fun a => key a = k) sources := by
  rw [find?_mergedValues fun _ => key_of_mem_keyedEntries, lookup_picked]

@[simp] theorem isSome_nonempty {α : Type} (l : List α) : (nonempty l).isSome = !l.isEmpty := by
  cases l <;> rfl

/-- A part of the SNMP merge: `part` is its value with the priority it was taken at. -/
theorem picked_snmp {β γ : Type} (get : SnmpConfig → γ) (given : γ → Option β)
    (part : SnmpMerge → γ × Option ℕ) (hget : ∀ m, (part m).1 = get (m.merged.getD {}))
    (hstart : (part {}).2 = none) (hdefault : given (get {}) = none)
    (hstep : ∀ state config snmp, config.switch.snmp = some snmp →
      part (mergeSnmpStep state config) =
        replaceIfHigher (given (get snmp)).isSome (get snmp) config.mergePriority (part state)) :
    (mergeSnmpConfigs (byPriority SwitchSource.mergePriority sources)).bind
      (fun snmp => given (get snmp)) =
        picked (fun s => s.snmp.bind fun snmp => given (get snmp)) sources := by
  have hpart (state : SnmpMerge) (config : SwitchSource) : part (mergeSnmpStep state config) =
      replaceIfHigher (config.switch.snmp.any fun snmp => (given (get snmp)).isSome)
        (get (config.switch.snmp.getD {})) config.mergePriority (part state) :=
    mergeSnmpStep_part (hstep state config)
  have hfold := foldl_mergeSnmpStep hpart (byPriority SwitchSource.mergePriority sources) {}
  have hempty : part {} = (get {}, none) := Prod.ext (hget {}) hstart
  rw [hempty] at hfold
  have hvalue := congrArg Prod.fst hfold
  rw [foldl_replaceIfHigher (pairwise_byPriority sources), hget] at hvalue
  rw [mergeSnmpConfigs, picked, findSome?_eq_find?_elim]
  generalize (byPriority SwitchSource.mergePriority sources).foldl mergeSnmpStep {} = m at hvalue
  have hfind : (fun config : SwitchSource =>
      (config.switch.snmp.bind fun snmp => given (get snmp)).isSome) =
        fun config => config.switch.snmp.any fun snmp => (given (get snmp)).isSome := by
    funext config
    cases config.switch.snmp <;> rfl
  rw [hfind]
  cases hs : (byPriority SwitchSource.mergePriority sources).find? fun config =>
      config.switch.snmp.any fun snmp => (given (get snmp)).isSome with
  | none =>
    -- nobody has it, so it is still the one of the empty configuration
    have hnone : get (m.merged.getD {}) = get {} := by simpa [hs] using hvalue
    cases hm : m.merged with
    | none => rfl
    | some snmp =>
      have hsnmp : get snmp = get {} := by simpa [hm] using hnone
      simp [hsnmp, hdefault]
  | some s =>
    have hany := List.find?_some hs
    obtain ⟨snmp, hsnmp⟩ : ∃ snmp, s.switch.snmp = some snmp := by
      cases hsnmp : s.switch.snmp with
      | none => simp [hsnmp] at hany
      | some snmp => exact ⟨snmp, rfl⟩
    have hset : (given (get snmp)).isSome = true := by simpa [hsnmp] using hany
    have htaken : get (m.merged.getD {}) = get snmp := by simpa [hs, hsnmp] using hvalue
    cases hm : m.merged with
    | none =>
      have hget' : get {} = get snmp := by simpa [hm] using htaken
      rw [← hget', hdefault] at hset
      cases hset
    | some snmp' =>
      have hget' : get snmp' = get snmp := by simpa [hm] using htaken
      simp [hsnmp, hget']

/-- All parts of a merge are picked in order of priority. -/
theorem mergeSingleSwitch_picks (switchId : String) (sources : List SwitchSource) :
    (mergeSingleSwitch switchId sources).switch.Picks switchId sources where
  id := by
    -- the fold starts with this id and no step changes it
    have hid (configs : List SwitchSource) (merged : SwitchConfig) :
        (configs.foldl mergeIdentityStep merged).id = merged.id := by
      induction configs generalizing merged with
      | nil => rfl
      | cons config configs ih => exact ih _
    exact hid _ _
  hostname := picked_identity SwitchConfig.hostname (fun _ _ => rfl) rfl
  model := picked_identity SwitchConfig.model (fun _ _ => rfl) rfl
  managementIp := picked_identity SwitchConfig.managementIp (fun _ _ => rfl) rfl
  credentials := picked_identity SwitchConfig.credentials (fun _ _ => rfl) rfl
  vlans := picked_keyed Vlan.id SwitchConfig.vlans
  ports := picked_keyed Port.portId SwitchConfig.ports
  portMirrors := picked_keyed PortMirror.sessionId SwitchConfig.portMirrors
  snmp := by
    -- there is an SNMP section as soon as one definition has one
    have h := isSome_foldl_mergeSnmpStep (byPriority SwitchSource.mergePriority sources) {}
    rw [(perm_byPriority sources).any_eq] at h
    exact h
  communities := picked_snmp SnmpConfig.communities nonempty
    (fun m => ((m.merged.getD {}).communities, m.communitiesPriority)) (fun _ => rfl) rfl rfl
    (fun _ _ _ hs => by simp [mergeSnmpStep, hs])
  trapReceivers := picked_snmp SnmpConfig.trapReceivers nonempty
    (fun m => ((m.merged.getD {}).trapReceivers, m.trapReceiversPriority)) (fun _ => rfl) rfl rfl
    (fun _ _ _ hs => by simp [mergeSnmpStep, hs])
  enabledTraps := picked_snmp SnmpConfig.enabledTraps nonempty
    (fun m => ((m.merged.getD {}).enabledTraps, m.enabledTrapsPriority)) (fun _ => rfl) rfl rfl
    (fun _ _ _ hs => by simp [mergeSnmpStep, hs])
  reads := picked_snmp SnmpConfig.reads (fun reads => reads)
    (fun m : SnmpMerge => ((m.merged.getD {}).reads, m.readsPriority)) (fun _ => rfl) rfl rfl
    (fun _ _ _ hs => by simp [mergeSnmpStep, hs])
  validation := rfl
  settings := by
    show ((byPriority SwitchSource.mergePriority sources).head?.map _).getD ({} : Settings) = _
    rw [picked]
    cases byPriority SwitchSource.mergePriority sources <;> rfl
  managementVlan := by
    have hnone (configs : List SwitchSource) (merged : SwitchConfig) :
        (configs.foldl mergeIdentityStep merged).managementVlan = merged.managementVlan := by
      induction configs generalizing merged with
      | nil => rfl
      | cons config configs ih => exact ih _
    exact hnone _ _
  vendorSpecific := by
    have hnone (configs : List SwitchSource) (merged : SwitchConfig) :
        (configs.foldl mergeIdentityStep merged).vendorSpecific = merged.vendorSpecific := by
      induction configs generalizing merged with
      | nil => rfl
      | cons config configs ih => exact ih _
    exact hnone _ _

end

/-- A source as its file has it: whether the file gives `settings` is forgotten by the parser,
which fills in the defaults. -/
structure GivenSource where
  source : SwitchSource
  settingsGiven : Bool
  default : settingsGiven = false → source.switch.settings = {}

/-- The settings, where the file gives them. -/
def GivenSource.settings (s : GivenSource) : Option Settings :=
  if s.settingsGiven then some s.source.switch.settings else none

/-- A part that some source has is the one of a source of the highest priority among those. -/
def Kept {β : Type} (part : GivenSource → Option β) (sources : List GivenSource)
    (merged : Option β) : Prop :=
  (∃ s ∈ sources, (part s).isSome = true) →
    ∃ s, IsHighest (·.source.mergePriority) (fun s => (part s).isSome = true) sources s ∧
      merged = part s

/-- The same switch, with its lists in any order. -/
structure SameUpToOrder (a b : SwitchConfig) : Prop where
  vlans : a.vlans.Perm b.vlans
  ports : a.ports.Perm b.ports
  portMirrors : a.portMirrors.Perm b.portMirrors
  rest : { a with vlans := [], ports := [], portMirrors := [] } =
    { b with vlans := [], ports := [], portMirrors := [] }

/-- No setting of the sources is lost in the merged switch. -/
structure NothingLost (sources : List GivenSource) (merged : SwitchConfig) : Prop where
  hostname : Kept (·.source.switch.hostname) sources merged.hostname
  model : Kept (·.source.switch.model) sources merged.model
  managementIp : Kept (·.source.switch.managementIp) sources merged.managementIp
  credentials : Kept (·.source.switch.credentials) sources merged.credentials
  vlans : ∀ k, Kept (fun s => s.source.switch.vlans.find? fun v => v.id = k) sources
    (merged.vlans.find? fun v => v.id = k)
  ports : ∀ k, Kept (fun s => s.source.switch.ports.find? fun p => p.portId = k) sources
    (merged.ports.find? fun p => p.portId = k)
  portMirrors : ∀ k, Kept (fun s => s.source.switch.portMirrors.find? fun m => m.sessionId = k)
    sources (merged.portMirrors.find? fun m => m.sessionId = k)
  snmp : (∃ s ∈ sources, s.source.switch.snmp.isSome = true) → merged.snmp.isSome = true
  communities : Kept (·.source.switch.communities) sources merged.communities
  trapReceivers : Kept (·.source.switch.trapReceivers) sources merged.trapReceivers
  enabledTraps : Kept (·.source.switch.enabledTraps) sources merged.enabledTraps
  reads : Kept (·.source.switch.reads) sources merged.reads
  validation : Kept (·.source.switch.validation) sources merged.validation
  vendorSpecific : Kept (fun s => nonempty s.source.switch.vendorSpecific) sources
    (nonempty merged.vendorSpecific)
  managementVlan : Kept (·.source.switch.managementVlan) sources merged.managementVlan
  settings : Kept GivenSource.settings sources (some merged.settings)
  single : ∀ s, sources = [s] → SameUpToOrder merged s.source.switch

/-- What `merge_single_switch` can keep. -/
structure Mergeable (sources : List GivenSource) : Prop where
  managementVlan : ∀ s ∈ sources, s.source.switch.managementVlan = none
  vendorSpecific : ∀ s ∈ sources, s.source.switch.vendorSpecific = []
  /-- The first source in the order of priorities gives `settings`, if any does; or the one whose
  settings count gives the defaults. -/
  settings : ∀ s ∈ (byPriority (·.source.mergePriority) sources).head?, s.settingsGiven = true ∨
    (∀ t ∈ sources, t.settingsGiven = false) ∨
      ∃ t, IsHighest (·.source.mergePriority) (fun t => t.settingsGiven = true) sources t ∧
        t.source.switch.settings = {}
  /-- The entries of a source that is alone have keys of their own. -/
  single : ∀ s, sources = [s] → (s.source.switch.vlans.map Vlan.id).Nodup ∧
    (s.source.switch.ports.map Port.portId).Nodup ∧
      (s.source.switch.portMirrors.map PortMirror.sessionId).Nodup

section

variable {sources : List GivenSource} {merged : SwitchConfig}

theorem byPriority_map_source :
    byPriority SwitchSource.mergePriority (sources.map GivenSource.source) =
      (byPriority (·.source.mergePriority) sources).map GivenSource.source := by
  rw [byPriority, byPriority]
  exact (List.map_insertionSort _ _ GivenSource.source sources fun _ _ _ _ => Iff.rfl).symm

/-- What is picked does not look at where the sources are from. -/
theorem picked_given {β : Type} (part : SwitchConfig → Option β) :
    picked part (sources.map GivenSource.source) =
      (byPriority (·.source.mergePriority) sources).findSome? fun s => part s.source.switch := by
  rw [picked, byPriority_map_source, List.findSome?_map]
  rfl

/-- What is picked is some source's own. -/
theorem kept_picked {β : Type} (part : SwitchConfig → Option β) :
    Kept (fun s => part s.source.switch) sources
      (picked part (sources.map GivenSource.source)) := by
  rintro ⟨s, hs, hpart⟩
  rw [picked_given]
  cases hpicked : (byPriority (·.source.mergePriority) sources).findSome?
      fun s => part s.source.switch with
  | none =>
    have hnone := findSome?_byPriority_eq_none.mp hpicked s hs
    cases (congrArg Option.isSome hnone).symm.trans hpart
  | some b =>
    obtain ⟨t, ht, hb⟩ := isHighest_of_findSome? hpicked
    exact ⟨t, ht, hb.symm⟩

/-- A part that is never merged is kept where no source has it. -/
theorem kept_none_iff {β : Type} {part : GivenSource → Option β} :
    Kept part sources none ↔ ∀ s ∈ sources, part s = none := by
  constructor
  · intro hkept s hs
    by_contra hne
    obtain ⟨t, ht, hnone⟩ := hkept ⟨s, hs, Option.isSome_iff_ne_none.mpr hne⟩
    have hsome := ht.holds
    rw [← hnone] at hsome
    cases hsome
  · rintro hnone ⟨s, hs, hpart⟩
    rw [hnone s hs] at hpart
    cases hpart

/-- The settings are those of the first source, given or not. -/
theorem kept_settings_iff :
    Kept GivenSource.settings sources
      (some ((picked (fun s => some s.settings) (sources.map GivenSource.source)).getD {})) ↔
      ∀ s ∈ (byPriority (·.source.mergePriority) sources).head?, s.settingsGiven = true ∨
        (∀ t ∈ sources, t.settingsGiven = false) ∨
          ∃ t, IsHighest (·.source.mergePriority) (fun t => t.settingsGiven = true) sources t ∧
            t.source.switch.settings = {} := by
  have hisSome (s : GivenSource) : s.settings.isSome = s.settingsGiven := by
    cases h : s.settingsGiven <;> simp [GivenSource.settings, h]
  have hgiven {s : GivenSource} (h : s.settingsGiven = true) :
      s.settings = some s.source.switch.settings := if_pos h
  -- the first definition in the order of priority decides, whether it gives settings or not
  simp only [Kept, hisSome, picked_given]
  cases hsorted : byPriority (·.source.mergePriority) sources with
  | nil =>
    have hnil : sources = [] := by
      have hperm : (byPriority (·.source.mergePriority) sources).Perm sources :=
        perm_byPriority sources
      rw [hsorted] at hperm
      exact hperm.nil_eq.symm
    simp [hnil]
  | cons first rest =>
    have hfirst : first ∈ sources := mem_byPriority.mp (hsorted ▸ List.mem_cons_self)
    have hleast : ∀ t ∈ sources, first.source.mergePriority ≤ t.source.mergePriority := by
      intro t ht
      have hpair : (byPriority (·.source.mergePriority) sources).Pairwise fun s t =>
          s.source.mergePriority ≤ t.source.mergePriority := pairwise_byPriority sources
      rw [hsorted] at hpair
      have hmem : t ∈ first :: rest := hsorted ▸ mem_byPriority.mpr ht
      rcases List.mem_cons.mp hmem with rfl | hmem
      · exact le_refl _
      · exact (List.pairwise_cons.mp hpair).1 t hmem
    simp only [List.findSome?_cons, Option.getD_some, List.head?_cons, Option.mem_def,
      Option.some.injEq, forall_eq']
    cases hset : first.settingsGiven with
    | true =>
      -- the first gives its settings: they are the ones of highest priority
      have hhighest : IsHighest (·.source.mergePriority) (fun t : GivenSource =>
          t.settingsGiven = true) sources first := ⟨hfirst, hset, fun t ht _ => hleast t ht⟩
      simp only [true_or, iff_true]
      exact fun _ => ⟨first, hhighest, (hgiven hset).symm⟩
    | false =>
      rw [first.default hset]
      constructor
      · intro hkept
        by_cases hany : ∃ t ∈ sources, t.settingsGiven = true
        · obtain ⟨t, ht, heq⟩ := hkept hany
          rw [hgiven ht.holds] at heq
          exact .inr (.inr ⟨t, ht, (Option.some.inj heq).symm⟩)
        · right
          left
          intro t ht
          rw [Bool.eq_false_iff]
          exact fun h => hany ⟨t, ht, h⟩
      -- the first gives none, so the defaults are taken: some are lost unless they are the same
      · rintro (h | hnone | ⟨t, ht, hdefault⟩) hany
        · cases h
        · obtain ⟨t, ht, htrue⟩ := hany
          cases (hnone t ht).symm.trans htrue
        · exact ⟨t, ht, by rw [hgiven ht.holds, hdefault]⟩

/-- One source alone keeps its SNMP. -/
theorem mergeSnmpConfigs_singleton (s : SwitchSource) : mergeSnmpConfigs [s] = s.switch.snmp := by
  cases hs : s.switch.snmp with
  | none => simp [mergeSnmpConfigs, mergeSnmpStep, hs]
  | some snmp =>
    obtain ⟨communities, trapReceivers, enabledTraps, reads⟩ := snmp
    cases communities <;> cases trapReceivers <;> cases enabledTraps <;> cases reads <;>
      simp [mergeSnmpConfigs, mergeSnmpStep, replaceIfHigher, hs]

/-- The merge of a source that is alone. -/
theorem mergeSingleSwitch_singleton (s : SwitchSource) : (mergeSingleSwitch s.switch.id [s]).switch =
    { s.switch with
      vlans := mergedValues (s.switch.vlans.map fun v => (v.id, v))
      ports := mergedValues (s.switch.ports.map fun p => (p.portId, p))
      portMirrors := mergedValues (s.switch.portMirrors.map fun m => (m.sessionId, m))
      managementVlan := none
      vendorSpecific := [] } := by
  have hsnmp := mergeSnmpConfigs_singleton s
  simp [mergeSingleSwitch, byPriority, mergeIdentityStep, keyedEntries, hsnmp]

/-- What becomes of a source that is alone. -/
theorem sameUpToOrder_singleton_iff (s : SwitchSource) :
    SameUpToOrder (mergeSingleSwitch s.switch.id [s]).switch s.switch ↔
      s.switch.managementVlan = none ∧ s.switch.vendorSpecific = [] ∧
        (s.switch.vlans.map Vlan.id).Nodup ∧ (s.switch.ports.map Port.portId).Nodup ∧
          (s.switch.portMirrors.map PortMirror.sessionId).Nodup := by
  have hmerged := mergeSingleSwitch_singleton s
  constructor
  · intro h
    rw [hmerged] at h
    have hrest := h.rest
    simp only [SwitchConfig.mk.injEq] at hrest
    exact ⟨hrest.2.2.2.2.2.2.2.2.2.1.symm, hrest.2.2.2.2.2.2.2.2.2.2.2.1.symm,
      mergedValues_perm_iff.mp h.vlans, mergedValues_perm_iff.mp h.ports,
      mergedValues_perm_iff.mp h.portMirrors⟩
  · rintro ⟨hmanagement, hspecific, hvlans, hports, hmirrors⟩
    rw [hmerged]
    refine ⟨mergedValues_perm_iff.mpr hvlans, mergedValues_perm_iff.mpr hports,
      mergedValues_perm_iff.mpr hmirrors, ?_⟩
    rw [← hmanagement, ← hspecific]

/-- A merge loses nothing exactly if no source sets a management VLAN or vendor-specific values,
the settings that count are those of the first source, and a source that is alone has no two
entries with one key. -/
theorem nothing_lost_iff {switchId : String} {sources : List GivenSource}
    (hid : ∀ s ∈ sources, s.source.switch.id = switchId) :
    NothingLost sources (mergeSingleSwitch switchId (sources.map GivenSource.source)).switch ↔
      Mergeable sources := by
  have hpicks := mergeSingleSwitch_picks switchId (sources.map GivenSource.source)
  have hsingle : (∀ s, sources = [s] → SameUpToOrder
      (mergeSingleSwitch switchId (sources.map GivenSource.source)).switch s.source.switch) ↔
        ∀ s, sources = [s] → s.source.switch.managementVlan = none ∧
          s.source.switch.vendorSpecific = [] ∧ (s.source.switch.vlans.map Vlan.id).Nodup ∧
            (s.source.switch.ports.map Port.portId).Nodup ∧
              (s.source.switch.portMirrors.map PortMirror.sessionId).Nodup := by
    refine forall₂_congr fun s hs => ?_
    subst hs
    rw [← hid s List.mem_cons_self]
    exact sameUpToOrder_singleton_iff s.source
  -- the merge starts from an empty table of vendor settings and never fills it
  have hspecific : Kept (fun s => nonempty s.source.switch.vendorSpecific) sources
      (nonempty ([] : List (String × String))) ↔
        ∀ s ∈ sources, s.source.switch.vendorSpecific = [] := by
    have hempty : nonempty ([] : List (String × String)) = none := rfl
    rw [hempty, kept_none_iff]
    refine forall₂_congr fun s _ => ?_
    cases s.source.switch.vendorSpecific <;> simp [nonempty]
  constructor
  · intro h
    refine ⟨?_, ?_, ?_, fun s hs => (hsingle.mp h.single s hs).2.2⟩
    -- the merge drops these two, so they are kept where none were given
    · have hkept := h.managementVlan
      rw [hpicks.managementVlan] at hkept
      exact kept_none_iff.mp hkept
    · have hkept := h.vendorSpecific
      rw [hpicks.vendorSpecific] at hkept
      exact hspecific.mp hkept
    · have hkept := h.settings
      rw [hpicks.settings] at hkept
      exact kept_settings_iff.mp hkept
  · intro h
    refine
      { hostname := ?_, model := ?_, managementIp := ?_, credentials := ?_
        vlans := fun k => ?_, ports := fun k => ?_, portMirrors := fun k => ?_
        snmp := ?_, communities := ?_, trapReceivers := ?_, enabledTraps := ?_, reads := ?_
        validation := ?_, vendorSpecific := ?_, managementVlan := ?_, settings := ?_
        single := hsingle.mpr fun s hs => ?_ }
    -- the rest is picked from the sources, and what is picked is kept
    · exact hpicks.hostname ▸ kept_picked _
    · exact hpicks.model ▸ kept_picked _
    · exact hpicks.managementIp ▸ kept_picked _
    · exact hpicks.credentials ▸ kept_picked _
    · exact hpicks.vlans k ▸ kept_picked fun s => s.vlans.find? fun v => v.id = k
    · exact hpicks.ports k ▸ kept_picked fun s => s.ports.find? fun p => p.portId = k
    · exact hpicks.portMirrors k ▸ kept_picked fun s => s.portMirrors.find? fun m => m.sessionId = k
    · rintro ⟨s, hs, hsnmp⟩
      rw [hpicks.snmp, List.any_eq_true]
      exact ⟨s.source, List.mem_map_of_mem hs, hsnmp⟩
    · exact hpicks.communities ▸ kept_picked _
    · exact hpicks.trapReceivers ▸ kept_picked _
    · exact hpicks.enabledTraps ▸ kept_picked _
    · exact hpicks.reads ▸ kept_picked _
    · exact hpicks.validation ▸ kept_picked _
    · rw [hpicks.vendorSpecific]
      exact hspecific.mpr h.vendorSpecific
    · rw [hpicks.managementVlan]
      exact kept_none_iff.mpr h.managementVlan
    · rw [hpicks.settings]
      exact kept_settings_iff.mpr h.settings
    · have hmem : s ∈ sources := hs ▸ List.mem_cons_self
      exact ⟨h.managementVlan s hmem, h.vendorSpecific s hmem, h.single s hs⟩

end

/-- The main file gives settings, and a folder file adds a VLAN. -/
def settingsSources : List GivenSource :=
  [{ source :=
      { switch := { id := "sw1", hostname := some "office", settings := { maxRetries := 5 } }
        mergePriority := 50
        sourceFile := "/etc/switch-configurator/config.yaml" }
     settingsGiven := true
     default := nofun },
   { source :=
      { switch := { id := "sw1", vlans := [{ id := 10, name := "staff" }] }
        mergePriority := 100
        sourceFile := "/etc/switch-configurator/switches.d/staff.yaml" }
     settingsGiven := false
     default := fun _ => rfl }]

/-- Two sources with different settings. -/
theorem nothing_lost_iff_settings :
    NothingLost settingsSources
      (mergeSingleSwitch "sw1" (settingsSources.map GivenSource.source)).switch :=
  (nothing_lost_iff (by decide)).mpr
    { managementVlan := by decide
      vendorSpecific := by decide
      settings := by
        intro s hs
        have hfirst : (byPriority (·.source.mergePriority) settingsSources).head? =
            settingsSources.head? := rfl
        rw [hfirst] at hs
        cases hs
        exact .inl rfl
      single := by
        intro s hs
        have hlength := congrArg List.length hs
        cases hlength }

/-- A single file that sets the management VLAN. -/
def managementSource : GivenSource where
  source :=
    { switch := { id := "sw1", managementVlan := some 10 }
      mergePriority := 50
      sourceFile := "/etc/switch-configurator/config.yaml" }
  settingsGiven := false
  default _ := rfl

theorem management_vlan_lost :
    ¬NothingLost [managementSource] (mergeSingleSwitch "sw1" [managementSource.source]).switch := by
  intro h
  obtain ⟨s, hs, hmerged⟩ := h.managementVlan ⟨managementSource, List.mem_cons_self, rfl⟩
  have hsome := hs.holds
  rw [← hmerged, (mergeSingleSwitch_picks _ _).managementVlan] at hsome
  cases hsome

end SwitchConfigurator
