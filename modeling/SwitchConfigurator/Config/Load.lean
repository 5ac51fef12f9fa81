import SwitchConfigurator.Config.Merge
import SwitchConfigurator.Config.Validate
import SwitchConfigurator.Foundations.RelatedLists

/-!
# Loading configuration files

`load`, `load_with_metadata`, `load_multi` and `merge_configs` of `config.rs`, from the point
where a file has been read and parsed. Log lines are left out.
-/

namespace SwitchConfigurator

open Keyed RelatedLists

inductive ConfigSourceType where
  | mainConfig
  | folderConfig
  deriving DecidableEq, Repr

def ConfigSourceType.defaultPriority : ConfigSourceType → ℕ
  | mainConfig => 50
  | folderConfig => 100

/-- An `AppConfigFile`, with its path. -/
structure ConfigFile where
  switches : List SwitchConfig
  mergePriority : Option ℕ := none
  sourceFile : String
  deriving DecidableEq, Repr

structure ConfigWithMetadata where
  switches : List SwitchConfig
  /-- 0 is the highest priority. -/
  mergePriority : ℕ
  sourceFile : String
  sourceType : ConfigSourceType
  deriving DecidableEq, Repr

/-- A switch that is left out of a load, and why. -/
structure SwitchValidationFailure where
  switchId : String
  hostname : Option String
  error : String
  configSources : List String
  preview : Option SwitchConfig
  vlanSources : Std.TreeMap ℕ String
  portSources : Std.TreeMap String String

/-- An `AppConfig` and the failures that are returned with it. -/
structure Loaded where
  valid : List SwitchConfig
  failures : List SwitchValidationFailure

/-- The order in which a `HashMap` with string keys yields them. -/
structure MapOrder where
  keys : List String → List String
  perm : ∀ l, (keys l).Perm l

/-- A map that yields its keys in the order they were inserted. -/
def MapOrder.inserted : MapOrder := ⟨fun l => l, fun _ => .refl _⟩

/-- `e.to_string()`: the outermost message. -/
def Error.display (e : Error) : String := e.headD ""

/-- `format!("{:#}", e)`. -/
def Error.alternate (e : Error) : String := ": ".intercalate e

/-- The `Debug` form of a path, whose characters can all be printed. -/
def debugPath (path : String) : String := "\"" ++ path ++ "\""

/-! ## One file -/

def validationFailure (switch : SwitchConfig) (error : String) : SwitchValidationFailure :=
  { switchId := switch.id
    hostname := switch.hostname
    error
    configSources := []
    preview := some switch
    vlanSources := ∅
    portSources := ∅ }

/-- What becomes of one switch of a single file. -/
def validateOne (env : Environment) (switch : SwitchConfig) :
    Except SwitchValidationFailure SwitchConfig :=
  match validateSwitchConfig env switch with
  | (switch, .ok _) => .ok switch
  | (switch, .error e) => .error (validationFailure switch e.display)

/-- The outcomes of the switches, in two lists. -/
def collect (outcomes : List (Except SwitchValidationFailure SwitchConfig)) : Loaded :=
  { valid := outcomes.filterMap fun o => match o with
      | .ok switch => some switch
      | .error _ => none
    failures := outcomes.filterMap fun o => match o with
      | .ok _ => none
      | .error failure => some failure }

def validateAllSwitches (env : Environment) (switches : List SwitchConfig) : Loaded :=
  collect (switches.map (validateOne env))

/-- `AppConfig::load`. -/
def load (env : Environment) (file : ConfigFile) : Loaded := validateAllSwitches env file.switches

/-! ## Several files -/

def checkStructure (env : Environment) (switch : SwitchConfig) : Except Error Unit :=
  withContext s!"Invalid configuration for switch id: {switch.id}" (validateStructure env switch)

def loadWithMetadata (env : Environment) (file : ConfigFile) (sourceType : ConfigSourceType) :
    Except Error ConfigWithMetadata := do
  let switches ← file.switches.mapM expandPortRanges
  switches.forM (checkStructure env)
  let mergePriority := file.mergePriority.getD sourceType.defaultPriority
  if sourceType = .folderConfig ∧ mergePriority < 11 then
    .error [s!"Folder config {debugPath file.sourceFile} has priority {mergePriority} but folder configs must use priority 11-9999 (0-10 reserved for main config)"]
  else .ok { switches, mergePriority, sourceFile := file.sourceFile, sourceType }

/-- The YAML files of a folder, in the order of their names. -/
def scanConfigFolder (env : Environment) (files : List ConfigFile) :
    Except Error (List ConfigWithMetadata) :=
  files.mapM fun file =>
    withContext s!"Failed to load folder config: {debugPath file.sourceFile}"
      (loadWithMetadata env file .folderConfig)

/-- What a file provides to a switch, as `SwitchMergeTracker::add_source` records it. -/
def SwitchSource.contribution (source : SwitchSource) : ConfigSource :=
  let switch := source.switch
  { filePath := source.sourceFile
    priority := source.mergePriority
    providesFields :=
      (if switch.hostname.isSome then ["hostname"] else [])
        ++ (if switch.model.isSome then ["model"] else [])
        ++ (if switch.managementIp.isSome then ["management_ip"] else [])
        ++ (if switch.credentials.isSome then ["credentials"] else [])
        ++ (if switch.vlans.isEmpty then [] else [s!"vlans({switch.vlans.length})"])
        ++ (if switch.ports.isEmpty then [] else [s!"ports({switch.ports.length})"])
        ++ (if switch.portMirrors.isEmpty then [] else [s!"mirrors({switch.portMirrors.length})"])
        ++ (if switch.snmp.isSome then ["snmp"] else []) }

structure MergeConflict where
  switchId : String
  componentType : String
  componentId : String
  conflictingSources : List (String × ℕ)
  description : String
  deriving DecidableEq, Repr

/-- The first source that gives a field, and what it gives. -/
def referenceSource {β : Type} (field : SwitchConfig → Option β) (configs : List SwitchSource) :
    Option (β × SwitchSource) :=
  configs.findSome? fun config => (field config.switch).map (·, config)

/-- Does the source disagree with the first one that gives the field? -/
def identityConflict {β : Type} [DecidableEq β] (switchId componentId label : String)
    (field : SwitchConfig → Option β) (text : β → String) (configs : List SwitchSource)
    (config : SwitchSource) : List MergeConflict :=
  match field config.switch, referenceSource field configs with
  | some value, some (ref, source) =>
    if value ≠ ref then
      [{ switchId
         componentType := "identity"
         componentId
         conflictingSources := [(source.sourceFile, source.mergePriority),
           (config.sourceFile, config.mergePriority)]
         description := s!"{label} mismatch: '{text ref}' vs '{text value}'" }]
    else []
  | _, _ => []

def validateSwitchIdentity (switchId : String) (configs : List SwitchSource) :
    List MergeConflict :=
  configs.flatMap fun config =>
    identityConflict switchId "hostname" "Hostname" SwitchConfig.hostname (fun s => s) configs config
      ++ identityConflict switchId "management_ip" "Management IP" SwitchConfig.managementIp
        (fun s => s) configs config
      ++ identityConflict switchId "model" "Model" SwitchConfig.model SwitchModel.debug configs config

def conflictReport (conflicts : List MergeConflict) : String :=
  s!"Found {conflicts.length} merge conflicts:\n" ++ String.join (conflicts.map fun conflict =>
    s!"\n  Switch '{conflict.switchId}' - {conflict.componentType}.{conflict.componentId}: {conflict.description}\n"
      ++ "    Conflicting sources:\n"
      ++ String.join (conflict.conflictingSources.map fun source =>
        s!"      - {debugPath (fileName source.1)} (priority: {source.2})\n"))

/-- The switches of all files, in the order the loop visits them. -/
def switchIds (configs : List ConfigWithMetadata) : List String :=
  (configs.flatMap fun config => config.switches.map SwitchConfig.id).dedup

/-- What all files say of one switch: an entry of `switches_by_id`. -/
def sourcesOf (configs : List ConfigWithMetadata) (switchId : String) : List SwitchSource :=
  configs.flatMap fun config =>
    (config.switches.filter fun switch => switch.id = switchId).map fun switch =>
      { switch, mergePriority := config.mergePriority, sourceFile := config.sourceFile }

def validateHasVlans (switch : SwitchConfig) : Except Error Unit :=
  if switch.vlans.isEmpty then
    .error [s!"Switch '{switch.displayName}' (id: {switch.id}) has no VLANs defined after merging all configuration sources. At least one VLAN is required. Please ensure at least one config file provides VLANs for this switch."]
  else .ok ()

/-- The message for VLANs that cannot be resolved; it names the files of a name collision. -/
def vlanErrorMessage (vlanSources : Std.TreeMap ℕ String) (switch : SwitchConfig) (e : Error) :
    String :=
  match findAmbiguousVlanName switch.vlans with
  | some (name, id1, id2) =>
    let fileFor (id : ℕ) := (vlanSources[id]?.map fileName).getD "an unknown file"
    s!"Switch '{switch.displayName}': VLAN name '{name}' is ambiguous — VLAN {id1} (from {fileFor id1}) and VLAN {id2} (from {fileFor id2}). VLAN names referenced by ports must be unique."
  | none => e.display

/-- The checks of `merge_configs` on a merged switch: how far they get, and the message of the
one that fails. -/
def checkMerged (env : Environment) (contributions : List ConfigSource)
    (vlanSources : Std.TreeMap ℕ String) (switch : SwitchConfig) :
    SwitchConfig × Except String Unit :=
  let missingFields := getMissingRequiredFields switch
  if !missingFields.isEmpty then
    (switch, .error (SwitchValidationError.formatLogMessage
      { switchId := switch.id, missingFields, contributingSources := contributions }))
  else
    match (resolveSnmpSecrets env).andThen (InPlace.check checkVendorSupport) switch with
    | (switch, .error e) => (switch, .error e.alternate)
    | (switch, .ok _) =>
      match (resolveVlanNames false).andThen (validateVlanReferences env) switch with
      | (switch, .error e) => (switch, .error (vlanErrorMessage vlanSources switch e))
      | (switch, .ok _) =>
        match validateHasVlans switch with
        | .error e => (switch, .error e.display)
        | .ok _ => (switch, .ok ())

/-- What becomes of one switch after its merge. -/
def postMerge (env : Environment) (sources : List SwitchSource) (merged : MergedSwitch) :
    Except SwitchValidationFailure SwitchConfig :=
  match checkMerged env (sources.map SwitchSource.contribution) merged.vlanSources merged.switch with
  | (switch, .ok _) => .ok switch
  | (switch, .error error) =>
    .error
      { switchId := switch.id
        hostname := switch.hostname
        error
        configSources := sources.map SwitchSource.sourceFile
        preview := some switch
        vlanSources := merged.vlanSources
        portSources := merged.portSources }

/-- `merge_configs`. The merge of one switch does not fail. -/
def mergeConfigs (env : Environment) (order : MapOrder) (configs : List ConfigWithMetadata) :
    Except Error Loaded :=
  if configs.isEmpty then .error ["No configurations to merge"]
  else
    let ids := order.keys (switchIds configs)
    let conflicts := ids.flatMap fun id => validateSwitchIdentity id (sourcesOf configs id)
    if conflicts.isEmpty then
      .ok (collect (ids.map fun id =>
        postMerge env (sourcesOf configs id) (mergeSingleSwitch id (sourcesOf configs id))))
    else .error [conflictReport conflicts]

/-- `AppConfig::load_multi`. -/
def loadMulti (env : Environment) (order : MapOrder) (main : ConfigFile)
    (folders : List (List ConfigFile)) : Except Error Loaded := do
  let mainConfig ← loadWithMetadata env main .mainConfig
  let folderConfigs ← folders.mapM (scanConfigFolder env)
  mergeConfigs env order
    (byPriority ConfigWithMetadata.mergePriority (mainConfig :: folderConfigs.flatten))

/-! ## Identity fields -/

/-- The sources that give the field give the same. -/
def Agree {β : Type} (field : SwitchConfig → Option β) (sources : List SwitchSource) : Prop :=
  ∀ s ∈ sources, ∀ t ∈ sources, ∀ a ∈ field s.switch, ∀ b ∈ field t.switch, a = b

structure SameIdentity (sources : List SwitchSource) : Prop where
  hostname : Agree SwitchConfig.hostname sources
  managementIp : Agree SwitchConfig.managementIp sources
  model : Agree SwitchConfig.model sources

section

variable {sources sources' : List SwitchSource} {switchId : String}

/-- No conflict is reported exactly if all sources agree. -/
theorem identityConflict_eq_nil_iff {β : Type} [DecidableEq β] {componentId label : String}
    {field : SwitchConfig → Option β} {text : β → String} :
    (∀ s ∈ sources, identityConflict switchId componentId label field text sources s = []) ↔
      Agree field sources := by
  have href : ∀ r, referenceSource field sources = some r → field r.2.switch = some r.1 ∧
      r.2 ∈ sources := by
    intro r hr
    obtain ⟨_, s, _, rfl, hs, _⟩ := List.findSome?_eq_some_iff.mp hr
    obtain ⟨b, hb, rfl⟩ := Option.map_eq_some_iff.mp hs
    exact ⟨hb, by simp⟩
  have hexists {s : SwitchSource} {a : β} (hs : s ∈ sources) (ha : field s.switch = some a) :
      ∃ r, referenceSource field sources = some r := by
    rw [← Option.isSome_iff_exists, referenceSource, List.findSome?_isSome_iff]
    exact ⟨s, hs, by simp [ha]⟩
  have hcheck {s : SwitchSource} {a : β} {r : β × SwitchSource} (ha : field s.switch = some a)
      (hr : referenceSource field sources = some r) :
      identityConflict switchId componentId label field text sources s = [] ↔ a = r.1 := by
    simp [identityConflict, ha, hr]
  constructor
  · intro h s hs t ht a ha b hb
    obtain ⟨r, hr⟩ := hexists hs ha
    rw [(hcheck ha hr).mp (h s hs), (hcheck hb hr).mp (h t ht)]
  · intro h s hs
    cases ha : field s.switch with
    | none => simp [identityConflict, ha]
    | some a =>
      obtain ⟨r, hr⟩ := hexists hs ha
      obtain ⟨hfield, hmem⟩ := href r hr
      exact (hcheck ha hr).mpr (h s hs r.2 hmem a ha r.1 hfield)

/-- None is for the whole identity exactly if it is one. -/
theorem validateSwitchIdentity_eq_nil_iff :
    validateSwitchIdentity switchId sources = [] ↔ SameIdentity sources := by
  simp only [validateSwitchIdentity, List.flatMap_eq_nil_iff, List.append_eq_nil_iff, forall_and,
    identityConflict_eq_nil_iff]
  exact ⟨fun ⟨⟨hhost, hip⟩, hmodel⟩ => ⟨hhost, hip, hmodel⟩,
    fun ⟨hhost, hip, hmodel⟩ => ⟨⟨hhost, hip⟩, hmodel⟩⟩

end

/-! ## The checks after a merge -/

/-- What is not rewritten when secrets and VLAN names are resolved. -/
def SwitchConfig.frame (switch : SwitchConfig) : SwitchConfig :=
  { switch with ports := [], snmp := none }

/-- Reading secrets leaves the frame of a switch alone. -/
theorem keeps_resolveSnmpSecrets (env : Environment) :
    (resolveSnmpSecrets env).Keeps SwitchConfig.frame := by
  apply (InPlace.keeps_check _).andThen
  intro switch
  dsimp only
  split
  · rfl
  · rfl

/-- Resolving VLAN names leaves the frame of a switch alone. -/
theorem keeps_resolveVlanNames (strict : Bool) :
    (resolveVlanNames strict).Keeps SwitchConfig.frame := by
  intro switch
  unfold resolveVlanNames
  split
  · rfl
  · rfl

/-- So does checking references. -/
theorem keeps_validateVlanReferences (env : Environment) :
    (validateVlanReferences env).Keeps SwitchConfig.frame := by
  intro switch
  unfold validateVlanReferences validateVlanReferencesInner
  split
  · rfl
  · split
    · rfl
    · simp only
      split
      · rfl
      · rfl

/-- The checks as one computation, without their messages. -/
def checkMergedSteps (env : Environment) : InPlace Error SwitchConfig :=
  (InPlace.check validateRequiredFields).andThen
    ((resolveSnmpSecrets env).andThen ((InPlace.check checkVendorSupport).andThen
      ((resolveVlanNames false).andThen ((validateVlanReferences env).andThen
        (InPlace.check validateHasVlans)))))

/-- So do all steps on a merged switch. -/
theorem keeps_checkMergedSteps (env : Environment) :
    (checkMergedSteps env).Keeps SwitchConfig.frame :=
  (InPlace.keeps_check _).andThen ((keeps_resolveSnmpSecrets env).andThen
    ((InPlace.keeps_check _).andThen ((keeps_resolveVlanNames false).andThen
      ((keeps_validateVlanReferences env).andThen (InPlace.keeps_check _)))))

/-- What the checks make of a switch, and whether they accept it, depends on the switch alone. -/
theorem checkMerged_steps (env : Environment) (contributions : List ConfigSource)
    (vlanSources : Std.TreeMap ℕ String) (switch : SwitchConfig) :
    (checkMerged env contributions vlanSources switch).1 = (checkMergedSteps env switch).1 ∧
      ((checkMerged env contributions vlanSources switch).2.isOk =
        (checkMergedSteps env switch).2.isOk) := by
  unfold checkMerged checkMergedSteps
  simp only [InPlace.andThen, InPlace.check, validateRequiredFields]
  cases getMissingRequiredFields switch with
  | cons field fields => simp [Except.isOk, Except.toBool]
  | nil =>
    simp only [List.isEmpty_nil, Bool.not_true, Bool.false_eq_true, ↓reduceIte]
    rcases resolveSnmpSecrets env switch with ⟨secrets, r⟩
    cases r with
    | error e => simp [Except.isOk, Except.toBool]
    | ok _ =>
      simp only
      cases checkVendorSupport secrets with
      | error e => simp [Except.isOk, Except.toBool]
      | ok _ =>
        simp only
        rcases resolveVlanNames false secrets with ⟨named, r⟩
        cases r with
        | error e => simp [Except.isOk, Except.toBool]
        | ok _ =>
          simp only
          rcases validateVlanReferences env named with ⟨checked, r⟩
          cases r with
          | error e => simp [Except.isOk, Except.toBool]
          | ok _ =>
            simp only
            cases validateHasVlans checked <;> simp [Except.isOk, Except.toBool]

/-! ## What a merge of files yields -/

/-- A switch is valid exactly if its own outcome is. -/
theorem mem_valid_collect {outcomes : List (Except SwitchValidationFailure SwitchConfig)}
    {switch : SwitchConfig} : switch ∈ (collect outcomes).valid ↔ .ok switch ∈ outcomes := by
  show switch ∈ List.filterMap _ outcomes ↔ _
  rw [List.mem_filterMap]
  constructor
  · rintro ⟨o, ho, heq⟩
    cases o with
    | ok a => cases heq; exact ho
    | error e => cases heq
  · exact fun h => ⟨_, h, rfl⟩

/-- A switch is known exactly if it has a source. -/
theorem mem_switchIds {configs : List ConfigWithMetadata} {switchId : String} :
    switchId ∈ switchIds configs ↔ sourcesOf configs switchId ≠ [] := by
  have hfile (config : ConfigWithMetadata) : switchId ∈ config.switches.map SwitchConfig.id ↔
      (config.switches.filter fun switch => switch.id = switchId).map
        (fun switch => SwitchSource.mk switch config.mergePriority config.sourceFile) ≠ [] := by
    simp [List.filter_eq_nil_iff]
  rw [switchIds, List.mem_dedup, List.mem_flatMap, sourcesOf, ne_eq, List.flatMap_eq_nil_iff]
  simp only [hfile, not_forall, exists_prop]

theorem SameIdentity.nil : SameIdentity [] where
  hostname _ hs := absurd hs List.not_mem_nil
  managementIp _ hs := absurd hs List.not_mem_nil
  model _ hs := absurd hs List.not_mem_nil

/-- What becomes of one switch of the merged files. -/
def outcomeOf (env : Environment) (configs : List ConfigWithMetadata) (switchId : String) :
    Except SwitchValidationFailure SwitchConfig :=
  postMerge env (sourcesOf configs switchId)
    (mergeSingleSwitch switchId (sourcesOf configs switchId))

section

variable {env : Environment} {order : MapOrder} {configs : List ConfigWithMetadata}

/-- Configurations are merged exactly if there are any and no identity is disputed. -/
theorem mergeConfigs_ok_iff {loaded : Loaded} : mergeConfigs env order configs = .ok loaded ↔
    configs ≠ [] ∧ (∀ id, SameIdentity (sourcesOf configs id)) ∧
      loaded = collect ((order.keys (switchIds configs)).map (outcomeOf env configs)) := by
  have hidentity : ((order.keys (switchIds configs)).flatMap fun id =>
      validateSwitchIdentity id (sourcesOf configs id)) = [] ↔
        ∀ id, SameIdentity (sourcesOf configs id) := by
    simp only [List.flatMap_eq_nil_iff, validateSwitchIdentity_eq_nil_iff,
      (order.perm (switchIds configs)).mem_iff, mem_switchIds]
    refine forall_congr' fun id => ⟨fun h => ?_, fun h _ => h⟩
    by_cases hnil : sourcesOf configs id = []
    · rw [hnil]
      exact .nil
    · exact h hnil
  unfold mergeConfigs
  cases configs with
  | nil => simp
  | cons config configs =>
    simp only [List.isEmpty_cons, Bool.false_eq_true, ↓reduceIte, List.isEmpty_iff]
    split
    · next h =>
      simp only [Except.ok.injEq, ne_eq, reduceCtorEq, not_false_eq_true, hidentity.mp h,
        implies_true, true_and]
      exact eq_comm
    · next h =>
      rw [hidentity] at h
      simp [h]

/-- A disputed identity refuses all configurations. -/
theorem mergeConfigs_error (h : ∃ id, ¬SameIdentity (sourcesOf configs id)) :
    ∃ e, mergeConfigs env order configs = .error e := by
  cases hr : mergeConfigs env order configs with
  | error e => exact ⟨e, rfl⟩
  | ok loaded =>
    obtain ⟨id, hid⟩ := h
    exact absurd ((mergeConfigs_ok_iff.mp hr).2.1 id) hid

end

/-- The merged switch as the checks leave it. -/
def mergedOf (env : Environment) (configs : List ConfigWithMetadata) (switchId : String) :
    SwitchConfig :=
  (checkMergedSteps env (mergeSingleSwitch switchId (sourcesOf configs switchId)).switch).1

/-- Do the checks accept the merged switch? -/
def acceptsMerged (env : Environment) (configs : List ConfigWithMetadata) (switchId : String) :
    Bool :=
  (checkMergedSteps env (mergeSingleSwitch switchId (sourcesOf configs switchId)).switch).2.isOk

section

variable {env : Environment} {configs : List ConfigWithMetadata} {switchId : String}

/-- Validation leaves the frame of a merged switch alone. -/
theorem frame_mergedOf (env : Environment) (configs : List ConfigWithMetadata)
    (switchId : String) : (mergedOf env configs switchId).frame =
    (mergeSingleSwitch switchId (sourcesOf configs switchId)).switch.frame :=
  keeps_checkMergedSteps env _

theorem id_mergedOf : (mergedOf env configs switchId).id = switchId := by
  have hid (sources : List SwitchSource) (merged : SwitchConfig) :
      (sources.foldl mergeIdentityStep merged).id = merged.id := by
    induction sources generalizing merged with
    | nil => rfl
    | cons source sources ih => exact ih _
  have hframe : (mergedOf env configs switchId).frame.id = _ :=
    congrArg SwitchConfig.id (frame_mergedOf env configs switchId)
  exact hframe.trans (hid _ _)

/-- A switch that is accepted has its merge as the outcome. -/
theorem outcomeOf_ok (h : acceptsMerged env configs switchId = true) :
    outcomeOf env configs switchId = .ok (mergedOf env configs switchId) := by
  unfold acceptsMerged at h
  unfold outcomeOf postMerge mergedOf
  generalize mergeSingleSwitch switchId (sourcesOf configs switchId) = merged at h ⊢
  obtain ⟨hswitch, hok⟩ := checkMerged_steps env
    ((sourcesOf configs switchId).map SwitchSource.contribution) merged.vlanSources merged.switch
  rw [h] at hok
  rcases hresult : checkMerged env ((sourcesOf configs switchId).map SwitchSource.contribution)
    merged.vlanSources merged.switch with ⟨switch, r⟩
  rw [hresult] at hswitch hok
  cases r with
  | ok _ => exact congrArg Except.ok hswitch
  | error e => cases hok

/-- A switch that is refused is reported under its id, with its merge as the preview. -/
theorem outcomeOf_error (h : acceptsMerged env configs switchId = false) :
    ∃ failure, outcomeOf env configs switchId = .error failure ∧ failure.switchId = switchId ∧
      failure.preview = some (mergedOf env configs switchId) := by
  have hid : (mergedOf env configs switchId).id = switchId := id_mergedOf
  unfold acceptsMerged at h
  unfold mergedOf at hid
  unfold outcomeOf postMerge mergedOf
  generalize mergeSingleSwitch switchId (sourcesOf configs switchId) = merged at h hid ⊢
  obtain ⟨hswitch, hok⟩ := checkMerged_steps env
    ((sourcesOf configs switchId).map SwitchSource.contribution) merged.vlanSources merged.switch
  rw [h] at hok
  rcases hresult : checkMerged env ((sourcesOf configs switchId).map SwitchSource.contribution)
    merged.vlanSources merged.switch with ⟨switch, r⟩
  rw [hresult] at hswitch hok
  cases r with
  | ok _ => cases hok
  | error e =>
    refine ⟨_, rfl, ?_, congrArg some hswitch⟩
    exact (congrArg SwitchConfig.id hswitch).trans hid

end

/-- The switches that the checks accept. -/
theorem valid_outcomes (env : Environment) (configs : List ConfigWithMetadata)
    (ids : List String) : (collect (ids.map (outcomeOf env configs))).valid =
      (ids.filter (acceptsMerged env configs)).map (mergedOf env configs) := by
  show List.filterMap _ _ = _
  induction ids with
  | nil => rfl
  | cons id ids ih =>
    cases h : acceptsMerged env configs id with
    | true =>
      rw [List.map_cons, outcomeOf_ok h, List.filter_cons_of_pos h, List.map_cons, ← ih]
      rfl
    | false =>
      obtain ⟨failure, hf, -, -⟩ := outcomeOf_error h
      rw [List.map_cons, hf, List.filter_cons_of_neg (by simp [h]), ← ih]
      rfl

/-- The switches that they do not. -/
theorem failures_outcomes (env : Environment) (configs : List ConfigWithMetadata)
    (ids : List String) :
    (collect (ids.map (outcomeOf env configs))).failures.map (fun f => (f.switchId, f.preview)) =
      (ids.filter fun id => !acceptsMerged env configs id).map fun id =>
        (id, some (mergedOf env configs id)) := by
  show (List.filterMap _ _).map _ = _
  induction ids with
  | nil => rfl
  | cons id ids ih =>
    cases h : acceptsMerged env configs id with
    | true =>
      rw [List.map_cons, outcomeOf_ok h, List.filter_cons_of_neg (by simp [h]), ← ih]
      rfl
    | false =>
      obtain ⟨failure, hf, hid, hpreview⟩ := outcomeOf_error h
      rw [List.map_cons, hf, List.filter_cons_of_pos (by simp [h]), List.map_cons, ← ih, ← hpreview]
      show (failure.switchId, failure.preview) :: _ = _
      rw [hid]

/-- The ids reported are those of the switches that are refused. -/
theorem failureIds_outcomes (env : Environment) (configs : List ConfigWithMetadata)
    (ids : List String) : (collect (ids.map (outcomeOf env configs))).failures.map
      SwitchValidationFailure.switchId = ids.filter fun id => !acceptsMerged env configs id := by
  have hpairs := congrArg (List.map Prod.fst) (failures_outcomes env configs ids)
  rw [List.map_map, List.map_map] at hpairs
  exact hpairs.trans (List.map_id _)

/-! ## When files load -/

/-- Two definitions of one switch do not disagree. -/
structure Compatible (a b : SwitchConfig) : Prop where
  hostname : ∀ x ∈ a.hostname, ∀ y ∈ b.hostname, x = y
  managementIp : ∀ x ∈ a.managementIp, ∀ y ∈ b.managementIp, x = y
  model : ∀ x ∈ a.model, ∀ y ∈ b.model, x = y

/-- The definition expands, and the fields of what it expands to are valid. -/
def ExpandsTo (raw switch : SwitchConfig) : Prop :=
  expandPortRanges raw = .ok switch ∧ invalidFields switch = []

/-- What a load of several files asks of them before it looks at single switches. -/
structure Loads (main : ConfigFile) (folders : List (List ConfigFile)) : Prop where
  expand : ∀ file ∈ main :: folders.flatten, ∀ raw ∈ file.switches, ∃ switch, ExpandsTo raw switch
  priorities : ∀ file ∈ folders.flatten, 11 ≤ file.mergePriority.getD 100
  compatible : ∀ a ∈ (main :: folders.flatten).flatMap ConfigFile.switches,
    ∀ b ∈ (main :: folders.flatten).flatMap ConfigFile.switches, a.id = b.id → Compatible a b

/-- The file, with its definitions expanded. -/
structure LoadedAs (sourceType : ConfigSourceType) (file : ConfigFile)
    (config : ConfigWithMetadata) : Prop where
  switches : List.Forall₂ ExpandsTo file.switches config.switches
  mergePriority : config.mergePriority = file.mergePriority.getD sourceType.defaultPriority
  sourceFile : config.sourceFile = file.sourceFile
  inRange : sourceType = .folderConfig → 11 ≤ config.mergePriority
  sourceType : config.sourceType = sourceType

section

variable {env : Environment} {order : MapOrder}

/-- The structure is in order exactly if no field is reported. -/
theorem checkStructure_ok_iff {switch : SwitchConfig} :
    checkStructure env switch = .ok () ↔ invalidFields switch = [] := by
  rw [checkStructure, withContext_ok, validateStructure_ok_iff]

/-- A file loads exactly if its switches expand and its priority is allowed. -/
theorem loadWithMetadata_ok_iff {file : ConfigFile} {sourceType : ConfigSourceType}
    {config : ConfigWithMetadata} :
    loadWithMetadata env file sourceType = .ok config ↔ LoadedAs sourceType file config := by
  unfold loadWithMetadata
  rw [bind_ok_iff]
  constructor
  · rintro ⟨switches, hexpand, h⟩
    obtain ⟨_, hcheck, h⟩ := bind_ok_iff.mp h
    dsimp only at h
    split at h
    · cases h
    · next hrange =>
      cases h
      exact
        { switches := forall₂_and_right_iff.mpr ⟨mapM_ok_iff.mp hexpand, fun s hs =>
            checkStructure_ok_iff.mp (forM_ok_iff.mp hcheck s hs)⟩
          mergePriority := rfl
          sourceFile := rfl
          inRange := fun hfolder => not_lt.mp fun hlt => hrange ⟨hfolder, hlt⟩
          sourceType := rfl }
  · intro h
    obtain ⟨hexpand, hvalid⟩ := forall₂_and_right_iff.mp h.switches
    refine ⟨config.switches, mapM_ok_iff.mpr hexpand, bind_ok_iff.mpr ⟨(), ?_, ?_⟩⟩
    · exact forM_ok_iff.mpr fun s hs => checkStructure_ok_iff.mpr (hvalid s hs)
    -- the range of priorities is checked for folder files only
    · have hrange : ¬(sourceType = .folderConfig ∧
          file.mergePriority.getD sourceType.defaultPriority < 11) := by
        rintro ⟨hfolder, hlt⟩
        have hle := h.inRange hfolder
        rw [h.mergePriority] at hle
        omega
      dsimp only
      rw [if_neg hrange, ← h.mergePriority, ← h.sourceFile, ← h.sourceType]

/-- A load goes through exactly if all files load and their merge does. -/
theorem loadMulti_ok_iff {main : ConfigFile} {folders : List (List ConfigFile)} {loaded : Loaded} :
    loadMulti env order main folders = .ok loaded ↔ ∃ mainConfig folderConfigs,
      LoadedAs .mainConfig main mainConfig ∧
        List.Forall₂ (LoadedAs .folderConfig) folders.flatten folderConfigs ∧
          mergeConfigs env order
            (byPriority ConfigWithMetadata.mergePriority (mainConfig :: folderConfigs)) =
              .ok loaded := by
  have hscan {files : List ConfigFile} {configs : List ConfigWithMetadata} :
      scanConfigFolder env files = .ok configs ↔
        List.Forall₂ (LoadedAs .folderConfig) files configs := by
    rw [scanConfigFolder, mapM_ok_iff]
    simp only [withContext_ok, loadWithMetadata_ok_iff]
  unfold loadMulti
  rw [bind_ok_iff]
  constructor
  · rintro ⟨mainConfig, hmain, h⟩
    obtain ⟨folderConfigs, hfolders, h⟩ := bind_ok_iff.mp h
    have hconfigs := mapM_ok_iff.mp hfolders
    refine ⟨mainConfig, folderConfigs.flatten, loadWithMetadata_ok_iff.mp hmain, ?_, h⟩
    exact forall₂_flatten_iff.mpr ⟨folderConfigs, hconfigs.imp fun _ _ => hscan.mp, rfl⟩
  · rintro ⟨mainConfig, configs, hmain, hfolders, h⟩
    obtain ⟨folderConfigs, hconfigs, rfl⟩ := forall₂_flatten_iff.mp hfolders
    refine ⟨mainConfig, loadWithMetadata_ok_iff.mpr hmain, bind_ok_iff.mpr ⟨folderConfigs, ?_, h⟩⟩
    exact mapM_ok_iff.mpr (hconfigs.imp fun _ _ => hscan.mpr)

/-- Expanding ports changes ports and mirrors only. -/
theorem expandPortRanges_frame {raw switch : SwitchConfig} (h : expandPortRanges raw = .ok switch) :
    switch = { raw with ports := switch.ports, portMirrors := switch.portMirrors } := by
  obtain ⟨ports, portMirrors, -, -, rfl⟩ := expandPortRanges_ok h
  rfl

/-- No identity is disputed exactly if switches of one id are compatible, pair by pair. -/
theorem sameIdentity_iff {configs : List ConfigWithMetadata} :
    (∀ id, SameIdentity (sourcesOf configs id)) ↔
      ∀ a ∈ configs.flatMap ConfigWithMetadata.switches,
        ∀ b ∈ configs.flatMap ConfigWithMetadata.switches, a.id = b.id → Compatible a b := by
  have hmem {id : String} {s : SwitchSource} (hs : s ∈ sourcesOf configs id) :
      s.switch ∈ configs.flatMap ConfigWithMetadata.switches ∧ s.switch.id = id := by
    obtain ⟨config, hconfig, hs⟩ := List.mem_flatMap.mp hs
    obtain ⟨switch, hswitch, rfl⟩ := List.mem_map.mp hs
    rw [List.mem_filter, decide_eq_true_eq] at hswitch
    exact ⟨List.mem_flatMap.mpr ⟨config, hconfig, hswitch.1⟩, hswitch.2⟩
  have hsource {a : SwitchConfig} (ha : a ∈ configs.flatMap ConfigWithMetadata.switches) :
      ∃ s ∈ sourcesOf configs a.id, s.switch = a := by
    obtain ⟨config, hconfig, ha⟩ := List.mem_flatMap.mp ha
    refine ⟨⟨a, config.mergePriority, config.sourceFile⟩, ?_, rfl⟩
    refine List.mem_flatMap.mpr ⟨config, hconfig, List.mem_map_of_mem ?_⟩
    exact List.mem_filter.mpr ⟨ha, decide_eq_true rfl⟩
  constructor
  · intro h a ha b hb hid
    obtain ⟨s, hs, rfl⟩ := hsource ha
    obtain ⟨t, ht, rfl⟩ := hsource hb
    rw [← hid] at ht
    obtain ⟨hhost, hip, hmodel⟩ := h s.switch.id
    exact ⟨hhost s hs t ht, hip s hs t ht, hmodel s hs t ht⟩
  · intro h id
    have hpair {s t : SwitchSource} (hs : s ∈ sourcesOf configs id)
        (ht : t ∈ sourcesOf configs id) : Compatible s.switch t.switch :=
      h _ (hmem hs).1 _ (hmem ht).1 ((hmem hs).2.trans (hmem ht).2.symm)
    exact
      { hostname := fun s hs t ht => (hpair hs ht).hostname
        managementIp := fun s hs t ht => (hpair hs ht).managementIp
        model := fun s hs t ht => (hpair hs ht).model }

/-- The definitions of all files, expanded. -/
theorem switches_of_loadedAs {sourceType : ConfigSourceType} {files : List ConfigFile}
    {configs : List ConfigWithMetadata}
    (h : List.Forall₂ (LoadedAs sourceType) files configs) :
    List.Forall₂ ExpandsTo (files.flatMap ConfigFile.switches)
      (configs.flatMap ConfigWithMetadata.switches) := by
  induction h with
  | nil => exact .nil
  | cons hfile _ ih =>
    rw [List.flatMap_cons, List.flatMap_cons]
    exact List.rel_append hfile.switches ih

/-- Definitions of distinct switches do not disagree. -/
theorem compatible_of_nodup {l : List SwitchConfig} (hn : (l.map SwitchConfig.id).Nodup) :
    ∀ a ∈ l, ∀ b ∈ l, a.id = b.id → Compatible a b := by
  intro a ha b hb hid
  obtain rfl := List.inj_on_of_nodup_map hn ha hb hid
  exact ⟨fun x hx y hy => Option.some.inj (hx.symm.trans hy),
    fun x hx y hy => Option.some.inj (hx.symm.trans hy),
    fun x hx y hy => Option.some.inj (hx.symm.trans hy)⟩

/-- What identifies a switch, alone. -/
def SwitchConfig.identity (switch : SwitchConfig) : SwitchConfig :=
  { id := switch.id
    hostname := switch.hostname
    model := switch.model
    managementIp := switch.managementIp }

theorem compatible_identity {l : List SwitchConfig} :
    (∀ a ∈ l.map SwitchConfig.identity, ∀ b ∈ l.map SwitchConfig.identity,
      a.id = b.id → Compatible a b) ↔ ∀ a ∈ l, ∀ b ∈ l, a.id = b.id → Compatible a b := by
  simp only [List.forall_mem_map]
  refine forall₂_congr fun a _ => forall₂_congr fun b _ => forall_congr' fun _ => ?_
  exact ⟨fun h => ⟨h.hostname, h.managementIp, h.model⟩,
    fun h => ⟨h.hostname, h.managementIp, h.model⟩⟩

/-- Expanding ports keeps identities. -/
theorem identity_expanded {raws switches : List SwitchConfig}
    (h : List.Forall₂ ExpandsTo raws switches) :
    switches.map SwitchConfig.identity = raws.map SwitchConfig.identity := by
  induction h with
  | nil => rfl
  | cons hraw _ ih =>
    rw [List.map_cons, List.map_cons, ih, expandPortRanges_frame hraw.1]
    rfl

/-- So whether switches are compatible can be seen before. -/
theorem compatible_expanded {raws switches : List SwitchConfig}
    (h : List.Forall₂ ExpandsTo raws switches) :
    (∀ a ∈ switches, ∀ b ∈ switches, a.id = b.id → Compatible a b) ↔
      ∀ a ∈ raws, ∀ b ∈ raws, a.id = b.id → Compatible a b := by
  rw [← compatible_identity, identity_expanded h, compatible_identity]

/-- A file can be loaded exactly if all its switches expand and its priority is allowed. -/
theorem exists_loadedAs_iff {sourceType : ConfigSourceType} {file : ConfigFile} :
    (∃ config, LoadedAs sourceType file config) ↔
      (∀ raw ∈ file.switches, ∃ switch, ExpandsTo raw switch) ∧
        (sourceType = .folderConfig → 11 ≤ file.mergePriority.getD 100) := by
  rw [← exists_forall₂_iff]
  constructor
  · rintro ⟨config, h⟩
    refine ⟨⟨_, h.switches⟩, ?_⟩
    rintro rfl
    exact h.mergePriority ▸ h.inRange rfl
  · rintro ⟨⟨switches, hswitches⟩, hrange⟩
    refine ⟨{ switches, mergePriority := file.mergePriority.getD sourceType.defaultPriority
              sourceFile := file.sourceFile, sourceType }, hswitches, rfl, rfl, ?_, rfl⟩
    rintro rfl
    exact hrange rfl

/-- A load of several files fails as a whole exactly if it does not get past the files, or finds
that the definitions of some switch disagree. -/
theorem loadMulti_isOk_iff (env : Environment) (order : MapOrder) (main : ConfigFile)
    (folders : List (List ConfigFile)) :
    (∃ loaded, loadMulti env order main folders = .ok loaded) ↔ Loads main folders := by
  -- ranges expand to ports without changing the identity, so it can be asked of the files
  have hcompat {mainConfig : ConfigWithMetadata} {folderConfigs : List ConfigWithMetadata}
      (hmain : LoadedAs .mainConfig main mainConfig)
      (hfolders : List.Forall₂ (LoadedAs .folderConfig) folders.flatten folderConfigs) :
      (∀ id, SameIdentity (sourcesOf (byPriority ConfigWithMetadata.mergePriority
        (mainConfig :: folderConfigs)) id)) ↔
        ∀ a ∈ (main :: folders.flatten).flatMap ConfigFile.switches,
          ∀ b ∈ (main :: folders.flatten).flatMap ConfigFile.switches,
            a.id = b.id → Compatible a b := by
    have hexpanded : List.Forall₂ ExpandsTo
        ((main :: folders.flatten).flatMap ConfigFile.switches)
        ((mainConfig :: folderConfigs).flatMap ConfigWithMetadata.switches) := by
      rw [List.flatMap_cons, List.flatMap_cons]
      exact List.rel_append hmain.switches (switches_of_loadedAs hfolders)
    have hsorted : (byPriority ConfigWithMetadata.mergePriority
        (mainConfig :: folderConfigs)).Perm (mainConfig :: folderConfigs) := perm_byPriority _
    rw [sameIdentity_iff, ← compatible_expanded hexpanded]
    simp only [(hsorted.flatMap_right ConfigWithMetadata.switches).mem_iff]
  -- each file is loaded on its own
  have hfiles : (∃ mainConfig, LoadedAs .mainConfig main mainConfig) ∧
      (∃ folderConfigs, List.Forall₂ (LoadedAs .folderConfig) folders.flatten folderConfigs) ↔
        (∀ file ∈ main :: folders.flatten, ∀ raw ∈ file.switches, ∃ switch,
          ExpandsTo raw switch) ∧ ∀ file ∈ folders.flatten, 11 ≤ file.mergePriority.getD 100 := by
    rw [exists_forall₂_iff, List.forall_mem_cons, and_assoc, ← forall₂_and]
    simp only [exists_loadedAs_iff, reduceCtorEq, false_imp_iff, and_true, true_imp_iff]
  constructor
  · rintro ⟨loaded, h⟩
    obtain ⟨mainConfig, folderConfigs, hmain, hfolders, h⟩ := loadMulti_ok_iff.mp h
    obtain ⟨hexpand, hpriorities⟩ := hfiles.mp ⟨⟨_, hmain⟩, ⟨_, hfolders⟩⟩
    exact ⟨hexpand, hpriorities, (hcompat hmain hfolders).mp (mergeConfigs_ok_iff.mp h).2.1⟩
  · intro h
    obtain ⟨⟨mainConfig, hmain⟩, folderConfigs, hfolders⟩ :=
      hfiles.mpr ⟨h.expand, h.priorities⟩
    have hne : byPriority ConfigWithMetadata.mergePriority (mainConfig :: folderConfigs) ≠ [] :=
      List.ne_nil_of_mem (mem_byPriority.mpr List.mem_cons_self)
    exact ⟨_, loadMulti_ok_iff.mpr ⟨mainConfig, folderConfigs, hmain, hfolders,
      mergeConfigs_ok_iff.mpr ⟨hne, (hcompat hmain hfolders).mpr h.compatible, rfl⟩⟩⟩

end

end SwitchConfigurator
