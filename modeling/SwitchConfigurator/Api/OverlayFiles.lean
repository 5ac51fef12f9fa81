import SwitchConfigurator.Config.SavedOverlay
import SwitchConfigurator.Foundations.FileStore
import SwitchConfigurator.Foundations.Transition

/-!
# Overlay files

The requests of `api/handlers.rs` that write, show, list and delete configuration files, on the
files that are there, and how these files are found when they are loaded. Only regular files are
modelled, in folders that exist.
-/

namespace SwitchConfigurator.Overlays

open Document Keyed FileStore

/-- The main file and the folders that the service was started with. -/
structure ConfigLocations where
  main : String
  folders : List String
  deriving DecidableEq, Repr

/-- The text of a file, or why it cannot be read. -/
abbrev Content (yaml : YamlText) := Except String yaml.Text

abbrev Files (yaml : YamlText) := Disk (Content yaml)

section Files

variable (formats : Formats) (yaml : YamlText)

/-- A folder as the paths of its files begin. -/
def inside (folder : String) : String := joinPath folder ""

def readToString (disk : Files yaml) (path : String) : Content yaml :=
  (disk.contentAt path).getD (.error "No such file or directory (os error 2)")

/-- `Path::extension`: a leading dot does not begin one. -/
def extension (name : String) : Option String :=
  let after := (name.toList.reverse.takeWhile fun c => c ≠ '.').reverse
  if name.length ≤ after.length + 1 then none else some (String.ofList after)

def isYaml (name : String) : Bool := extension name = some "yaml" ∨ extension name = some "yml"

/-- `serde_yaml::from_str::<AppConfigFile>`. -/
def parseFile (path : String) (content : Content yaml) : Option ConfigFile := do
  let value ← yaml.parse (← content.toOption)
  ConfigFile.ofValue formats path value

/-- The files of `scan_config_folder`, in the order of their names. -/
def scannedNames (disk : Files yaml) (folder : String) : List String :=
  ((disk.names (inside folder)).filter isYaml).mergeSort fun a b => a ≤ b

def scanFolder (disk : Files yaml) (folder : String) : Option (List ConfigFile) :=
  (scannedNames yaml disk folder).mapM fun name =>
    parseFile formats yaml (joinPath folder name) (readToString yaml disk (joinPath folder name))

/-- The files as they are read now. -/
def configPaths (disk : Files yaml) (locations : ConfigLocations) : ConfigPaths where
  main := parseFile formats yaml locations.main (readToString yaml disk locations.main)
  folders := locations.folders.map fun path => ⟨path, scanFolder formats yaml disk path⟩

end Files

/-! ## Requests -/

section Lookup

variable (yaml : YamlText) (disk : Files yaml)

/-- The switches that a document lists, as they are. -/
def listedSwitches (value : Value) : List Value :=
  ((value.get "switches").bind Value.asSequence).getD []

def fileDeclaresSwitch (path switchId : String) : Bool :=
  match (readToString yaml disk path).toOption.bind yaml.parse with
  | some value => (listedSwitches value).any fun switch =>
      (switch.get "id").bind Value.asStr = some switchId
  | none => false

def findSwitchOverlayFile (locations : Option ConfigLocations) (switchId filename : String) :
    Except ApiError String :=
  match locations with
  | none => .error ⟨500, "No config folder configured"⟩
  | some locations =>
    match (locations.folders.map (joinPath · filename)).find? fun path =>
        (disk.contentAt path).isSome && fileDeclaresSwitch yaml disk path switchId with
    | some path => .ok path
    | none => .error ⟨404, s!"File '{filename}' not found for switch '{switchId}'"⟩

end Lookup

inductive Request where
  | saveOverlay (request : SaveOverlayRequest)
  | readMainConfig
  | readOverlay (switchId filename : String)
  | deleteOverlay (switchId filename : String)
  | configSources (switchId : String)

structure Source where
  file : String
  priority : ℕ
  sourceType : String
  deriving DecidableEq, Repr

inductive Reply (yaml : YamlText) where
  | saved (file : String) (mergePriority : ℕ)
  | content (text : yaml.Text)
  | deleted (file : String)
  | sources (sources : List Source)

/-- What goes wrong with a write or a removal: its error, and what a write leaves. -/
inductive Fault (yaml : YamlText) where
  | write (error : String) (left : Option (Content yaml))
  | remove (error : String)

section Handlers

variable (env : Environment) (formats : Formats) {yaml : YamlText}
variable (locations : Option ConfigLocations) (live : List SwitchConfig)
variable (fault : Option (Fault yaml)) (disk : Files yaml)

/-- `std::fs::write`. -/
def writeFile (path : String) (text : yaml.Text) : Files yaml × Except ApiError Unit :=
  match fault with
  | some (.write error (some left)) =>
    (disk.write path left, .error ⟨500, s!"Failed to write file: {error}"⟩)
  | some (.write error none) => (disk.remove path, .error ⟨500, s!"Failed to write file: {error}"⟩)
  | _ => (disk.write path (.ok text), .ok ())

/-- `std::fs::remove_file`. -/
def removeFile (path : String) : Files yaml × Except ApiError Unit :=
  match fault with
  | some (.remove error) => (disk, .error ⟨500, s!"Failed to delete file: {error}"⟩)
  | _ => (disk.remove path, .ok ())

def knownPaths : ConfigPaths :=
  match locations with
  | some locations => configPaths formats yaml disk locations
  | none => ⟨none, []⟩

def saveOverlayFile (request : SaveOverlayRequest) : Files yaml × Except ApiError (Reply yaml) :=
  match saveOverlay env formats yaml (knownPaths formats locations disk) request with
  | .error e => (disk, .error e)
  | .ok saved =>
    match writeFile fault disk saved.filePath saved.content with
    | (disk, .error e) => (disk, .error e)
    | (disk, .ok ()) => (disk, .ok (.saved saved.filePath saved.mergePriority))

def readMainConfig : Except ApiError (Reply yaml) :=
  match locations with
  | none => .error ⟨500, "No config file configured"⟩
  | some locations =>
    match readToString yaml disk locations.main with
    | .ok text => .ok (.content text)
    | .error e => .error ⟨500, s!"Failed to read file: {e}"⟩

def readOverlay (switchId filename : String) : Except ApiError (Reply yaml) := do
  validateOverlayFilename filename
  let path ← findSwitchOverlayFile yaml disk locations switchId filename
  match readToString yaml disk path with
  | .ok text => .ok (.content text)
  | .error e => .error ⟨500, s!"Failed to read file: {e}"⟩

def deleteOverlay (switchId filename : String) : Files yaml × Except ApiError (Reply yaml) :=
  match (do validateOverlayFilename filename
            findSwitchOverlayFile yaml disk locations switchId filename) with
  | .error e => (disk, .error e)
  | .ok path =>
    match removeFile fault disk path with
    | (disk, .error e) => (disk, .error e)
    | (disk, .ok ()) => (disk, .ok (.deleted filename))

def priorityOf (path : String) (default : ℕ) : ℕ :=
  ((parseFile formats yaml path (readToString yaml disk path)).bind
    ConfigFile.mergePriority).getD default

/-- The files of a folder that declare the switch. -/
def declaring (switchId folder : String) : List String :=
  (disk.names (inside folder)).filter fun name =>
    isYaml name && fileDeclaresSwitch yaml disk (joinPath folder name) switchId

def folderSources (switchId folder : String) : List Source :=
  (declaring disk switchId folder).map fun name =>
    ⟨joinPath folder name, priorityOf formats disk (joinPath folder name) 100, "folder"⟩

def configSources (switchId : String) : Except ApiError (Reply yaml) :=
  if ∃ switch ∈ live, switch.id = switchId then
    match locations with
    | none => .ok (.sources [])
    | some locations =>
      .ok (.sources (byPriority Source.priority
        (⟨locations.main, priorityOf formats disk locations.main 50, "main"⟩ ::
          locations.folders.flatMap (folderSources formats disk switchId))))
  else .error ⟨404, s!"Switch '{switchId}' not found"⟩

/-- What becomes of a request, and of the files. -/
def handle : Request → Files yaml × Except ApiError (Reply yaml)
  | .saveOverlay request => saveOverlayFile env formats locations fault disk request
  | .readMainConfig => (disk, readMainConfig locations disk)
  | .readOverlay switchId filename => (disk, readOverlay locations disk switchId filename)
  | .deleteOverlay switchId filename => deleteOverlay locations fault disk switchId filename
  | .configSources switchId => (disk, configSources formats locations live disk switchId)

end Handlers

/-- The files under requests, each with what goes wrong with it. -/
def store (env : Environment) (formats : Formats) {yaml : YamlText}
    (locations : Option ConfigLocations) (live : List SwitchConfig) (disk : Files yaml) :
    TransitionSystem (Files yaml) (Request × Option (Fault yaml)) where
  init := disk
  step disk event := some (handle env formats locations live event.2 disk event.1).1

end SwitchConfigurator.Overlays
