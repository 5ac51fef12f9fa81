import SwitchConfigurator.Api.DesiredConfig

/-!
# Reloads of the configuration files

`reload_config` and `reload_switch_config` of `handlers.rs`. A reload reads the files at the
paths the service was started with; each write of the configuration is one change under the
store's lock. The status records and the lookup caches are left out, as are log lines.
-/

namespace SwitchConfigurator

open Keyed

/-- What reading the configured paths gives: the main file, and the YAML files of each folder
in the order of their names. Each of them can be unreadable or not parse. -/
structure ConfigFiles where
  main : Except Error ConfigFile
  folders : List (Except Error (List (String × Except Error ConfigFile)))

/-- `load_with_metadata` on what was read. -/
def loadRead (env : Environment) (sourceType : ConfigSourceType) (file : Except Error ConfigFile) :
    Except Error ConfigWithMetadata := do
  let file ← file
  loadWithMetadata env file sourceType

/-- `scan_config_folder` on what was read. -/
def scanRead (env : Environment) (folder : Except Error (List (String × Except Error ConfigFile))) :
    Except Error (List ConfigWithMetadata) := do
  let entries ← folder
  entries.mapM fun entry =>
    withContext s!"Failed to load folder config: {debugPath entry.1}"
      (loadRead env .folderConfig entry.2)

namespace ConfigFiles

/-- `AppConfig::load` where no folders are configured, else `AppConfig::load_multi`. -/
def reload (env : Environment) (order : MapOrder) (configFolders : List String)
    (files : ConfigFiles) : Except Error Loaded :=
  if configFolders.isEmpty then do
    let file ← files.main
    .ok (load env file)
  else do
    let mainConfig ← loadRead env .mainConfig files.main
    let folderConfigs ← files.folders.mapM (scanRead env)
    mergeConfigs env order
      (byPriority ConfigWithMetadata.mergePriority (mainConfig :: folderConfigs.flatten))

end ConfigFiles

namespace StatusTracker

/-- `try_acquire_configuring`, when it is not interrupted. -/
def tryAcquireConfiguring (s : StatusTracker) (id : String) : Option StatusTracker :=
  if s.isSwitchBusy id ∨ (s.gates id).turn = 0 then none
  else some ((s.takePermit id).setCurrentlyConfiguring id)

/-- The drop of a guard, with its cleanup. -/
def dropGuard (s : StatusTracker) (id : String) : StatusTracker :=
  (s.clearCurrentlyConfiguring id).returnPermit id

end StatusTracker

namespace Api

def metadataMissing : List (String × JsonValue) :=
  [("error", .text
    "Configuration metadata not available. Service may not be fully initialized.")]

def reloadFailed (e : Error) : List (String × JsonValue) :=
  [("error", .text s!"Failed to reload configuration: {e.display}")]

/-- The switches whose turn could be taken, and the ids of those that are busy. -/
def acquireTurns : StatusTracker → List SwitchConfig → StatusTracker × List SwitchConfig × List String
  | status, [] => (status, [], [])
  | status, config :: rest =>
    match status.tryAcquireConfiguring config.id with
    | some status =>
      let (status, toConfigure, skipped) := acquireTurns status rest
      (status, config :: toConfigure, skipped)
    | none =>
      let (status, toConfigure, skipped) := acquireTurns status rest
      (status, toConfigure, config.id :: skipped)

/-- `POST /config/reload`. -/
def reloadConfig (env : Environment) (order : MapOrder) (files : ConfigFiles)
    (store : ConfigStore) : Handled :=
  match store.configPaths with
  | none => refuse store .internalServerError metadataMissing
  | some (_, configFolders) =>
    match files.reload env order configFolders with
    | .error e => refuse store .internalServerError (reloadFailed e)
    | .ok loaded =>
      let (status, toConfigure, skipped) := acquireTurns store.status loaded.valid
      { store := { store with
          switches := loaded.valid, validationFailures := loaded.failures, status }
        spawned := toConfigure
        answer :=
          { status := .accepted
            body := [("status", .text "accepted"),
              ("message",
                .text s!"Configuration reload started for {toConfigure.length} switch(es)"),
              ("switches_configuring", .texts (toConfigure.map SwitchConfig.id)),
              ("switches_skipped", .texts skipped),
              ("poll_url", .text "/api/status"),
              ("hint", .text "Poll /api/status and check 'currently_configuring' array. When empty, all switches are done. Check switches[].last_result for outcomes.")] } }

/-- `POST /switches/{id}/reload`: the turn comes first, and every early return drops it. -/
def reloadSwitchConfig (env : Environment) (order : MapOrder) (files : ConfigFiles) (id : String)
    (store : ConfigStore) : Handled :=
  match store.status.tryAcquireConfiguring id with
  | none =>
    let reason := if id ∈ store.status.currentlyConfiguring then "is already being configured"
      else "has a pending config reload queued"
    refuse store .conflict [("error", .text s!"Switch '{id}' {reason}"), ("switch_id", .text id)]
  | some status =>
    let released := { store with status := status.dropGuard id }
    match store.configPaths with
    | none => refuse released .internalServerError metadataMissing
    | some (_, configFolders) =>
      match files.reload env order configFolders with
      | .error e => refuse released .internalServerError (reloadFailed e)
      | .ok loaded =>
        -- The failures of all switches are kept, also when this one is not in the files.
        let validationFailures := loaded.failures
        match loaded.valid.find? (·.id = id) with
        | none =>
          refuse { released with validationFailures } .notFound
            [("error", .text s!"Switch with id '{id}' not found in configuration files")]
        | some switchConfig =>
          { store := { store with
              switches := putFirst SwitchConfig.id switchConfig store.switches
              validationFailures
              status }
            spawned := [switchConfig]
            answer :=
              { status := .accepted
                body := [("status", .text "accepted"),
                  ("message",
                    .text s!"Configuration reload and apply started for switch '{id}'"),
                  ("switch_id", .text id),
                  ("poll_url", .text "/api/status"),
                  ("hint", .text "Poll /api/status and check 'currently_configuring' array. When empty or switch not in list, check switches[].last_result for the outcome.")] } }

end Api

end SwitchConfigurator
