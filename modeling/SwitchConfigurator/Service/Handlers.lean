import SwitchConfigurator.Service.Program

/-!
# Request handlers, watcher and refresher

Each function is the source's, down to its accesses to the shared state and its awaits.
Answers to clients, log lines and statistics are left out, and so are the reads over SNMP,
which need neither the turn nor the console.
-/

namespace SwitchConfigurator.Service

/-- `iter().find(|s| s.id == id)`. -/
def findSwitch (id : String) (switches : List SwitchConfig) : Option SwitchConfig :=
  switches.find? (·.id = id)

/-- Replace the first entry with that id, or append one. -/
def putSwitch (config : SwitchConfig) : List SwitchConfig → List SwitchConfig
  | [] => [config]
  | c :: rest => if c.id = config.id then config :: rest else c :: putSwitch config rest

/-- A switch is found under its own id. -/
theorem id_of_findSwitch {id : String} {switches : List SwitchConfig} {config : SwitchConfig}
    (h : findSwitch id switches = some config) : config.id = id := by
  simpa using List.find?_some h

/-- A switch that is put is found. -/
theorem findSwitch_putSwitch (config : SwitchConfig) (switches : List SwitchConfig) :
    findSwitch config.id (putSwitch config switches) = some config := by
  unfold findSwitch
  induction switches with
  | nil => simp [putSwitch]
  | cons c rest ih =>
    by_cases hid : c.id = config.id
    · simp [putSwitch, hid]
    · simpa [putSwitch, hid] using ih

namespace Prog

/-- What `apply_config_impl` does once it has the guard. -/
def applyConfigImpl (id : String) (config : SwitchConfig) : Prog :=
  .closeIdle id <| .choose fun created =>
    if created then
      .connect config fun connected =>
        if connected then
          .apply config fun applied =>
            if applied then .choose fun _saved => .disconnect <| .releaseGuard id .done
            else .disconnect <| .releaseGuard id .done
        else .releaseGuard id .done
    else .releaseGuard id .done

/-- `POST /switches/{id}/apply`: the configuration is cloned before the wait for the turn. -/
def applyConfig (id : String) : Prog :=
  .readConfig fun switches =>
    match findSwitch id switches with
    | none => .done
    | some config =>
      .spawn (.acquireQueued id (some config) fun got =>
        if got then applyConfigImpl id config else .done) none .done

/-- The loop of `reload_config` over the switches it has just loaded. -/
def acquireAll : List SwitchConfig → List SwitchConfig → (List SwitchConfig → Prog) → Prog
  | [], taken, k => k taken.reverse
  | config :: rest, taken, k =>
    .tryAcquire config.id (some config) fun got =>
      acquireAll rest (if got then config :: taken else taken) k

def spawnAll : List SwitchConfig → Prog
  | [] => .done
  | config :: rest => .spawn (applyConfigImpl config.id config) (some config.id) (spawnAll rest)

/-- `POST /config/reload`. -/
def reloadConfig : Prog :=
  .loadFiles fun loaded =>
    match loaded with
    | none => .done
    | some switches => .writeConfig (fun _ => switches) <| acquireAll switches [] spawnAll

/-- `POST /switches/{id}/reload`: the turn comes first. -/
def reloadSwitchConfig (id : String) : Prog :=
  .tryAcquire id none fun got =>
    if got then
      .loadFiles fun loaded =>
        match loaded.bind (findSwitch id) with
        | none => .done
        | some config =>
          .writeConfig (fun switches => putSwitch config switches) <|
            .spawn (applyConfigImpl id config) (some id) .done
    else .done

/-- `apply_single_switch` of the watcher. -/
def applySingleSwitch (config : SwitchConfig) (k : Prog) : Prog :=
  .choose fun created =>
    if created then
      .connect config fun connected =>
        if connected then
          .apply config fun applied =>
            if applied then .choose fun _saved => .disconnect k else .disconnect k
        else k
    else k

def applySwitchWithPending (config : SwitchConfig) (k : Prog) : Prog :=
  .closeIdle config.id <| applySingleSwitch config <|
    .takePendingReload config.id fun pending =>
      if pending then applySingleSwitch config <| .releaseGuard config.id k
      else .releaseGuard config.id k

def applyAllConfigurations : List SwitchConfig → Prog
  | [] => .done
  | config :: rest =>
    .tryAcquire config.id (some config) fun got =>
      if got then applySwitchWithPending config (applyAllConfigurations rest)
      else .queuePendingReload config.id (applyAllConfigurations rest)

/-- What the file watcher does on an event. -/
def watcherReload : Prog :=
  .loadFiles fun loaded =>
    match loaded with
    | none => .done
    | some switches => .writeConfig (fun _ => switches) <| applyAllConfigurations switches

/-- `fetch_mac_table_live`, `fetch_port_status_live` and `fetch_lookups_live`: a pooled session
under a time limit. -/
def fetchLive (config : SwitchConfig) (k : Prog) : Prog :=
  .deadline k <| .checkout config fun connected =>
    if connected then .choose fun healthy => .endSession healthy <| .inTime k else .inTime k

/-- `get_mac_table` and `get_port_status`: the first choice is an answer without the console
(an error, the cache, SNMP), the second a cache that was filled while waiting. -/
def getLookup (id : String) : Prog :=
  .readConfig fun switches =>
    match findSwitch id switches with
    | none => .done
    | some config =>
      .choose fun answered =>
        if answered then .done
        else .acquireQueued id none fun got =>
          if got then
            .choose fun cached =>
              if cached then .releaseGuard id .done
              else fetchLive config <| .releaseGuard id .done
          else .done

def refreshAll : List SwitchConfig → Prog
  | [] => .done
  | config :: rest =>
    .tryAcquire config.id none fun got =>
      if got then fetchLive config <| .releaseGuard config.id <| refreshAll rest
      else refreshAll rest

/-- `refresh_all_lookups_once`. -/
def refreshAllLookupsOnce : Prog := .readConfig refreshAll

/-- The frame of `poe_set` and `poe_reset`: the checks, then a task that waits for the turn,
checks out a session and runs `commands` on it, which end the session. -/
def poeTask (id : String) (commands : Prog → Prog) : Prog :=
  .readConfig fun switches =>
    match findSwitch id switches with
    | none => .done
    | some config =>
      .choose fun supported =>
        if supported then
          .spawn (.acquireQueued id none fun got =>
            if got then
              .checkout config fun connected =>
                if connected then commands (.releaseGuard id .done) else .releaseGuard id .done
            else .done) none .done
        else .done

def poeSet (id : String) : Prog :=
  poeTask id fun k => .choose fun succeeded => .endSession succeeded k

def poeReset (id : String) : Prog :=
  poeTask id fun k =>
    .choose fun disabled =>
      if disabled then
        .choose fun enabled =>
          if enabled then .endSession true k else .choose fun retried => .endSession retried k
      else .endSession false k

/-- `GET /switches/{id}/config`: it looks whether the switch is busy, but takes no turn. -/
def getConfig (id : String) : Prog :=
  .readConfig fun switches =>
    match findSwitch id switches with
    | none => .done
    | some config =>
      .isSwitchBusy id fun busy =>
        if busy then .done
        else .closeIdle id <| .choose fun created =>
          if created then
            .connect config fun connected =>
              if connected then
                .choose fun read =>
                  if read then .choose fun _parsed => .disconnect .done else .disconnect .done
              else .done
          else .done

/-- `preview_diff`: without a `current_state` in the request it reads the switch's own. -/
def previewDiff (id : String) (currentState : Bool) : Prog :=
  .readConfig fun switches =>
    match findSwitch id switches with
    | none => .done
    | some config =>
      if currentState then .done
      else .closeIdle id <| .choose fun created =>
        if created then
          .connect config fun connected =>
            if connected then .choose fun parsed => if parsed then .disconnect .done else .done
            else .done
        else .done

/-- `PUT` and `PATCH /switches/{id}/desired-config`: the new entry of the switch is made from
the old one, or the request is rejected. -/
def updateSwitch (id : String) (f : Option SwitchConfig → Option SwitchConfig) : Prog :=
  .writeConfig (fun switches =>
    match f (findSwitch id switches) with
    | some config => putSwitch { config with id } switches
    | none => switches) .done

/-- `DELETE /switches/{id}/config`. -/
def deleteSwitch (id : String) : Prog :=
  .writeConfig (fun switches => switches.filter (·.id ≠ id)) .done

end Prog

/-- What can start a task. -/
inductive Request where
  | applyConfig (id : String)
  | reloadConfig
  | reloadSwitchConfig (id : String)
  | fileChanged
  | refresh
  | poeSet (id : String)
  | poeReset (id : String)
  | getLookup (id : String)
  | getConfig (id : String)
  | previewDiff (id : String) (currentState : Bool)
  | updateSwitch (id : String) (f : Option SwitchConfig → Option SwitchConfig)
  | deleteSwitch (id : String)

def Request.handler : Request → Handler
  | .applyConfig _ => .applyConfig
  | .reloadConfig => .reloadConfig
  | .reloadSwitchConfig _ => .reloadSwitchConfig
  | .fileChanged => .watcher
  | .refresh => .refresher
  | .poeSet _ | .poeReset _ => .poe
  | .getLookup _ => .lookup
  | .getConfig _ => .getConfig
  | .previewDiff _ _ => .previewDiff
  | .updateSwitch _ _ | .deleteSwitch _ => .updateConfig

def Request.prog : Request → Prog
  | .applyConfig id => .applyConfig id
  | .reloadConfig => .reloadConfig
  | .reloadSwitchConfig id => .reloadSwitchConfig id
  | .fileChanged => .watcherReload
  | .refresh => .refreshAllLookupsOnce
  | .poeSet id => .poeSet id
  | .poeReset id => .poeReset id
  | .getLookup id => .getLookup id
  | .getConfig id => .getConfig id
  | .previewDiff id currentState => .previewDiff id currentState
  | .updateSwitch id f => .updateSwitch id f
  | .deleteSwitch id => .deleteSwitch id

/-- The whole service. The watcher works on one event at a time. -/
def service (hash : ConnectionKey → UInt64) (initial : List SwitchConfig) :
    TaskSystem World Task Request Event where
  init := { history := fun _ => initial }
  admits _ tasks r := r.handler ≠ .watcher ∨ ∀ t ∈ tasks, t.handler ≠ .watcher
  start w r := { handler := r.handler, prog := r.prog, requested := w.version }
  advance w t e := advance w t hash e

end SwitchConfigurator.Service
