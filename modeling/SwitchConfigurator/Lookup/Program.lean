import SwitchConfigurator.Foundations.Interleaving
import SwitchConfigurator.Lookup.Cache
import SwitchConfigurator.Service.Handlers

/-!
# What lookups, removals and applies share

The service once more, down to the configuration store, the status records and the two caches.
Sessions, and the order in which several waiters get the turn of a switch, are left open here.
-/

namespace SwitchConfigurator.Lookup

/-- The status record of a switch; model and connection type are shown by their `Debug` text. -/
structure SwitchStatus where
  id : String
  hostname : String
  model : Option SwitchModel
  managementIp : String
  connectionType : Option ConnectionType
  lastApplied : Option ℤ := none
  lastResult : Option String := none
  applyCount : ℕ := 0
  successCount : ℕ := 0
  failureCount : ℕ := 0
  warnings : List String := []
  deriving DecidableEq, Repr

def SwitchStatus.ofConfig (switch : SwitchConfig) : SwitchStatus where
  id := switch.id
  hostname := switch.hostname.getD ""
  model := switch.model
  managementIp := switch.managementIp.getD ""
  connectionType := switch.credentials.map (·.connectionType)

/-- `initialize_switches`: a record for each switch, in the place of the one it has. -/
def initializeSwitches (status : List SwitchStatus) (switches : List SwitchConfig) :
    List SwitchStatus :=
  Keyed.upsertAll SwitchStatus.id status (switches.map .ofConfig)

/-- What is reported of an apply. -/
structure Report where
  now : ℤ
  error : String
  warnings : List String

/-- `record_apply_success`, `record_apply_failure` and `record_warnings`. -/
inductive Change where
  | applySuccess
  | applyFailure
  | warnings
  deriving DecidableEq, Repr

def Change.apply (report : Report) (status : SwitchStatus) : Change → SwitchStatus
  | applySuccess => { status with
      lastApplied := some report.now
      lastResult := some "success"
      applyCount := status.applyCount + 1
      successCount := status.successCount + 1 }
  | applyFailure => { status with
      lastApplied := some report.now
      lastResult := some ("failed: " ++ report.error)
      applyCount := status.applyCount + 1
      failureCount := status.failureCount + 1 }
  | warnings => { status with warnings := report.warnings }

/-- `get_mut`: only a record that is there is changed. -/
def recordChange (status : List SwitchStatus) (id : String) (change : Change) (report : Report) :
    List SwitchStatus :=
  status.map fun record => if record.id = id then change.apply report record else record

/-- An async function of the service. -/
inductive Prog where
  | done
  /-- Something that the state kept here does not decide. -/
  | choose (k : Bool → Prog)
  | loadFiles (k : Option (List SwitchConfig) → Prog)
  | readConfig (k : List SwitchConfig → Prog)
  /-- Replace the configuration under its write lock; what follows may look at the old one. -/
  | writeConfig (f : List SwitchConfig → List SwitchConfig) (k : List SwitchConfig → Prog)
  | initializeSwitches (switches : List SwitchConfig) (k : Prog)
  | record (id : String) (change : Change) (k : Prog)
  | retainCached (kind : Kind) (keep : String → Bool) (k : Prog)
  /-- `try_acquire_configuring` and `acquire_configuring_queued`. -/
  | acquire (id : String) (k : Bool → Prog)
  | release (id : String) (k : Prog)
  /-- Respond from the cache if it has a fresh entry. -/
  | answerCached (kind : Kind) (id : String) (query : Query) (k : Bool → Prog)
  /-- The switch is asked, over its console or over SNMP. -/
  | fetch (kind : Kind) (id : String) (k : Bool → Prog)
  /-- What was read is dropped: the time limit has passed. -/
  | giveUp (k : Prog)
  /-- `fetched_at` and `generation_id` of what was read. -/
  | stamp (kind : Kind) (k : Prog)
  | insert (kind : Kind) (k : Prog)
  /-- Respond with what was read. -/
  | respond (kind : Kind) (query : Query) (source : String) (fellBack : Bool) (k : Prog)
  | spawn (p : Prog) (guard : Option String) (k : Prog)

/-- Was a reading taken in the turn of its switch, and has its reader had the turn since? The code
keeps no such flag. -/
inductive Turn where
  | without
  | held
  | released
  deriving DecidableEq, Repr

/-- What a task has read of a switch, in its local variables. -/
structure Reading (kind : Kind) where
  switchId : String
  data : Data kind
  takenAt : ℕ
  turn : Turn
  stamp : Option (ℤ × String) := none
  stored : Bool := false

namespace Reading

variable {kind : Kind} (reading : Reading kind)

/-- The cache entry that is made of it. -/
def entry : Option (Stored kind) :=
  reading.stamp.map fun stamp =>
    ⟨reading.switchId, ⟨reading.data, stamp.1, stamp.2⟩, reading.takenAt⟩

/-- The reader gives the turn of a switch away. -/
def lose (id : String) : Reading kind :=
  if reading.switchId = id ∧ reading.turn = .held then { reading with turn := .released }
  else reading

end Reading

/-- A task, with the guards it owns and what it has read. -/
structure Task where
  watcher : Bool := false
  prog : Prog
  guards : List String := []
  readings : (kind : Kind) → Option (Reading kind) := fun _ => none

/-- What the tasks share. The last three fields are a record of what happened. -/
structure World where
  config : List SwitchConfig
  status : List SwitchStatus
  caches : Caches := fun _ => []
  held : Finset String := ∅
  served : List Response := []
  readings : ℕ := 0
  /-- The newest reading that was put into a cache. -/
  newest : Kind → String → ℕ := fun _ _ => 0
  /-- All cache entries that were made; a UUID is never drawn twice. -/
  made : List ((kind : Kind) × Cached kind) := []

namespace World

variable (w : World)

def ids : List String := w.config.map SwitchConfig.id

/-- The records that `GET /status` shows. -/
def getStatus : List SwitchStatus := w.status

def cached (kind : Kind) (id : String) : Option (Stored kind) := w.caches.get kind id

def uuids : List String := w.made.map fun entry => entry.2.generationId

def store {kind : Kind} (entry : Stored kind) : World :=
  { w with
    caches := w.caches.insert entry
    newest := Function.update w.newest kind (Function.update (w.newest kind) entry.switchId
      (max (w.newest kind entry.switchId) entry.takenAt)) }

def serve (response : Response) : World := { w with served := response :: w.served }

def free (guards : List String) : World := { w with held := w.held \ guards.toFinset }

end World

namespace Task

variable (t : Task) {kind : Kind}

def goTo (p : Prog) : Task := { t with prog := p }

/-- The reading that is still to be put into the cache. -/
def pending (kind : Kind) : Option (Reading kind) := (t.readings kind).filter (!·.stored)

def setReading (reading : Reading kind) : Task :=
  { t with readings := Function.update t.readings kind (some reading) }

def lose (id : String) : Task :=
  { t with
    guards := t.guards.erase id
    readings := fun kind => (t.readings kind).map (·.lose id) }

/-- The guard has moved into another task. -/
def hand (guard : Option String) : Task := guard.elim t t.lose

end Task

/-- What a switch would say to each of the lookups. -/
structure Answer where
  macTable : Data .macTable
  portStatus : Data .portStatus

def Answer.data (answer : Answer) : (kind : Kind) → Data kind
  | .macTable => answer.macTable
  | .portStatus => answer.portStatus

inductive Event where
  | go
  | outcome (b : Bool)
  | loaded (switches : Option (List SwitchConfig))
  | report (report : Report)
  /-- What the switch says, unless it cannot be read. -/
  | answer (answer : Option Answer)
  | clock (now : ℤ)
  /-- `Utc::now()` and `Uuid::new_v4()`. -/
  | drawn (now : ℤ) (uuid : String)
  /-- The task goes away: the client of a request has disconnected, or the task panicked. -/
  | cancel

section

variable (w : World) (t : Task)

/-- The reading that is taken now. -/
def take (kind : Kind) (id : String) (answer : Answer) : Reading kind where
  switchId := id
  data := answer.data kind
  takenAt := w.readings + 1
  turn := if id ∈ t.guards then .held else .without

def liveResponse {kind : Kind} (entry : Stored kind) (query : Query) (source : String)
    (fellBack : Bool) (now : ℤ) : Response where
  switchId := entry.switchId
  headers := cacheHeaders now entry.cached.fetchedAt query.maxAge entry.cached.generationId
  kind
  body := some entry.cached.data
  source := some (source, fellBack)
  takenAt := entry.takenAt

/-- A step of the function itself. -/
def advanceProg : Prog → Event → Option (World × List Task)
  | .done, .go => some (w.free t.guards, [])
  | .choose k, .outcome b => some (w, [t.goTo (k b)])
  | .loadFiles k, .loaded switches => some (w, [t.goTo (k switches)])
  | .readConfig k, .go => some (w, [t.goTo (k w.config)])
  | .writeConfig f k, .go => some ({ w with config := f w.config }, [t.goTo (k w.config)])
  | .initializeSwitches switches k, .go =>
    some ({ w with status := initializeSwitches w.status switches }, [t.goTo k])
  | .record id change k, .report report =>
    some ({ w with status := recordChange w.status id change report }, [t.goTo k])
  | .retainCached kind keep k, .go =>
    some ({ w with caches := w.caches.retain kind keep }, [t.goTo k])
  | .acquire id k, .outcome true =>
    if id ∈ w.held then none
    else some ({ w with held := insert id w.held },
      [{ t with prog := k true, guards := id :: t.guards }])
  | .acquire _ k, .outcome false => some (w, [t.goTo (k false)])
  | .release id k, .go =>
    if id ∈ t.guards then some (w.free [id], [(t.lose id).goTo k]) else none
  | .answerCached kind id query k, .clock now =>
    match cacheResponse w.caches kind id query now with
    | some response => some (w.serve response, [t.goTo (k true)])
    | none => some (w, [t.goTo (k false)])
  | .fetch kind id k, .answer (some answer) =>
    some ({ w with readings := w.readings + 1 },
      [(t.setReading (take w t kind id answer)).goTo (k true)])
  | .fetch _ _ k, .answer none => some (w, [t.goTo (k false)])
  | .giveUp k, .go => some (w, [{ t with prog := k, readings := fun _ => none }])
  | .stamp kind k, .drawn now uuid =>
    (t.pending kind).bind fun reading =>
      if uuid ∈ w.uuids then none
      else some ({ w with made := ⟨kind, ⟨reading.data, now, uuid⟩⟩ :: w.made },
        [(t.setReading { reading with stamp := some (now, uuid) }).goTo k])
  | .insert kind k, .go =>
    (t.pending kind).bind fun reading => reading.entry.map fun entry =>
      (w.store entry, [(t.setReading { reading with stored := true }).goTo k])
  | .respond kind query source fellBack k, .clock now =>
    (t.readings kind).bind fun reading => reading.entry.map fun entry =>
      (w.serve (liveResponse entry query source fellBack now), [t.goTo k])
  | .spawn p guard k, .go =>
    if ∀ id ∈ guard, id ∈ t.guards then
      some (w, [(t.hand guard).goTo k, { prog := p, guards := guard.toList }])
    else none
  | _, _ => none

/-- One atomic step of a task. The loop of the file watcher is not cancelled. -/
def advance : Event → Option (World × List Task)
  | .cancel => if t.watcher then none else some (w.free t.guards, [])
  | e => advanceProg w t t.prog e

end

/-! ## The functions of the service -/

namespace Prog

open Service (findSwitch putSwitch)

/-- `HashMap::remove`. -/
def removeCached (kind : Kind) (id : String) (k : Prog) : Prog :=
  .retainCached kind (· ≠ id) k

/-- What `apply_config_impl` does once it has the guard. -/
def applyConfigImpl (id : String) : Prog :=
  let failed := .record id .applyFailure <| .release id .done
  .choose fun created =>
    if created then
      .choose fun connected =>
        if connected then
          .choose fun applied =>
            if applied then
              .record id .warnings <| .record id .applySuccess <| .release id .done
            else failed
        else failed
    else failed

def applyConfig (id : String) : Prog :=
  .readConfig fun switches =>
    match findSwitch id switches with
    | none => .done
    | some _ =>
      .spawn (.acquire id fun got =>
        if got then applyConfigImpl id else .record id .applyFailure .done) none .done

def acquireAll : List SwitchConfig → List String → (List String → Prog) → Prog
  | [], taken, k => k taken.reverse
  | config :: rest, taken, k =>
    .acquire config.id fun got => acquireAll rest (if got then config.id :: taken else taken) k

def spawnAll : List String → Prog
  | [] => .done
  | id :: rest => .spawn (applyConfigImpl id) (some id) (spawnAll rest)

/-- `reload_config`: both caches lose what is not in the files any more. -/
def reloadConfig : Prog :=
  .loadFiles fun loaded =>
    match loaded with
    | none => .done
    | some switches =>
      let live := fun id => decide (id ∈ switches.map SwitchConfig.id)
      .writeConfig (fun _ => switches) fun _ =>
        .initializeSwitches switches <| .retainCached .macTable live <|
          .retainCached .portStatus live <| acquireAll switches [] spawnAll

def reloadSwitchConfig (id : String) : Prog :=
  .acquire id fun got =>
    if got then
      .loadFiles fun loaded =>
        match loaded.bind (findSwitch id) with
        | none => .done
        | some config =>
          .writeConfig (fun switches => putSwitch config switches) fun _ =>
            .initializeSwitches [config] <| .spawn (applyConfigImpl id) (some id) .done
    else .done

/-- `apply_single_switch` and what is recorded of it. -/
def applySingleSwitch (id : String) (k : Prog) : Prog :=
  .choose fun succeeded =>
    if succeeded then .record id .warnings <| .record id .applySuccess k
    else .record id .applyFailure k

def applySwitchWithPending (id : String) (k : Prog) : Prog :=
  applySingleSwitch id <| .choose fun pending =>
    if pending then applySingleSwitch id (.release id k) else .release id k

def applyAllConfigurations : List SwitchConfig → Prog
  | [] => .done
  | config :: rest =>
    .acquire config.id fun got =>
      if got then applySwitchWithPending config.id (applyAllConfigurations rest)
      else applyAllConfigurations rest

/-- What the file watcher does on an event: no cache is touched. -/
def watcherReload : Prog :=
  .loadFiles fun loaded =>
    match loaded with
    | none => .done
    | some switches =>
      .writeConfig (fun _ => switches) fun _ =>
        .initializeSwitches switches <| applyAllConfigurations switches

/-- One lookup under a time limit: `fetch_mac_table_live` and `fetch_port_status_live`. -/
def fetchLive (kind : Kind) (id : String) (k : Bool → Prog) : Prog :=
  .choose fun connected =>
    if connected then
      .fetch kind id fun ok => .choose fun inTime => if inTime then k ok else .giveUp (k false)
    else k false

/-- Both lookups in one session, the second only when it is asked for, under one time limit. -/
def fetchLookupsLive (id : String) (withPortStatus : Bool) (k : Bool → Bool → Prog) : Prog :=
  .choose fun connected =>
    if connected then
      .fetch .macTable id fun macTable =>
        let ended (portStatus : Bool) : Prog :=
          .choose fun inTime =>
            if inTime then k macTable portStatus else .giveUp (k false false)
        if withPortStatus then .fetch .portStatus id ended else ended false
    else k false false

/-- Put what was read into its cache. The refresher stamps it under the lock of the cache; as a
stamp depends on no other task, it is a step of its own here too. -/
def save (kind : Kind) (ok : Bool) (k : Prog) : Prog :=
  if ok then .stamp kind <| .insert kind k else k

/-- The cache answers unless the caller wants a live answer. -/
def unlessCached (kind : Kind) (id : String) (query : Query) (hit k : Prog) : Prog :=
  if query.fresh then k
  else .answerCached kind id query fun served => if served then hit else k

/-- A live answer: it is stamped, put into the cache and sent. -/
def answerLive (kind : Kind) (query : Query) (source : String) (fellBack : Bool) : Prog :=
  .stamp kind <| .insert kind <| .respond kind query source fellBack .done

/-- The console's part of both handlers. The turn is released before the answer is stamped and
put into the cache. -/
def lookupOverConsole (kind : Kind) (id : String) (query : Query) (fellBack : Bool) : Prog :=
  .acquire id fun got =>
    if got then
      unlessCached kind id query (.release id .done) <|
        fetchLive kind id fun ok =>
          .release id <| if ok then answerLive kind query "console" fellBack else .done
    else .done

/-- `GET /switches/{id}/mac-table`. What is read over SNMP on request neither comes from the
cache nor gets there. -/
def getMacTable (id : String) (query : Query) : Prog :=
  .readConfig fun switches =>
    match (findSwitch id switches).bind (·.model) with
    | none => .done
    | some _ =>
      if query.source = .snmp then .done
      else
        unlessCached .macTable id query .done <| lookupOverConsole .macTable id query false

/-- `GET /switches/{id}/port-status`: over SNMP first, which needs no turn. -/
def getPortStatus (id : String) (query : Query) : Prog :=
  .readConfig fun switches =>
    match findSwitch id switches with
    | none => .done
    | some config =>
      if config.model.map SwitchModel.vendor ≠ some .fortiswitch then .done
      else
        let live :=
          if query.source = .console then lookupOverConsole .portStatus id query false
          else if (targetFor config).isSome then
            .fetch .portStatus id fun ok =>
              if ok then answerLive .portStatus query "snmp" false
              else if query.source = .snmp then .done
              else lookupOverConsole .portStatus id query true
          else if query.source = .snmp then .done
          else lookupOverConsole .portStatus id query false
        if query.source = .snmp then live else unlessCached .portStatus id query .done live

/-- The body of the loop in `refresh_all_lookups_once`: all is stored before the turn ends. -/
def refreshSwitch (config : SwitchConfig) (k : Prog) : Prog :=
  let overConsole (withPortStatus : Bool) : Prog :=
    fetchLookupsLive config.id withPortStatus fun macTable portStatus =>
      save .macTable macTable <| save .portStatus portStatus <| .release config.id k
  if config.model.map SwitchModel.vendor = some .fortiswitch then
    if (targetFor config).isSome then
      .fetch .portStatus config.id fun ok => save .portStatus ok <| overConsole (!ok)
    else overConsole true
  else overConsole false

def refreshAll : List SwitchConfig → Prog
  | [] => .done
  | config :: rest =>
    .acquire config.id fun got =>
      if got then refreshSwitch config (refreshAll rest) else refreshAll rest

/-- `refresh_all_lookups_once`. -/
def refreshAllLookupsOnce : Prog :=
  .readConfig fun switches => refreshAll (switches.filter (·.model.isSome))

/-- `poe_reset`, `poe_on` and `poe_off` need the turn, and nothing else that is kept here. -/
def poe (id : String) : Prog :=
  .readConfig fun switches =>
    match findSwitch id switches with
    | none => .done
    | some _ =>
      .spawn (.acquire id fun got => if got then .release id .done else .done) none .done

/-- `PUT` and `PATCH /switches/{id}/desired-config`: the new entry of the switch is made from
the old one, or the request is rejected. -/
def updateSwitch (id : String) (f : Option SwitchConfig → Option SwitchConfig) : Prog :=
  .writeConfig (fun switches =>
    match f (findSwitch id switches) with
    | some config => putSwitch { config with id } switches
    | none => switches) fun _ => .done

/-- `DELETE /switches/{id}/config`: the caches are cleared if there was such a switch, the status
record stays. -/
def deleteSwitch (id : String) : Prog :=
  .writeConfig (fun switches => switches.filter (·.id ≠ id)) fun switches =>
    if (switches.filter (·.id ≠ id)).length < switches.length then
      removeCached .macTable id <| removeCached .portStatus id .done
    else .done

end Prog

/-- What can start a task. -/
inductive Request where
  | applyConfig (id : String)
  | reloadConfig
  | reloadSwitchConfig (id : String)
  | fileChanged
  | refresh
  | poe (id : String)
  | getMacTable (id : String) (query : Query)
  | getPortStatus (id : String) (query : Query)
  | updateSwitch (id : String) (f : Option SwitchConfig → Option SwitchConfig)
  | deleteSwitch (id : String)

def Request.isFileChanged : Request → Bool
  | .fileChanged => true
  | _ => false

def Request.prog : Request → Prog
  | .applyConfig id => .applyConfig id
  | .reloadConfig => .reloadConfig
  | .reloadSwitchConfig id => .reloadSwitchConfig id
  | .fileChanged => .watcherReload
  | .refresh => .refreshAllLookupsOnce
  | .poe id => .poe id
  | .getMacTable id query => .getMacTable id query
  | .getPortStatus id query => .getPortStatus id query
  | .updateSwitch id f => .updateSwitch id f
  | .deleteSwitch id => .deleteSwitch id

/-- The whole service, which starts with a status record for each switch. The watcher works on
one event at a time. -/
def lookups (initial : List SwitchConfig) : TaskSystem World Task Request Event where
  init := { config := initial, status := initializeSwitches [] initial }
  admits _ tasks r := !r.isFileChanged || tasks.all (!·.watcher)
  start _ r := { watcher := r.isFileChanged, prog := r.prog }
  advance := advance

/-! ## The steps of a lookup -/

def anAnswer : Answer where
  macTable := ⟨[⟨"00:00:5e:00:53:01", some 10, "1"⟩], ""⟩
  portStatus := ⟨[], ""⟩

/-- A live lookup of a MAC table, the newest task, up to the release of the turn. -/
def macTableIsRead (id : String) : List (TaskLabel Request Event) :=
  [.arrive (.getMacTable id { fresh := true }), .go 0 .go, .go 0 (.outcome true),
    .go 0 (.outcome true), .go 0 (.answer (some anAnswer)), .go 0 (.outcome true), .go 0 .go]

/-- What was read is stamped, stored and sent. -/
def macTableIsStored (uuid : String) : List (TaskLabel Request Event) :=
  [.go 0 (.drawn 0 uuid), .go 0 .go, .go 0 (.clock 0), .go 0 .go]

/-- A lookup is answered from the cache. -/
def macTableIsServed (id : String) : List (TaskLabel Request Event) :=
  [.arrive (.getMacTable id {}), .go 0 .go, .go 0 (.clock 1), .go 0 .go]

end SwitchConfigurator.Lookup
