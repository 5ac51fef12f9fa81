import SwitchConfigurator.Config.Load
import SwitchConfigurator.Foundations.KeyedUpdate
import SwitchConfigurator.TurnGuard

/-!
# Updates of the desired configuration

`set_switch_config` and `patch_switch_config` of `handlers.rs`. Each works under one write
lock on the configuration from its first look at it to its answer, so that the whole of it is
one change of the store. Log lines are left out.
-/

namespace SwitchConfigurator.Api

open Keyed

/-- The status codes of these answers. -/
inductive StatusCode where
  | ok
  | created
  | accepted
  | badRequest
  | notFound
  | conflict
  | internalServerError
  deriving DecidableEq, Repr

def StatusCode.code : StatusCode → ℕ
  | ok => 200
  | created => 201
  | accepted => 202
  | badRequest => 400
  | notFound => 404
  | conflict => 409
  | internalServerError => 500

/-- A member of the JSON object that is answered. -/
inductive JsonValue where
  | text (s : String)
  | texts (l : List String)
  deriving DecidableEq, Repr

structure Answer where
  status : StatusCode
  body : List (String × JsonValue)
  deriving DecidableEq, Repr

/-- An answer that tells the client that its request has failed. -/
def Answer.isError (answer : Answer) : Bool := 400 ≤ answer.status.code

/-- What the handlers use of the `ConfigStore`. -/
structure ConfigStore where
  switches : List SwitchConfig := []
  validationFailures : List SwitchValidationFailure := []
  /-- `get_config_paths`: is there metadata yet, and are there config folders? -/
  configPaths : Option (String × List String) := none
  status : StatusTracker := {}

/-- The store and the answer when a handler is done, and the applies it has spawned. -/
structure Handled where
  store : ConfigStore
  answer : Answer
  spawned : List SwitchConfig := []

/-- A handler that leaves before it has changed anything. -/
def refuse (store : ConfigStore) (status : StatusCode) (body : List (String × JsonValue)) :
    Handled := { store, answer := { status, body } }

def idMismatch (id bodyId : String) : List (String × JsonValue) :=
  [("error", .text s!"ID mismatch: URL parameter '{id}' does not match request body id '{bodyId}'")]

def validationFailed (e : Error) : List (String × JsonValue) :=
  [("error", .text "Configuration validation failed"), ("details", .text e.display)]

/-! ## PUT -/

structure SetSwitchConfigRequest where
  id : Option String := none
  hostname : Option String := none
  model : Option SwitchModel := none
  managementIp : Option String := none
  credentials : Option Credentials := none
  vlans : List Vlan := []
  ports : List Port := []
  portMirrors : List PortMirror := []
  snmp : Option SnmpConfig := none
  managementVlan : Option ℕ := none
  deriving DecidableEq, Repr

namespace SetSwitchConfigRequest

def missing (request : SetSwitchConfigRequest) : List String :=
  (if request.hostname.isNone then ["hostname"] else [])
    ++ (if request.model.isNone then ["model"] else [])
    ++ (if request.managementIp.isNone then ["management_ip"] else [])
    ++ (if request.credentials.isNone then ["credentials"] else [])

/-- The configuration that the request describes, under the id of the URL. -/
def newConfig (id : String) (request : SetSwitchConfigRequest) : SwitchConfig where
  id
  hostname := request.hostname
  model := request.model
  managementIp := request.managementIp
  credentials := request.credentials
  vlans := request.vlans
  ports := request.ports
  portMirrors := request.portMirrors
  snmp := request.snmp
  managementVlan := request.managementVlan

end SetSwitchConfigRequest

/-- `PUT /switches/{id}/desired-config`. -/
def setSwitchConfig (env : Environment) (id : String) (request : SetSwitchConfigRequest)
    (store : ConfigStore) : Handled :=
  match request.id.filter (· ≠ id) with
  | some bodyId => refuse store .badRequest (idMismatch id bodyId)
  | none =>
    let existingIndex := store.switches.findIdx? (·.id = id)
    if existingIndex.isNone && !request.missing.isEmpty then
      let missing := ", ".intercalate request.missing
      refuse store .badRequest [("error", .text s!"New switch '{id}' requires fields: {missing}")]
    else
      match validateSwitchConfig env (request.newConfig id) with
      | (_, .error e) => refuse store .badRequest (validationFailed e)
      | (newConfig, .ok _) =>
        match existingIndex with
        | some i =>
          { store := { store with switches := store.switches.set i newConfig }
            answer :=
              { status := .ok
                body := [("status", .text "ok"), ("message", .text s!"Switch '{id}' config replaced"),
                  ("switch_id", .text id)] } }
        | none =>
          { store := { store with switches := store.switches ++ [newConfig] }
            answer :=
              { status := .created
                body := [("status", .text "ok"), ("message", .text s!"Switch '{id}' created"),
                  ("switch_id", .text id)] } }

/-! ## PATCH -/

structure PatchSwitchConfigRequest where
  id : Option String := none
  hostname : Option String := none
  model : Option SwitchModel := none
  managementIp : Option String := none
  credentials : Option Credentials := none
  vlans : Option (List Vlan) := none
  ports : Option (List Port) := none
  portMirrors : Option (List PortMirror) := none
  snmp : Option SnmpConfig := none
  managementVlan : Option ℕ := none
  deriving DecidableEq, Repr

/-- The edits that the request makes on the stored switch, before it is validated. -/
def PatchSwitchConfigRequest.merge (request : PatchSwitchConfigRequest) (switch : SwitchConfig) :
    SwitchConfig :=
  { switch with
    hostname := request.hostname.or switch.hostname
    model := request.model.or switch.model
    managementIp := request.managementIp.or switch.managementIp
    credentials := request.credentials.or switch.credentials
    managementVlan := request.managementVlan.or switch.managementVlan
    vlans := putAll Vlan.id switch.vlans (request.vlans.getD [])
    -- The key is the text of the port id: a range is not taken apart here.
    ports := putAll Port.portId switch.ports (request.ports.getD [])
    portMirrors := putAll PortMirror.sessionId switch.portMirrors (request.portMirrors.getD [])
    snmp := request.snmp.or switch.snmp }

/-- `PATCH /switches/{id}/desired-config`. -/
def patchSwitchConfig (env : Environment) (id : String) (request : PatchSwitchConfigRequest)
    (store : ConfigStore) : Handled :=
  match request.id.filter (· ≠ id) with
  | some bodyId => refuse store .badRequest (idMismatch id bodyId)
  | none =>
    match store.switches.findFinIdx? (·.id = id) with
    | none =>
      refuse store .notFound
        [("error", .text s!"Switch '{id}' not found. Use PUT to create new switches.")]
    | some switchIndex =>
      let originalSwitch := store.switches[switchIndex]
      let validated := validateSwitchConfig env (request.merge originalSwitch)
      -- The edits and the validation have changed the switch where it is.
      let edited := store.switches.set switchIndex validated.1
      match validated.2 with
      | .error e =>
        { store := { store with switches := edited.set switchIndex originalSwitch }
          answer := { status := .badRequest, body := validationFailed e } }
      | .ok _ =>
        { store := { store with switches := edited }
          answer :=
            { status := .ok
              body := [("status", .text "ok"), ("message", .text s!"Switch '{id}' config updated"),
                ("switch_id", .text id)] } }

end SwitchConfigurator.Api
