import SwitchConfigurator.Models
import SwitchConfigurator.Vendors.Capabilities
import Mathlib.Data.List.Lex
import Mathlib.Data.List.Sort

/-!
# Edits of a draft

The handlers of `routes/edit.rs` in the editor, as functions from a draft to its new `edited`
configuration, and the parsers of their forms. `none` is an answer that writes nothing back.
-/

namespace SwitchConfigurator.Ui

structure SwitchDraft where
  switchId : String
  original : SwitchConfig
  edited : SwitchConfig
  vlanSources : List (ℕ × String) := []
  portSources : List (String × String) := []
  deriving DecidableEq, Repr

/-! ## Form values -/

def parseIpConfig : String → VlanIpConfig
  | "dhcp" => .dhcp
  | _ => .none

def parseSnmpAccess : String → SnmpAccess
  | "manager" => .manager
  | _ => .operator

def parseSpeedDuplex : String → SpeedDuplex
  | "10-half" => .tenHalf
  | "10-full" => .tenFull
  | "100-half" => .hundredHalf
  | "100-full" => .hundredFull
  | "1000-full" => .thousandFull
  | "10g-full" => .tenGFull
  | _ => .auto

/-- The numbers in a port id, which its rows are sorted by. -/
def portNumbers (portId : String) : List ℕ :=
  ((portId.toList.splitOnP fun c => !c.isDigit).filter (· ≠ [])).map fun digits =>
    (parseUint 32 digits).getD (2 ^ 32 - 1)

/-- `natural_sort`, as an order. -/
def naturalLe (a b : Port) : Prop := portNumbers a.portId ≤ portNumbers b.portId

instance : DecidableRel naturalLe := fun a b =>
  inferInstanceAs (Decidable (portNumbers a.portId ≤ portNumbers b.portId))

/-- `sort_by` with `natural_sort`, which is stable. -/
def sortPorts (ports : List Port) : List Port := ports.insertionSort naturalLe

structure PortForm where
  portId : String
  vlan : ℕ
  taggedVlans : List ℕ := []
  description : String := ""
  enabled : Option String := none
  poeEnabled : Option String := none
  speedDuplex : String := ""
  deriving DecidableEq, Repr

def formToPort (form : PortForm) : Port where
  portId := form.portId
  mode := if form.taggedVlans.isEmpty then .access else .trunk
  vlan := form.vlan
  taggedVlans := form.taggedVlans
  description := if form.description.isEmpty then none else some form.description
  enabled := form.enabled.isSome
  poeEnabled := form.poeEnabled.isSome
  macNotify := false
  speedDuplex := parseSpeedDuplex form.speedDuplex

/-- `str::rsplit_once`. -/
def rsplitOnce (sep : Char) (s : List Char) : Option (List Char × List Char) :=
  match s with
  | [] => none
  | c :: rest =>
    match rsplitOnce sep rest with
    | some (before, after) => some (c :: before, after)
    | none => if c = sep then some ([], rest) else none

/-- The row and the field that a key names. -/
def rowField (key : String) : Option (ℕ × String) := do
  let (field, idx) ← rsplitOnce '.' key.toList
  let i ← parseUint 64 idx
  some (i, String.ofList field)

/-- The pairs with a key that names a row. -/
def rowEntries (pairs : List (String × String)) : List (ℕ × String × String) :=
  pairs.filterMap fun pair => (rowField pair.1).map fun (i, field) => (i, field, pair.2)

/-- The values of a field in a row, in the order they were submitted. -/
def fieldValues (entries : List (ℕ × String × String)) (i : ℕ) (field : String) : List String :=
  (entries.filter fun entry => entry.1 = i ∧ entry.2.1 = field).map fun entry => entry.2.2

/-- One row of the form for all ports, unless it has no port id. -/
def parseRow (existing : List Port) (values : String → List String) : Option Port :=
  match (values "port_id").getLast? with
  | none => none
  | some portId =>
    if (trim portId.toList).isEmpty then none
    else
      let tagged := (values "tagged_vlans").filterMap fun v => parseUint 16 v.toList
      let vlan := (((values "vlan").getLast?).bind fun v => parseUint 16 v.toList).getD 1
      let description := ((values "description").getLast?).getD ""
      let macNotify := ((existing.find? (·.portId = portId)).map Port.macNotify).getD false
      some
        { portId
          mode := if tagged.isEmpty then .access else .trunk
          vlan
          taggedVlans := tagged
          description := if description.isEmpty then none else some description
          enabled := !(values "enabled").isEmpty
          poeEnabled := !(values "poe_enabled").isEmpty
          macNotify
          speedDuplex := parseSpeedDuplex (((values "speed_duplex").getLast?).getD "auto") }

/-- `parse_ports_bulk`: the rows in the order of their numbers, then sorted. -/
def parsePortsBulk (pairs : List (String × String)) (existing : List Port) : List Port :=
  let entries := rowEntries pairs
  let rows := ((entries.map Prod.fst).dedup).insertionSort (· ≤ ·)
  sortPorts (rows.filterMap fun i => parseRow existing (fieldValues entries i))

structure MirrorForm where
  sessionId : String
  sourcePorts : String
  destinationPort : String
  direction : String
  deriving DecidableEq, Repr

def formToMirror (form : MirrorForm) : PortMirror where
  sessionId := form.sessionId
  sourcePorts := ((form.sourcePorts.toList.splitOn ',').map fun s => String.ofList (trim s)).filter
    fun s => !s.isEmpty
  destinationPort := form.destinationPort
  direction := match form.direction with
    | "rx" => .rx
    | "tx" => .tx
    | _ => .both

/-! ## The handlers -/

/-- The request of a handler that edits a draft. -/
inductive Edit where
  | updateVlan (vlanId : ℕ) (name ipConfig : String)
  | addVlan (id : ℕ) (name ipConfig : String)
  | removeVlan (vlanId : ℕ)
  | addPort (form : PortForm)
  | updatePorts (pairs : List (String × String))
  | removePort (portId : String)
  | addMirror (form : MirrorForm)
  | updateMirror (sessionId : String) (form : MirrorForm)
  | removeMirror (sessionId : String)
  | addSnmpCommunity (name access : String)
  | removeSnmpCommunity (name : String)
  | addSnmpTrapReceiver (host community version : String)
  | removeSnmpTrapReceiver (host : String)
  | updateSnmpTraps (macNotify linkChange : Option String)
  deriving DecidableEq, Repr

/-- `is_main_config_source`. -/
def isMainConfigSource (source : Option String) (mainConfigPath : String) : Bool :=
  (source.map (· == mainConfigPath)).getD false

/-- Replace the first entry that `p` holds of. -/
def updateFirst {α : Type} (p : α → Bool) (f : α → α) : List α → List α
  | [] => []
  | a :: rest => if p a then f a :: rest else a :: updateFirst p f rest

def portsReferencingVlan (ports : List Port) (vlanId : ℕ) : List String :=
  (ports.filter fun p => p.vlan == vlanId || p.taggedVlans.contains vlanId).map Port.portId

def updateVlan (vlanId : ℕ) (name ipConfig : String) (mainConfig : String) (draft : SwitchDraft) :
    Option SwitchConfig :=
  if isMainConfigSource (draft.vlanSources.lookup vlanId) mainConfig then none
  else
    some
      { draft.edited with
        vlans := updateFirst (·.id == vlanId)
          (fun vlan => { vlan with name, ipConfig := parseIpConfig ipConfig }) draft.edited.vlans }

def addVlan (id : ℕ) (name ipConfig : String) (draft : SwitchDraft) : SwitchConfig :=
  let edited := draft.edited
  if edited.vlans.any (·.id == id) then edited
  else
    let vlan : Vlan := { id, name, ipConfig := parseIpConfig ipConfig }
    { edited with vlans := (edited.vlans ++ [vlan]).insertionSort fun a b => a.id ≤ b.id }

def removeVlan (vlanId : ℕ) (mainConfig : String) (draft : SwitchDraft) : Option SwitchConfig :=
  if isMainConfigSource (draft.vlanSources.lookup vlanId) mainConfig then none
  else if !(portsReferencingVlan draft.edited.ports vlanId).isEmpty then none
  else some { draft.edited with vlans := draft.edited.vlans.filter (·.id != vlanId) }

def addPort (form : PortForm) (draft : SwitchDraft) : SwitchConfig :=
  let edited := draft.edited
  if edited.ports.any (·.portId == form.portId) then edited
  else { edited with ports := sortPorts (edited.ports ++ [formToPort form]) }

def updatePorts (pairs : List (String × String)) (draft : SwitchDraft) : SwitchConfig :=
  { draft.edited with ports := parsePortsBulk pairs draft.edited.ports }

def removePort (portId : String) (draft : SwitchDraft) : SwitchConfig :=
  { draft.edited with ports := draft.edited.ports.filter (·.portId != portId) }

def addMirror (form : MirrorForm) (draft : SwitchDraft) : SwitchConfig :=
  let edited := draft.edited
  if edited.portMirrors.any (·.sessionId == form.sessionId) then edited
  else { edited with portMirrors := edited.portMirrors ++ [formToMirror form] }

def updateMirror (sessionId : String) (form : MirrorForm) (draft : SwitchDraft) : SwitchConfig :=
  { draft.edited with
    portMirrors := updateFirst (·.sessionId == sessionId) (fun _ => formToMirror form)
      draft.edited.portMirrors }

def removeMirror (sessionId : String) (draft : SwitchDraft) : SwitchConfig :=
  { draft.edited with
    portMirrors := draft.edited.portMirrors.filter (·.sessionId != sessionId) }

def addSnmpCommunity (name access : String) (draft : SwitchDraft) : SwitchConfig :=
  let snmp := draft.edited.snmp.getD {}
  { draft.edited with
    snmp := some
      (if snmp.communities.any (·.name == name) then snmp
       else
        { snmp with
          communities := snmp.communities ++ [{ name, access := parseSnmpAccess access }] }) }

def removeSnmpCommunity (name : String) (draft : SwitchDraft) : SwitchConfig :=
  { draft.edited with
    snmp := draft.edited.snmp.map fun snmp =>
      { snmp with communities := snmp.communities.filter (·.name != name) } }

def addSnmpTrapReceiver (host community version : String) (draft : SwitchDraft) : SwitchConfig :=
  let snmp := draft.edited.snmp.getD {}
  { draft.edited with
    snmp := some
      { snmp with
        trapReceivers := snmp.trapReceivers ++ [{ host, community, version := some version }] } }

def removeSnmpTrapReceiver (host : String) (draft : SwitchDraft) : SwitchConfig :=
  { draft.edited with
    snmp := draft.edited.snmp.map fun snmp =>
      { snmp with trapReceivers := snmp.trapReceivers.filter (·.host != host) } }

def updateSnmpTraps (macNotify linkChange : Option String) (draft : SwitchDraft) : SwitchConfig :=
  let snmp := draft.edited.snmp.getD {}
  { draft.edited with
    snmp := some
      { snmp with
        enabledTraps := (if macNotify.isSome then [.macNotify] else [])
          ++ (if linkChange.isSome then [.linkChange] else []) } }

/-- Does the handler ask the service for the path of its main configuration? -/
def Edit.asksForMainConfig : Edit → Bool
  | updateVlan .. | removeVlan .. => true
  | _ => false

/-- What the handler writes back of a draft it has read. -/
def Edit.result (mainConfig : String) (draft : SwitchDraft) : Edit → Option SwitchConfig
  | updateVlan vlanId name ipConfig => Ui.updateVlan vlanId name ipConfig mainConfig draft
  | addVlan id name ipConfig => some (Ui.addVlan id name ipConfig draft)
  | removeVlan vlanId => Ui.removeVlan vlanId mainConfig draft
  | addPort form => some (Ui.addPort form draft)
  | updatePorts pairs => some (Ui.updatePorts pairs draft)
  | removePort portId => some (Ui.removePort portId draft)
  | addMirror form => some (Ui.addMirror form draft)
  | updateMirror sessionId form => some (Ui.updateMirror sessionId form draft)
  | removeMirror sessionId => some (Ui.removeMirror sessionId draft)
  | addSnmpCommunity name access => some (Ui.addSnmpCommunity name access draft)
  | removeSnmpCommunity name => some (Ui.removeSnmpCommunity name draft)
  | addSnmpTrapReceiver host community version =>
    some (Ui.addSnmpTrapReceiver host community version draft)
  | removeSnmpTrapReceiver host => some (Ui.removeSnmpTrapReceiver host draft)
  | updateSnmpTraps macNotify linkChange => some (Ui.updateSnmpTraps macNotify linkChange draft)

end SwitchConfigurator.Ui
