import SwitchConfigurator.Ui.Edit

/-!
# The edit pages

What `edit_vlans.html` and `edit_ports.html` show of a draft, and what a browser submits of
their forms when nothing was changed. Labels, notes and the forms that add a row are left out:
they take no part in what an existing row submits. Text is submitted as it was rendered.
-/

namespace SwitchConfigurator.Ui

/-! ## Form controls -/

structure SelectOption where
  value : String
  selected : Bool
  deriving DecidableEq, Repr

/-- A `select`: the last option that is selected, else the first option. -/
def submitSelect (options : List SelectOption) : List String :=
  match (options.filter (·.selected)).getLast? with
  | some option => [option.value]
  | none => (options.head?.map SelectOption.value).toList

/-- A `select multiple`: every option that is selected. -/
def submitMultiple (options : List SelectOption) : List String :=
  (options.filter (·.selected)).map SelectOption.value

def submitCheckbox (checked : Bool) : List String := if checked then ["on"] else []

/-! ## VLANs -/

structure EditableVlan where
  id : ℕ
  name : String
  ipConfig : String
  readOnly : Bool
  deriving DecidableEq, Repr

def ipConfigText : VlanIpConfig → String
  | .none => "none"
  | .dhcp => "dhcp"
  | .static address netmask => s!"{address}/{netmask}"

def buildEditableVlans (vlans : List Vlan) (vlanSources : List (ℕ × String))
    (mainConfigPath : String) : List EditableVlan :=
  vlans.map fun v =>
    { id := v.id
      name := v.name
      ipConfig := ipConfigText v.ipConfig
      readOnly := isMainConfigSource (vlanSources.lookup v.id) mainConfigPath }

namespace EditableVlan

def ipConfigOptions (vlan : EditableVlan) : List SelectOption :=
  ["none", "dhcp"].map fun value => { value, selected := vlan.ipConfig == value }

/-- The form of the row; a row of the main configuration has none. -/
def submit (vlan : EditableVlan) : Option Edit :=
  if vlan.readOnly then none
  else some (.updateVlan vlan.id vlan.name (((submitSelect vlan.ipConfigOptions).getLast?).getD ""))

end EditableVlan

/-! ## Ports -/

structure VlanOption where
  id : ℕ
  name : String
  deriving DecidableEq, Repr

structure TaggedVlanChoice where
  id : ℕ
  name : String
  selected : Bool
  deriving DecidableEq, Repr

structure EditablePort where
  portId : String
  vlan : ℕ
  taggedVlanChoices : List TaggedVlanChoice
  description : String
  enabled : Bool
  poeEnabled : Bool
  speedDuplex : String
  deriving DecidableEq, Repr

def vlanOptions (vlans : List Vlan) : List VlanOption :=
  vlans.map fun v => { id := v.id, name := v.name }

def taggedVlanChoices (vlans : List VlanOption) (tagged : List ℕ) : List TaggedVlanChoice :=
  vlans.map fun v => { id := v.id, name := v.name, selected := tagged.contains v.id }

/-- The `Debug` form of a speed, in lower case. -/
def speedText : SpeedDuplex → String
  | .auto => "auto"
  | .tenHalf => "tenhalf"
  | .tenFull => "tenfull"
  | .hundredHalf => "hundredhalf"
  | .hundredFull => "hundredfull"
  | .thousandFull => "thousandfull"
  | .tenGFull => "tengfull"

def portToEditable (vlans : List VlanOption) (p : Port) : EditablePort where
  portId := p.portId
  vlan := p.vlan
  taggedVlanChoices := taggedVlanChoices vlans p.taggedVlans
  description := p.description.getD ""
  enabled := p.enabled
  poeEnabled := p.poeEnabled
  speedDuplex := speedText p.speedDuplex

namespace EditablePort

def vlanSelect (vlans : List VlanOption) (port : EditablePort) : List SelectOption :=
  vlans.map fun v => { value := toString v.id, selected := v.id == port.vlan }

def taggedSelect (port : EditablePort) : List SelectOption :=
  port.taggedVlanChoices.map fun v => { value := toString v.id, selected := v.selected }

def speedSelect (port : EditablePort) : List SelectOption :=
  ["auto", "10-half", "10-full", "100-half", "100-full", "1000-full"].map fun value =>
    { value, selected := port.speedDuplex == value }

/-- The controls of a row, each with the values that are submitted under its name. -/
def controls (vlans : List VlanOption) (port : EditablePort) : List (String × List String) :=
  [("port_id", [port.portId]),
    ("vlan", submitSelect (port.vlanSelect vlans)),
    ("tagged_vlans", submitMultiple port.taggedSelect),
    ("description", [port.description]),
    ("enabled", submitCheckbox port.enabled),
    ("poe_enabled", submitCheckbox port.poeEnabled),
    ("speed_duplex", submitSelect port.speedSelect)]

end EditablePort

/-- The name of a control in the row of that number. -/
def controlName (field : String) (i : ℕ) : String := s!"{field}.{i}"

/-- What is submitted of the form of all ports. -/
def submitPorts (vlans : List VlanOption) (ports : List EditablePort) : List (String × String) :=
  ports.zipIdx.flatMap fun row => (row.1.controls vlans).flatMap fun control =>
    control.2.map fun value => (controlName control.1 row.2, value)

/-! ## The pages of a draft -/

/-- The forms on the page of the VLANs. -/
def vlanForms (mainConfigPath : String) (draft : SwitchDraft) : List Edit :=
  (buildEditableVlans draft.edited.vlans draft.vlanSources mainConfigPath).filterMap
    EditableVlan.submit

/-- The form on the page of the ports; its rows are sorted. -/
def portsForm (draft : SwitchDraft) : Edit :=
  let vlans := vlanOptions draft.edited.vlans
  .updatePorts (submitPorts vlans ((sortPorts draft.edited.ports).map (portToEditable vlans)))

/-- The draft after a request that nothing else came between. -/
def SwitchDraft.after (mainConfigPath : String) (draft : SwitchDraft) (edit : Edit) : SwitchDraft :=
  match edit.result mainConfigPath draft with
  | some edited => { draft with edited }
  | none => draft

end SwitchConfigurator.Ui
