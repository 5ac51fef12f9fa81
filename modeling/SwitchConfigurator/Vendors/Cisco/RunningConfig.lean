import SwitchConfigurator.Vendors.Text

/-!
# The running config of a Cisco switch

`parse_current_state` of `vendors/cisco.rs` takes the management VLAN from the text and leaves
everything else empty.
-/

namespace SwitchConfigurator.Cisco

/-- The variables of the loop. -/
structure ManagementReader where
  inInterfaceVlan : Bool := false
  currentVlanId : Option ℕ := none
  hasIpAddress : Bool := false

namespace ManagementReader

/-- A line of a VLAN interface; an early return is an error. -/
def interfaceLine (reader : ManagementReader) (trimmed : List Char) :
    Except (Option ℕ) ManagementReader :=
  if (stripPrefix "ip address" trimmed).isSome && !("dhcp".toList <:+: trimmed : Bool) then
    .ok { reader with hasIpAddress := true }
  else if trimmed = "ip address dhcp".toList then .ok { reader with hasIpAddress := true }
  else if (stripPrefix "interface " trimmed).isSome || (stripPrefix "!" trimmed).isSome then
    if reader.hasIpAddress && reader.currentVlanId.isSome then .error reader.currentVlanId
    else .ok {}
  else .ok reader

/-- One line, already trimmed. -/
def step (reader : ManagementReader) (trimmed : List Char) :
    Except (Option ℕ) ManagementReader :=
  match stripPrefix "interface Vlan" trimmed with
  | some rest =>
    match (splitWhitespace rest).head?.bind (parseUint 16) with
    | some vlanId => .ok { inInterfaceVlan := true, currentVlanId := some vlanId }
    | none => .ok reader
  | none => if reader.inInterfaceVlan then reader.interfaceLine trimmed else .ok reader

/-- What is returned behind the last line. -/
def atEnd (reader : ManagementReader) : Option ℕ :=
  if reader.inInterfaceVlan && reader.hasIpAddress then reader.currentVlanId else none

end ManagementReader

def parseManagementVlan (lines : List (List Char)) : Option ℕ :=
  match (lines.map trim).foldlM ManagementReader.step {} with
  | .error found => found
  | .ok reader => reader.atEnd

/-- The hardware check reads the text for itself. -/
def parseCurrentState (hardwareWarnings : List Char → List String) (config : List Char) :
    SwitchState :=
  { vlans := []
    ports := []
    portMirrors := []
    snmp := none
    managementVlan := parseManagementVlan (strLines config)
    warnings := hardwareWarnings config }

end SwitchConfigurator.Cisco
