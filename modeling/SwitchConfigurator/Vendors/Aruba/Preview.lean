import SwitchConfigurator.Vendors.PreviewSections

/-!
# Previews for an Aruba switch

The commands for a port depend on the port as it was last read, which the object that makes a
preview does not have, and on the mirrors, of which it is given the changed ones only.
-/

namespace SwitchConfigurator.Aruba

open Command Diff

/-! ## Ports -/

section Ports

variable {switch switch' : ArubaSwitch} {mirrors mirrors' : List PortMirror} {port : Port}

section Shown

variable {config : SwitchConfig} {current : SwitchState} {diff : StateDiff} {shownSnmp : ShownSnmp}

end Shown

end Ports

/-! ## SNMP -/

section Snmp

variable {snmpDiff : SnmpStateDiff} {snmp : SnmpConfig} {traps traps' : List TrapType}

end Snmp

/-! ## A whole preview -/

section Foretold

variable {config : SwitchConfig} {current : SwitchState} {diff : StateDiff} {shownSnmp : ShownSnmp}
variable {desired : Option SnmpConfig}

end Foretold

end SwitchConfigurator.Aruba
