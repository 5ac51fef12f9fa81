import SwitchConfigurator.Vendors.PreviewSections

/-!
# Previews for a Cisco switch

The preview is what is sent where no port has to leave a VLAN first, none is made a mirror
destination or reset, SNMP is new as a whole and no known VLAN becomes the management VLAN.
-/

namespace SwitchConfigurator.Cisco

open Diff

section Foretold

variable {config : SwitchConfig} {current : SwitchState} {diff : StateDiff}
variable {desired : Option SnmpConfig}

end Foretold

end SwitchConfigurator.Cisco
