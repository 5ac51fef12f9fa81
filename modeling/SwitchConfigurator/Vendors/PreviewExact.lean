import SwitchConfigurator.Vendors.Aruba.Preview
import SwitchConfigurator.Vendors.Aruba.RunningConfig
import SwitchConfigurator.Vendors.Cisco.Preview
import SwitchConfigurator.Vendors.Fortiswitch.Preview

/-!
# Previews that foretell an apply

The three vendors together: when what a preview of a computed diff shows, section by section, is
what is sent once the same state has been read.
-/

namespace SwitchConfigurator

open Diff

/-- A switch object as it is when a diff is applied, behind what it has read. -/
inductive ReadSwitch where
  | aruba (config : SwitchConfig) (shownSnmp : Aruba.ShownSnmp)
  | cisco (config : SwitchConfig)
  | fortiswitch (switch : Fortiswitch.FortiswitchSwitch)

namespace ReadSwitch

def config : ReadSwitch → SwitchConfig
  | aruba config _ => config
  | cisco config => config
  | fortiswitch switch => switch.config

end ReadSwitch

end SwitchConfigurator
