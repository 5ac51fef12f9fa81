import SwitchConfigurator.Diff
import SwitchConfigurator.Vendors.Preview

/-!
# The sections of a preview

A preview is made by a switch object that has read nothing, and has no section for some of what an
apply does. Here is what the vendors have in common of when a section is what is sent.
-/

namespace SwitchConfigurator

open Diff

/-! ## Fields of a computed diff -/

section Computed

variable {current : SwitchState} {desired : SwitchConfig} {enforce : Bool}

end Computed

/-! ## Sections that are alike -/

section Terminated

variable {α β : Type} [DecidableEq α] {last : α} {f g : β → List α}

end Terminated

section Lists

variable {α β : Type} {l : List β} {commands : List β → List α} {rest : List α}

end Lists

/-! ## VLANs that go -/

section Steps

variable {α : Type} {diff : StateDiff}

section Snmp

variable {desired : Option SnmpConfig} {granular : SnmpStateDiff → Except VendorError (List α)}
variable {full : SnmpConfig → Except VendorError (List α)} {generate : SnmpConfig → List α}

end Snmp

end Steps

end SwitchConfigurator
