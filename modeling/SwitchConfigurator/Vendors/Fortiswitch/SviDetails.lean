import SwitchConfigurator.Vendors.Fortiswitch.SystemInterface

/-!
# The addresses that are read

`parse_svi_details` skips the lines of nested blocks, so what it reports of a VLAN is what the own
lines of its interface say, and of two interfaces of one VLAN the later one counts.
-/

namespace SwitchConfigurator.Fortiswitch

open Cli

/-- What an own line adds to the details. -/
def SviDetails.add (details : SviDetails) (text : List Char) : SviDetails :=
  match stripPrefix "set description " text with
  | some description =>
    { details with description := some (String.ofList (trimQuotes description)) }
  | none =>
    match stripPrefix "set ip " text with
    | some rest =>
      match splitWhitespace rest with
      | [address, netmask] =>
        { details with ipConfig := .static (String.ofList address) (String.ofList netmask) }
      | _ => details
    | none => if text = "set mode dhcp".toList then { details with ipConfig := .dhcp } else details

namespace ShownInterface

def details (interface : ShownInterface) : SviDetails :=
  interface.settings.foldl (fun details setting => details.add setting.text) {}

/-- An interface of a VLAN is stored under the VLAN. -/
def store (interface : ShownInterface) (result : List (ℕ × SviDetails)) :
    List (ℕ × SviDetails) :=
  match interface.vlanId with
  | some vlan => put vlan interface.details result
  | none => result

end ShownInterface

section Details

variable {details : SviDetails} {setting : Setting} {interface : ShownInterface}

end Details

/-! ## The walk -/

namespace SviReader

variable {reader : SviReader} {interface : ShownInterface}

/-- Between interfaces, with what is stored so far. -/
def between (result : List (ℕ × SviDetails)) : SviReader where
  result := result
  inSystemInterface := true
  nestingDepth := 1

section Step

variable {line : ShownLine} {trimmed : List Char}

theorem step_config (hin : reader.inSystemInterface = true) (name : BlockName) :
    reader.step (ShownLine.config name).text =
      { reader with nestingDepth := reader.nestingDepth + 1 } := by
  have hconfig : stripPrefix "config " (ShownLine.config name).text = some name.text := rfl
  rw [step, if_neg (ShownLine.config_ne_table name), hin, hconfig]
  rfl

theorem step_close (hin : reader.inSystemInterface = true) (hdepth : 2 ≤ reader.nestingDepth) :
    reader.step ShownLine.close.text =
      { reader with nestingDepth := reader.nestingDepth - 1 } := by
  have hhead : ShownLine.close.text ≠ "config system interface".toList := by decide
  have hconfig : stripPrefix "config " ShownLine.close.text = none := by decide
  have hword : ShownLine.close.text = "end".toList := rfl
  have hlevel : reader.nestingDepth - 1 ≠ 0 := by omega
  rw [step, if_neg hhead, hin, hconfig, if_neg (by decide), if_neg (by decide),
    if_pos hword, if_neg hlevel]

end Step

/-- In an interface, once its lines have been read. -/
def inside (interface : ShownInterface) (result : List (ℕ × SviDetails)) : SviReader :=
  { between result with
    currentVlanId := interface.vlanId
    current := if interface.vlanId.isNone then {} else interface.details }

section Walk

variable {result : List (ℕ × SviDetails)}

end Walk

end SviReader

section Table

variable {table : InterfaceTable} {raw : List (List Char)}

end Table

end SwitchConfigurator.Fortiswitch
