import SwitchConfigurator.Vendors.Fortiswitch.ManagementStretches
import SwitchConfigurator.Vendors.Fortiswitch.SviDetails

/-!
# The management VLAN that is read

The management VLAN is read by the lines of the interfaces' own levels exactly where, interface by
interface, the lines of all levels are enough for the same interfaces as the own lines, or else the
same VLAN comes up again further on.
-/

namespace SwitchConfigurator.Fortiswitch

open Cli

/-- The lines behind the `edit` of an interface, own and nested ones. -/
def ShownInterface.below (interface : ShownInterface) : List ShownLine :=
  interface.items.flatMap InterfaceItem.lines

def Ending.shown : Ending → List (ShownInterface × List ShownLine)
  | cutInside last unclosed => [(last, last.below ++ Unclosed.lines unclosed)]
  | _ => []

/-- The interfaces, with what follows the `edit` of each of them. -/
def InterfaceTable.shown (table : InterfaceTable) : List (ShownInterface × List ShownLine) :=
  table.closed.map (fun interface => (interface, interface.below ++ [.next])) ++
    table.ending.shown

/-- The VLANs that an interface gives to a reader of all levels: its own one, and those of entries
of nested blocks that have the name of a VLAN. -/
def givenBy (shown : ShownInterface × List ShownLine) : List ℕ :=
  given (.edit shown.1.key :: shown.2)

section Levels

variable {lines rest : List ShownLine} {interface : ShownInterface} {vlan : ℕ}

/-- Lines suffice or not by the first `next`. -/
theorem suffices_append_next :
    Suffices (lines ++ ShownLine.next :: rest) = Suffices (lines ++ [ShownLine.next]) := by
  have htake : (lines ++ ShownLine.next :: rest).takeWhile ShownLine.GoesOn =
      (lines ++ [ShownLine.next]).takeWhile ShownLine.GoesOn := by
    induction lines with
    | nil => rfl
    | cons line lines ih =>
      rw [List.cons_append, List.cons_append, List.takeWhile_cons, List.takeWhile_cons, ih]
  have hdrop : ((lines ++ ShownLine.next :: rest).dropWhile ShownLine.GoesOn).head? =
      ((lines ++ [ShownLine.next]).dropWhile ShownLine.GoesOn).head? := by
    clear htake
    induction lines with
    | nil => rfl
    | cons line lines ih =>
      rw [List.cons_append, List.cons_append, List.dropWhile_cons, List.dropWhile_cons]
      split
      · exact ih
      · rfl
  rw [Suffices, Suffices, htake, hdrop]

/-- Nothing reaches over a `next`. -/
theorem given_append_next :
    given (lines ++ ShownLine.next :: rest) = given (lines ++ [ShownLine.next]) ++ given rest := by
  induction lines with
  | nil => rfl
  | cons line lines ih =>
    rw [List.cons_append, List.cons_append, given, given]
    cases line.vlanId with
    | none => exact ih
    | some vlan =>
      dsimp only
      rw [suffices_append_next, ih]
      split <;> rfl

/-- Interfaces give VLANs one after another. -/
theorem given_interfaces (interfaces : List ShownInterface) :
    given (interfaces.flatMap ShownInterface.lines ++ rest) =
      interfaces.flatMap (fun interface => given interface.lines) ++ given rest := by
  induction interfaces with
  | nil => rfl
  | cons interface interfaces ih =>
    have hlines : (interface :: interfaces).flatMap ShownInterface.lines ++ rest =
        interface.inner ++ .next :: (interfaces.flatMap ShownInterface.lines ++ rest) := by
      rw [List.flatMap_cons, ShownInterface.lines, List.append_assoc, List.append_assoc]
      rfl
    rw [hlines, given_append_next, ih, List.flatMap_cons, List.append_assoc]
    rfl

/-- So does a table. -/
theorem given_lines (table : InterfaceTable) :
    given table.lines = table.shown.flatMap givenBy := by
  have hending : given table.ending.lines = table.ending.shown.flatMap givenBy := by
    cases table.ending with
    | complete => rfl
    | cutBehind => rfl
    | cutInside last unclosed =>
      rw [Ending.shown, List.flatMap_singleton]
      rfl
  rw [InterfaceTable.lines, given_interfaces, hending, InterfaceTable.shown, List.flatMap_append,
    List.flatMap_map]
  rfl

section Alike

variable {interfaces : List (ShownInterface × List ShownLine)}

end Alike

end Levels

section Read

variable {table : InterfaceTable} {raw : List (List Char)}

def shownVlan (items : List InterfaceItem) : ShownInterface where
  key :=
    { name := "vlan77".toList
      bare_word := fun _ => ⟨by decide, by decide⟩
      unquoted := by decide }
  items

end Read

end SwitchConfigurator.Fortiswitch
