import SwitchConfigurator.Vendors.PreviewSections

/-!
# Previews for a FortiSwitch

The full generator writes communities at the indices from 1 up, and the changes go by the indices
that were read or by free ones from 100 up. The two agree only where neither has a community.
-/

namespace SwitchConfigurator.Fortiswitch

open Cli Diff

section Granular

variable {indices : List (String × ℕ)} {occupied : List ℕ}

/-- A line that granular changes of the table start with. -/
def IsChange (line : Line) : Prop :=
  (∃ key, line = .delete key) ∨ ∃ n, 100 ≤ n ∧ line = .edit (.number n)

/-- Lines that start with such a line, if there are any. -/
def StartsWithChange (lines : List Line) : Prop := ∀ line ∈ lines.head?, IsChange line

/-- Two parts that begin with a change do so together. -/
theorem StartsWithChange.append {lines lines' : List Line} (h : StartsWithChange lines)
    (h' : StartsWithChange lines') : StartsWithChange (lines ++ lines') := by
  cases lines with
  | nil => exact h'
  | cons line lines => exact h

end Granular

section Snmp

variable {switch : FortiswitchSwitch} {snmpDiff : SnmpStateDiff} {snmp : SnmpConfig}

end Snmp

section Foretold

variable {switch : FortiswitchSwitch} {diff : StateDiff}

end Foretold

end SwitchConfigurator.Fortiswitch
