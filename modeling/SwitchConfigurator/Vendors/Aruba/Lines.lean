import SwitchConfigurator.Foundations.CliWords
import SwitchConfigurator.Vendors.Aruba.ConfigBlocks

/-!
# Lines to and from an Aruba switch

Commands are sent as lines, and what the switch prints is read without its escapes.
-/

namespace SwitchConfigurator.Aruba

open Cli

/-! ## Lines that are sent -/

/-- The lines that commands are sent as. -/
def sentLines (commands : List Command) : List (List Char) :=
  commands.flatMap fun command => command.text.toList.splitOn '\n'

section Sent

variable {command : Command} {commands : List Command}

theorem sentLines_append {first second : List Command} :
    sentLines (first ++ second) = sentLines first ++ sentLines second := List.flatMap_append

/-- A command without line feeds in its values is one line. -/
theorem oneLine_text (h : ∀ arg ∈ command.words, '\n' ∉ arg.value.toList) :
    '\n' ∉ command.text.toList := by
  have hchars := (forall_mem_render (P := (· ≠ '\n')) (by decide) (by decide)).mpr
    fun arg harg c hc heq => h arg harg (heq ▸ hc)
  exact fun hmem => hchars '\n' hmem rfl

/-- A command without a line break is one line. -/
theorem sentLines_of_oneLine (h : ∀ command ∈ commands, '\n' ∉ command.text.toList) :
    sentLines commands = commands.map (·.text.toList) := by
  rw [sentLines, List.map_eq_flatMap]
  exact List.flatMap_congr fun command hcommand =>
    List.splitOn_eq_singleton (h command hcommand)

/-- A word without a quote in front is read as it is. -/
theorem readable_bare {text : String} (h : IsWord text.toList)
    (hquote : text.toList.head? ≠ some '"') : (Arg.bare text).Readable :=
  ⟨h.1, fun hmem => absurd (h.2 ' ' hmem) (by decide), hquote⟩

theorem readable_number (n : ℕ) : (Arg.number n).Readable := by
  refine readable_bare (isWord_toString n) fun hquote => ?_
  exact absurd (isDigit_of_mem_toString (List.mem_of_mem_head? hquote)) (by decide)

end Sent

/-! ## Lines that are shown -/

theorem endsEscape_newline : EndsEscape '\n' := by unfold EndsEscape; decide

theorem endsEscape_quote : EndsEscape '"' := by unfold EndsEscape; decide

/-- Escape sequences end with their line. -/
theorem stripAnsi_printed {lines : List (List Char)} :
    stripAnsi (printed lines) = printed (lines.map stripAnsi) := by
  induction lines with
  | nil => rfl
  | cons line lines ih =>
    rw [printed, List.flatMap_cons, List.append_assoc, List.singleton_append,
      stripAnsi_append_cons endsEscape_newline]
    show _ ++ '\n' :: stripAnsi (printed lines) = _
    rw [ih]
    simp [printed]

/-- What stands between quotes is stripped for itself. -/
theorem stripAnsi_quoted {start name rest : List Char} :
    stripAnsi (start ++ '"' :: (name ++ '"' :: rest)) =
      stripAnsi start ++ '"' :: (stripAnsi name ++ '"' :: stripAnsi rest) := by
  rw [stripAnsi_append_cons endsEscape_quote, stripAnsi_append_cons endsEscape_quote]

end SwitchConfigurator.Aruba
