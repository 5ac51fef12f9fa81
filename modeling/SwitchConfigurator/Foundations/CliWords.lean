import SwitchConfigurator.Foundations.CliText

/-!
# Words that a command line reads

How a device takes a command apart: words with blanks between them, and a word that starts with a
double quote goes on to the next double quote.
-/

namespace Cli

/-- Where in a line the reader is, with what it has of the open word. -/
inductive WordState where
  | between
  | bare (word : List Char)
  | quoted (word : List Char)
  deriving DecidableEq, Repr

/-- The words from a position on; a quote that stays open makes the line unreadable. -/
@[grind =] def wordsFrom : WordState → List Char → Option (List (List Char))
  | .between, [] => some []
  | .bare word, [] => some [word]
  | .quoted _, [] => none
  | .between, c :: rest =>
    if c = ' ' then wordsFrom .between rest
    else if c = '"' then wordsFrom (.quoted []) rest
    else wordsFrom (.bare [c]) rest
  | .bare word, c :: rest =>
    if c = ' ' then (word :: ·) <$> wordsFrom .between rest
    else wordsFrom (.bare (word ++ [c])) rest
  | .quoted word, c :: rest =>
    if c = '"' then (word :: ·) <$> wordsFrom .between rest
    else wordsFrom (.quoted (word ++ [c])) rest

def words (line : List Char) : Option (List (List Char)) := wordsFrom .between line

/-- A word that is read as it was meant. -/
def Arg.Readable : Arg → Prop
  | .bare text => text.toList ≠ [] ∧ ' ' ∉ text.toList ∧ text.toList.head? ≠ some '"'
  | .quoted text => '"' ∉ text.toList

instance (arg : Arg) : Decidable arg.Readable :=
  match arg with
  | .bare text =>
    inferInstanceAs
      (Decidable (text.toList ≠ [] ∧ ' ' ∉ text.toList ∧ text.toList.head? ≠ some '"'))
  | .quoted text => inferInstanceAs (Decidable ('"' ∉ text.toList))

section Words

variable {text rest word : List Char} {arg : Arg} {args : List Arg}

/-- Without a blank, a bare word goes on. -/
theorem wordsFrom_bare (h : ' ' ∉ text) :
    wordsFrom (.bare word) (text ++ rest) = wordsFrom (.bare (word ++ text)) rest := by
  induction text generalizing word with
  | nil => rw [List.nil_append, List.append_nil]
  | cons c text ih =>
    rw [List.mem_cons, not_or] at h
    rw [List.cons_append, wordsFrom, if_neg (Ne.symm h.1), ih h.2, List.append_assoc,
      List.singleton_append]

/-- Up to its closing quote, a quoted word goes on. -/
theorem wordsFrom_quoted (h : '"' ∉ text) :
    wordsFrom (.quoted word) (text ++ rest) = wordsFrom (.quoted (word ++ text)) rest := by
  induction text generalizing word with
  | nil => rw [List.nil_append, List.append_nil]
  | cons c text ih =>
    rw [List.mem_cons, not_or] at h
    rw [List.cons_append, wordsFrom, if_neg (Ne.symm h.1), ih h.2, List.append_assoc,
      List.singleton_append]

/-- A quoted word ends at the next quote, whatever comes behind it. -/
theorem words_quoted (h : '"' ∉ text) :
    words ('"' :: (text ++ '"' :: rest)) = (text :: ·) <$> words rest := by
  rw [words, wordsFrom, if_neg (by decide), if_pos rfl, wordsFrom_quoted h, wordsFrom, if_pos rfl,
    List.nil_append]
  rfl

/-- Blanks in front of a word make no difference. -/
theorem words_blank : words (' ' :: rest) = words rest := by
  rw [words, wordsFrom, if_pos rfl]
  rfl

/-- A word that does not begin with a quote is read bare. -/
theorem words_bare (hne : text ≠ []) (hblank : ' ' ∉ text) (hquote : text.head? ≠ some '"') :
    words (text ++ rest) = wordsFrom (.bare text) rest := by
  cases text with
  | nil => exact absurd rfl hne
  | cons c text =>
    rw [List.mem_cons, not_or] at hblank
    have hc : c ≠ '"' := fun heq => hquote (congrArg some heq)
    rw [words, List.cons_append, wordsFrom, if_neg (Ne.symm hblank.1), if_neg hc,
      wordsFrom_bare hblank.2, List.singleton_append]

/-- The first word of a line. -/
theorem words_arg_blank (h : arg.Readable) :
    words (arg.text.toList ++ ' ' :: rest) = (arg.value.toList :: ·) <$> words rest := by
  cases arg with
  | bare text => rw [Arg.text, words_bare h.1 h.2.1 h.2.2, wordsFrom, if_pos rfl]; rfl
  | quoted text =>
    have htext : (Arg.quoted text).text.toList ++ ' ' :: rest =
        '"' :: (text.toList ++ '"' :: ' ' :: rest) := by
      rw [Arg.text, String.toList_append, String.toList_append]
      simp
    rw [htext, words_quoted h, words_blank]
    rfl

/-- An argument that can be read back is one word. -/
theorem words_arg (h : arg.Readable) : words arg.text.toList = some [arg.value.toList] := by
  cases arg with
  | bare text =>
    rw [Arg.text, ← List.append_nil text.toList, words_bare h.1 h.2.1 h.2.2, wordsFrom]
    rfl
  | quoted text =>
    have htext : (Arg.quoted text).text.toList = '"' :: (text.toList ++ '"' :: []) := by
      rw [Arg.text, String.toList_append, String.toList_append]
      simp
    rw [htext, words_quoted h]
    rfl

/-- A word that was begun is a word. -/
theorem wordsFrom_bare_ne_nil : wordsFrom (.bare word) text ≠ some [] := by
  induction text generalizing word with
  | nil => exact nofun
  | cons c text ih =>
    rw [wordsFrom]
    split
    · cases wordsFrom .between text <;> exact nofun
    · exact ih

theorem wordsFrom_quoted_ne_nil : wordsFrom (.quoted word) text ≠ some [] := by
  induction text generalizing word with
  | nil => exact nofun
  | cons c text ih =>
    rw [wordsFrom]
    split
    · cases wordsFrom .between text <;> exact nofun
    · exact ih

/-- Only blanks are no words. -/
theorem eq_blank_of_words (h : words text = some []) : ∀ c ∈ text, c = ' ' := by
  induction text with
  | nil => exact nofun
  | cons c text ih =>
    rw [words, wordsFrom] at h
    split at h
    · next hc => exact List.forall_mem_cons.mpr ⟨hc, ih h⟩
    · split at h
      · exact absurd h wordsFrom_quoted_ne_nil
      · exact absurd h wordsFrom_bare_ne_nil

theorem toList_render_cons_cons {next : Arg} : (render (arg :: next :: args)).toList =
    arg.text.toList ++ ' ' :: (render (next :: args)).toList := by
  rw [render, List.map_cons, List.map_cons, String.intercalate_cons_cons, String.toList_append,
    String.toList_append, List.append_assoc]
  rfl

/-- A command is read as the words that it was made of. -/
theorem words_render (h : ∀ arg ∈ args, arg.Readable) :
    words (render args).toList = some (args.map fun arg => arg.value.toList) := by
  induction args with
  | nil => rfl
  | cons arg args ih =>
    obtain ⟨harg, hargs⟩ := List.forall_mem_cons.mp h
    cases args with
    | nil =>
      rw [render, List.map_singleton, String.intercalate_singleton]
      exact words_arg harg
    | cons next args =>
      rw [toList_render_cons_cons, words_arg_blank harg, ih hargs]
      rfl

end Words

end Cli
