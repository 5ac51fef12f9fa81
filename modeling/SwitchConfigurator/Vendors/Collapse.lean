import Mathlib.Algebra.GroupWithZero.Nat
import SwitchConfigurator.Vendors.Text

/-!
# Whitespace that collapses

A text that is taken apart into its words and put together again with single blanks.
-/

namespace SwitchConfigurator

/-- `split_whitespace().collect::<Vec<_>>().join(" ")`. -/
def collapse (text : List Char) : List Char := [' '].intercalate (splitWhitespace text)

/-- Blanks stand one by one, and there is no other whitespace. -/
def SingleBlanks (text : List Char) : Prop :=
  (∀ c ∈ text, isWhitespace c = true → c = ' ') ∧ ¬[' ', ' '] <:+: text

instance {text : List Char} : Decidable (SingleBlanks text) :=
  inferInstanceAs (Decidable (_ ∧ _))

section Collapse

variable {text before after : List Char} {c : Char} {parts : List (List Char)}

/-- A blank cuts the words in two. -/
theorem splitWhitespace_append_cons (h : isWhitespace c = true) :
    splitWhitespace (before ++ c :: after) = splitWhitespace before ++ splitWhitespace after := by
  rw [splitWhitespace, List.splitOnP_append_cons _ _ h, List.filter_append]
  rfl

/-- Where a text starts with another character, so does its first word. -/
theorem splitWhitespace_cons_of_not (h : isWhitespace c = false) :
    ∃ rest more, splitWhitespace (c :: text) = (c :: rest) :: more := by
  cases hparts : text.splitOnP isWhitespace with
  | nil => exact absurd hparts (List.splitOnP_ne_nil _ _)
  | cons part parts =>
    refine ⟨part, parts.filter (· ≠ []), ?_⟩
    rw [splitWhitespace, List.splitOnP_cons_eq_if_modifyHead, h, if_neg Bool.false_ne_true, hparts]
    simp

/-- The other characters stay, in their order. -/
theorem flatten_splitWhitespace :
    (splitWhitespace text).flatten = text.filter (!isWhitespace ·) := by
  have hflatten (parts : List (List Char)) :
      (parts.filter (· ≠ [])).flatten = parts.flatten := by
    induction parts with
    | nil => rfl
    | cons part parts ih =>
      cases part with
      | nil => simpa using ih
      | cons c part => simpa using ih
  rw [splitWhitespace, hflatten]
  induction text with
  | nil => rfl
  | cons c text ih =>
    rw [List.splitOnP_cons_eq_if_modifyHead]
    by_cases h : isWhitespace c = true
    · rw [if_pos h, List.flatten_cons, List.nil_append, ih, List.filter_cons_of_neg (by simp [h])]
    · cases hparts : text.splitOnP isWhitespace with
      | nil => exact absurd hparts (List.splitOnP_ne_nil _ _)
      | cons part parts =>
        rw [hparts, List.flatten_cons] at ih
        rw [if_neg h, List.modifyHead_cons, List.flatten_cons, List.cons_append, ih,
          List.filter_cons_of_pos (by simp [h])]

/-- Words have no blanks. -/
theorem isWhitespace_of_mem_splitWhitespace {word : List Char} (h : word ∈ splitWhitespace text)
    (hc : c ∈ word) : isWhitespace c = false := by
  have hmem : c ∈ (splitWhitespace text).flatten := List.mem_flatten.mpr ⟨word, h, hc⟩
  rw [flatten_splitWhitespace, List.mem_filter] at hmem
  simpa using hmem.2

/-- What is left of blanks is single spaces. -/
theorem eq_blank_of_mem_collapse (h : c ∈ collapse text) (hc : isWhitespace c = true) :
    c = ' ' := by
  have hall : ∀ c ∈ collapse text, isWhitespace c = true → c = ' ' := by
    refine (Cli.forall_mem_intercalate (by simp)).mpr fun word hword c hmem hblank => ?_
    rw [isWhitespace_of_mem_splitWhitespace hword hmem] at hblank
    cases hblank
  exact hall c h hc

/-- Nothing else is changed. -/
theorem filter_collapse :
    (collapse text).filter (!isWhitespace ·) = text.filter (!isWhitespace ·) := by
  have hblank : [' '].filter (!isWhitespace ·) = [] := by decide
  have hintercalate (parts : List (List Char)) :
      ([' '].intercalate parts).filter (!isWhitespace ·) =
        parts.flatten.filter (!isWhitespace ·) := by
    induction parts with
    | nil => rfl
    | cons part parts ih =>
      cases parts with
      | nil => simp
      | cons next parts =>
        rw [List.intercalate_cons_cons, List.filter_append, List.filter_append, ih, hblank,
          List.append_nil, ← List.filter_append]
        rfl
  rw [collapse, hintercalate, flatten_splitWhitespace, List.filter_filter]
  simp only [Bool.and_self]

/-! ## Lengths -/

/-- Words joined by blanks are as long as they are, and a blank between two. -/
theorem length_intercalate_blank :
    ([' '].intercalate parts).length = (parts.map List.length).sum + (parts.length - 1) := by
  induction parts with
  | nil => rfl
  | cons part parts ih =>
    cases parts with
    | nil => simp
    | cons next parts =>
      rw [List.intercalate_cons_cons, List.length_append, List.length_append, ih]
      simp only [List.map_cons, List.sum_cons, List.length_cons, List.length_nil]
      omega

/-- The parts of a text are as long as it is, without the blanks. -/
theorem length_splitOnP (text : List Char) :
    ((text.splitOnP isWhitespace).map List.length).sum + (text.splitOnP isWhitespace).length =
      text.length + 1 := by
  induction text with
  | nil => rfl
  | cons c text ih =>
    rw [List.splitOnP_cons_eq_if_modifyHead]
    split
    · simp only [List.map_cons, List.sum_cons, List.length_cons, List.length_nil]
      omega
    · cases hparts : text.splitOnP isWhitespace with
      | nil => exact absurd hparts (List.splitOnP_ne_nil _ _)
      | cons part parts =>
        rw [hparts] at ih
        simp only [List.modifyHead_cons, List.map_cons, List.sum_cons, List.length_cons] at ih ⊢
        omega

/-- Nothing gets longer. -/
theorem length_collapse_le : (collapse text).length ≤ text.length := by
  have hsum (parts : List (List Char)) :
      ((parts.filter (· ≠ [])).map List.length).sum = (parts.map List.length).sum := by
    induction parts with
    | nil => rfl
    | cons part parts ih =>
      cases part with
      | nil => simpa using ih
      | cons c part => simpa using ih
  have hle := List.length_filter_le (· ≠ []) (text.splitOnP isWhitespace)
  have hlength := length_splitOnP text
  have hpos := List.length_pos_of_ne_nil (List.splitOnP_ne_nil isWhitespace text)
  rw [collapse, length_intercalate_blank, splitWhitespace, hsum]
  omega

/-- Of two blanks one goes. -/
theorem not_doubled_of_length (h : (collapse text).length = text.length) :
    ¬[' ', ' '] <:+: text := by
  rintro ⟨before, after, rfl⟩
  have hblank : isWhitespace ' ' = true := by decide
  have hsame : collapse (before ++ [' ', ' '] ++ after) = collapse (before ++ ' ' :: after) := by
    rw [collapse, List.append_assoc, List.cons_append, splitWhitespace_append_cons hblank,
      List.cons_append, List.nil_append, splitWhitespace_cons_blank hblank,
      ← splitWhitespace_append_cons hblank]
    rfl
  have hle := @length_collapse_le (before ++ ' ' :: after)
  rw [← hsame, h] at hle
  simp only [List.length_append, List.length_cons, List.length_nil] at hle
  omega

/-! ## Texts that do not collapse -/

/-- If spaces are the only blanks, the text is cut at spaces. -/
theorem splitOnP_eq_splitOn (h : ∀ c ∈ text, isWhitespace c = true → c = ' ') :
    text.splitOnP isWhitespace = text.splitOn ' ' := by
  rw [List.splitOn_eq_splitOnP]
  induction text with
  | nil => rfl
  | cons c text ih =>
    obtain ⟨hc, htext⟩ := List.forall_mem_cons.mp h
    have hsame : isWhitespace c = (c == ' ') := by
      rw [Bool.eq_iff_iff, beq_iff_eq]
      refine ⟨hc, ?_⟩
      rintro rfl
      decide
    rw [List.splitOnP_cons_eq_if_modifyHead, List.splitOnP_cons_eq_if_modifyHead, ih htext, hsame]

theorem intercalate_append {first second : List (List Char)} (hfirst : first ≠ [])
    (hsecond : second ≠ []) : [' '].intercalate (first ++ second) =
      [' '].intercalate first ++ ' ' :: [' '].intercalate second := by
  induction first with
  | nil => exact absurd rfl hfirst
  | cons part first ih =>
    cases first with
    | nil =>
      obtain ⟨next, rest, rfl⟩ := List.exists_cons_of_ne_nil hsecond
      show [' '].intercalate (part :: next :: rest) = _
      rw [List.intercalate_cons_cons]
      simp
    | cons next first =>
      have hrest := ih (List.cons_ne_nil _ _)
      rw [List.cons_append, List.cons_append, List.intercalate_cons_cons,
        List.intercalate_cons_cons,
        ← List.cons_append, hrest]
      simp

/-- Between single blanks, and before and behind them, there is something. -/
theorem ne_nil_of_mem_splitOn (hne : text ≠ []) (hhead : text.head? ≠ some ' ')
    (hlast : text.getLast? ≠ some ' ') (hdoubled : ¬[' ', ' '] <:+: text) :
    ∀ part ∈ text.splitOn ' ', part ≠ [] := by
  rintro part hpart rfl
  obtain ⟨first, second, hsplit⟩ := List.append_of_mem hpart
  have htext : [' '].intercalate (first ++ [] :: second) = text := by
    rw [← hsplit, List.intercalate_splitOn]
  cases first with
  | nil =>
    cases second with
    | nil => exact hne htext.symm
    | cons next second =>
      rw [← htext] at hhead
      exact hhead rfl
  | cons part first =>
    rw [intercalate_append (List.cons_ne_nil _ _) (List.cons_ne_nil _ _)] at htext
    cases second with
    | nil =>
      rw [← htext] at hlast
      exact hlast List.getLast?_concat
    | cons next second =>
      refine hdoubled ⟨[' '].intercalate (part :: first), [' '].intercalate (next :: second), ?_⟩
      rw [← htext, List.intercalate_cons_cons]
      simp

/-- A text with single spaces, none at its ends, stays as it is. -/
theorem collapse_of_singleBlanks (h : SingleBlanks text) (hhead : text.head? ≠ some ' ')
    (hlast : text.getLast? ≠ some ' ') : collapse text = text := by
  cases htext : text with
  | nil => rfl
  | cons c rest =>
    have hne : text ≠ [] := by simp [htext]
    rw [← htext, collapse, splitWhitespace, splitOnP_eq_splitOn h.1, List.filter_eq_self.mpr,
      List.intercalate_splitOn]
    intro part hpart
    simpa using ne_nil_of_mem_splitOn hne hhead hlast h.2 part hpart

/-! ## Quoted texts -/

/-- Quotes make no difference to the blanks. -/
theorem singleBlanks_quoted : SingleBlanks ('"' :: (text ++ ['"'])) ↔ SingleBlanks text := by
  have hquote : isWhitespace '"' = false := by decide
  refine and_congr ?_ (not_congr ?_)
  · simp only [List.forall_mem_cons, List.forall_mem_append, List.not_mem_nil, false_implies,
      implies_true, hquote, Bool.false_eq_true, and_true, true_and]
  · rw [List.infix_cons_iff, List.infix_concat_iff]
    have hpair : ¬[' ', ' '] <+: '"' :: (text ++ ['"']) := by
      rintro ⟨rest, heq⟩
      cases heq
    have hsuffix : ¬[' ', ' '] <:+ text ++ ['"'] := by
      rintro ⟨rest, heq⟩
      have hlast := congrArg List.getLast? heq
      rw [List.getLast?_concat, List.getLast?_append_of_ne_nil _ (by simp)] at hlast
      exact absurd hlast (by decide)
    simp only [hpair, hsuffix, false_or]

/-- The quotes stay where they are. -/
theorem collapse_quoted (h : '"' ∉ text) :
    ∃ inner, '"' ∉ inner ∧ collapse ('"' :: (text ++ ['"'])) = '"' :: (inner ++ ['"']) := by
  have hquote : isWhitespace '"' = false := by decide
  have hfilter (inner : List Char) : ('"' :: (inner ++ ['"'])).filter (!isWhitespace ·) =
      '"' :: (inner.filter (!isWhitespace ·) ++ ['"']) := by
    rw [List.filter_cons_of_pos (by simp [hquote]), List.filter_append]
    rfl
  -- collapsing only touches blanks, so the other characters are compared through a filter
  have hkept := @filter_collapse ('"' :: (text ++ ['"']))
  rw [hfilter] at hkept
  obtain ⟨rest, more, hwords⟩ := @splitWhitespace_cons_of_not (text ++ ['"']) '"' hquote
  have hparts : ∀ part ∈ splitWhitespace ('"' :: (text ++ ['"'])), part ≠ [] ∧ Legible part := by
    intro part hpart
    have hword : IsWord part := ⟨by simpa using (List.mem_filter.mp hpart).2,
      fun c hc => isWhitespace_of_mem_splitWhitespace hpart hc⟩
    exact ⟨hword.1, legible_of_isWord hword⟩
  obtain ⟨hne, hlegible⟩ := legible_intercalate (by simp [hwords]) hparts
  obtain ⟨front, c, hlast⟩ := (List.eq_nil_or_concat' _).resolve_left hne
  have hc : isWhitespace c = false := hlegible.last c (by rw [hlast, List.getLast?_concat]; rfl)
  have hends : front.filter (!isWhitespace ·) = '"' :: text.filter (!isWhitespace ·) ∧ c = '"' := by
    have hone : [c].filter (!isWhitespace ·) = [c] := by simp [hc]
    rw [collapse, hlast, List.filter_append, hone, ← List.cons_append] at hkept
    exact List.append_inj' hkept rfl |>.imp_right List.singleton_injective.eq_iff.mp
  cases front with
  | nil => cases hends.1
  | cons d inner =>
    have hd : d = '"' := by
      have hhead := congrArg List.head? hlast
      rw [hwords] at hhead
      cases more <;> simpa using hhead.symm
    obtain ⟨hinner, rfl⟩ := hends
    subst hd
    refine ⟨inner, fun hmem => h ?_, hlast⟩
    rw [List.filter_cons_of_pos (by simp [hquote])] at hinner
    -- a quote inside would be one of the text
    have hkeptQuote : '"' ∈ inner.filter (!isWhitespace ·) :=
      List.mem_filter.mpr ⟨hmem, by simp [hquote]⟩
    rw [(List.cons.inj hinner).2] at hkeptQuote
    exact (List.mem_filter.mp hkeptQuote).1

/-- What comes back is no longer than the text, and has no quotes,
  no other whitespace than blanks. -/
theorem trimQuotes_collapse_quoted (h : '"' ∉ text) :
    '"' ∉ trimQuotes (collapse ('"' :: (text ++ ['"']))) ∧
      (∀ c ∈ trimQuotes (collapse ('"' :: (text ++ ['"']))), isWhitespace c = true → c = ' ') ∧
      (trimQuotes (collapse ('"' :: (text ++ ['"'])))).length ≤ text.length := by
  obtain ⟨inner, hinner, heq⟩ := collapse_quoted h
  have hle := @length_collapse_le ('"' :: (text ++ ['"']))
  rw [heq] at hle
  simp only [List.length_cons, List.length_append, List.length_nil] at hle
  rw [heq, trimQuotes_quoted hinner]
  refine ⟨hinner, fun c hc => ?_, by omega⟩
  refine @eq_blank_of_mem_collapse ('"' :: (text ++ ['"'])) c ?_
  rw [heq]
  exact List.mem_cons_of_mem _ (List.mem_append_left _ hc)

/-- A quoted text comes back from its words exactly if its blanks stand one by one. -/
theorem trimQuotes_collapse_iff (h : '"' ∉ text) :
    trimQuotes (collapse ('"' :: (text ++ ['"']))) = text ↔ SingleBlanks text := by
  constructor
  · intro hback
    obtain ⟨inner, hinner, heq⟩ := collapse_quoted h
    have hself : collapse ('"' :: (text ++ ['"'])) = '"' :: (text ++ ['"']) := by
      rw [heq, trimQuotes_quoted hinner] at hback
      rw [heq, hback]
    refine ⟨fun c hc => ?_, fun hdoubled => ?_⟩
    · rw [← hback] at hc
      exact (trimQuotes_collapse_quoted h).2.1 c hc
    · exact not_doubled_of_length (congrArg List.length hself)
        (hdoubled.trans ⟨['"'], ['"'], rfl⟩)
  · intro hblanks
    rw [collapse_of_singleBlanks (singleBlanks_quoted.mpr hblanks), trimQuotes_quoted h]
    · rw [List.head?_cons]
      decide
    · rw [← List.cons_append, List.getLast?_concat]
      decide

end Collapse

end SwitchConfigurator
