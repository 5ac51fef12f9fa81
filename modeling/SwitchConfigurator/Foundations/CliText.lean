import Mathlib.Data.List.Basic
import Mathlib.Data.String.Basic

/-!
# The text of a command

A command is words with a blank between them, and a word stands alone or in double quotes.
-/

namespace Cli

/-- What holds of all characters of a text is decided on the text, not on every character. -/
instance (priority := 1001) decidableForallChar {P : Char → Prop} [DecidablePred P] {text : List Char} :
    Decidable (∀ c ∈ text, P c) :=
  List.decidableBAll P text

/-- A word as it is typed. -/
inductive Arg where
  | bare (text : String)
  | quoted (text : String)
  deriving DecidableEq, Repr

namespace Arg

/-- What a word stands for. -/
def value : Arg → String
  | bare text => text
  | quoted text => text

def text : Arg → String
  | bare text => text
  | quoted text => "\"" ++ text ++ "\""

def number (n : ℕ) : Arg := bare (toString n)

end Arg

def render (words : List Arg) : String := " ".intercalate (words.map Arg.text)

/-- No two numbers are written alike. -/
theorem toString_injective : Function.Injective (toString : ℕ → String) := by
  intro m n h
  have hdigits : Nat.toDigits 10 m = Nat.toDigits 10 n := by
    rw [← Nat.toList_repr, ← Nat.toList_repr]
    exact congrArg String.toList h
  rw [← Nat.ofDigitChars_ten_toDigits (n := m), hdigits, Nat.ofDigitChars_ten_toDigits]

/-- A number is written in digits. -/
theorem isDigit_of_mem_toString {n : ℕ} {c : Char} (h : c ∈ (toString n).toList) :
    c.isDigit = true := by
  rw [Nat.toString_eq_ofList_toDigits, String.toList_ofList] at h
  exact Nat.isDigit_of_mem_toDigits (by decide) (by decide) h

/-- What a word stands for is part of the command. -/
theorem value_infix_render {words : List Arg} {arg : Arg} (h : arg ∈ words) :
    arg.value.toList <:+: (render words).toList := by
  have htext : arg.value.toList <:+: arg.text.toList := by
    cases arg with
    | bare text => exact List.infix_rfl
    | quoted text =>
      rw [Arg.text, String.toList_append, String.toList_append]
      exact List.infix_append _ _ _
  have hpart (parts : List (List Char)) (part : List Char) (hmem : part ∈ parts) :
      part <:+: " ".toList.intercalate parts := by
    induction parts with
    | nil => cases hmem
    | cons first parts ih =>
      cases parts with
      | nil =>
        rw [List.mem_singleton.mp hmem]
        simp
      | cons next rest =>
        rw [List.intercalate_cons_cons]
        rcases List.mem_cons.mp hmem with rfl | hmem
        · rw [List.append_assoc]
          exact (List.prefix_append _ _).isInfix
        · exact (ih hmem).trans (List.suffix_append _ _).isInfix
  rw [render, String.toList_intercalate]
  exact htext.trans (hpart _ _ (List.mem_map_of_mem (List.mem_map_of_mem h)))

/-! ## Characters -/

section Characters

variable {P : Char → Prop}

/-- The quotes apart, the characters of an argument as it is sent are those of its value. -/
theorem forall_mem_text (hquote : P '"') {arg : Arg} :
    (∀ c ∈ arg.text.toList, P c) ↔ ∀ c ∈ arg.value.toList, P c := by
  cases arg with
  | bare text => rfl
  | quoted text =>
    rw [Arg.text, Arg.value, String.toList_append, String.toList_append]
    simp only [List.mem_append]
    constructor
    · intro h c hc
      exact h c (.inl (.inr hc))
    · rintro h c ((hc | hc) | hc)
      · rwa [List.mem_singleton.mp hc]
      · exact h c hc
      · rwa [List.mem_singleton.mp hc]

theorem forall_mem_intercalate {sep : List Char} (hsep : ∀ c ∈ sep, P c) {parts : List (List Char)} :
    (∀ c ∈ sep.intercalate parts, P c) ↔ ∀ part ∈ parts, ∀ c ∈ part, P c := by
  induction parts with
  | nil => simp
  | cons part parts ih =>
    cases parts with
    | nil => simp
    | cons next rest =>
      rw [List.intercalate_cons_cons, List.forall_mem_cons, ← ih]
      simp only [List.mem_append]
      constructor
      · intro h
        exact ⟨fun c hc => h c (.inl (.inl hc)), fun c hc => h c (.inr hc)⟩
      · rintro ⟨hpart, hrest⟩ c ((hc | hc) | hc)
        · exact hpart c hc
        · exact hsep c hc
        · exact hrest c hc

/-- The characters of a command are those of its words, blanks and quotes. -/
theorem forall_mem_render (hblank : P ' ') (hquote : P '"') {words : List Arg} :
    (∀ c ∈ (render words).toList, P c) ↔ ∀ word ∈ words, ∀ c ∈ word.value.toList, P c := by
  have hsep : ∀ c ∈ " ".toList, P c := fun c hc => by rwa [List.mem_singleton.mp hc]
  rw [render, String.toList_intercalate, forall_mem_intercalate hsep, List.forall_mem_map,
    List.forall_mem_map]
  exact forall₂_congr fun word _ => forall_mem_text hquote

/-- Characters that are allowed, and no quote inside quotes. -/
def Arg.Clean (P : Char → Prop) : Arg → Prop
  | bare text => ∀ c ∈ text.toList, P c
  | quoted text => (∀ c ∈ text.toList, P c) ∧ '"' ∉ text.toList

/-- A command of allowed characters alone, whose quoted words end where they are meant to. -/
structure OneLine (P : Char → Prop) (words : List Arg) : Prop where
  chars : ∀ c ∈ (render words).toList, P c
  quotes : ∀ text, .quoted text ∈ words → '"' ∉ text.toList

/-- A command is one line exactly when each of its words is clean. -/
theorem oneLine_iff (hblank : P ' ') (hquote : P '"') {words : List Arg} :
    OneLine P words ↔ ∀ word ∈ words, word.Clean P := by
  constructor
  · rintro ⟨hchars, hquotes⟩ word hword
    have hvalue := (forall_mem_render hblank hquote).mp hchars word hword
    cases word with
    | bare text => exact hvalue
    | quoted text => exact ⟨hvalue, hquotes text hword⟩
  · intro h
    refine ⟨(forall_mem_render hblank hquote).mpr fun word hword => ?_, fun text htext =>
      (h _ htext).2⟩
    have hclean := h word hword
    cases word with
    | bare text => exact hclean
    | quoted text => exact hclean.1

end Characters

end Cli
