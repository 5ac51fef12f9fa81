import Mathlib.Data.List.Infix
import Mathlib.Data.Set.Insert
import Mathlib.Order.Monotone.Basic

/-!
# Replacing words in a text

A word is replaced wherever it is found from left to right, and several words one after the other,
the larger ones first. A later word is looked for in a text that holds the replacements of the
earlier ones. Where the outermost occurrences of the words do not overlap and no word is found on
a replacement, each outermost occurrence is replaced as a whole, whatever the order of words of
one size.
-/

namespace Replacement

variable {α : Type*}

/-! ## One word -/

section Word

variable [DecidableEq α]

/-- The text with a word replaced; the first `skip` characters are of a word found before. -/
def replaceFrom (word new : List α) : ℕ → List α → List α
  | _, [] => []
  | skip + 1, _ :: text => replaceFrom word new skip text
  | 0, c :: text =>
    if word <+: c :: text then new ++ replaceFrom word new (word.length - 1) text
    else c :: replaceFrom word new 0 text

def replace (word new text : List α) : List α := replaceFrom word new 0 text

/-- The places where the word is found, counted from `i` on. -/
def foundFrom (word : List α) : ℕ → ℕ → List α → List ℕ
  | _, _, [] => []
  | i, skip + 1, _ :: text => foundFrom word (i + 1) skip text
  | i, 0, c :: text =>
    if word <+: c :: text then i :: foundFrom word (i + 1) (word.length - 1) text
    else foundFrom word (i + 1) 0 text

def found (word text : List α) : List ℕ := foundFrom word 0 0 text

variable {word new text : List α} {i skip : ℕ}

/-- Skipped characters are dropped. -/
theorem replaceFrom_skip : replaceFrom word new skip text =
    replaceFrom word new 0 (text.drop skip) := by
  induction skip generalizing text with
  | zero => rfl
  | succ skip ih =>
    cases text with
    | nil => rfl
    | cons c text => exact ih

/-- Skipped characters move the search on. -/
theorem foundFrom_skip : foundFrom word i skip text =
    foundFrom word (i + skip) 0 (text.drop skip) := by
  induction skip generalizing i text with
  | zero => rfl
  | succ skip ih =>
    cases text with
    | nil => rfl
    | cons c text =>
      rw [foundFrom, ih, List.drop_succ_cons, Nat.add_right_comm, Nat.add_assoc]

theorem le_of_mem_foundFrom {k : ℕ} (h : k ∈ foundFrom word i skip text) : i ≤ k := by
  induction text generalizing i skip with
  | nil => cases h
  | cons c text ih =>
    cases skip with
    | succ skip => exact Nat.le_of_succ_le (ih h)
    | zero =>
      rw [foundFrom] at h
      split at h
      · rcases List.mem_cons.mp h with rfl | h
        · exact le_rfl
        · exact Nat.le_of_succ_le (ih h)
      · exact Nat.le_of_succ_le (ih h)

/-- Where no word is found at the front, the front stays. -/
theorem replaceFrom_append (new : List α) {front : List α}
    (h : ∀ k ∈ foundFrom word i 0 (front ++ text), i + front.length ≤ k) :
    replaceFrom word new 0 (front ++ text) = front ++ replaceFrom word new 0 text ∧
      foundFrom word i 0 (front ++ text) = foundFrom word (i + front.length) 0 text := by
  induction front generalizing i with
  | nil => exact ⟨rfl, rfl⟩
  | cons c front ih =>
    rw [List.cons_append] at h
    rw [List.cons_append, replaceFrom, foundFrom]
    by_cases hword : word <+: c :: (front ++ text)
    · rw [foundFrom, if_pos hword] at h
      have hstart := h i List.mem_cons_self
      rw [List.length_cons] at hstart
      omega
    · rw [foundFrom, if_neg hword] at h
      have hlength : i + (c :: front).length = i + 1 + front.length := by
        rw [List.length_cons]
        omega
      rw [if_neg hword, if_neg hword, hlength]
      obtain ⟨hreplace, hfound⟩ := ih (i := i + 1) (by rwa [← hlength])
      exact ⟨congrArg (c :: ·) hreplace, hfound⟩

/-- Where a word is found, it stands. -/
theorem prefix_of_mem_foundFrom {n : ℕ} (h : i + n ∈ foundFrom word i skip text) :
    word <+: text.drop n := by
  induction text generalizing i skip n with
  | nil => cases h
  | cons c text ih =>
    -- a later place is one of the rest of the text
    have hrest {skip : ℕ} (h : i + n ∈ foundFrom word (i + 1) skip text) :
        word <+: (c :: text).drop n := by
      obtain ⟨m, rfl⟩ : ∃ m, n = m + 1 := by
        refine Nat.exists_eq_succ_of_ne_zero ?_
        rintro rfl
        have hle := le_of_mem_foundFrom h
        omega
      rw [List.drop_succ_cons]
      refine @ih (i + 1) skip m ?_
      rwa [Nat.add_right_comm]
    cases skip with
    | succ skip => exact hrest h
    | zero =>
      rw [foundFrom] at h
      split at h
      · next hword =>
        rcases List.mem_cons.mp h with hn | h
        · obtain rfl : n = 0 := by omega
          exact hword
        · exact hrest h
      · exact hrest h

/-- A word at the front is replaced. -/
theorem replaceFrom_word (hne : word ≠ []) : replaceFrom word new 0 (word ++ text) =
    new ++ replaceFrom word new 0 text := by
  obtain ⟨c, rest, rfl⟩ := List.exists_cons_of_ne_nil hne
  rw [List.cons_append, replaceFrom, if_pos ⟨text, rfl⟩, replaceFrom_skip, List.length_cons,
    Nat.add_sub_cancel, List.drop_left]

/-- A word at the front is found, and the search goes on behind it. -/
theorem foundFrom_word (hne : word ≠ []) : foundFrom word i 0 (word ++ text) =
    i :: foundFrom word (i + word.length) 0 text := by
  obtain ⟨c, rest, rfl⟩ := List.exists_cons_of_ne_nil hne
  rw [List.cons_append, foundFrom, if_pos ⟨text, rfl⟩, foundFrom_skip, List.length_cons,
    Nat.add_sub_cancel, List.drop_left, Nat.add_right_comm, Nat.add_assoc]

end Word

/-! ## Spans -/

@[ext] structure Span where
  start : ℕ
  length : ℕ
  deriving DecidableEq

def Span.Has (span : Span) (i : ℕ) : Prop := span.start ≤ i ∧ i < span.start + span.length

/-- A span starts here. -/
def Begins (spans : Set Span) (i : ℕ) : Prop := ∃ span ∈ spans, span.start = i

/-- A span goes on here. -/
def Within (spans : Set Span) (i : ℕ) : Prop :=
  ∃ span ∈ spans, span.start < i ∧ i < span.start + span.length

/-- No span is here. -/
def Kept (spans : Set Span) (i : ℕ) : Prop := ¬Begins spans i ∧ ¬Within spans i

structure Apart (spans : Set Span) : Prop where
  nonempty : ∀ span ∈ spans, 0 < span.length
  unique : ∀ span ∈ spans, ∀ other ∈ spans, ∀ i, span.Has i → other.Has i → span = other

open Classical in
/-- The text from place `i` on, with `new` for every span. -/
noncomputable def masked (new : List α) (spans : Set Span) : ℕ → List α → List α
  | _, [] => []
  | i, c :: text =>
    (if Begins spans i then new else if Within spans i then [] else [c]) ++
      masked new spans (i + 1) text

/-- How far a place of the text is from the start of the masked text. -/
noncomputable def offset (new : List α) (spans : Set Span) (text : List α) (i : ℕ) : ℕ :=
  (masked new spans 0 (text.take i)).length

section Masked

variable {new text run : List α} {spans : Set Span} {span : Span} {c : α} {i n : ℕ}

/-- Some of the spans are apart if all are. -/
theorem Apart.mono {others : Set Span} (h : Apart spans) (hsub : others ⊆ spans) : Apart others where
  nonempty := fun span hspan => h.nonempty span (hsub hspan)
  unique := fun span hspan other hother => h.unique span (hsub hspan) other (hsub hother)

/-- In spans that are apart, a place that a span goes on at is not one where another starts. -/
theorem Apart.not_begins (h : Apart spans) (hwithin : Within spans i) : ¬Begins spans i := by
  rintro ⟨other, hother, hi⟩
  obtain ⟨span, hspan, hstart, hend⟩ := hwithin
  have hlength := h.nonempty other hother
  have heq := h.unique span hspan other hother i ⟨hstart.le, hend⟩ ⟨hi.le, by omega⟩
  rw [heq] at hstart
  omega

/-- A text is masked part by part. -/
theorem masked_append (front : List α) : masked new spans i (front ++ text) =
    masked new spans i front ++ masked new spans (i + front.length) text := by
  induction front generalizing i with
  | nil => rfl
  | cons c front ih =>
    rw [List.cons_append, masked, masked, ih, List.append_assoc, List.length_cons,
      Nat.add_right_comm, Nat.add_assoc]

/-- A character outside the spans is kept. -/
theorem masked_cons_kept (h : Kept spans i) :
    masked new spans i (c :: text) = c :: masked new spans (i + 1) text := by
  rw [masked, if_neg h.1, if_neg h.2]
  rfl

/-- A span becomes the mask at its first character. -/
theorem masked_cons_begins (h : Begins spans i) :
    masked new spans i (c :: text) = new ++ masked new spans (i + 1) text := by
  rw [masked, if_pos h]

/-- The other characters of a span are dropped. -/
theorem masked_cons_within (hapart : Apart spans) (h : Within spans i) :
    masked new spans i (c :: text) = masked new spans (i + 1) text := by
  rw [masked, if_neg (hapart.not_begins h), if_pos h]
  rfl

/-- A stretch outside the spans is kept. -/
theorem masked_run (h : ∀ j, i ≤ j → j < i + run.length → Kept spans j) :
    masked new spans i (run ++ text) = run ++ masked new spans (i + run.length) text := by
  induction run generalizing i with
  | nil => rfl
  | cons c run ih =>
    rw [List.length_cons] at h
    rw [List.cons_append, masked_cons_kept (h i le_rfl (by omega)),
      ih fun j hj hj' => h j (by omega) (by omega)]
    rw [List.length_cons, List.cons_append, Nat.add_right_comm, Nat.add_assoc]

theorem masked_kept (h : ∀ j, i ≤ j → j < i + run.length → Kept spans j) :
    masked new spans i run = run := by
  have hrun : masked new spans i (run ++ []) = run ++ masked new spans (i + run.length) [] :=
    masked_run h
  rwa [List.append_nil, masked, List.append_nil] at hrun

/-- A stretch inside a span is dropped. -/
theorem masked_within (hapart : Apart spans) (h : ∀ j, i ≤ j → j < i + n → Within spans j) :
    masked new spans i text = masked new spans (i + n) (text.drop n) := by
  induction n generalizing i text with
  | zero => rfl
  | succ n ih =>
    cases text with
    | nil => rfl
    | cons c text =>
      rw [masked_cons_within hapart (h i le_rfl (by omega)),
        ih fun j hj hj' => h j (by omega) (by omega), List.drop_succ_cons, Nat.add_right_comm,
        Nat.add_assoc]

/-- A span is passed in one step. -/
theorem masked_cons_span (hapart : Apart spans) (hspan : span ∈ spans) (hi : span.start = i) :
    masked new spans i (c :: text) =
      new ++ masked new spans (i + span.length) (text.drop (span.length - 1)) := by
  have hlength := hapart.nonempty span hspan
  rw [masked_cons_begins ⟨span, hspan, hi⟩,
    masked_within (n := span.length - 1) hapart fun j hj hj' => ⟨span, hspan, by omega, by omega⟩]
  rw [show i + 1 + (span.length - 1) = i + span.length by omega]

theorem offset_succ (h : i < text.length) : offset new spans text (i + 1) =
    offset new spans text i + (masked new spans i [text[i]]).length := by
  rw [offset, offset, List.take_succ_eq_append_getElem h, masked_append, List.length_append,
    List.length_take, Nat.min_eq_left h.le, Nat.zero_add]

/-- A kept character moves the offset by one. -/
theorem offset_succ_kept (h : i < text.length) (hkept : Kept spans i) :
    offset new spans text (i + 1) = offset new spans text i + 1 := by
  rw [offset_succ h, masked_cons_kept hkept]
  rfl

/-- The first character of a span moves the offset by the mask. -/
theorem offset_succ_begins (h : i < text.length) (hbegins : Begins spans i) :
    offset new spans text (i + 1) = offset new spans text i + new.length := by
  rw [offset_succ h, masked_cons_begins hbegins, masked, List.append_nil]

/-- The places of the text from `i` on that come before `i + n`. -/
theorem offset_add : offset new spans text (i + n) =
    offset new spans text i + (masked new spans i ((text.drop i).take n)).length := by
  by_cases h : i ≤ text.length
  · rw [offset, offset, List.take_add, masked_append, List.length_append, List.length_take,
      Nat.min_eq_left h, Nat.zero_add]
  · rw [offset, offset, List.take_of_length_le (by omega), List.take_of_length_le (by omega),
      List.drop_of_length_le (by omega), List.take_nil]
    rfl

/-- A whole span moves the offset by the mask. -/
theorem offset_span (hapart : Apart spans) (hspan : span ∈ spans) (hi : span.start = i)
    (h : i < text.length) :
    offset new spans text (i + span.length) = offset new spans text i + new.length := by
  obtain ⟨n, hn⟩ : ∃ n, span.length = n + 1 :=
    Nat.exists_eq_succ_of_ne_zero (hapart.nonempty span hspan).ne'
  rw [offset_add, List.drop_eq_getElem_cons h]
  nth_rewrite 1 [hn]
  rw [List.take_succ_cons, masked_cons_span hapart hspan hi, hn, Nat.add_sub_cancel,
    List.drop_of_length_le (List.length_take_le _ _), masked, List.append_nil]

/-- Where a span ends, no span goes on. -/
theorem Apart.not_within_end (h : Apart spans) (hspan : span ∈ spans) :
    ¬Within spans (span.start + span.length) := by
  rintro ⟨other, hother, hstart, hend⟩
  have hlength := h.nonempty span hspan
  have heq := h.unique span hspan other hother (span.start + span.length - 1)
    ⟨by omega, by omega⟩ ⟨by omega, by omega⟩
  rw [← heq] at hend
  omega

/-- Only behind its first character is one inside a span. -/
theorem not_within_succ (hbegins : ¬Begins spans i) (hwithin : ¬Within spans i) :
    ¬Within spans (i + 1) := by
  rintro ⟨span, hspan, hstart, hend⟩
  by_cases hi : span.start = i
  · exact hbegins ⟨span, hspan, hi⟩
  · exact hwithin ⟨span, hspan, by omega, by omega⟩

variable (new spans text) in
/-- Offsets keep the order of the positions. -/
theorem offset_mono : Monotone (offset new spans text) := by
  refine monotone_nat_of_le_succ fun i => ?_
  by_cases h : i < text.length
  · rw [offset_succ h]
    exact Nat.le_add_right _ _
  · rw [offset, offset, List.take_of_length_le (by omega), List.take_of_length_le (by omega)]

end Masked

/-! ## One word in a masked text -/

/-- The occurrences of a word in the text that no span is in. -/
def fresh (spans : Set Span) (word text : List α) : Set Span :=
  {span | span.length = word.length ∧ word <+: text.drop span.start ∧
    ∀ j, span.Has j → Kept spans j}

/-- In the masked text the word is found nowhere but at its occurrences that no span is in. -/
def FindsFresh [DecidableEq α] (new : List α) (spans : Set Span) (word text : List α) : Prop :=
  ∀ k ∈ found word (masked new spans 0 text),
    ∃ span ∈ fresh spans word text, k = offset new spans text span.start

section Fresh

variable {new word text : List α} {spans : Set Span} {i : ℕ}

/-- A fresh occurrence starts in the text. -/
theorem lt_length_of_fresh {span : Span} (hne : word ≠ []) (h : span ∈ fresh spans word text) :
    span.start < text.length := by
  have hle := h.2.1.length_le
  have hpos := List.length_pos_iff.mpr hne
  rw [List.length_drop] at hle
  omega

/-- A fresh occurrence starts outside the spans. -/
theorem kept_of_fresh {span : Span} (hne : word ≠ []) (h : span ∈ fresh spans word text) :
    Kept spans span.start := by
  have hpos := List.length_pos_iff.mpr hne
  exact h.2.2 _ ⟨le_rfl, by rw [h.1]; omega⟩

/-- A kept place has an offset of its own. -/
theorem eq_of_offset_eq {j : ℕ} (hi : i < text.length) (hj : j < text.length)
    (hkept : Kept spans i) (hkept' : Kept spans j)
    (h : offset new spans text i = offset new spans text j) : i = j := by
  rcases Nat.lt_trichotomy i j with hlt | heq | hlt
  · have hmono := offset_mono new text spans hlt
    rw [Nat.succ_eq_add_one, offset_succ_kept hi hkept] at hmono
    omega
  · exact heq
  · have hmono := offset_mono new text spans hlt
    rw [Nat.succ_eq_add_one, offset_succ_kept hj hkept'] at hmono
    omega

/-- What a fresh occurrence shows. -/
theorem masked_fresh (h : ⟨i, word.length⟩ ∈ fresh spans word text) :
    masked new spans i (text.drop i) =
      word ++ masked new spans (i + word.length) (text.drop (i + word.length)) := by
  obtain ⟨-, ⟨rest, hrest⟩, hkept⟩ := h
  have hdrop : text.drop (i + word.length) = rest := by
    rw [← List.drop_drop, ← hrest, List.drop_left]
  rw [hdrop, ← hrest, masked_run fun j hj hj' => hkept j ⟨hj, hj'⟩]

/-- Nothing of a fresh occurrence has been masked. -/
theorem offset_fresh (new : List α) (h : ⟨i, word.length⟩ ∈ fresh spans word text) :
    offset new spans text (i + word.length) = offset new spans text i + word.length := by
  obtain ⟨-, hword, hkept⟩ := h
  have hmasked : masked new spans i word = word := masked_kept fun j hj hj' => hkept j ⟨hj, hj'⟩
  rw [offset_add, List.prefix_iff_eq_take.mp hword |>.symm, hmasked]

/-- A character that no mask has is shown by a kept place. -/
theorem exists_kept_of_getElem? {c : α} {k : ℕ} (hc : c ∉ new)
    (h : (masked new spans i text)[k]? = some c) : ∃ j, Kept spans (i + j) ∧
      k = (masked new spans i (text.take j)).length ∧
      (masked new spans i text).drop k = masked new spans (i + j) (text.drop j) := by
  induction text generalizing i k with
  | nil => cases h
  | cons d text ih =>
    have hcons (rest : List α) : masked new spans i (d :: rest) =
        masked new spans i [d] ++ masked new spans (i + 1) rest := masked_append [d]
    rcases Nat.lt_or_ge k (masked new spans i [d]).length with hlt | hge
    · -- the piece of the first place has the character: it is no mask
      rw [hcons, List.getElem?_append_left hlt] at h
      have hmem := List.mem_of_getElem? h
      by_cases hbegins : Begins spans i
      · rw [masked_cons_begins hbegins, masked, List.append_nil] at hmem
        exact absurd hmem hc
      by_cases hwithin : Within spans i
      · rw [masked, if_neg hbegins, if_pos hwithin] at hmem
        cases hmem
      rw [masked_cons_kept ⟨hbegins, hwithin⟩] at hlt
      obtain rfl : k = 0 := Nat.lt_one_iff.mp hlt
      exact ⟨0, ⟨hbegins, hwithin⟩, rfl, rfl⟩
    · rw [hcons, List.getElem?_append_right hge] at h
      obtain ⟨j, hkept, hk, hdrop⟩ := ih h
      rw [Nat.add_right_comm, Nat.add_assoc] at hkept hdrop
      refine ⟨j + 1, hkept, ?_, ?_⟩
      · rw [List.take_succ_cons, hcons, List.length_append, ← hk]
        omega
      · rw [hcons, List.drop_append, List.drop_of_length_le hge, List.nil_append, hdrop]
        rfl

/-- A word without a character of the mask, shown from a place on that no span goes on at, is the
text itself there. -/
theorem prefix_of_masked (hdisjoint : ∀ c ∈ word, c ∉ new) (hnew : new ≠ [])
    (hi : ¬Within spans i) (h : word <+: masked new spans i text) :
    word <+: text ∧ ∀ j, i ≤ j → j < i + word.length → Kept spans j := by
  induction word generalizing i text with
  | nil => exact ⟨List.nil_prefix, fun j hj hlt => absurd hlt (by simpa using hj)⟩
  | cons c word ih =>
    cases text with
    | nil =>
      rw [masked] at h
      exact absurd (List.prefix_nil.mp h) (List.cons_ne_nil _ _)
    | cons d text =>
      have hbegins : ¬Begins spans i := by
        intro hbegins
        obtain ⟨e, rest, rfl⟩ := List.exists_cons_of_ne_nil hnew
        rw [masked_cons_begins hbegins, List.cons_append, List.cons_prefix_cons] at h
        exact hdisjoint c List.mem_cons_self (h.1 ▸ List.mem_cons_self)
      rw [masked_cons_kept ⟨hbegins, hi⟩, List.cons_prefix_cons] at h
      obtain ⟨rfl, hrest⟩ := h
      obtain ⟨hbefore, hkept⟩ := ih (fun c hc => hdisjoint c (List.mem_cons_of_mem _ hc))
        (not_within_succ hbegins hi) hrest
      refine ⟨(List.cons_prefix_cons).mpr ⟨rfl, hbefore⟩, fun j hj hlt => ?_⟩
      rcases Nat.eq_or_lt_of_le hj with rfl | hj
      · exact ⟨hbegins, hi⟩
      · rw [List.length_cons] at hlt
        exact hkept j hj (by omega)

variable [DecidableEq α]

/-- A word without a character of the mask is found at its own occurrences only. -/
theorem findsFresh_of_disjoint (hdisjoint : ∀ c ∈ word, c ∉ new) (hnew : new ≠ [])
    (hne : word ≠ []) : FindsFresh new spans word text := by
  intro k hk
  have hprefix : word <+: (masked new spans 0 text).drop k :=
    prefix_of_mem_foundFrom (i := 0) (by rwa [Nat.zero_add])
  obtain ⟨c, rest, rfl⟩ := List.exists_cons_of_ne_nil hne
  have hchar : (masked new spans 0 text)[k]? = some c := by
    obtain ⟨more, hmore⟩ := hprefix
    rw [← Nat.add_zero k, ← List.getElem?_drop, ← hmore]
    rfl
  obtain ⟨j, hkept, hlength, hdrop⟩ :=
    exists_kept_of_getElem? (hdisjoint c List.mem_cons_self) hchar
  rw [Nat.zero_add] at hkept hdrop
  rw [hdrop] at hprefix
  obtain ⟨hword, hall⟩ := prefix_of_masked hdisjoint hnew hkept.2 hprefix
  exact ⟨⟨j, (c :: rest).length⟩, ⟨rfl, hword, fun i hi => hall i hi.1 hi.2⟩, hlength⟩

/-- One replacement masks the fresh occurrences, from a place on that no span goes on at. -/
theorem replaceFrom_masked (hne : word ≠ []) (hapart : Apart (spans ∪ fresh spans word text))
    (hi : ¬Within (spans ∪ fresh spans word text) i)
    (hfound : ∀ k ∈ foundFrom word (offset new spans text i) 0 (masked new spans i (text.drop i)),
      ∃ span ∈ fresh spans word text, k = offset new spans text span.start) :
    replaceFrom word new 0 (masked new spans i (text.drop i)) =
      masked new (spans ∪ fresh spans word text) i (text.drop i) := by
  induction hlength : text.length - i using Nat.strong_induction_on generalizing i with
  | h length ih =>
    have hpos := List.length_pos_iff.mpr hne
    rcases Nat.lt_or_ge i text.length with hlt | hge
    swap
    · rw [List.drop_of_length_le hge]
      rfl
    have hdrop : text.drop i = text[i] :: text.drop (i + 1) := List.drop_eq_getElem_cons hlt
    have hold : Apart spans := hapart.mono Set.subset_union_left
    by_cases hbegins : Begins spans i
    · -- a replacement, in which no word is found
      obtain ⟨span, hspan, hstart⟩ := hbegins
      have hmore := hold.nonempty span hspan
      have hrest : (text.drop (i + 1)).drop (span.length - 1) = text.drop (i + span.length) := by
        rw [List.drop_drop, show i + 1 + (span.length - 1) = i + span.length by omega]
      have hpast (k : ℕ) (hk : k ∈ foundFrom word (offset new spans text i) 0
          (masked new spans i (text.drop i))) : offset new spans text i + new.length ≤ k := by
        obtain ⟨other, hfresh, rfl⟩ := hfound k hk
        have hle := le_of_mem_foundFrom hk
        rcases Nat.lt_trichotomy other.start i with hbefore | heq | hbehind
        · have hmono := offset_mono new text spans hbefore
          rw [Nat.succ_eq_add_one, offset_succ_kept (lt_length_of_fresh hne hfresh)
            (kept_of_fresh hne hfresh)] at hmono
          omega
        · exact absurd ⟨span, hspan, hstart.trans heq.symm⟩ (kept_of_fresh hne hfresh).1
        · rw [← offset_succ_begins hlt ⟨span, hspan, hstart⟩]
          exact offset_mono _ _ _ hbehind
      rw [hdrop, masked_cons_span hapart (.inl hspan) hstart, hrest]
      rw [hdrop, masked_cons_span hold hspan hstart, hrest] at hfound hpast
      rw [masked_cons_span hold hspan hstart, hrest]
      obtain ⟨hreplace, hsame⟩ := replaceFrom_append new hpast
      rw [hsame, ← offset_span hold hspan hstart hlt] at hfound
      rw [hreplace, ih _ (by omega) (hstart ▸ hapart.not_within_end (.inl hspan)) hfound rfl]
    · have hkept : Kept spans i :=
        ⟨hbegins, fun ⟨span, hspan, hrest⟩ => hi ⟨span, .inl hspan, hrest⟩⟩
      by_cases hword : ⟨i, word.length⟩ ∈ fresh spans word text
      · have hrest : (text.drop (i + 1)).drop (word.length - 1) = text.drop (i + word.length) := by
          rw [List.drop_drop, show i + 1 + (word.length - 1) = i + word.length by omega]
        rw [masked_fresh hword, foundFrom_word hne] at hfound
        have hoffset := offset_fresh new hword
        rw [← hoffset] at hfound
        have hend : ¬Within (spans ∪ fresh spans word text) (i + word.length) :=
          hapart.not_within_end (.inr hword)
        rw [masked_fresh hword, replaceFrom_word hne, ih _ (by omega) hend
          (fun k hk => hfound k (List.mem_cons_of_mem _ hk)) rfl, hdrop,
          masked_cons_span hapart (.inr hword) rfl, hrest]
      · -- a character that stays
        have hother : ¬Begins (spans ∪ fresh spans word text) i := by
          rintro ⟨span, hspan | hspan, hstart⟩
          · exact hbegins ⟨span, hspan, hstart⟩
          · obtain rfl : span = ⟨i, word.length⟩ := Span.ext hstart hspan.1
            exact hword hspan
        have hnot : ¬word <+: text[i] :: masked new spans (i + 1) (text.drop (i + 1)) := by
          intro hprefix
          rw [hdrop, masked_cons_kept hkept, foundFrom, if_pos hprefix] at hfound
          obtain ⟨span, hfresh, heq⟩ := hfound _ List.mem_cons_self
          have hstart := eq_of_offset_eq hlt (lt_length_of_fresh hne hfresh) hkept
            (kept_of_fresh hne hfresh) heq
          exact hother ⟨span, .inr hfresh, hstart.symm⟩
        rw [hdrop, masked_cons_kept hkept, foundFrom, if_neg hnot,
          ← offset_succ_kept hlt hkept] at hfound
        rw [hdrop, masked_cons_kept hkept, masked_cons_kept ⟨hother, hi⟩, replaceFrom, if_neg hnot,
          ih _ (by omega) (not_within_succ hother hi) hfound rfl]

end Fresh

/-! ## What is replaced -/

/-- The text with each run of covered characters replaced by one or more `new`, and with every
other character as it was. -/
inductive Replaced (covered : ℕ → Prop) (new : List α) : ℕ → List α → List α → Prop
  | nil {i} : Replaced covered new i [] []
  | keep {i c text out} (hkept : ¬covered i) (hrest : Replaced covered new (i + 1) text out) :
      Replaced covered new i (c :: text) (c :: out)
  | mask {i run text out} (hne : run ≠ []) (hrun : ∀ j, i ≤ j → j < i + run.length → covered j)
      (hrest : Replaced covered new (i + run.length) text out) :
      Replaced covered new i (run ++ text) (new ++ out)

def CoveredBy (spans : Set Span) (i : ℕ) : Prop := ∃ span ∈ spans, span.Has i

/-- A masked text is one in which the covered characters are replaced. -/
theorem replaced_masked {new text : List α} {spans : Set Span} {i : ℕ} (hapart : Apart spans)
    (hfits : ∀ span ∈ spans, span.start + span.length ≤ text.length) (hi : ¬Within spans i) :
    Replaced (CoveredBy spans) new i (text.drop i) (masked new spans i (text.drop i)) := by
  induction hlength : text.length - i using Nat.strong_induction_on generalizing i with
  | h length ih =>
    rcases Nat.lt_or_ge i text.length with hlt | hge
    swap
    · rw [List.drop_of_length_le hge]
      exact .nil
    have hdrop : text.drop i = text[i] :: text.drop (i + 1) := List.drop_eq_getElem_cons hlt
    -- by the position: a span begins here, or the character is kept
    by_cases hbegins : Begins spans i
    · obtain ⟨span, hspan, rfl⟩ := hbegins
      have hmore := hapart.nonempty span hspan
      have hfit := hfits span hspan
      have hrest : (text.drop (span.start + 1)).drop (span.length - 1) =
          text.drop (span.start + span.length) := by
        rw [List.drop_drop, show span.start + 1 + (span.length - 1) = span.start + span.length by
          omega]
      have hrun : ((text.drop span.start).take span.length).length = span.length := by
        rw [List.length_take, List.length_drop]
        omega
      have hsplit : text.drop span.start = (text.drop span.start).take span.length ++
          text.drop (span.start + span.length) := by
        rw [← List.drop_drop, List.take_append_drop]
      rw [hdrop, masked_cons_span hapart hspan rfl, hrest, ← hdrop, hsplit]
      refine .mask (fun hnil => ?_) (fun j hj hj' => ?_) ?_
      · rw [hnil] at hrun
        exact hmore.ne hrun
      · exact ⟨span, hspan, hj, hrun ▸ hj'⟩
      · rw [hrun]
        exact ih _ (by omega) (hapart.not_within_end hspan) rfl
    -- nothing begins here and no span reaches over it, so it is not covered
    · have hkept : ¬CoveredBy spans i := by
        rintro ⟨span, hspan, hstart, hend⟩
        rcases Nat.lt_or_eq_of_le hstart with hlt | heq
        · exact hi ⟨span, hspan, hlt, hend⟩
        · exact hbegins ⟨span, hspan, heq⟩
      rw [hdrop, masked_cons_kept ⟨hbegins, hi⟩]
      exact .keep hkept (ih _ (by omega) (not_within_succ hbegins hi) rfl)

/-! ## Many words -/

/-- The characters of a span. -/
def Span.slice (span : Span) (text : List α) : List α := (text.drop span.start).take span.length

/-- Every place of the one is a place of the other. -/
def Span.Inside (span other : Span) : Prop :=
  other.start ≤ span.start ∧ span.start + span.length ≤ other.start + other.length

instance (span other : Span) : Decidable (span.Inside other) :=
  inferInstanceAs (Decidable (_ ∧ _))

def occurrences (words : Set (List α)) (text : List α) : Set Span :=
  {span | 0 < span.length ∧ span.start + span.length ≤ text.length ∧ span.slice text ∈ words}

/-- The occurrences that are in no larger one. -/
def outermost (words : Set (List α)) (text : List α) : Set Span :=
  {span | span ∈ occurrences words text ∧
    ∀ other ∈ occurrences words text, span.Inside other → other = span}

/-- The outermost occurrences of some of the words. -/
def outermostOf (words done : Set (List α)) (text : List α) : Set Span :=
  {span | span ∈ outermost words text ∧ span.slice text ∈ done}

/-- Occurrences that share a character lie together in one occurrence. -/
def Nested (words : Set (List α)) (text : List α) : Prop :=
  ∀ span ∈ occurrences words text, ∀ other ∈ occurrences words text, ∀ i, span.Has i →
    other.Has i → ∃ whole ∈ occurrences words text, span.Inside whole ∧ other.Inside whole

section Many

variable {words done : Set (List α)} {new text word : List α} {span other : Span}

theorem Span.Inside.has {i : ℕ} (h : span.Inside other) (hi : span.Has i) : other.Has i :=
  ⟨h.1.trans hi.1, hi.2.trans_le h.2⟩

/-- An occurrence is as long as its span. -/
theorem length_slice (h : span ∈ occurrences words text) :
    (span.slice text).length = span.length := by
  rw [Span.slice, List.length_take, List.length_drop]
  have hfits := h.2.1
  omega

/-- A span inside another one shows a part of what that shows. -/
theorem slice_infix (h : span.Inside other) : span.slice text <:+: other.slice text := by
  obtain ⟨n, hn⟩ := Nat.exists_eq_add_of_le h.1
  have hend := h.2
  have hslice : span.slice text = ((other.slice text).drop n).take span.length := by
    rw [Span.slice, Span.slice, List.drop_take, List.drop_drop, hn, List.take_take,
      Nat.min_eq_left (by omega)]
  rw [hslice]
  exact (List.take_prefix _ _).isInfix.trans (List.drop_suffix _ _).isInfix

/-- Of the spans around an occurrence, a longest one is outermost. -/
theorem exists_outermost (h : span ∈ occurrences words text) :
    ∃ whole ∈ outermost words text, span.Inside whole := by
  induction hlength : text.length - span.length using Nat.strong_induction_on generalizing span with
  | h length ih =>
    by_cases hout : span ∈ outermost words text
    · exact ⟨span, hout, le_rfl, le_rfl⟩
    · have hlarger : ∃ other ∈ occurrences words text, span.Inside other ∧ other ≠ span := by
        by_contra hnone
        exact hout ⟨h, fun other hother hinside => by
          by_contra hne
          exact hnone ⟨other, hother, hinside, hne⟩⟩
      obtain ⟨other, hother, hinside, hne⟩ := hlarger
      have hfits := hother.2.1
      have hshorter : span.length < other.length := by
        obtain ⟨hstart, hend⟩ := hinside
        by_contra hge
        exact hne (Span.ext (by omega) (by omega))
      obtain ⟨whole, hwhole, hother⟩ := ih _ (by omega) hother rfl
      exact ⟨whole, hwhole, hother.1.trans hinside.1, hinside.2.trans hother.2⟩

/-- Outermost occurrences do not overlap. -/
theorem Nested.apart (h : Nested words text) : Apart (outermost words text) where
  nonempty := fun span hspan => hspan.1.1
  unique := by
    intro span hspan other hother i hi hi'
    obtain ⟨whole, hwhole, hinside, hinside'⟩ := h span hspan.1 other hother.1 i hi hi'
    rw [← hspan.2 whole hwhole hinside, hother.2 whole hwhole hinside']

/-- Nor do those that are masked so far. -/
theorem Nested.apart_of (h : Nested words text) : Apart (outermostOf words done text) :=
  h.apart.mono fun _ hspan => hspan.1

/-- A word of a larger one is smaller. -/
def Sized (size : List α → ℕ) : Prop :=
  ∀ word other : List α, word <:+: other → word ≠ other → size word < size other

/-- After the larger words, the outermost occurrences of a word are those that no span is in. -/
theorem outermostOf_insert {size : List α → ℕ} (hsize : Sized size) (hnested : Nested words text)
    (hword : word ∈ words) (hne : word ≠ []) (hnot : word ∉ done)
    (hlarger : ∀ other ∈ words, size word < size other → other ∈ done) :
    outermostOf words (insert word done) text = outermostOf words done text ∪
      fresh (outermostOf words done text) word text := by
  ext span
  constructor
  · rintro ⟨hout, rfl | hdone⟩
    · refine .inr ⟨(length_slice hout.1).symm, List.take_prefix _ _, fun j hj => ⟨?_, ?_⟩⟩
      · rintro ⟨other, ⟨hother, hdone⟩, rfl⟩
        have hhas : other.Has other.start := ⟨le_rfl, Nat.lt_add_of_pos_right hother.1.1⟩
        exact hnot (hnested.apart.unique span hout other hother _ hj hhas ▸ hdone)
      · rintro ⟨other, ⟨hother, hdone⟩, hstart, hend⟩
        exact hnot (hnested.apart.unique span hout other hother _ hj ⟨hstart.le, hend⟩ ▸ hdone)
    · exact .inl ⟨hout, hdone⟩
  · rintro (⟨hout, hdone⟩ | ⟨hlength, hprefix, hkept⟩)
    · exact ⟨hout, .inr hdone⟩
    have hslice : span.slice text = word := by
      rw [Span.slice, hlength, ← List.prefix_iff_eq_take.mp hprefix]
    have hpos := List.length_pos_iff.mpr hne
    have hoccurs : span ∈ occurrences words text := by
      refine ⟨hlength ▸ hpos, ?_, hslice ▸ hword⟩
      have hle := hprefix.length_le
      rw [List.length_drop] at hle
      omega
    refine ⟨?_, .inl hslice⟩
    obtain ⟨whole, hwhole, hinside⟩ := exists_outermost hoccurs
    by_cases heq : whole = span
    · exact heq ▸ hwhole
    -- a larger occurrence around it is of a word that is replaced already
    have hother : word ≠ whole.slice text := by
      intro hsame
      have hsamelength := length_slice hwhole.1
      rw [← hsame, ← hlength] at hsamelength
      obtain ⟨hstart, hend⟩ := hinside
      exact heq (Span.ext (by omega) hsamelength.symm)
    have hdone := hlarger _ hwhole.1.2.2 (hsize word _ (hslice ▸ slice_infix hinside) hother)
    have hhas := hinside.has (i := span.start) ⟨le_rfl, Nat.lt_add_of_pos_right (hlength ▸ hpos)⟩
    have hstays := hkept span.start ⟨le_rfl, Nat.lt_add_of_pos_right (hlength ▸ hpos)⟩
    rcases Nat.lt_or_eq_of_le hhas.1 with hlt | hstart
    · exact absurd ⟨whole, ⟨hwhole, hdone⟩, hlt, hhas.2⟩ hstays.2
    · exact absurd ⟨whole, ⟨hwhole, hdone⟩, hstart⟩ hstays.1

/-- When the larger words and some of its own size are replaced, a word is found nowhere but at
its occurrences. -/
def Undisturbed [DecidableEq α] (new : List α) (size : List α → ℕ) (words : Set (List α))
    (text : List α) : Prop :=
  ∀ word ∈ words, ∀ done ⊆ words, word ∉ done → (∀ other ∈ done, size word ≤ size other) →
    (∀ other ∈ words, size word < size other → other ∈ done) →
      FindsFresh new (outermostOf words done text) word text

theorem kept_empty (i : ℕ) : Kept (outermostOf words ∅ text) i :=
  ⟨fun ⟨_, h, _⟩ => h.2, fun ⟨_, h, _⟩ => h.2⟩

theorem masked_empty : masked new (outermostOf words ∅ text) 0 text = text :=
  masked_kept fun j _ _ => kept_empty j

theorem outermostOf_self : outermostOf words words text = outermost words text := by
  ext span
  exact ⟨fun h => h.1, fun h => ⟨h, h.1.2.2⟩⟩

/-- What lies in an occurrence lies in an outermost one. -/
theorem coveredBy_outermost {i : ℕ} :
    CoveredBy (outermost words text) i ↔ CoveredBy (occurrences words text) i := by
  constructor
  · rintro ⟨span, hspan, hhas⟩
    exact ⟨span, hspan.1, hhas⟩
  · rintro ⟨span, hspan, hhas⟩
    obtain ⟨whole, hwhole, hinside⟩ := exists_outermost hspan
    exact ⟨whole, hwhole, hinside.has hhas⟩

/-- With its outermost occurrences masked, exactly what lies in an occurrence is replaced. -/
theorem replaced_outermost (hnested : Nested words text) :
    Replaced (CoveredBy (occurrences words text)) new 0 text
      (masked new (outermost words text) 0 text) := by
  have hstart : ¬Within (outermost words text) 0 := by
    rintro ⟨span, -, hlt, -⟩
    omega
  have hcovered : CoveredBy (occurrences words text) = CoveredBy (outermost words text) := by
    funext i
    exact propext coveredBy_outermost.symm
  rw [hcovered]
  exact replaced_masked hnested.apart (fun span hspan => hspan.1.2.1) hstart

/-- Words that have no character of the mask disturb nothing. -/
theorem undisturbed_of_disjoint [DecidableEq α] {size : List α → ℕ} (hnew : new ≠ [])
    (h : ∀ word ∈ words, word ≠ [] ∧ ∀ c ∈ word, c ∉ new) : Undisturbed new size words text :=
  fun word hword _ _ _ _ _ => findsFresh_of_disjoint (h word hword).2 hnew (h word hword).1

/-- Of two occurrences that are not apart but one inside the other, the larger one is around both. -/
theorem nested_of_inside {spans : List Span}
    (hoccurs : ∀ span ∈ occurrences words text, span ∈ spans)
    (h : ∀ span ∈ spans, ∀ other ∈ spans, span.start + span.length ≤ other.start ∨
      other.start + other.length ≤ span.start ∨ span.Inside other ∨ other.Inside span) :
    Nested words text := by
  intro span hspan other hother i hi hi'
  have hstart := hi.1
  have hstart' := hi'.1
  have hend := hi.2
  have hend' := hi'.2
  rcases h span (hoccurs span hspan) other (hoccurs other hother) with
    hbefore | hbehind | hinside | haround
  · omega
  · omega
  · exact ⟨other, hother, hinside, le_rfl, le_rfl⟩
  · exact ⟨span, hspan, ⟨le_rfl, le_rfl⟩, haround⟩

section Replace

variable [DecidableEq α] {size : List α → ℕ}

/-- One round of the replacement masks the outermost occurrences of one more word. -/
theorem replace_masked (hsize : Sized size) (hnested : Nested words text) (hword : word ∈ words)
    (hne : word ≠ []) (hnot : word ∉ done)
    (hlarger : ∀ other ∈ words, size word < size other → other ∈ done)
    (hfinds : FindsFresh new (outermostOf words done text) word text) :
    replace word new (masked new (outermostOf words done text) 0 text) =
      masked new (outermostOf words (insert word done) text) 0 text := by
  have hinsert := outermostOf_insert hsize hnested hword hne hnot hlarger
  have hapart : Apart (outermostOf words (insert word done) text) := hnested.apart_of
  rw [hinsert] at hapart ⊢
  have hstart : ¬Within (outermostOf words done text ∪
      fresh (outermostOf words done text) word text) 0 := by
    rintro ⟨span, -, hlt, -⟩
    omega
  exact replaceFrom_masked hne hapart hstart hfinds

/-- Words from the largest to the smallest: what is left to do masks the words that are left. -/
theorem foldl_replace_masked (hsize : Sized size) (hnested : Nested words text)
    (hundisturbed : Undisturbed new size words text) {rest : List (List α)}
    (hne : ∀ word ∈ rest, word ≠ []) (hwords : ∀ word, word ∈ words ↔ word ∈ done ∨ word ∈ rest)
    (hnodup : rest.Nodup) (hnot : ∀ word ∈ rest, word ∉ done)
    (hsorted : rest.Pairwise fun word other => size other ≤ size word)
    (hdone : ∀ other ∈ done, ∀ word ∈ rest, size word ≤ size other) :
    rest.foldl (fun out word => replace word new out)
        (masked new (outermostOf words done text) 0 text) =
      masked new (outermostOf words words text) 0 text := by
  -- on the words still to replace, the longest first; `done` are those replaced already
  induction rest generalizing done with
  | nil =>
    have hsame : done = words := by
      ext word
      simpa using (hwords word).symm
    rw [List.foldl_nil, hsame]
  | cons word rest ih =>
    obtain ⟨hfirst, hsorted⟩ := List.pairwise_cons.mp hsorted
    obtain ⟨hfresh, hnodup⟩ := List.nodup_cons.mp hnodup
    have hin : word ∈ words := (hwords word).mpr (.inr List.mem_cons_self)
    -- all longer words are done, so no unreplaced one covers this word
    have hlarger : ∀ other ∈ words, size word < size other → other ∈ done := by
      intro other hother hlt
      rcases (hwords other).mp hother with hmem | hmem
      · exact hmem
      · rcases List.mem_cons.mp hmem with rfl | hmem
        · exact absurd hlt (lt_irrefl _)
        · exact absurd hlt (hfirst other hmem).not_gt
    have hfinds := hundisturbed word hin done (fun other h => (hwords other).mpr (.inl h))
      (hnot word List.mem_cons_self) (fun other h => hdone other h word List.mem_cons_self) hlarger
    rw [List.foldl_cons, replace_masked hsize hnested hin (hne word List.mem_cons_self)
      (hnot word List.mem_cons_self) hlarger hfinds]
    refine ih (fun other h => hne other (List.mem_cons_of_mem _ h)) (fun other => ?_) hnodup ?_
      hsorted ?_
    · rw [hwords, Set.mem_insert_iff, List.mem_cons]
      tauto
    · rintro other hother (rfl | hmem)
      · exact hfresh hother
      · exact hnot other (List.mem_cons_of_mem _ hother) hmem
    · rintro other (rfl | hmem) smaller hsmaller
      · exact hfirst smaller hsmaller
      · exact hdone other hmem smaller (List.mem_cons_of_mem _ hsmaller)

/-- From the largest to the smallest, the words mask their outermost occurrences. -/
theorem foldl_replace (hsize : Sized size) {ordered : List (List α)}
    (hne : ∀ word ∈ ordered, word ≠ []) (hnodup : ordered.Nodup)
    (hsorted : ordered.Pairwise fun word other => size other ≤ size word)
    (hnested : Nested {word | word ∈ ordered} text)
    (hundisturbed : Undisturbed new size {word | word ∈ ordered} text) :
    ordered.foldl (fun out word => replace word new out) text =
      masked new (outermost {word | word ∈ ordered} text) 0 text := by
  have hfold : ordered.foldl (fun out word => replace word new out)
      (masked new (outermostOf {word | word ∈ ordered} ∅ text) 0 text) = _ :=
    foldl_replace_masked hsize hnested hundisturbed hne (fun word => by simp) hnodup
      (fun _ _ h => h) hsorted fun _ h => absurd h (Set.notMem_empty _)
  rwa [masked_empty, outermostOf_self] at hfold

end Replace

end Many

end Replacement
