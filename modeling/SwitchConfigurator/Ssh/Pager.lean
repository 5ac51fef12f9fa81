import SwitchConfigurator.Ssh.PromptWait

/-!
# Pager prompts that stay

The pager prompt is looked for in the decoded text without escape sequences, and it is taken out of
the bytes. What is left over has a prompt exactly where one was interrupted, by an escape sequence
or by another prompt.
-/

namespace SwitchConfigurator.Ssh

open Snmp (fromUtf8Lossy lossyFrom firstChar charOfBits isTail maySecond)
open Aruba (stripAnsi stripAnsiFrom)

/-! ## Markers -/

section Marker

variable {α : Type*} {char : α → Char} {text rest : List α} {word : List Char}

/-- The text of a pager prompt's marker. -/
structure IsMarker (char : α → Char) (text : List α) : Prop where
  words : ∃ start gap more gap' stop, text = start ++ (gap ++ (more ++ (gap' ++ stop))) ∧
    start.map char = "--".toList ∧ (∀ a ∈ gap, isWhitespace (char a) = true) ∧
      more.map char = "MORE".toList ∧ (∀ a ∈ gap', isWhitespace (char a) = true) ∧
        stop.map char = "--".toList

/-- What stands behind a word is the text without it. -/
theorem behindWord_eq_some_iff : behindWord char word text = some rest ↔
    ∃ front, text = front ++ rest ∧ front.map char = word := by
  induction word generalizing text with
  | nil =>
    constructor
    · rintro ⟨⟩
      exact ⟨[], rfl, rfl⟩
    · rintro ⟨front, rfl, hfront⟩
      rw [List.map_eq_nil_iff.mp hfront]
      rfl
  | cons c word ih =>
    cases text with
    | nil =>
      constructor
      · exact fun h => nomatch h
      · rintro ⟨front, hfront, hword⟩
        rw [(List.append_eq_nil_iff.mp hfront.symm).1] at hword
        cases hword
    | cons a text =>
      rw [behindWord]
      by_cases hc : char a = c
      · rw [if_pos hc, ih]
        constructor
        · rintro ⟨front, rfl, rfl⟩
          exact ⟨a :: front, rfl, by rw [List.map_cons, hc]⟩
        · rintro ⟨front, hfront, hword⟩
          obtain ⟨b, front, rfl, hb, hrest⟩ := List.map_eq_cons_iff.mp hword
          exact ⟨front, (List.cons.inj hfront).2, hrest⟩
      · rw [if_neg hc]
        constructor
        · exact fun h => nomatch h
        · rintro ⟨front, hfront, hword⟩
          obtain ⟨b, front, rfl, hb, -⟩ := List.map_eq_cons_iff.mp hword
          exact absurd ((congrArg char (List.cons.inj hfront).1).trans hb) hc

/-- What stands behind blanks is the text without them. -/
theorem behindBlanks_append {gap : List α} (h : ∀ a ∈ gap, isWhitespace (char a) = true)
    (hrest : ∀ a ∈ rest.head?, isWhitespace (char a) = false) :
    behindBlanks char (gap ++ rest) = rest := by
  rw [behindBlanks, List.dropWhile_append_of_pos h]
  cases rest with
  | nil => rfl
  | cons a rest => rw [List.dropWhile_cons_of_neg (by simp [hrest a rfl])]

theorem head?_of_map {front : List α} {c : Char} (h : front.map char = c :: word)
    (hc : isWhitespace c = false) : ∀ a ∈ (front ++ rest).head?, isWhitespace (char a) = false := by
  obtain ⟨a, front, rfl, rfl, -⟩ := List.map_eq_cons_iff.mp h
  rintro _ ⟨⟩
  exact hc

/-- A text begins with as many blanks as there are. -/
theorem exists_blanks (text : List α) : ∃ gap, text = gap ++ behindBlanks char text ∧
    ∀ a ∈ gap, isWhitespace (char a) = true := by
  refine ⟨text.takeWhile fun a => isWhitespace (char a), List.takeWhile_append_dropWhile.symm, ?_⟩
  intro a ha
  exact @List.mem_takeWhile_imp α (fun a => isWhitespace (char a)) text a ha

/-- The scanner finds a marker at the front of the text, and what follows on it. -/
theorem behindMarker_eq_some_iff : behindMarker char text = some rest ↔
    ∃ marker, text = marker ++ rest ∧ IsMarker char marker := by
  constructor
  · intro h
    obtain ⟨behind, hbehind, hstop⟩ := Option.bind_eq_some_iff.mp h
    obtain ⟨first, hstart, hmore⟩ := Option.bind_eq_some_iff.mp hbehind
    obtain ⟨start, rfl, hstartword⟩ := behindWord_eq_some_iff.mp hstart
    obtain ⟨more, hmore, hmoreword⟩ := behindWord_eq_some_iff.mp hmore
    obtain ⟨stop, hstop, hstopword⟩ := behindWord_eq_some_iff.mp hstop
    obtain ⟨gap, hgap, hblanks⟩ := @exists_blanks _ char first
    obtain ⟨gap', hgap', hblanks'⟩ := @exists_blanks _ char behind
    refine ⟨start ++ (gap ++ (more ++ (gap' ++ stop))), ?_, ⟨start, gap, more, gap', stop, rfl,
      hstartword, hblanks, hmoreword, hblanks', hstopword⟩⟩
    rw [hgap, hmore, hgap', hstop]
    simp only [List.append_assoc]
  · rintro ⟨marker, rfl, ⟨start, gap, more, gap', stop, rfl, hstart, hgap, hmore, hgap', hstop⟩⟩
    have hfirst : behindWord char "--".toList
        (start ++ (gap ++ (more ++ (gap' ++ (stop ++ rest))))) =
          some (gap ++ (more ++ (gap' ++ (stop ++ rest)))) :=
      behindWord_eq_some_iff.mpr ⟨start, rfl, hstart⟩
    have hsecond : behindWord char "MORE".toList (more ++ (gap' ++ (stop ++ rest))) =
        some (gap' ++ (stop ++ rest)) := behindWord_eq_some_iff.mpr ⟨more, rfl, hmore⟩
    have hthird : behindWord char "--".toList (stop ++ rest) = some rest :=
      behindWord_eq_some_iff.mpr ⟨stop, rfl, hstop⟩
    simp only [List.append_assoc]
    rw [behindMarker, hfirst, Option.bind_some,
      behindBlanks_append hgap (head?_of_map hmore (by decide)), hsecond, Option.bind_some,
      behindBlanks_append hgap' (head?_of_map hstop (by decide)), hthird]

/-- The pattern matches exactly if a marker stands in the text. -/
theorem hasMarker_iff : hasMarker char text = true ↔
    ∃ front marker behind, text = front ++ (marker ++ behind) ∧ IsMarker char marker := by
  induction text with
  | nil =>
    constructor
    · exact fun h => nomatch h
    · rintro ⟨front, marker, behind, h, ⟨start, _, _, _, _, rfl, hstart, -⟩⟩
      obtain ⟨-, h⟩ := List.append_eq_nil_iff.mp h.symm
      obtain ⟨h, -⟩ := List.append_eq_nil_iff.mp h
      rw [(List.append_eq_nil_iff.mp h).1] at hstart
      cases hstart
  | cons a text ih =>
    rw [hasMarker, Bool.or_eq_true, ih, Option.isSome_iff_exists]
    constructor
    · rintro (⟨behind, h⟩ | ⟨front, marker, behind, rfl, h⟩)
      · obtain ⟨marker, htext, hmarker⟩ := behindMarker_eq_some_iff.mp h
        exact ⟨[], marker, behind, htext, hmarker⟩
      · exact ⟨a :: front, marker, behind, rfl, h⟩
    · rintro ⟨front, marker, behind, htext, hmarker⟩
      cases front with
      | nil => exact .inl ⟨behind, behindMarker_eq_some_iff.mpr ⟨marker, htext, hmarker⟩⟩
      | cons b front => exact .inr ⟨front, marker, behind, (List.cons.inj htext).2, hmarker⟩

/-- A marker starts and ends with a dash. -/
theorem IsMarker.dashes {marker : List Char} (h : IsMarker id marker) :
    ∃ body, marker = '-' :: (body ++ ['-']) := by
  obtain ⟨start, gap, more, gap', stop, rfl, hstart, -, -, -, hstop⟩ := h.words
  rw [List.map_id] at hstart hstop
  subst hstart hstop
  exact ⟨'-' :: (gap ++ (more ++ (gap' ++ ['-']))), by simp⟩

end Marker

/-! ## Decoding -/

section Decoding

variable {a sep : UInt8} {bytes rest others : List UInt8}

theorem isTail_ascii (h : sep < 0x80) : isTail sep = false := by
  rw [isTail, decide_eq_false (UInt8.not_le.mpr h), Bool.false_and]

theorem maySecond_ascii (h : sep < 0x80) : maySecond a sep = false := by
  have hbounds (b : UInt8) (hb : 0x80 ≤ b) : decide (b ≤ sep) = false :=
    decide_eq_false fun hle => absurd h (UInt8.not_lt.mpr (UInt8.le_trans hb hle))
  rw [maySecond, hbounds _ (by decide), hbounds _ (by decide), hbounds _ (by decide),
    isTail_ascii h]
  simp

/-- An ASCII byte is no part of a character that starts before it. -/
theorem firstChar_append (h : sep < 0x80) : firstChar a (bytes ++ sep :: rest) = firstChar a bytes ∧
    (firstChar a bytes).2 ≤ bytes.length := by
  have hmay := maySecond_ascii (a := a) h
  have htail := isTail_ascii h
  match bytes with
  | [] =>
    simp only [firstChar, List.nil_append, hmay, htail, Bool.false_eq_true, if_false]
    split_ifs <;> simp
  | [b] =>
    simp only [firstChar, List.cons_append, List.nil_append, htail, Bool.not_false, if_true]
    split_ifs <;> simp
  | [b, c] =>
    simp only [firstChar, List.cons_append, List.nil_append, htail, Bool.false_eq_true, if_false]
    split_ifs <;> simp
  | b :: c :: d :: bytes =>
    simp only [firstChar, List.cons_append, List.length_cons]
    split_ifs <;> simp

/-- An ASCII byte cuts the decoding in two. -/
theorem lossyFrom_append (h : sep < 0x80) {n : ℕ} (hn : n ≤ bytes.length) :
    lossyFrom n (bytes ++ sep :: rest) = lossyFrom n bytes ++ lossyFrom 0 (sep :: rest) := by
  induction bytes generalizing n with
  | nil =>
    obtain rfl : n = 0 := by simpa using hn
    rfl
  | cons b bytes ih =>
    cases n with
    | succ n => exact ih (by simpa using hn)
    | zero =>
      have hfirst : firstChar b (bytes ++ sep :: rest) = firstChar b bytes := (firstChar_append h).1
      have hle : (firstChar b bytes).2 ≤ bytes.length := (@firstChar_append _ _ _ rest h).2
      rw [List.cons_append, lossyFrom, lossyFrom, hfirst, ih hle]
      rfl

/-- So the parts are decoded apart. -/
theorem fromUtf8Lossy_append (h : sep < 0x80) : fromUtf8Lossy (bytes ++ sep :: rest) =
    fromUtf8Lossy bytes ++ Char.ofNat sep.toNat :: fromUtf8Lossy rest := by
  have hfirst : firstChar sep rest = (Char.ofNat sep.toNat, 0) := by
    simp only [firstChar, if_pos h]
  rw [fromUtf8Lossy, lossyFrom_append h (Nat.zero_le _), lossyFrom, hfirst]
  rfl

theorem toNat_ofNat_cases (n : ℕ) : (Char.ofNat n).toNat = n ∨ (Char.ofNat n).toNat = 0 := by
  by_cases hn : n.isValidChar
  · left
    rw [Char.ofNat, dif_pos hn]
    rfl
  · right
    rw [Char.ofNat, dif_neg hn]
    rfl

/-- More than one byte is never read as an ASCII character. -/
theorem charOfBits_ne {c : Char} {lead : ℕ} {tails : List UInt8} (hc : 0 < c.toNat)
    (hlt : c.toNat < 0x80)
    (hbits : 0x80 ≤ tails.foldl (fun bits b => bits * 64 + b.toNat % 64) lead) :
    charOfBits lead tails ≠ c := by
  rintro rfl
  rw [charOfBits] at hc hlt
  rcases toNat_ofNat_cases
    (tails.foldl (fun bits b => bits * 64 + b.toNat % 64) lead) with h | h <;>
    omega

theorem bits_two {b : UInt8} (h : 0xC2 ≤ a) (h' : a ≤ 0xDF) :
    0x80 ≤ a.toNat % 32 * 64 + b.toNat % 64 := by
  have hlow : 0xC2 ≤ a.toNat := UInt8.le_iff_toNat_le.mp h
  have hhigh : a.toNat ≤ 0xDF := UInt8.le_iff_toNat_le.mp h'
  omega

/-- The byte after the first one of three or four keeps the smaller numbers out. -/
theorem bits_second {b : UInt8} (h : 0xE0 ≤ a) (h' : a ≤ 0xF4) (hsecond : maySecond a b = true) :
    2 ≤ a.toNat % 16 * 64 + b.toNat % 64 ∧ (0xEF < a → 1 ≤ a.toNat % 8 * 64 + b.toNat % 64) := by
  have hlow : 0xE0 ≤ a.toNat := UInt8.le_iff_toNat_le.mp h
  have hhigh : a.toNat ≤ 0xF4 := UInt8.le_iff_toNat_le.mp h'
  have hlong (hlt : 0xEF < a) : 0xEF < a.toNat := UInt8.lt_iff_toNat_lt.mp hlt
  have hne {n : UInt8} (hn : a ≠ n) : a.toNat ≠ n.toNat := fun heq => hn (UInt8.toNat_inj.mp heq)
  have hrange {low high : UInt8} (hb : (decide (low ≤ b) && decide (b ≤ high)) = true) :
      low.toNat ≤ b.toNat ∧ b.toNat ≤ high.toNat := by
    rw [Bool.and_eq_true, decide_eq_true_iff, decide_eq_true_iff] at hb
    exact ⟨UInt8.le_iff_toNat_le.mp hb.1, UInt8.le_iff_toNat_le.mp hb.2⟩
  rw [maySecond] at hsecond
  split_ifs at hsecond with hE0 hED hF0 hF4
  · subst hE0
    have hb : 0xA0 ≤ b.toNat ∧ b.toNat ≤ 0xBF := hrange hsecond
    exact ⟨by simp; omega, fun hlt => absurd hlt (by decide)⟩
  · subst hED
    exact ⟨by simp; omega, fun hlt => absurd hlt (by decide)⟩
  · subst hF0
    have hb : 0x90 ≤ b.toNat ∧ b.toNat ≤ 0xBF := hrange hsecond
    exact ⟨by simp; omega, fun _ => by simp; omega⟩
  · subst hF4
    exact ⟨by simp; omega, fun _ => by simp; omega⟩
  · have hE0 : a.toNat ≠ 0xE0 := hne hE0
    have hF0 : a.toNat ≠ 0xF0 := hne hF0
    refine ⟨by omega, fun hlt => ?_⟩
    have hlt := hlong hlt
    omega

/-- No other byte is read as an ASCII character. -/
theorem firstChar_ascii {c : Char} (hc : 0 < c.toNat) (hlt : c.toNat < 0x80)
    (h : (firstChar a bytes).1 = c) : c.toNat = a.toNat ∧ a < 0x80 := by
  by_cases hascii : a < 0x80
  · refine ⟨?_, hascii⟩
    simp only [firstChar, if_pos hascii] at h
    rw [← h]
    have hn : a.toNat < 0x80 := UInt8.lt_iff_toNat_lt.mp hascii
    rcases toNat_ofNat_cases a.toNat with heq | heq
    · exact heq
    · rw [← h, heq] at hc
      exact absurd hc (lt_irrefl _)
  · exfalso
    -- an ill-formed sequence gives the replacement character, which is not ASCII
    have hreplaced : '\uFFFD' ≠ c := by
      rintro rfl
      exact absurd hlt (by decide)
    -- a lead byte of two or more has a scalar of at least 0x80
    have htwo {b : UInt8} (hrange : (decide (0xC2 ≤ a) && decide (a ≤ 0xDF)) = true) :
        charOfBits (a.toNat % 32) [b] ≠ c := by
      rw [Bool.and_eq_true, decide_eq_true_iff, decide_eq_true_iff] at hrange
      exact charOfBits_ne hc hlt (bits_two hrange.1 hrange.2)
    have hmore {b d : UInt8} (hrange : (decide (0xE0 ≤ a) && decide (a ≤ 0xF4)) = true)
        (hsecond : maySecond a b = true) : charOfBits (a.toNat % 16) [b, d] ≠ c ∧
          (¬a ≤ 0xEF → ∀ e : UInt8, charOfBits (a.toNat % 8) [b, d, e] ≠ c) := by
      rw [Bool.and_eq_true, decide_eq_true_iff, decide_eq_true_iff] at hrange
      obtain ⟨hthree, hfour⟩ := bits_second hrange.1 hrange.2 hsecond
      refine ⟨charOfBits_ne hc hlt ?_, fun hlong e => charOfBits_ne hc hlt ?_⟩
      · simp only [List.foldl_cons, List.foldl_nil]
        omega
      · have hfour := hfour (UInt8.not_le.mp hlong)
        simp only [List.foldl_cons, List.foldl_nil]
        omega
    simp only [firstChar, if_neg hascii] at h
    match bytes with
    | [] => split_ifs at h <;> exact hreplaced h
    | [b] =>
      dsimp only at h
      split_ifs at h with hrange htail
      · exact htwo hrange h
      all_goals exact hreplaced h
    | b :: d :: bytes =>
      dsimp only at h
      split at h
      · next hrange =>
        split at h
        · exact htwo hrange h
        · exact hreplaced h
      split at h
      · next hrange =>
        split at h
        · next hsecond =>
          obtain ⟨hthree, hfour⟩ := hmore (d := d) hrange hsecond
          split at h
          · exact hreplaced h
          split at h
          · exact hthree h
          next hlong =>
          cases bytes with
          | nil => exact hreplaced h
          | cons e bytes =>
            dsimp only at h
            split at h
            · exact hfour hlong e h
            · exact hreplaced h
        · exact hreplaced h
      · exact hreplaced h

/-- A dash is decoded from a dash only. -/
theorem mem_of_dash_mem {n : ℕ} (h : '-' ∈ lossyFrom n bytes) : 0x2D ∈ bytes := by
  induction bytes generalizing n with
  | nil => cases h
  | cons b bytes ih =>
    cases n with
    | succ n => exact List.mem_cons_of_mem _ (ih h)
    | zero =>
      rcases List.mem_cons.mp h with hfirst | hrest
      · obtain ⟨hb, -⟩ := firstChar_ascii (by decide) (by decide) hfirst.symm
        have hdash : b = 0x2D := UInt8.toNat_inj.mp hb.symm
        exact hdash ▸ List.mem_cons_self
      · exact List.mem_cons_of_mem _ (ih hrest)

/-- So without one there is none in the text that is looked at. -/
theorem not_mem_clean (h : 0x2D ∉ bytes) : '-' ∉ clean bytes :=
  fun hmem => h (mem_of_dash_mem (Aruba.stripAnsi_sublist.subset hmem))

/-- A dash cuts the cleaned text in two. -/
theorem clean_append : clean (bytes ++ 0x2D :: rest) = clean bytes ++ '-' :: clean rest := by
  have hends : Aruba.EndsEscape '-' := by
    refine ⟨?_, ?_, ?_, ?_⟩ <;> decide
  rw [clean, fromUtf8Lossy_append (by decide)]
  exact Aruba.stripAnsiFrom_append_cons hends

/-! ## Scalars -/

def dash : Scalar := ⟨'-', [0x2D]⟩

/-- The scalars of a buffer have all its bytes. -/
theorem bytes_scalarsFrom (n : ℕ) : (scalarsFrom n bytes).flatMap Scalar.bytes = bytes.drop n := by
  induction bytes generalizing n with
  | nil => rw [List.drop_nil]; rfl
  | cons b bytes ih =>
    cases n with
    | succ n => exact ih n
    | zero =>
      rw [scalarsFrom, List.flatMap_cons, ih, List.cons_append, List.take_append_drop]
      rfl

/-- A byte that continues a scalar is not ASCII. -/
theorem le_of_isTail {b : UInt8} (h : isTail b = true) : 0x80 ≤ b := by
  by_contra hlt
  rw [isTail_ascii (UInt8.not_le.mp hlt)] at h
  cases h

theorem le_of_maySecond {b : UInt8} (h : maySecond a b = true) : 0x80 ≤ b := by
  by_contra hlt
  rw [maySecond_ascii (UInt8.not_le.mp hlt)] at h
  cases h

/-- The bytes of a character after its first one are not ASCII. -/
theorem firstChar_tails : ∀ b ∈ bytes.take (firstChar a bytes).2, 0x80 ≤ b := by
  have hnone {l : List UInt8} : ∀ b ∈ l.take 0, 0x80 ≤ b := by simp
  -- the cases are those of the decoder: by the lead byte, then tail after tail
  simp only [firstChar]
  split
  · exact hnone
  split
  · cases bytes with
    | nil => exact hnone
    | cons b bytes =>
      dsimp only
      split
      · next htail => simpa using le_of_isTail htail
      · exact hnone
  split
  · match bytes with
    | [] => exact hnone
    | [b] =>
      dsimp only
      split
      · next hsecond => simpa using le_of_maySecond hsecond
      · exact hnone
    | b :: c :: bytes =>
      dsimp only
      split
      · next hsecond =>
        have hb := le_of_maySecond hsecond
        split
        · simpa using hb
        next htail =>
        have hc : 0x80 ≤ c := le_of_isTail (by simpa using htail)
        split
        · simpa using ⟨hb, hc⟩
        · cases bytes with
          | nil => simpa using ⟨hb, hc⟩
          | cons d bytes =>
            dsimp only
            split
            · next hd => simpa using ⟨hb, hc, le_of_isTail hd⟩
            · simpa using ⟨hb, hc⟩
      · exact hnone
  · exact hnone

/-- A dash is a scalar of its own. -/
theorem eq_dash {scalar : Scalar} {n : ℕ} (h : scalar ∈ scalarsFrom n bytes)
    (hdash : 0x2D ∈ scalar.bytes) : scalar = dash := by
  induction bytes generalizing n with
  | nil => cases h
  | cons b bytes ih =>
    cases n with
    | succ n => exact ih h
    | zero =>
      rcases List.mem_cons.mp h with rfl | hrest
      · rcases List.mem_cons.mp hdash with rfl | htail
        · rfl
        · exact absurd (firstChar_tails _ htail) (by decide)
      · exact ih hrest

end Decoding

/-! ## Dashes divide what is read -/

/-- A reading that is divided at one element, and that no other element makes a mark of. -/
theorem exists_split {α β : Type*} {f : List α → List β} {d : α} {e : β} {p : α → Prop}
    (hsplit : ∀ l l', f (l ++ d :: l') = f l ++ e :: f l')
    (hnone : ∀ l, (∀ a ∈ l, p a) → d ∉ l → e ∉ f l) {l : List α} (hl : ∀ a ∈ l, p a)
    {front behind : List β} (h : f l = front ++ e :: behind) :
    ∃ l₁ l₂, l = l₁ ++ d :: l₂ ∧ f l₁ = front ∧ f l₂ = behind := by
  induction hlength : l.length using Nat.strong_induction_on generalizing l front with
  | h length ih =>
    have hd : d ∈ l := by
      by_contra hd
      exact hnone l hl hd (h ▸ List.mem_append_right _ List.mem_cons_self)
    obtain ⟨l₁, l₂, rfl, hfirst⟩ := List.eq_append_cons_of_mem hd
    have hmark := hnone l₁ (fun a ha => hl a (List.mem_append_left _ ha)) hfirst
    rw [hsplit] at h
    rcases List.append_eq_append_iff.mp h with ⟨more, hfront, hrest⟩ | ⟨more, hl₁, hrest⟩
    · cases more with
      | nil => exact ⟨l₁, l₂, rfl, by rw [hfront, List.append_nil], (List.cons.inj hrest).2⟩
      | cons b more =>
        -- the mark is one of the rest
        obtain ⟨rfl, htail⟩ := List.cons.inj hrest
        have hshorter : l₂.length < length := by
          rw [← hlength, List.length_append, List.length_cons]
          omega
        obtain ⟨l₃, l₄, rfl, hmore, hbehind⟩ := ih _ hshorter
          (fun a ha => hl a (List.mem_append_right _ (List.mem_cons_of_mem _ ha))) htail rfl
        refine ⟨l₁ ++ d :: l₃, l₄, ?_, ?_, hbehind⟩
        · rw [List.append_assoc, List.cons_append]
        · rw [hsplit, hmore, hfront]
    · cases more with
      | nil =>
        rw [List.append_nil] at hl₁
        exact ⟨l₁, l₂, rfl, hl₁, (List.cons.inj hrest).2.symm⟩
      | cons b more =>
        obtain ⟨rfl, -⟩ := List.cons.inj hrest
        exact absurd (hl₁ ▸ List.mem_append_right _ List.mem_cons_self) hmark

/-! ## Pager prompts in the buffer -/

/-- What stays in the buffer, and what is taken out of it as one prompt. -/
inductive Item where
  | kept (scalar : Scalar)
  | prompt (run : List Scalar)
  deriving DecidableEq, Repr

/-- The items of a buffer, after so many scalars of a prompt that is found already. -/
def itemsFrom : ℕ → List Scalar → List Item
  | _, [] => []
  | skipped + 1, _ :: rest => itemsFrom skipped rest
  | 0, scalar :: rest =>
    match behindPrompt (scalar :: rest) with
    | some behind =>
      .prompt (scalar :: rest.take (rest.length - behind.length)) ::
        itemsFrom (rest.length - behind.length) rest
    | none => .kept scalar :: itemsFrom 0 rest

def items (output : List UInt8) : List Item := itemsFrom 0 (scalars output)

namespace Item

/-- The bytes that are left of an item. -/
def left : Item → List UInt8
  | kept scalar => scalar.bytes
  | prompt _ => []

def whole : Item → List UInt8
  | kept scalar => scalar.bytes
  | prompt run => run.flatMap Scalar.bytes

/-- A prompt is a marker and characters of the same line. -/
def Proper : Item → Prop
  | kept _ => True
  | prompt run => ∃ marker tail, run = marker ++ tail ∧ IsMarker Scalar.char marker ∧
      ∀ scalar ∈ tail, scalar.char ≠ '\r' ∧ scalar.char ≠ '\n'

/-- A byte that is a dash is a scalar of its own. -/
def Dashed : Item → Prop
  | kept scalar => 0x2D ∈ scalar.bytes → scalar = dash
  | prompt _ => True

end Item

/-- What is read where escape sequences and prompts are left out. -/
def read (stretch : List Item) : List Char := clean (stretch.flatMap Item.left)

/-- A stretch of the buffer reads as a marker when the escape sequences and the prompts inside it
are left out, and not without leaving any out. -/
def Interrupted (output : List UInt8) : Prop :=
  ∃ stretch, stretch <:+: items output ∧ IsMarker id (read stretch) ∧
    ¬∃ scalars : List Scalar, stretch = scalars.map Item.kept ∧
      scalars.map Scalar.char = read stretch

section Items

variable {scalar : Scalar} {rest behind run : List Scalar} {output : List UInt8}

theorem IsMarker.ne_nil {α : Type*} {char : α → Char} {marker : List α} (h : IsMarker char marker) :
    marker ≠ [] := by
  rintro rfl
  obtain ⟨start, _, _, _, _, hnil, hstart, -⟩ := h.words
  rw [(List.append_eq_nil_iff.mp hnil.symm).1] at hstart
  cases hstart

/-- A prompt takes a marker and what follows on it up to the end of the line. -/
theorem exists_of_behindPrompt (h : behindPrompt rest = some behind) : ∃ marker tail,
    rest = marker ++ tail ++ behind ∧ IsMarker Scalar.char marker ∧
      ∀ scalar ∈ tail, scalar.char ≠ '\r' ∧ scalar.char ≠ '\n' := by
  obtain ⟨line, hline, rfl⟩ := Option.map_eq_some_iff.mp h
  obtain ⟨marker, rfl, hmarker⟩ := behindMarker_eq_some_iff.mp hline
  refine ⟨marker, line.takeWhile Scalar.inLine, ?_, hmarker, fun scalar hscalar => ?_⟩
  · rw [List.append_assoc, List.takeWhile_append_dropWhile]
  · have htail := List.mem_takeWhile_imp hscalar
    simp only [Scalar.inLine, Bool.and_eq_true, bne_iff_ne, ne_eq] at htail
    exact ⟨htail.1.2, htail.2⟩

/-- The run that is taken out, and the place where the search goes on. -/
theorem run_of_behindPrompt (h : behindPrompt (scalar :: rest) = some behind) :
    scalar :: rest = (scalar :: rest.take (rest.length - behind.length)) ++ behind ∧
      rest.drop (rest.length - behind.length) = behind := by
  obtain ⟨marker, tail, hrest, hmarker, -⟩ := exists_of_behindPrompt h
  obtain ⟨first, marker, rfl⟩ := List.exists_cons_of_ne_nil hmarker.ne_nil
  obtain ⟨rfl, htail⟩ : scalar = first ∧ rest = marker ++ tail ++ behind := List.cons.inj hrest
  have hdrop : rest.drop (rest.length - behind.length) = behind := by
    rw [htail, List.length_append, Nat.add_sub_cancel, List.drop_left]
  refine ⟨?_, hdrop⟩
  rw [List.cons_append]
  nth_rewrite 2 [← hdrop]
  rw [List.take_append_drop]

/-- What the items leave is what stripping leaves. -/
theorem left_itemsFrom (n : ℕ) :
    (itemsFrom n rest).flatMap Item.left = (stripFrom n rest).flatMap Scalar.bytes := by
  induction rest generalizing n with
  | nil => rfl
  | cons scalar rest ih =>
    cases n with
    | succ n => exact ih n
    | zero =>
      rw [itemsFrom, stripFrom]
      cases behindPrompt (scalar :: rest) with
      | some behind => exact ih _
      | none => exact congrArg (scalar.bytes ++ ·) (ih 0)

/-- What the items are made of is the whole buffer. -/
theorem whole_itemsFrom (n : ℕ) :
    (itemsFrom n rest).flatMap Item.whole = (rest.drop n).flatMap Scalar.bytes := by
  induction rest generalizing n with
  | nil => rw [List.drop_nil]; rfl
  | cons scalar rest ih =>
    cases n with
    | succ n => exact ih n
    | zero =>
      rw [itemsFrom]
      cases hbehind : behindPrompt (scalar :: rest) with
      | none => exact congrArg (scalar.bytes ++ ·) (ih 0)
      | some behind =>
        obtain ⟨hrun, hdrop⟩ := run_of_behindPrompt hbehind
        dsimp only
        rw [List.flatMap_cons, ih, hdrop, List.drop_zero, hrun, List.flatMap_append]
        rfl

/-- What holds of kept scalars and of proper prompts holds of all items. -/
theorem forall_itemsFrom {p : Item → Prop} {n : ℕ} (hkept : ∀ scalar ∈ rest, p (.kept scalar))
    (hprompt : ∀ run, Item.Proper (.prompt run) → p (.prompt run)) :
        ∀ item ∈ itemsFrom n rest, p item := by
  induction rest generalizing n with
  | nil => exact fun _ h => absurd h List.not_mem_nil
  | cons scalar rest ih =>
    rw [List.forall_mem_cons] at hkept
    cases n with
    | succ n => exact ih hkept.2
    | zero =>
      rw [itemsFrom]
      cases hbehind : behindPrompt (scalar :: rest) with
      | none => exact List.forall_mem_cons.mpr ⟨hkept.1, ih hkept.2⟩
      | some behind =>
        refine List.forall_mem_cons.mpr ⟨hprompt _ ?_, ih hkept.2⟩
        obtain ⟨marker, tail, hrest, hmarker, htail⟩ := exists_of_behindPrompt hbehind
        refine ⟨marker, tail, ?_, hmarker, htail⟩
        exact List.append_cancel_right ((run_of_behindPrompt hbehind).1.symm.trans hrest)

/-- Every prompt that is taken out begins and ends in dashes. -/
theorem dashed_items : ∀ item ∈ items output, item.Dashed :=
  forall_itemsFrom (fun _ hscalar => eq_dash hscalar) fun _ _ => trivial

/-- The items read as the text that is looked at afterwards. -/
theorem read_items : read (items output) = clean (stripPagerPrompt output).2 := by
  rw [read, items, left_itemsFrom]
  rfl

/-! ## Markers in what is left -/

/-- A kept dash cuts the reading in two. -/
theorem read_append (stretch others : List Item) : read (stretch ++ .kept dash :: others) =
    read stretch ++ '-' :: read others := by
  rw [read, List.flatMap_append, List.flatMap_cons]
  exact clean_append

/-- Without a kept dash none is read. -/
theorem dash_not_mem_read (stretch : List Item) (hdashed : ∀ item ∈ stretch, item.Dashed)
    (h : Item.kept dash ∉ stretch) : '-' ∉ read stretch := by
  refine not_mem_clean fun hmem => h ?_
  obtain ⟨item, hitem, hbyte⟩ := List.mem_flatMap.mp hmem
  cases item with
  | kept scalar =>
    obtain rfl := hdashed _ hitem hbyte
    exact hitem
  | prompt run => cases hbyte

/-- A dash that is read is a kept one. -/
theorem exists_split_read {stretch : List Item} {front back : List Char}
    (hdashed : ∀ item ∈ stretch, item.Dashed) (h : read stretch = front ++ '-' :: back) :
    ∃ before others, stretch = before ++ .kept dash :: others ∧ read before = front ∧
      read others = back :=
  exists_split read_append dash_not_mem_read hdashed h

/-- Kept scalars that stand next to each other read the same to the scanner. -/
theorem exists_of_itemsFrom_kept {stretch after : List Item} {n : ℕ}
    (h : itemsFrom n rest = stretch ++ .kept scalar :: after) :
    ∃ others, itemsFrom 0 (scalar :: others) = .kept scalar :: after := by
  induction rest generalizing n stretch with
  | nil => exact absurd h (by simp [itemsFrom])
  | cons first rest ih =>
    cases n with
    | succ n => exact ih h
    | zero =>
      cases stretch with
      | nil =>
        refine ⟨rest, ?_⟩
        rw [itemsFrom] at h
        cases hbehind : behindPrompt (first :: rest) with
        | some behind =>
          rw [hbehind] at h
          cases h
        | none =>
          rw [hbehind] at h
          obtain ⟨hfirst, hafter⟩ := List.cons.inj h
          obtain rfl := Item.kept.inj hfirst
          rw [itemsFrom, hbehind, hafter]
      | cons item stretch =>
        rw [itemsFrom] at h
        cases hbehind : behindPrompt (first :: rest) with
        | some behind =>
          rw [hbehind] at h
          exact ih (List.cons.inj h).2
        | none =>
          rw [hbehind] at h
          exact ih (List.cons.inj h).2

theorem exists_of_itemsFrom_map {kept : List Scalar} {after : List Item}
    (h : itemsFrom 0 rest = kept.map .kept ++ after) : ∃ others, rest = kept ++ others := by
  induction kept generalizing rest with
  | nil => exact ⟨rest, rfl⟩
  | cons first kept ih =>
    cases rest with
    | nil => exact absurd h (by simp [itemsFrom])
    | cons scalar rest =>
      rw [itemsFrom] at h
      cases hbehind : behindPrompt (scalar :: rest) with
      | some behind =>
        rw [hbehind] at h
        cases h
      | none =>
        rw [hbehind] at h
        obtain ⟨hfirst, hrest⟩ := List.cons.inj h
        obtain rfl := Item.kept.inj hfirst
        obtain ⟨others, rfl⟩ := ih hrest
        exact ⟨others, rfl⟩

/-- What reads as a marker is one of scalars. -/
theorem isMarker_of_map {marker : List Scalar} (h : IsMarker id (marker.map Scalar.char)) :
    IsMarker Scalar.char marker := by
  obtain ⟨start, gap, more, gap', stop, hmap, hstart, hgap, hmore, hgap', hstop⟩ := h.words
  obtain ⟨start, behindStart, rfl, rfl, hbehind⟩ := List.map_eq_append_iff.mp hmap
  obtain ⟨gap, behindGap, rfl, rfl, hbehind'⟩ := List.map_eq_append_iff.mp hbehind
  obtain ⟨more, behindMore, rfl, rfl, hlast⟩ := List.map_eq_append_iff.mp hbehind'
  obtain ⟨gap', stop, rfl, rfl, rfl⟩ := List.map_eq_append_iff.mp hlast
  rw [List.map_id] at hstart hmore hstop
  rw [List.forall_mem_map] at hgap hgap'
  exact ⟨_, _, _, _, _, rfl, hstart, hgap, hmore, hgap', hstop⟩

/-- A marker without anything inside it is not kept. -/
theorem not_kept_marker {stretch : List Item} (hstretch : stretch <:+: items output)
    (hmarker : IsMarker id (read stretch)) : ¬∃ scalars : List Scalar,
      stretch = scalars.map Item.kept ∧ scalars.map Scalar.char = read stretch := by
  rintro ⟨kept, rfl, hread⟩
  rw [← hread] at hmarker
  have hmarker := isMarker_of_map hmarker
  obtain ⟨before, after, hitems⟩ := hstretch
  obtain ⟨scalar, kept, rfl⟩ := List.exists_cons_of_ne_nil hmarker.ne_nil
  rw [List.map_cons, List.append_assoc, List.cons_append] at hitems
  obtain ⟨others, hothers⟩ := exists_of_itemsFrom_kept hitems.symm
  obtain ⟨more, hmore⟩ : ∃ more, scalar :: others = scalar :: kept ++ more :=
    exists_of_itemsFrom_map hothers
  have hfound : behindMarker Scalar.char (scalar :: others) = some more :=
    behindMarker_eq_some_iff.mpr ⟨scalar :: kept, hmore, hmarker⟩
  rw [itemsFrom, behindPrompt, hfound] at hothers
  cases hothers

/-- What is left over has a marker exactly where one is interrupted. -/
theorem hasMarker_left_iff :
    hasMarker id (clean (stripPagerPrompt output).2) = true ↔ Interrupted output := by
  rw [← read_items, hasMarker_iff]
  constructor
  -- a marker that is left was not one in the output: something stripped stood inside it
  · rintro ⟨front, marker, behind, htext, hmarker⟩
    obtain ⟨body, rfl⟩ := hmarker.dashes
    rw [List.cons_append, List.append_assoc, List.singleton_append] at htext
    obtain ⟨before, others, hitems, -, hothers⟩ := exists_split_read dashed_items htext
    have hdashed : ∀ item ∈ others, item.Dashed := fun item hitem => dashed_items item <| by
      rw [hitems]
      exact List.mem_append_right _ (List.mem_cons_of_mem _ hitem)
    obtain ⟨inside, after, rfl, hinside, -⟩ := exists_split_read hdashed hothers
    have hread : read (.kept dash :: (inside ++ [.kept dash])) = '-' :: (body ++ ['-']) := by
      have houter := read_append [] (inside ++ [.kept dash])
      have hinner := read_append inside []
      rw [hinner, hinside] at houter
      exact houter
    -- the stretch of the output that reads as the marker
    have hstretch : .kept dash :: (inside ++ [.kept dash]) <:+: items output :=
      ⟨before, after, by rw [hitems]; simp⟩
    have hmarker := hread ▸ hmarker
    exact ⟨_, hstretch, hmarker, not_kept_marker hstretch hmarker⟩
  · rintro ⟨stretch, ⟨before, after, hitems⟩, hmarker, -⟩
    obtain ⟨body, hbody⟩ := hmarker.dashes
    have hdashed : ∀ item ∈ stretch, item.Dashed := fun item hitem => dashed_items item <| by
      rw [← hitems]
      exact List.mem_append_left _ (List.mem_append_right _ hitem)
    have hfront : read stretch = [] ++ '-' :: (body ++ ['-']) := hbody
    obtain ⟨first, others, rfl, -, hothers⟩ := exists_split_read hdashed hfront
    obtain ⟨inside, last, rfl, hinside, -⟩ := exists_split_read
      (fun item hitem => hdashed item (List.mem_append_right _ (List.mem_cons_of_mem _ hitem)))
      hothers
    refine ⟨read (before ++ first), '-' :: (body ++ ['-']), read (last ++ after), ?_,
      hbody ▸ hmarker⟩
    have hwhole : items output = before ++ first ++
        .kept dash :: (inside ++ .kept dash :: (last ++ after)) := by
      rw [← hitems]
      simp
    rw [hwhole, read_append, read_append, hinside]
    simp

end Items

/-- The pattern matches no more exactly if no marker was interrupted. -/
theorem moreMatches_left_iff {output : List UInt8} :
    moreMatches (clean (stripPagerPrompt output).2) = false ↔ ¬Interrupted output := by
  rw [← hasMarker_left_iff, Bool.not_eq_true]
  rfl

theorem proper_items {output : List UInt8} : ∀ item ∈ items output, item.Proper :=
  forall_itemsFrom (fun _ _ => trivial) fun _ h => h

theorem whole_items {output : List UInt8} : (items output).flatMap Item.whole = output := by
  rw [items, whole_itemsFrom, List.drop_zero, scalars, bytes_scalarsFrom, List.drop_zero]

/-! ## Runs -/

/-- The buffer that an event looks at. -/
def buffer (wait : Wait) : Event → Option (List UInt8)
  | .data chunk _ => some (wait.output ++ chunk)
  | .idle _ => some wait.output
  | _ => none

/-- A pager prompt that the event answers is not interrupted. -/
def Clear (wait : Wait) (event : Event) : Prop :=
  ∀ output ∈ buffer wait event, moreMatches (clean output) = true → ¬Interrupted output

/-- All events of a run are clear. -/
def AllClear (isWord : Char → Bool) (client : Client) (wait : Wait) (events : List Event) : Prop :=
  ∀ seen event rest reached, events = seen ++ event :: rest →
    (waitForPrompt isWord client wait seen).2 = .waiting reached → Clear reached event

/-- The events of a run that are taken, each with where the loop is then. -/
def taken (isWord : Char → Bool) (client : Client) : Wait → List Event → List (Wait × Event)
  | _, [] => []
  | wait, event :: events =>
    (wait, event) ::
      match (step isWord client wait event).2 with
      | .waiting next => taken isWord client next events
      | _ => []

def Event.isData : Event → Bool
  | data _ _ => true
  | _ => false

/-- Data with which the buffer shows a pager prompt, where an answer can be written. A prompt to
press a key takes precedence. -/
def ShowsPager : Wait × Event → Bool
  | (wait, .data chunk sent) =>
    sent && canSliceLast 100 (fromUtf8Lossy (wait.output ++ chunk)) &&
      !pressKeyMatches (clean (wait.output ++ chunk)) && moreMatches (clean (wait.output ++ chunk))
  | _ => false

/-- No marker is in the buffer. -/
def Calm (wait : Wait) : Prop := moreMatches (clean wait.output) = false

section Runs

variable {isWord : Char → Bool} {client : Client} {wait next : Wait} {event : Event}
variable {key : Option Answer} {output : List UInt8} {sent : Bool} {events : List Event}

/-- An answer leaves the buffer as it is. -/
theorem answer_waiting {which : Answer} (h : answer which sent output = (key, .waiting next)) :
    key = some which ∧ next.output = output := by
  rw [answer] at h
  cases sent
  · cases h
  · obtain ⟨rfl, hnext⟩ := Prod.mk.inj h
    rw [← Status.waiting.inj hnext]
    exact ⟨rfl, rfl⟩

/-- Where no marker is interrupted, data leaves none behind. -/
theorem onData_calm (hclear : moreMatches (clean output) = true → ¬Interrupted output)
    (h : onData isWord output sent = (key, .waiting next)) : Calm next := by
  rw [onData] at h
  split at h
  · cases h
  split at h
  · rw [Calm, (answer_waiting h).2]
    rfl
  split at h
  · next hmore =>
    rw [Calm, (answer_waiting h).2]
    exact moreMatches_left_iff.mpr (hclear hmore)
  next hmore =>
  split at h
  · cases h
  · obtain ⟨-, hnext⟩ := Prod.mk.inj h
    rw [← Status.waiting.inj hnext]
    exact Bool.eq_false_iff.mpr hmore

/-- Nor does an idle look. -/
theorem onIdle_calm (hcalm : moreMatches (clean output) = false)
    (h : onIdle isWord client output sent = (key, .waiting next)) : Calm next := by
  rw [onIdle, hcalm] at h
  split at h
  · rw [Calm, (answer_waiting h).2]
    rfl
  split at h
  · next hmore => simp at hmore
  split at h
  · cases h
  · obtain ⟨-, hnext⟩ := Prod.mk.inj h
    rw [← Status.waiting.inj hnext]
    exact hcalm

/-- After a clear event no marker is in the buffer. -/
theorem step_calm (hcalm : Calm wait) (hclear : Clear wait event)
    (h : step isWord client wait event = (key, .waiting next)) : Calm next := by
  have hsame (h : ((none, .waiting wait) : Option Answer × Status) = (key, .waiting next)) :
      Calm next := by
    obtain ⟨-, hnext⟩ := Prod.mk.inj h
    rwa [← Status.waiting.inj hnext]
  cases event with
  | timeout =>
    rw [step] at h
    split at h <;> cases h
  | settled =>
    rw [step] at h
    split at h
    · cases h
    · exact hsame h
  | data chunk sent =>
    rw [step] at h
    split at h
    · exact hsame h
    · exact onData_calm (hclear _ rfl) h
  | quiet => exact hsame h
  | idle sent =>
    rw [step] at h
    split at h
    · exact hsame h
    · exact onIdle_calm hcalm h
  | closed => cases h

/-- A blank is answered only to the pager, and if it could be written. -/
theorem answer_space_iff {which : Answer} :
    (answer which sent output).1 = some .space ↔ which = .space ∧ sent = true := by
  cases sent <;> simp [answer]

/-- The idle console is not answered with a space while no marker is in the buffer. -/
theorem onIdle_ne_space (hcalm : moreMatches (clean output) = false) :
    (onIdle isWord client output sent).1 ≠ some .space := by
  intro hspace
  rw [onIdle, hcalm, Bool.and_false, if_neg Bool.false_ne_true] at hspace
  split_ifs at hspace
  · cases (answer_space_iff.mp hspace).1

/-- Data is answered with a blank exactly if it shows the pager and no other prompt. -/
theorem onData_space_iff : (onData isWord output sent).1 = some .space ↔
    sent = true ∧ canSliceLast 100 (fromUtf8Lossy output) = true ∧
      pressKeyMatches (clean output) = false ∧ moreMatches (clean output) = true := by
  rw [onData]
  cases hslice : canSliceLast 100 (fromUtf8Lossy output) with
  | false => simp
  | true =>
    rw [if_neg (by decide)]
    cases hpress : pressKeyMatches (clean output) with
    | true => simp [answer_space_iff]
    | false =>
      rw [if_neg Bool.false_ne_true]
      cases hmore : moreMatches (clean output) with
      | true => simp [answer_space_iff]
      | false =>
        rw [if_neg Bool.false_ne_true]
        split_ifs <;> simp

/-- While no marker is in the buffer, a space is sent for data that shows one and for nothing
else. -/
theorem step_space_iff (hcalm : Calm wait) :
    (step isWord client wait event).1 = some .space ↔ ShowsPager (wait, event) = true := by
  have hnot : (none : Option Answer) ≠ some .space := Option.some_ne_none _ |>.symm
  cases event with
  | timeout => exact iff_of_false hnot Bool.false_ne_true
  | settled => exact iff_of_false hnot Bool.false_ne_true
  | quiet => exact iff_of_false hnot Bool.false_ne_true
  | closed => exact iff_of_false hnot Bool.false_ne_true
  | idle sent =>
    refine iff_of_false ?_ Bool.false_ne_true
    rw [step]
    split
    · exact hnot
    · exact onIdle_ne_space hcalm
  | data chunk sent =>
    simp only [ShowsPager, Bool.and_eq_true, Bool.not_eq_true', and_assoc]
    rw [step]
    split
    · next hempty =>
      -- the buffer stays what it was
      obtain ⟨-, hchunk⟩ := Bool.and_eq_true_iff.mp hempty
      obtain rfl := List.isEmpty_iff.mp hchunk
      rw [List.append_nil]
      exact iff_of_false hnot fun h => Bool.false_ne_true (hcalm.symm.trans h.2.2.2)
    · exact onData_space_iff

theorem waitForPrompt_cons (h : step isWord client wait event = (key, .waiting next)) :
    waitForPrompt isWord client wait (event :: events) =
      (key.toList ++ (waitForPrompt isWord client next events).1,
        (waitForPrompt isWord client next events).2) := by
  rw [waitForPrompt, h]

/-- Behind an answer the wait goes on. -/
theorem answer_goes_on {which : Answer} (h : (answer which sent output).1 ≠ none) :
    ∃ next, (answer which sent output).2 = .waiting next := by
  cases sent
  · exact absurd rfl h
  · exact ⟨_, rfl⟩

/-- Where an answer is sent, the loop goes on. -/
theorem step_goes_on (h : (step isWord client wait event).1 ≠ none) :
    ∃ next, (step isWord client wait event).2 = .waiting next := by
  cases event with
  | timeout => exact absurd rfl h
  | settled => exact absurd rfl h
  | quiet => exact absurd rfl h
  | closed => exact absurd rfl h
  | data chunk sent =>
    rw [step] at h ⊢
    split
    · exact ⟨_, rfl⟩
    next hdata =>
    rw [if_neg hdata, onData] at h
    rw [onData]
    split_ifs at h ⊢ <;> first | exact answer_goes_on h | exact absurd rfl h
  | idle sent =>
    rw [step] at h ⊢
    split
    · exact ⟨_, rfl⟩
    next hidle =>
    rw [if_neg hidle, onIdle] at h
    rw [onIdle]
    split_ifs at h ⊢ <;> first | exact answer_goes_on h | exact absurd rfl h

/-- While it goes on, events are taken one by one. -/
theorem taken_cons_of_waiting (h : (step isWord client wait event).2 = .waiting next) :
    taken isWord client wait (event :: events) = (wait, event) :: taken isWord client next events :=
    by
  rw [taken, h]

/-- The event that ends the wait is the last. -/
theorem taken_cons_of_left (h : ¬∃ next, (step isWord client wait event).2 = .waiting next) :
    taken isWord client wait (event :: events) = [(wait, event)] := by
  rw [taken]
  cases hstatus : (step isWord client wait event).2 with
  | waiting next => exact absurd ⟨next, hstatus⟩ h
  | _ => rfl

/-- A run is clear if its first event is and the rest behind it. -/
theorem AllClear.cons (hfirst : Clear wait event)
    (hrest : ∀ next, (step isWord client wait event).2 = .waiting next →
      AllClear isWord client next events) :
    AllClear isWord client wait (event :: events) := by
  intro seen other rest reached hevents hseen
  cases seen with
  | nil =>
    obtain ⟨rfl, -⟩ := List.cons.inj hevents
    obtain rfl := Status.waiting.inj hseen
    exact hfirst
  | cons head seen =>
    obtain ⟨rfl, htail⟩ := List.cons.inj hevents
    rcases hstep : step isWord client wait event with ⟨key, status⟩
    by_cases hwaiting : ∃ next, status = .waiting next
    · obtain ⟨next, rfl⟩ := hwaiting
      rw [waitForPrompt_cons hstep] at hseen
      exact hrest next (congrArg Prod.snd hstep) seen other rest reached htail hseen
    · rw [waitForPrompt, hstep] at hseen
      cases status with
      | waiting next => exact absurd ⟨next, rfl⟩ hwaiting
      | _ => cases hseen

/-- In a clear run no marker stays, and the spaces that are sent are those for the data that shows
a pager prompt. -/
theorem waitForPrompt_calm (hcalm : Calm wait) (hclear : AllClear isWord client wait events) :
    (waitForPrompt isWord client wait events).1.count .space =
        (taken isWord client wait events).countP ShowsPager ∧
      ∀ reached, (waitForPrompt isWord client wait events).2 = .waiting reached →
        Calm reached := by
  induction events generalizing wait with
  | nil =>
    refine ⟨rfl, fun reached h => ?_⟩
    rwa [← Status.waiting.inj h]
  | cons event events ih =>
    have hfirst : Clear wait event := hclear [] event events wait rfl rfl
    have hspace := @step_space_iff isWord client wait event hcalm
    rcases hstep : step isWord client wait event with ⟨key, status⟩
    rw [hstep] at hspace
    -- a step that goes on is calm again; one that does not ends the count
    by_cases hwaiting : ∃ next, status = .waiting next
    · obtain ⟨next, rfl⟩ := hwaiting
      have hnext : Calm next := step_calm hcalm hfirst hstep
      have hrest : AllClear isWord client next events := by
        intro seen other rest reached hevents hseen
        refine hclear (event :: seen) other rest reached (by rw [hevents]; rfl) ?_
        rw [waitForPrompt_cons hstep, hseen]
      obtain ⟨hcount, hreached⟩ := ih hnext hrest
      rw [waitForPrompt_cons hstep, taken_cons_of_waiting (congrArg Prod.snd hstep)]
      refine ⟨?_, hreached⟩
      rw [List.count_append, List.countP_cons, hcount, Nat.add_comm]
      congr 1
      by_cases hkey : key = some .space
      · rw [if_pos (hspace.mp hkey), hkey]
        rfl
      · rw [if_neg fun h => hkey (hspace.mpr h)]
        exact List.count_eq_zero.mpr fun hmem => hkey (Option.mem_toList.mp hmem)
    · have hleft : ¬∃ next, (step isWord client wait event).2 = .waiting next := by
        rwa [hstep]
      -- a step that leaves the loop sends nothing
      have hkey : key = none := by
        by_contra hkey
        have hon : (step isWord client wait event).1 ≠ none := by rwa [hstep]
        exact hleft (step_goes_on hon)
      subst hkey
      have hshows : ShowsPager (wait, event) = false :=
        Bool.eq_false_iff.mpr fun h => Option.some_ne_none _ (hspace.mpr h).symm
      have hrun : waitForPrompt isWord client wait (event :: events) = ([], status) := by
        rw [waitForPrompt, hstep]
        cases status with
        | waiting next => exact absurd ⟨next, rfl⟩ hwaiting
        | returned text => rfl
        | failed => rfl
        | panicked => rfl
      rw [hrun, taken_cons_of_left hleft, List.countP_singleton, hshows]
      exact ⟨rfl, fun reached hreached => absurd ⟨reached, hreached⟩ hwaiting⟩

/-- What is taken are the first events. -/
theorem map_taken : (taken isWord client wait events).map Prod.snd <+: events := by
  induction events generalizing wait with
  | nil => exact List.nil_prefix
  | cons event events ih =>
    by_cases hwaiting : ∃ next, (step isWord client wait event).2 = .waiting next
    · obtain ⟨next, hnext⟩ := hwaiting
      rw [taken_cons_of_waiting hnext, List.map_cons]
      exact (List.prefix_cons_inj event).mpr ih
    · rw [taken_cons_of_left hwaiting]
      exact ⟨events, rfl⟩

/-- There are no more answers than chunks of data. -/
theorem countP_showsPager_le : (taken isWord client wait events).countP ShowsPager ≤
    events.countP Event.isData := by
  have hdata (at_ : Wait × Event) (h : ShowsPager at_ = true) : at_.2.isData = true := by
    obtain ⟨wait, event⟩ := at_
    cases event with
    | data chunk sent => rfl
    | _ => cases h
  calc (taken isWord client wait events).countP ShowsPager
      ≤ (taken isWord client wait events).countP (Event.isData ∘ Prod.snd) :=
        List.countP_mono_left fun at_ _ => hdata at_
    _ = ((taken isWord client wait events).map Prod.snd).countP Event.isData :=
        List.countP_map.symm
    _ ≤ events.countP Event.isData := map_taken.sublist.countP_le

end Runs

/-- After an answer the pattern matches no more exactly where no marker is interrupted; only pager
prompts are taken out, and all other bytes stay in order; and in every run whose answered prompts
are not interrupted, on either client, no marker stays in the buffer, and there is one space for
each chunk of data with which the buffer shows a pager prompt, and no other one. -/
theorem pager_answered_iff (isWord : Char → Bool) :
    (∀ output, moreMatches (clean (stripPagerPrompt output).2) = false ↔ ¬Interrupted output) ∧
      (∀ output, output = (items output).flatMap Item.whole ∧
        (stripPagerPrompt output).2 = (items output).flatMap Item.left ∧
        ∀ item ∈ items output, item.Proper) ∧
      ∀ client events, AllClear isWord client {} events →
        (waitForPrompt isWord client {} events).1.count .space =
            (taken isWord client {} events).countP ShowsPager ∧
          (waitForPrompt isWord client {} events).1.count .space ≤ events.countP Event.isData ∧
          ∀ reached, (waitForPrompt isWord client {} events).2 = .waiting reached →
            moreMatches (clean reached.output) = false := by
  refine ⟨fun output => moreMatches_left_iff, fun output => ⟨whole_items.symm, ?_, proper_items⟩,
    fun client events hclear => ?_⟩
  · rw [items, left_itemsFrom]
    rfl
  · have hcalm : Calm {} := rfl
    obtain ⟨hcount, hreached⟩ := waitForPrompt_calm hcalm hclear
    exact ⟨hcount, hcount.le.trans countP_showsPager_le, hreached⟩

/-- A page of output and its pager prompt. -/
def page : List UInt8 := utf8 "vlan 10\r\n-- MORE --, next page: Space".toList

def pageEvents : List Event :=
  [.data page true, .idle true, .data page true, .idle true, .data (utf8 "\r\nSW1# ".toList) true,
    .settled]

/-- Two pages and the prompt. -/
theorem allClear_pageEvents : AllClear Char.isAlphanum .serial {} pageEvents := by
  let behind (lines : String) : Wait := { output := utf8 lines.toList }
  have hpage (wait : Wait) (h : moreMatches (clean (stripPagerPrompt (wait.output ++ page)).2) =
      false) : Clear wait (.data page true) := by
    rintro _ ⟨⟩ -
    exact moreMatches_left_iff.mp h
  have hidle (wait : Wait) (h : moreMatches (clean wait.output) = false) :
      Clear wait (.idle true) := by
    rintro _ ⟨⟩ hmore
    exact absurd (h.symm.trans hmore) Bool.false_ne_true
  have hto {wait next : Wait} {event : Event} {events : List Event} (hfirst : Clear wait event)
      (hstep : (step Char.isAlphanum .serial wait event).2 = .waiting next)
      (hrest : AllClear Char.isAlphanum .serial next events) :
      AllClear Char.isAlphanum .serial wait (event :: events) :=
    .cons hfirst fun _ h => Status.waiting.inj (hstep.symm.trans h) ▸ hrest
  refine @hto _ (behind "vlan 10\r\n") _ _ (hpage _ (by decide +kernel)) (by decide +kernel) ?_
  refine @hto _ (behind "vlan 10\r\n") _ _ (hidle _ (by decide +kernel)) (by decide +kernel) ?_
  refine @hto _ (behind "vlan 10\r\nvlan 10\r\n") _ _ (hpage _ (by decide +kernel))
    (by decide +kernel) ?_
  refine @hto _ (behind "vlan 10\r\nvlan 10\r\n") _ _ (hidle _ (by decide +kernel))
    (by decide +kernel) ?_
  refine .cons ?_ fun _ _ => .cons ?_ fun _ _ seen event rest _ hevents => ?_
  · rintro _ ⟨⟩ hmore
    exact absurd hmore (by decide +kernel)
  · exact fun output houtput => nomatch houtput
  · cases seen <;> cases hevents

/-- Two pages, with the console idle behind each of them, are answered once each. -/
theorem page_answered_once :
    (waitForPrompt Char.isAlphanum .serial {} pageEvents).1.count .space = 2 := by
  have hcount := ((pager_answered_iff Char.isAlphanum).2.2 .serial _ allClear_pageEvents).1
  exact hcount.trans (by decide +kernel)

/-- A marker with an escape sequence inside it. -/
def staleMarker : List UInt8 := utf8 "--\x1b[0m MORE --".toList

/-- A marker in front of a pager prompt, and what follows finishes it. -/
def brokenMarker : List UInt8 := utf8 "-- -- MORE --\r\nMORE --".toList

/-- The marker stays where an escape sequence or another prompt is inside it, and the idle console
is answered as often as it is looked at. -/
theorem exists_stale_marker :
    moreMatches (clean staleMarker) = true ∧
      moreMatches (clean (stripPagerPrompt staleMarker).2) = true ∧
      moreMatches (clean brokenMarker) = true ∧
      moreMatches (clean (stripPagerPrompt brokenMarker).2) = true ∧
      ∀ n, (waitForPrompt Char.isAlphanum .serial {}
        (.data staleMarker true :: List.replicate n (.idle true))).1 =
          List.replicate (n + 1) .space := by
  have hdata : step Char.isAlphanum .serial {} (.data staleMarker true) =
      (some .space, .waiting { output := staleMarker }) := by decide +kernel
  have hidle : step Char.isAlphanum .serial { output := staleMarker } (.idle true) =
      (some .space, .waiting { output := staleMarker }) := by decide +kernel
  have hloop (n : ℕ) : (waitForPrompt Char.isAlphanum .serial { output := staleMarker }
      (List.replicate n (.idle true))).1 = List.replicate n .space := by
    induction n with
    | zero => rfl
    | succ n ih =>
      rw [List.replicate_succ, waitForPrompt_cons hidle, ih]
      rfl
  refine ⟨by decide +kernel, by decide +kernel, by decide +kernel, by decide +kernel, fun n => ?_⟩
  rw [waitForPrompt_cons hdata, hloop]
  rfl

end SwitchConfigurator.Ssh
