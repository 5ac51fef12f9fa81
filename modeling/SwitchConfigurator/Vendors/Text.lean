import SwitchConfigurator.Foundations.BlockCli
import SwitchConfigurator.Vendors.Capabilities

/-!
# Text that devices print

The string functions that the readers of the three vendors share, and how they take apart the lines
of a block-structured command line.
-/

namespace SwitchConfigurator

open Cli

/-- The line break `\r\n` of a line that ended in `\n`. -/
def stripCarriageReturn (line : List Char) : List Char :=
  if line.getLast? = some '\r' then line.dropLast else line

/-- `str::lines`. -/
def strLines (text : List Char) : List (List Char) :=
  let parts := text.splitOn '\n'
  parts.dropLast.map stripCarriageReturn ++ parts.getLast?.toList.filter (· ≠ [])

/-- `str::strip_prefix`. -/
def stripPrefix (start : String) (text : List Char) : Option (List Char) :=
  start.toList.isPrefixOf? text

/-- `trim_matches('"')`. -/
def trimQuotes (text : List Char) : List Char :=
  (text.dropWhile (· == '"')).rdropWhile (· == '"')

/-- `str::split_whitespace`. -/
def splitWhitespace (text : List Char) : List (List Char) :=
  (text.splitOnP isWhitespace).filter (· ≠ [])

/-- What a device prints: each line with its line break. -/
def printed (lines : List (List Char)) : List Char := lines.flatMap (· ++ ['\n'])

/-- A line that is read as it was printed. -/
structure Legible (line : List Char) : Prop where
  oneLine : '\n' ∉ line
  trimmed : trim line = line

/-- What was stripped stood in front. -/
theorem text_of_stripPrefix {start : String} {text rest : List Char}
    (h : stripPrefix start text = some rest) : start.toList ++ rest = text :=
  List.isPrefixOf?_eq_some_iff_append_eq.mp h

/-- A character that a prefix does not hold may follow the rest. -/
theorem stripPrefix_concat {start : String} {text : List Char} {c : Char}
    (h : c ∉ start.toList) : stripPrefix start (text ++ [c]) =
      (stripPrefix start text).map (· ++ [c]) := by
  cases hrest : stripPrefix start text with
  | some rest =>
    have htext := text_of_stripPrefix hrest
    rw [← htext, List.append_assoc]
    exact List.isPrefixOf?_eq_some_iff_append_eq.mpr rfl
  | none =>
    rw [Option.map_none, ← Option.not_isSome_iff_eq_none]
    intro hsome
    obtain ⟨rest, hrest'⟩ := Option.isSome_iff_exists.mp hsome
    have htext := text_of_stripPrefix hrest'
    rcases List.eq_nil_or_concat' rest with rfl | ⟨rest, last, rfl⟩
    · -- then the prefix would end in that character
      rw [List.append_nil] at htext
      exact h (htext ▸ List.mem_append_right _ List.mem_cons_self)
    · rw [← List.append_assoc] at htext
      obtain ⟨hstart, -⟩ := List.append_inj' htext rfl
      rw [stripPrefix, List.isPrefixOf?_eq_some_iff_append_eq.mpr hstart] at hrest
      cases hrest

/-- Only whitespace is trimmed off. -/
theorem mem_trim {s : List Char} {c : Char} (h : c ∈ s) (hc : isWhitespace c = false) :
    c ∈ trim s := by
  have hfront : c ∈ s.dropWhile isWhitespace := by
    rw [← List.takeWhile_append_dropWhile (p := isWhitespace) (l := s), List.mem_append] at h
    rcases h with hmem | hmem
    · exact absurd (List.mem_takeWhile_imp hmem) (by simp [hc])
    · exact hmem
  have hsplit :
    s.dropWhile isWhitespace = trim s ++ (s.dropWhile isWhitespace).rtakeWhile isWhitespace :=
    List.rdropWhile_append_rtakeWhile.symm
  rw [hsplit, List.mem_append] at hfront
  rcases hfront with hmem | hmem
  · exact hmem
  · exact absurd (List.mem_rtakeWhile_imp hmem) (by simp [hc])

/-- Blanks in front of a text are trimmed off. -/
theorem trim_blanks {gap text : List Char} (h : ∀ c ∈ gap, isWhitespace c = true) :
    trim (gap ++ text) = trim text := by
  rw [trim, trim, List.dropWhile_append_of_pos h]

theorem splitOn_printed_append {lines : List (List Char)} {last : List Char}
    (h : ∀ line ∈ lines, '\n' ∉ line) (hlast : '\n' ∉ last) :
    (printed lines ++ last).splitOn '\n' = lines ++ [last] := by
  have hchars {line : List Char} (hline : '\n' ∉ line) : ∀ c ∈ line, (c == '\n') = false := by
    intro c hc
    rw [beq_eq_false_iff_ne]
    rintro rfl
    exact hline hc
  induction lines with
  | nil => exact List.splitOnP_eq_singleton (hchars hlast)
  | cons line lines ih =>
    obtain ⟨hline, hlines⟩ := List.forall_mem_cons.mp h
    rw [printed, List.flatMap_cons, List.append_assoc, List.append_assoc, List.singleton_append]
    exact (List.splitOnP_append_cons_of_forall_mem (hchars hline) '\n' rfl _).trans
      (congrArg (line :: ·) (ih hlines))

/-- Lines that are printed are split into the same lines. -/
theorem splitOn_printed {lines : List (List Char)} (h : ∀ line ∈ lines, '\n' ∉ line) :
    (printed lines).splitOn '\n' = lines ++ [[]] := by
  simpa using splitOn_printed_append h (List.not_mem_nil (a := '\n'))

/-- Lines that end in `\r\n`, and a last one that has no end. -/
theorem strLines_crlf {lines : List (List Char)} {last : List Char}
    (h : ∀ line ∈ lines, '\n' ∉ line) (hlast : '\n' ∉ last) (hne : last ≠ []) :
    strLines (printed (lines.map (· ++ ['\r'])) ++ last) = lines ++ [last] := by
  have hends : ∀ line ∈ lines.map (· ++ ['\r']), '\n' ∉ line := by
    rw [List.forall_mem_map]
    intro line hline
    simpa using h line hline
  have hstripped : (lines.map (· ++ ['\r'])).map stripCarriageReturn = lines := by
    rw [List.map_map]
    refine (List.map_congr_left fun line _ => ?_).trans (List.map_id _)
    simp [stripCarriageReturn]
  rw [strLines, splitOn_printed_append hends hlast]
  simp [hstripped, hne]

/-- What is printed line by line is read line by line. -/
theorem strLines_printed_of_ends {lines : List (List Char)}
    (h : ∀ line ∈ lines, '\n' ∉ line ∧ line.getLast? ≠ some '\r') :
    strLines (printed lines) = lines := by
  rw [strLines, splitOn_printed fun line hline => (h line hline).1]
  have hkept : lines.map stripCarriageReturn = lines := by
    refine (List.map_congr_left fun line hline => ?_).trans (List.map_id _)
    rw [stripCarriageReturn, if_neg (h line hline).2, id]
  simp [hkept]

theorem Legible.head {line : List Char} (h : Legible line) :
    ∀ c ∈ line.head?, isWhitespace c = false := by
  have hhead := head?_trim (s := line)
  rwa [h.trimmed] at hhead

theorem Legible.last {line : List Char} (h : Legible line) :
    ∀ c ∈ line.getLast?, isWhitespace c = false := by
  have hlast := getLast?_trim (s := line)
  rwa [h.trimmed] at hlast

/-- A line that can be read is printed as one. -/
theorem Legible.printable {line : List Char} (h : Legible line) :
    '\n' ∉ line ∧ line.getLast? ≠ some '\r' :=
  ⟨h.oneLine, fun hlast => absurd (h.last '\r' hlast) (by decide)⟩

/-- Lines that can be read are read as they were printed. -/
theorem strLines_printed {lines : List (List Char)} (h : ∀ line ∈ lines, Legible line) :
    strLines (printed lines) = lines :=
  strLines_printed_of_ends fun line hline => (h line hline).printable

theorem legible_of_ends {line : List Char} (hline : '\n' ∉ line)
    (hhead : ∀ c ∈ line.head?, isWhitespace c = false)
    (hlast : ∀ c ∈ line.getLast?, isWhitespace c = false) : Legible line :=
  ⟨hline, trim_eq_self hhead hlast⟩

/-- Quotes are trimmed off until there are none at the ends. -/
theorem trimQuotes_eq_self_iff {text : List Char} : trimQuotes text = text ↔
    text.head? ≠ some '"' ∧ text.getLast? ≠ some '"' := by
  constructor
  · intro h
    have hhead := head?_dropEnds (p := (· == '"')) (s := text)
    have hlast := getLast?_dropEnds (p := (· == '"')) (s := text)
    rw [← h]
    exact ⟨fun hquote => absurd (hhead _ hquote) (by decide),
      fun hquote => absurd (hlast _ hquote) (by decide)⟩
  · rintro ⟨hhead, hlast⟩
    refine dropEnds_eq_self (fun c hc => beq_false_of_ne ?_) fun c hc => beq_false_of_ne ?_
    · rintro rfl
      exact hhead hc
    · rintro rfl
      exact hlast hc

/-- The quotes around a text come off. -/
theorem trimQuotes_quoted {text : List Char} (h : '"' ∉ text) :
    trimQuotes ('"' :: (text ++ ['"'])) = text := by
  have hfront :
    ('"' :: (text ++ ['"'])).dropWhile (· == '"') = (text ++ ['"']).dropWhile (· == '"') :=
    List.dropWhile_cons_of_pos rfl
  rw [trimQuotes, hfront]
  cases text with
  | nil => rfl
  | cons c text =>
    rw [List.mem_cons, not_or] at h
    have hc : (c == '"') = false := beq_false_of_ne (Ne.symm h.1)
    rw [List.cons_append, List.dropWhile_cons_of_neg (by simp [hc]), ← List.cons_append,
      List.rdropWhile_concat_pos _ _ _ rfl, List.rdropWhile_eq_self_iff]
    intro hne hquote
    have hlast := List.getLast_mem hne
    rw [eq_of_beq hquote, List.mem_cons] at hlast
    rcases hlast with heq | hmem
    · exact h.1 heq
    · exact h.2 hmem

/-- A word: it is there, and without blanks. -/
def IsWord (text : List Char) : Prop := text ≠ [] ∧ ∀ c ∈ text, isWhitespace c = false

instance {text : List Char} : Decidable (IsWord text) :=
  inferInstanceAs (Decidable (text ≠ [] ∧ ∀ c ∈ text, isWhitespace c = false))

theorem splitWhitespace_word {text : List Char} (h : IsWord text) :
    splitWhitespace text = [text] := by
  rw [splitWhitespace, List.splitOnP_eq_singleton h.2]
  simp [h.1]

/-- A word in front is split off. -/
theorem splitWhitespace_cons {text rest : List Char} (h : IsWord text) :
    splitWhitespace (text ++ ' ' :: rest) = text :: splitWhitespace rest := by
  rw [splitWhitespace, List.splitOnP_append_cons_of_forall_mem h.2 ' ' (by decide), splitWhitespace]
  simp [h.1]

theorem splitWhitespace_cons_blank {c : Char} (h : isWhitespace c = true) (text : List Char) :
    splitWhitespace (c :: text) = splitWhitespace text := by
  rw [splitWhitespace, List.splitOnP_cons_eq_if_modifyHead, if_pos h, splitWhitespace]
  rfl

/-- Blanks in front make no difference. -/
theorem splitWhitespace_blanks {gap rest : List Char} (h : ∀ c ∈ gap, isWhitespace c = true) :
    splitWhitespace (gap ++ rest) = splitWhitespace rest := by
  induction gap with
  | nil => rfl
  | cons c gap ih =>
    obtain ⟨hc, hgap⟩ := List.forall_mem_cons.mp h
    rw [List.cons_append, splitWhitespace_cons_blank hc, ih hgap]

/-- A word and the blanks after it, however many. -/
theorem splitWhitespace_append {text gap rest : List Char} (h : IsWord text) (hne : gap ≠ [])
    (hgap : ∀ c ∈ gap, isWhitespace c = true) :
    splitWhitespace (text ++ (gap ++ rest)) = text :: splitWhitespace rest := by
  cases gap with
  | nil => exact absurd rfl hne
  | cons c gap =>
    obtain ⟨hc, hgap⟩ := List.forall_mem_cons.mp hgap
    rw [List.cons_append, splitWhitespace, List.splitOnP_append_cons_of_forall_mem h.2 c hc,
      List.filter_cons_of_pos (by simpa using h.1)]
    exact congrArg (text :: ·) (splitWhitespace_blanks hgap)

/-- Words joined by blanks are split again. -/
theorem splitWhitespace_intercalate {words : List (List Char)} (h : ∀ text ∈ words, IsWord text) :
    splitWhitespace ([' '].intercalate words) = words := by
  induction words with
  | nil => rfl
  | cons text words ih =>
    obtain ⟨htext, hwords⟩ := List.forall_mem_cons.mp h
    cases words with
    | nil => simpa using splitWhitespace_word htext
    | cons next rest =>
      rw [List.intercalate_cons_cons, List.append_assoc, List.singleton_append,
        splitWhitespace_cons htext, ih hwords]

/-! ## Lines of words -/

/-- Parts that can be read can be read together. -/
theorem legible_intercalate {parts : List (List Char)} (hne : parts ≠ [])
    (h : ∀ part ∈ parts, part ≠ [] ∧ Legible part) :
    [' '].intercalate parts ≠ [] ∧ Legible ([' '].intercalate parts) := by
  induction parts with
  | nil => exact absurd rfl hne
  | cons part parts ih =>
    obtain ⟨⟨hpart, hlegible⟩, hrest⟩ := List.forall_mem_cons.mp h
    cases parts with
    | nil =>
      have hone : [' '].intercalate [part] = part := by simp
      rw [hone]
      exact ⟨hpart, hlegible⟩
    | cons next rest =>
      obtain ⟨hnonempty, hlegibleRest⟩ := ih (List.cons_ne_nil _ _) hrest
      rw [List.intercalate_cons_cons]
      refine ⟨by simp, legible_of_ends ?_ ?_ ?_⟩
      · simp only [List.mem_append, List.mem_singleton, not_or]
        exact ⟨⟨hlegible.oneLine, by decide⟩, hlegibleRest.oneLine⟩
      · rw [List.append_assoc, List.head?_append_of_ne_nil _ hpart]
        exact hlegible.head
      · rw [List.getLast?_append_of_ne_nil _ hnonempty]
        exact hlegibleRest.last

/-- A word that is read as it was printed. -/
def LegibleArg (arg : Arg) : Prop := arg.text.toList ≠ [] ∧ Legible arg.text.toList

instance {line : List Char} : Decidable (Legible line) :=
  decidable_of_iff ('\n' ∉ line ∧ trim line = line) ⟨fun h => ⟨h.1, h.2⟩, fun h => ⟨h.1, h.2⟩⟩

instance {arg : Arg} : Decidable (LegibleArg arg) :=
  inferInstanceAs (Decidable (arg.text.toList ≠ [] ∧ Legible arg.text.toList))

/-- So can arguments. -/
theorem legible_render {words : List Arg} (hne : words ≠ []) (h : ∀ arg ∈ words, LegibleArg arg) :
    Legible (render words).toList := by
  rw [render, String.toList_intercalate]
  refine (legible_intercalate ?_ ?_).2
  · simpa using hne
  · rw [List.forall_mem_map, List.forall_mem_map]
    exact h

theorem legibleArg_quoted {text : String} (h : '\n' ∉ text.toList) : LegibleArg (.quoted text) := by
  have htext : (Arg.quoted text).text.toList = '"' :: (text.toList ++ ['"']) := by
    simp [Arg.text]
  rw [LegibleArg, htext]
  refine ⟨List.cons_ne_nil _ _, legible_of_ends ?_ ?_ ?_⟩
  · simp [h]
  · intro c hc
    rw [← Option.some.inj hc]
    decide
  · intro c hc
    rw [← List.cons_append, List.getLast?_concat] at hc
    rw [← Option.some.inj hc]
    decide

theorem legible_of_isWord {text : List Char} (h : IsWord text) : Legible text := by
  refine ⟨fun hmem => ?_, trim_of_forall h.2⟩
  exact absurd (h.2 '\n' hmem) (by decide)

theorem legibleArg_bare {text : String} (h : IsWord text.toList) : LegibleArg (.bare text) :=
  ⟨h.1, legible_of_isWord h⟩

/-! ## Numbers -/

/-- The digits of a number have its value. -/
theorem digitsValue_toString (n : ℕ) : digitsValue (toString n).toList = n := by
  have hvalue (digits : List Char) : digitsValue digits = Nat.ofDigitChars 10 digits 0 := rfl
  rw [hvalue, Nat.toString_eq_ofList_toDigits, String.toList_ofList,
    Nat.ofDigitChars_ten_toDigits]

theorem toString_ne_nil (n : ℕ) : (toString n).toList ≠ [] := by
  rw [Nat.toString_eq_ofList_toDigits, String.toList_ofList]
  exact Nat.toDigits_ne_nil

/-- A number that fits is read back. -/
theorem parseUint_toString {bits n : ℕ} (h : n < 2 ^ bits) :
    parseUint bits (toString n).toList = some n := by
  have hdigits : ∀ c ∈ (toString n).toList, c.isDigit = true :=
    fun c hc => isDigit_of_mem_toString hc
  have hne := toString_ne_nil n
  have hvalue := digitsValue_toString n
  generalize (toString n).toList = digits at hdigits hne hvalue
  have hsign : (digits.head? == some '+') = false := by
    rw [beq_eq_false_iff_ne]
    intro hplus
    exact absurd (hdigits '+' (List.mem_of_mem_head? hplus)) (by decide)
  have hall : digits.all Char.isDigit = true := List.all_eq_true.mpr hdigits
  simp [parseUint, hsign, hne, hvalue, h, hall]

/-- The codes of letters and digits. -/
theorem toNat_of_isAlphanum {c : Char} (h : c.isAlphanum = true) :
    (65 ≤ c.toNat ∧ c.toNat ≤ 90 ∨ 97 ≤ c.toNat ∧ c.toNat ≤ 122) ∨
      48 ≤ c.toNat ∧ c.toNat ≤ 57 := by
  have hval : c.val.toNat = c.toNat := rfl
  have hranges : ((decide ('A'.val ≤ c.val ∧ c.val ≤ 'Z'.val) ||
      decide ('a'.val ≤ c.val) && decide (c.val ≤ 'z'.val)) ||
      decide ('0'.val ≤ c.val) && decide (c.val ≤ '9'.val)) = true := h
  simp only [Bool.or_eq_true, Bool.and_eq_true, decide_eq_true_eq, UInt32.le_iff_toNat_le,
    hval] at hranges
  exact hranges

theorem isWhitespace_of_isAlphanum {c : Char} (h : c.isAlphanum = true) :
    isWhitespace c = false := by
  have hcodes := toNat_of_isAlphanum h
  simp only [isWhitespace, Bool.or_eq_false_iff, Bool.and_eq_false_iff, decide_eq_false_iff_not,
    beq_eq_false_iff_ne]
  omega

theorem isWhitespace_of_isDigit {c : Char} (h : c.isDigit = true) : isWhitespace c = false :=
  isWhitespace_of_isAlphanum (by rw [Char.isAlphanum, h, Bool.or_true])

theorem isWord_toString (n : ℕ) : IsWord (toString n).toList :=
  ⟨toString_ne_nil n, fun _ hc => isWhitespace_of_isDigit (isDigit_of_mem_toString hc)⟩

theorem legibleArg_number (n : ℕ) : LegibleArg (.number n) := legibleArg_bare (isWord_toString n)

end SwitchConfigurator
