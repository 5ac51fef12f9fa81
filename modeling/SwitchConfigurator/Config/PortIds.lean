import Mathlib.Algebra.Group.Nat.Defs
import Mathlib.Data.List.DropRight
import SwitchConfigurator.Config.Errors
import SwitchConfigurator.Foundations.RelatedLists

/-!
# Port ids

`parse_port_id` and `extract_number_suffix` of `config.rs`: one string may name several
ports, as a list ("1,3,5"), a range ("1-5", "port1-5") or a mix of both.
-/

namespace SwitchConfigurator

/-- `char::is_whitespace`: the characters with the Unicode `White_Space` property. -/
def isWhitespace (c : Char) : Bool :=
  let n := c.toNat
  (9 ≤ n && n ≤ 13) || n == 32 || n == 0x85 || n == 0xA0 || n == 0x1680
    || (0x2000 ≤ n && n ≤ 0x200A) || n == 0x2028 || n == 0x2029 || n == 0x202F
    || n == 0x205F || n == 0x3000

section Ends

variable {p : Char → Bool} {s : List Char}

/-- Nothing is dropped off a text that neither starts nor ends with what is dropped. -/
theorem dropEnds_eq_self (hhead : ∀ c ∈ s.head?, p c = false) (hlast :
    ∀ c ∈ s.getLast?, p c = false) :
    (s.dropWhile p).rdropWhile p = s := by
  have hfront : s.dropWhile p = s := by
    rw [List.dropWhile_eq_self_iff]
    intro hlength
    have hc := hhead s[0] (List.head?_eq_getElem?.trans (List.getElem?_eq_getElem hlength))
    simp [hc]
  rw [hfront, List.rdropWhile_eq_self_iff]
  intro hne
  have hc := hlast (s.getLast hne) (List.getLast?_eq_some_getLast hne)
  simp [hc]

theorem head?_dropEnds : ∀ c ∈ ((s.dropWhile p).rdropWhile p).head?, p c = false := by
  intro c hc
  obtain ⟨rest, hrest⟩ := List.rdropWhile_prefix p (l := s.dropWhile p)
  have hhead : (s.dropWhile p).head? = some c := by
    rw [← hrest, List.head?_append, hc]
    rfl
  have hnot := List.head?_dropWhile_not p s
  rw [hhead] at hnot
  simpa using hnot

theorem getLast?_dropEnds : ∀ c ∈ ((s.dropWhile p).rdropWhile p).getLast?, p c = false := by
  intro c hc
  have hne : (s.dropWhile p).rdropWhile p ≠ [] := by
    rintro h
    rw [h] at hc
    cases hc
  have hlast := List.rdropWhile_last_not p (s.dropWhile p) hne
  rw [List.getLast?_eq_some_getLast hne] at hc
  obtain rfl := Option.some.inj hc
  rwa [Bool.not_eq_true] at hlast

end Ends

/-- `str::trim`. -/
def trim (s : List Char) : List Char := (s.dropWhile isWhitespace).rdropWhile isWhitespace

/-- Nothing is trimmed off a text that neither starts nor ends with whitespace. -/
theorem trim_eq_self {s : List Char} (hhead : ∀ c ∈ s.head?, isWhitespace c = false)
    (hlast : ∀ c ∈ s.getLast?, isWhitespace c = false) : trim s = s :=
  dropEnds_eq_self hhead hlast

/-- A trimmed text begins with no blank. -/
theorem head?_trim {s : List Char} : ∀ c ∈ (trim s).head?, isWhitespace c = false := head?_dropEnds

/-- Nor does it end with one. -/
theorem getLast?_trim {s : List Char} : ∀ c ∈ (trim s).getLast?, isWhitespace c = false :=
  getLast?_dropEnds

/-- Trimming twice is trimming once. -/
@[simp] theorem trim_trim (s : List Char) : trim (trim s) = trim s :=
  trim_eq_self head?_trim getLast?_trim

/-- Without blanks there is nothing to trim. -/
theorem trim_of_forall {s : List Char} (h : ∀ c ∈ s, isWhitespace c = false) : trim s = s :=
  trim_eq_self (fun c hc => h c (List.mem_of_mem_head? hc))
    fun c hc => h c (List.mem_of_mem_getLast? hc)

/-- The number a string of ASCII digits denotes. -/
def digitsValue (digits : List Char) : ℕ :=
  digits.foldl (fun n c => 10 * n + (c.toNat - '0'.toNat)) 0

/-- The non-numeric prefix and the number a string ends in. -/
def extractNumberSuffix (s : List Char) : Except Error (List Char × ℕ) :=
  let number := s.rtakeWhile Char.isDigit
  if number.isEmpty then
    .error [s!"No numeric suffix found in port ID: {String.ofList s}"]
  else if digitsValue number < 2 ^ 32 then
    .ok (s.rdropWhile Char.isDigit, digitsValue number)
  else
    .error [s!"Failed to parse number from: {String.ofList number}",
      "number too large to fit in target type"]

/-- The ports of one segment that holds a hyphen; the first one splits it. -/
def parseRange (segment : List Char) : Except Error (List String) := do
  let startStr := trim (segment.takeWhile (· != '-'))
  let endStr := trim ((segment.dropWhile (· != '-')).drop 1)
  let (portPrefix, startNum) ← extractNumberSuffix startStr
  let (endPrefix, endNum) ← extractNumberSuffix endStr
  -- "port1-5" repeats its prefix, "port1-port5" has to give the same one twice.
  if !endPrefix.isEmpty && portPrefix != endPrefix then
    .error [s!"Port range prefix mismatch: '{String.ofList portPrefix}' vs '{String.ofList endPrefix}'"]
  else if startNum > endNum then
    .error [s!"Invalid port range: start ({startNum}) > end ({endNum})"]
  else
    .ok ((List.range' startNum (endNum - startNum + 1)).map fun num =>
      String.ofList portPrefix ++ toString num)

def parseSegment (segment : List Char) : Except Error (List String) :=
  if (trim segment).contains '-' then parseRange (trim segment)
  else .ok [String.ofList (trim segment)]

/-- The ports that a string names, in the order it names them. -/
def parsePortId (portId : String) : Except Error (List String) :=
  List.flatten <$> (portId.toList.splitOn ',').mapM parseSegment

/-- A range is not empty. -/
theorem parseRange_ne_nil {segment : List Char} {ids : List String}
    (h : parseRange segment = .ok ids) : ids ≠ [] := by
  obtain ⟨⟨portPrefix, startNum⟩, -, h⟩ := bind_ok_iff.mp h
  obtain ⟨⟨endPrefix, endNum⟩, -, h⟩ := bind_ok_iff.mp h
  dsimp only at h
  split at h
  · exact absurd h (by simp)
  · split at h
    · exact absurd h (by simp)
    · rw [← Except.ok.inj h, ne_eq, List.map_eq_nil_iff, List.range'_eq_nil_iff]
      omega

/-- A string names one port at least. -/
theorem parsePortId_ne_nil {portId : String} {ids : List String}
    (h : parsePortId portId = .ok ids) : ids ≠ [] := by
  have hsegment {segment : List Char} {ids : List String} (h : parseSegment segment = .ok ids) :
      ids ≠ [] := by
    rw [parseSegment] at h
    split at h
    · exact parseRange_ne_nil h
    · rw [← Except.ok.inj h]
      exact List.cons_ne_nil _ _
  cases hsegments : (portId.toList.splitOn ',').mapM parseSegment with
  | error e =>
    rw [parsePortId, hsegments] at h
    cases h
  | ok segments =>
    rw [parsePortId, hsegments] at h
    obtain rfl := Except.ok.inj h
    have hrel := mapM_ok_iff.mp hsegments
    -- the first segment alone names a port
    obtain ⟨segment, rest, hsplit⟩ :=
      List.exists_cons_of_ne_nil (List.splitOn_ne_nil ',' portId.toList)
    rw [hsplit] at hrel
    obtain ⟨first, others, hfirst, -, rfl⟩ := List.forall₂_cons_left_iff.mp hrel
    rw [List.flatten_cons]
    exact List.append_ne_nil_of_left_ne_nil (hsegment hfirst) _

/-! ## What is expanded stays as it is -/

/-- No part has the separator in it. -/
theorem separator_notMem_splitOn {sep : Char} {s : List Char} :
    ∀ part ∈ s.splitOn sep, sep ∉ part := by
  induction s with
  | nil => simp
  | cons c s ih =>
    rw [List.splitOn_cons_eq_if_modifyHead]
    split
    · simpa using ih
    · next hne =>
      cases hparts : s.splitOn sep with
      | nil => exact absurd hparts (List.splitOn_ne_nil _ _)
      | cons part rest =>
        rw [hparts, List.forall_mem_cons] at ih
        rw [List.modifyHead_cons, List.forall_mem_cons]
        refine ⟨?_, ih.2⟩
        rw [List.mem_cons, not_or]
        exact ⟨fun h => hne (beq_iff_eq.mpr h.symm), ih.1⟩

theorem mem_of_mem_trim {c : Char} {s : List Char} (h : c ∈ trim s) : c ∈ s :=
  (List.dropWhile_sublist _).mem ((List.rdropWhile_prefix _ _).mem h)

/-- A text that names one port as it stands. -/
structure IsPortId (text : List Char) : Prop where
  comma : ',' ∉ text
  hyphen : '-' ∉ text
  trimmed : trim text = text

/-- A plain name is one port. -/
theorem parsePortId_of_isPortId {portId : String} (h : IsPortId portId.toList) :
    parsePortId portId = .ok [portId] := by
  have hsegment : parseSegment portId.toList = .ok [portId] := by
    have hcontains : portId.toList.contains '-' = false := by
      rw [Bool.eq_false_iff, ne_eq, List.contains_iff_mem]
      exact h.hyphen
    rw [parseSegment, h.trimmed, hcontains, if_neg (by decide), String.ofList_toList]
  rw [parsePortId, List.splitOn_eq_singleton h.comma, List.mapM_cons, hsegment]
  rfl

theorem isWhitespace_digit {c : Char} (h : c.isDigit = true) : isWhitespace c = false := by
  have hval : c.val.toNat = c.toNat := rfl
  simp only [Char.isDigit, Bool.and_eq_true, decide_eq_true_eq, ge_iff_le, UInt32.le_iff_toNat_le,
    hval] at h
  obtain ⟨hlow, hhigh⟩ := h
  have hlow : 48 ≤ c.toNat := hlow
  have hhigh : c.toNat ≤ 57 := hhigh
  simp only [isWhitespace, Bool.or_eq_false_iff, Bool.and_eq_false_iff, decide_eq_false_iff_not,
    beq_eq_false_iff_ne]
  omega

/-- A prefix before a number, as the start of a range has it. -/
theorem isPortId_numbered {start : List Char} (hcomma : ',' ∉ start) (hhyphen : '-' ∉ start)
    (htrimmed : trim start = start) (num : ℕ) :
    IsPortId (start.rdropWhile Char.isDigit ++ (toString num).toList) := by
  -- a numeral has neither comma, hyphen nor blank, so the rest depends on `start`
  have hdigits : ∀ c ∈ (toString num).toList, c.isDigit = true := by
    intro c hc
    have hrepr : (toString num).toList = Nat.toDigits 10 num := Nat.toList_repr
    rw [hrepr] at hc
    exact Nat.isDigit_of_mem_toDigits (by decide) (by decide) hc
  have hne : (toString num).toList ≠ [] := by
    have hrepr : (toString num).toList = Nat.toDigits 10 num := Nat.toList_repr
    rw [hrepr]
    exact Nat.toDigits_ne_nil
  have hmem {c : Char} (hc : c ∈ start.rdropWhile Char.isDigit ++ (toString num).toList) :
      c ∈ start ∨ c.isDigit = true := by
    rcases List.mem_append.mp hc with hc | hc
    · exact .inl ((List.rdropWhile_prefix _ _).mem hc)
    · exact .inr (hdigits c hc)
  refine ⟨fun h => ?_, fun h => ?_, trim_eq_self ?_ ?_⟩
  · rcases hmem h with h | h
    · exact hcomma h
    · exact absurd h (by decide)
  · rcases hmem h with h | h
    · exact hhyphen h
    · exact absurd h (by decide)
  · intro c hc
    -- where `start` is all digits, the numeral alone is left
    cases hfirst : (start.rdropWhile Char.isDigit).head? with
    | none =>
      rw [List.head?_eq_none_iff.mp hfirst, List.nil_append] at hc
      exact isWhitespace_digit (hdigits c (List.mem_of_mem_head? hc))
    | some first =>
      rw [List.head?_append, hfirst] at hc
      obtain rfl : first = c := Option.some.inj hc
      obtain ⟨rest, hrest⟩ := List.rdropWhile_prefix Char.isDigit start
      have hhead : (trim start).head? = some first := by
        rw [htrimmed, ← hrest, List.head?_append, hfirst]
        rfl
      exact head?_trim first hhead
  · intro c hc
    rw [List.getLast?_append_of_ne_nil _ hne] at hc
    exact isWhitespace_digit (hdigits c (List.mem_of_mem_getLast? hc))

theorem extractNumberSuffix_prefix {text portPrefix : List Char} {num : ℕ}
    (h : extractNumberSuffix text = .ok (portPrefix, num)) :
    portPrefix = text.rdropWhile Char.isDigit := by
  rw [extractNumberSuffix] at h
  split at h
  · cases h
  · split at h
    · exact (Prod.mk.inj (Except.ok.inj h)).1.symm
    · cases h

/-- A range is of plain names. -/
theorem isPortId_of_parseRange {segment : List Char} {ids : List String}
    (h : parseRange segment = .ok ids) (hcomma : ',' ∉ segment) :
    ∀ id ∈ ids, IsPortId id.toList := by
  obtain ⟨⟨portPrefix, startNum⟩, hstart, h⟩ := bind_ok_iff.mp h
  obtain ⟨⟨endPrefix, endNum⟩, -, h⟩ := bind_ok_iff.mp h
  dsimp only at h
  split at h
  · cases h
  split at h
  · cases h
  obtain rfl := extractNumberSuffix_prefix hstart
  intro id hid
  rw [← Except.ok.inj h] at hid
  obtain ⟨num, -, rfl⟩ := List.mem_map.mp hid
  rw [String.toList_append, String.toList_ofList]
  apply isPortId_numbered
  · exact fun hmem => hcomma ((List.takeWhile_sublist _).mem (mem_of_mem_trim hmem))
  · exact fun hmem => by simpa using List.mem_takeWhile_imp (mem_of_mem_trim hmem)
  · exact trim_trim _

/-- So is a segment. -/
theorem isPortId_of_parseSegment {segment : List Char} {ids : List String}
    (h : parseSegment segment = .ok ids) (hcomma : ',' ∉ segment) :
    ∀ id ∈ ids, IsPortId id.toList := by
  have htrim : ',' ∉ trim segment := fun hmem => hcomma (mem_of_mem_trim hmem)
  rw [parseSegment] at h
  split at h
  · exact isPortId_of_parseRange h htrim
  · next hhyphen =>
    rw [List.contains_iff_mem] at hhyphen
    rw [← Except.ok.inj h, List.forall_mem_singleton, String.toList_ofList]
    exact ⟨htrim, hhyphen, trim_trim segment⟩

/-- Every port id that a text expands to stands for itself. -/
theorem parsePortId_expanded {portId : String} {ids : List String}
    (h : parsePortId portId = .ok ids) : ∀ id ∈ ids, parsePortId id = .ok [id] := by
  cases hsegments : (portId.toList.splitOn ',').mapM parseSegment with
  | error e =>
    rw [parsePortId, hsegments] at h
    cases h
  | ok segments =>
    rw [parsePortId, hsegments] at h
    obtain rfl := Except.ok.inj h
    intro id hid
    obtain ⟨segment, hsegment, hid⟩ := List.mem_flatten.mp hid
    obtain ⟨part, hpart, hok⟩ := RelatedLists.exists_of_mem_left (mapM_ok_iff.mp hsegments).flip
      hsegment
    exact parsePortId_of_isPortId
      (isPortId_of_parseSegment hok (separator_notMem_splitOn part hpart) id hid)

example : parsePortId "1-3, port7-8,X" = .ok ["1", "2", "3", "port7", "port8", "X"] := by rfl

end SwitchConfigurator
