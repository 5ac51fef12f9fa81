import SwitchConfigurator.Vendors.Redact

/-!
# The redactor inside nested blocks

The whole state of `CommandRedactor`, its two ways to look at text without going on, and the lines
of nested FortiOS blocks: inside them the redactor knows where it is.
-/

namespace SwitchConfigurator.Redact

/-! ## The redactor and its state -/

structure CommandRedactor where
  /-- Nesting depth while inside `config system snmp community` (0 = outside). -/
  snmpCommunityDepth : ℕ := 0
  /-- The last command was a `show ...`. -/
  showOutput : Bool := false
  deriving DecidableEq, Repr

/-- `split_inclusive('\n')` -/
def splitInclusive : List Char → List (List Char)
  | [] => []
  | c :: rest =>
    if c = '\n' then [c] :: splitInclusive rest
    else
      match splitInclusive rest with
      | [] => [[c]]
      | piece :: pieces => (c :: piece) :: pieces

namespace CommandRedactor

variable (isWord : Char → Bool)

def redact (redactor : CommandRedactor) (command : List Char) : CommandRedactor × List Char :=
  let result := Redact.redact isWord redactor.snmpCommunityDepth command
  ({ snmpCommunityDepth := result.1
     showOutput := "show ".toList.isPrefixOf (lower (trim command)) }, result.2)

/-- One piece of a text: its line is redacted by the scratch copy, its line end is kept. -/
def peekPiece (scratch : CommandRedactor × List Char) (piece : List Char) :
    CommandRedactor × List Char :=
  let line := piece.rdropWhile fun c => c == '\r' || c == '\n'
  let result := scratch.1.redact isWord line
  (result.1, scratch.2 ++ result.2 ++ piece.drop line.length)

def peekSent (redactor : CommandRedactor) (text : List Char) : List Char :=
  ((splitInclusive text).foldl (peekPiece isWord) (redactor, [])).2

def peekText (redactor : CommandRedactor) (text : List Char) : List Char :=
  let bytes := (String.ofList text).utf8ByteSize
  if redactor.showOutput then s!"<{bytes} bytes of show output withheld>".toList
  else if redactor.snmpCommunityDepth > 0 then
    s!"<{bytes} bytes withheld inside an SNMP community block>".toList
  else redactor.peekSent isWord text

end CommandRedactor

/-- A use of the redactor. -/
inductive Call where
  | redact (command : List Char)
  | peekText (text : List Char)
  | peekSent (text : List Char)

def CommandRedactor.call (isWord : Char → Bool) (redactor : CommandRedactor) :
    Call → CommandRedactor × List Char
  | .redact command => redactor.redact isWord command
  | .peekText text => (redactor, redactor.peekText isWord text)
  | .peekSent text => (redactor, redactor.peekSent isWord text)

def CommandRedactor.after (isWord : Char → Bool) (redactor : CommandRedactor)
    (calls : List Call) : CommandRedactor :=
  calls.foldl (fun redactor call => (redactor.call isWord call).1) redactor

/-- What the redactor gives for the commands among the calls. -/
def CommandRedactor.redacted (isWord : Char → Bool) : CommandRedactor → List Call → List (List Char)
  | _, [] => []
  | redactor, .redact command :: calls =>
    (redactor.redact isWord command).2 :: redacted isWord (redactor.redact isWord command).1 calls
  | redactor, call :: calls => redacted isWord (redactor.call isWord call).1 calls

def commands : List Call → List (List Char)
  | [] => []
  | .redact command :: calls => command :: commands calls
  | _ :: calls => commands calls

/-- The depth after some commands. -/
def depthAfter (isWord : Char → Bool) (depth : ℕ) (commands : List (List Char)) : ℕ :=
  commands.foldl (fun depth command => (redact isWord depth command).1) depth

/-- The redactor with the subtraction of its counter spelled out: `none` is an underflow. -/
def checkedRedact (isWord : Char → Bool) (depth : ℕ) (command : List Char) :
    Option (ℕ × List Char) :=
  let trimmed := lower (trim command)
  let text (named : Bool) := ((find isWord named command).map (·.replaceIn command)).getD command
  if depth = 0 then
    some (if trimmed = "config system snmp community".toList then 1 else 0, text false)
  else if "config ".toList <+: trimmed then some (depth + 1, text false)
  else if trimmed = "end".toList then
    (if 1 ≤ depth then some (depth - 1) else none).map (·, text false)
  else some (depth, text (depth == 1))

section

variable {isWord : Char → Bool}

/-- The counter never goes below zero. -/
theorem checkedRedact_eq (depth : ℕ) (command : List Char) :
    checkedRedact isWord depth command = some (redact isWord depth command) := by
  rw [checkedRedact, redact]
  dsimp only
  by_cases hzero : depth = 0
  · rw [if_pos hzero, if_pos hzero]
  · have hpos : 1 ≤ depth := by omega
    rw [if_neg hzero, if_neg hzero, if_pos hpos]
    split
    · rfl
    · split <;> rfl

/-- Looking at text leaves no trace in what is redacted. -/
theorem redacted_eq (redactor : CommandRedactor) (calls : List Call) :
    redactor.redacted isWord calls =
      redactFrom isWord redactor.snmpCommunityDepth (commands calls) := by
  induction calls generalizing redactor with
  | nil => rfl
  | cons call calls ih =>
    cases call with
    | redact command => exact congrArg (_ :: ·) (ih _)
    | peekText text => exact ih redactor
    | peekSent text => exact ih redactor

/-- The counter is moved by commands only. -/
theorem depth_after (redactor : CommandRedactor) (calls : List Call) :
    (redactor.after isWord calls).snmpCommunityDepth =
      depthAfter isWord redactor.snmpCommunityDepth (commands calls) := by
  induction calls generalizing redactor with
  | nil => rfl
  | cons call calls ih =>
    cases call with
    | redact command => exact ih _
    | peekText text => exact ih redactor
    | peekSent text => exact ih redactor

/-- The second half is redacted at the depth that the first has left. -/
theorem redactFrom_append (depth : ℕ) (commands others : List (List Char)) :
    redactFrom isWord depth (commands ++ others) =
      redactFrom isWord depth commands ++
        redactFrom isWord (depthAfter isWord depth commands) others := by
  induction commands generalizing depth with
  | nil => rfl
  | cons command commands ih => exact congrArg (_ :: ·) (ih _)

theorem depthAfter_append (depth : ℕ) (commands others : List (List Char)) :
    depthAfter isWord depth (commands ++ others) =
      depthAfter isWord (depthAfter isWord depth commands) others := List.foldl_append

end

/-! ## The lines of nested blocks -/

/-- What a line stands in. -/
inductive Frame where
  | table (path : List Char)
  | entry
  deriving DecidableEq, Repr

def communityTable : List Char := "system snmp community".toList

/-- The first word of a line, in lower case. -/
def firstWord (line : List Char) : List Char :=
  (lower (trim line)).takeWhile fun c => !isWhitespace c

/-- Well-nested lines, each with what it stands in, the innermost first. The lines may be indented
and in any letter case. The `end` of a table also closes its last entry. Settings stand in entries
or in a table itself. -/
inductive WellNested : List Frame → List (List Frame × List Char) → Prop
  | nil {frames} : WellNested frames []
  | set {frames line rest} (hline : firstWord line = "set".toList)
      (hrest : WellNested frames rest) :
      WellNested frames ((frames, line) :: rest)
  | entry {frames path edit body next rest} (hedit : firstWord edit = "edit".toList)
      (hbody : WellNested (.entry :: .table path :: frames) body)
      (hnext : lower (trim next) = "next".toList)
      (hrest : WellNested (.table path :: frames) rest) :
      WellNested (.table path :: frames)
        ((.table path :: frames, edit) :: (body ++ (.table path :: frames, next) :: rest))
  | lastEntry {frames path edit body} (hedit : firstWord edit = "edit".toList)
      (hbody : WellNested (.entry :: .table path :: frames) body) :
      WellNested (.table path :: frames) ((.table path :: frames, edit) :: body)
  | block {frames path config body close rest}
      (hconfig : lower (trim config) = "config ".toList ++ path)
      (hbody : WellNested (.table path :: frames) body)
      (hclose : lower (trim close) = "end".toList) (hrest : WellNested frames rest) :
      WellNested frames ((frames, config) :: (body ++ (frames, close) :: rest))

/-- The line stands in an entry of the community table itself. -/
def InCommunityEntry (frames : List Frame) : Prop :=
  ∃ outer, frames = .entry :: .table communityTable :: outer ∧ .table communityTable ∉ outer

/-- The line stands in the community table itself, in an entry of it or not. -/
def InCommunityTable (frames : List Frame) : Prop :=
  ∃ outer, (frames = .table communityTable :: outer ∨
    frames = .entry :: .table communityTable :: outer) ∧ .table communityTable ∉ outer

/-- Entries stand in tables. -/
def Proper : List Frame → Prop
  | [] => True
  | .table _ :: frames => Proper frames
  | [.entry] => False
  | .entry :: .entry :: _ => False
  | .entry :: .table _ :: frames => Proper frames

/-- The depth that the redactor has at a line. -/
def depthOf : List Frame → ℕ
  | [] => 0
  | .entry :: frames => depthOf frames
  | .table path :: frames =>
    if depthOf frames = 0 then (if path = communityTable then 1 else 0) else depthOf frames + 1

/-- The depth is zero exactly outside the community table. -/
theorem depthOf_eq_zero_iff {frames : List Frame} :
    depthOf frames = 0 ↔ .table communityTable ∉ frames := by
  induction frames with
  | nil => simp [depthOf]
  | cons frame frames ih =>
    cases frame with
    | entry => simp [depthOf, ih]
    | table path =>
      rw [depthOf, List.mem_cons, not_or, ← ih]
      by_cases hzero : depthOf frames = 0
      · by_cases hpath : path = communityTable
        · simp [hzero, hpath]
        · simp [hzero, hpath, Ne.symm hpath]
      · simp [hzero]

/-- It is one exactly in the community table itself. -/
theorem depthOf_table_eq_one_iff {path : List Char} {frames : List Frame} :
    depthOf (.table path :: frames) = 1 ↔
      path = communityTable ∧ .table communityTable ∉ frames := by
  rw [depthOf, ← depthOf_eq_zero_iff]
  by_cases hzero : depthOf frames = 0
  · by_cases hpath : path = communityTable
    · simp [hzero, hpath]
    · simp [hzero, hpath]
  · rw [if_neg hzero]
    exact iff_of_false (by omega) fun h => hzero h.2

/-- The depth is one exactly in the table itself and in the entries of it. -/
theorem depthOf_eq_one_iff {frames : List Frame} (hproper : Proper frames) :
    depthOf frames = 1 ↔ InCommunityTable frames := by
  match frames, hproper with
  | [], _ => simp [depthOf, InCommunityTable]
  | .table path :: frames, _ =>
    rw [depthOf_table_eq_one_iff]
    constructor
    · rintro ⟨rfl, hnot⟩
      exact ⟨frames, .inl rfl, hnot⟩
    · rintro ⟨outer, heq | heq, hnot⟩
      · obtain ⟨hpath, rfl⟩ := List.cons.inj heq
        exact ⟨Frame.table.inj hpath, hnot⟩
      · cases heq
  | .entry :: .table path :: frames, _ =>
    have hdepth : depthOf (.entry :: .table path :: frames) = depthOf (.table path :: frames) := rfl
    rw [hdepth, depthOf_table_eq_one_iff]
    constructor
    · rintro ⟨rfl, hnot⟩
      exact ⟨frames, .inr rfl, hnot⟩
    · rintro ⟨outer, heq | heq, hnot⟩
      · cases heq
      · obtain ⟨hpath, rfl⟩ := List.cons.inj (List.cons.inj heq).2
        exact ⟨Frame.table.inj hpath, hnot⟩

/-! ## Steps at lines -/

section

variable {isWord : Char → Bool} {line path : List Char} {frames : List Frame} {depth : ℕ}

theorem firstWord_of_config (h : "config ".toList <+: lower (trim line)) :
    firstWord line = "config".toList := by
  obtain ⟨rest, hrest⟩ := h
  rw [firstWord, ← hrest]
  rfl

theorem firstWord_of_end (h : lower (trim line) = "end".toList) :
    firstWord line = "end".toList := by
  rw [firstWord, h]
  rfl

/-- Lines that neither open nor close a block leave the depth as it is. -/
theorem redact_other (hconfig : firstWord line ≠ "config".toList)
    (hend : firstWord line ≠ "end".toList) : redact isWord depth line =
      (depth, ((find isWord (depth == 1) line).map (·.replaceIn line)).getD line) := by
  have hnot : ¬"config ".toList <+: lower (trim line) := fun h => hconfig (firstWord_of_config h)
  have hopen : lower (trim line) ≠ "config system snmp community".toList := fun h =>
    hnot (h ▸ ⟨"system snmp community".toList, rfl⟩)
  rw [redact]
  dsimp only
  by_cases hzero : depth = 0
  · subst hzero
    rw [if_pos rfl, if_neg hopen]
    rfl
  · rw [if_neg hzero, if_neg hnot, if_neg fun h => hend (firstWord_of_end h)]

/-- A table goes one level down, or starts counting. -/
theorem depth_config (h : lower (trim line) = "config ".toList ++ path) :
    (redact isWord (depthOf frames) line).1 = depthOf (.table path :: frames) := by
  rw [redact, depthOf]
  dsimp only
  rw [h]
  by_cases hzero : depthOf frames = 0
  · have hopen : "config ".toList ++ path = "config system snmp community".toList ↔
        path = communityTable := by
      have hsplit : "config system snmp community".toList =
          "config ".toList ++ communityTable := rfl
      rw [hsplit, List.append_cancel_left_eq]
    rw [if_pos hzero, if_pos hzero]
    simp only [hopen]
  · rw [if_neg hzero, if_neg hzero, if_pos (List.prefix_append _ _)]

/-- Its end goes one level up. -/
theorem depth_end (h : lower (trim line) = "end".toList) :
    (redact isWord (depthOf (.table path :: frames)) line).1 = depthOf frames := by
  have hnot : ¬"config ".toList <+: "end".toList := by decide
  have hopen : "end".toList ≠ "config system snmp community".toList := by decide
  rw [redact, depthOf]
  dsimp only
  rw [h, if_neg hopen, if_neg hnot, if_pos rfl]
  by_cases hzero : depthOf frames = 0
  · rw [if_pos hzero, hzero]
    by_cases hpath : path = communityTable
    · simp [hpath]
    · simp [hpath]
  · rw [if_neg hzero, if_neg (by omega)]
    omega

theorem firstWord_of_eq {text : List Char} (h : lower (trim line) = text)
    (htext : text.takeWhile (fun c => !isWhitespace c) = text) : firstWord line = text := by
  rw [firstWord, h, htext]

/-- After well-nested lines the redactor is where it was before them. -/
theorem depthAfter_wellNested {lines : List (List Frame × List Char)}
    (h : WellNested frames lines) :
    depthAfter isWord (depthOf frames) (lines.map Prod.snd) = depthOf frames := by
  -- only `config` and `end` change the depth
  have hskip {line : List Char} {depth : ℕ} (hconfig : firstWord line ≠ "config".toList)
      (hend : firstWord line ≠ "end".toList) : (redact isWord depth line).1 = depth := by
    rw [redact_other hconfig hend]
  induction h with
  | nil => rfl
  | @set frames line rest hline _ ih =>
    rw [List.map_cons, depthAfter, List.foldl_cons]
    dsimp only
    rw [hskip (by rw [hline]; decide) (by rw [hline]; decide)]
    exact ih
  | @entry frames path edit body next rest hedit _ hnext _ ihbody ihrest =>
    have hword : firstWord next = "next".toList := firstWord_of_eq hnext (by rfl)
    rw [List.map_cons, List.map_append, List.map_cons, depthAfter, List.foldl_cons]
    dsimp only
    rw [hskip (by rw [hedit]; decide) (by rw [hedit]; decide)]
    show depthAfter isWord _ _ = _
    have hinside : depthAfter isWord (depthOf (.table path :: frames)) (body.map Prod.snd) =
        depthOf (.table path :: frames) := ihbody
    rw [depthAfter_append, hinside, depthAfter, List.foldl_cons,
      hskip (by rw [hword]; decide) (by rw [hword]; decide)]
    exact ihrest
  | @lastEntry frames path edit body hedit _ ihbody =>
    rw [List.map_cons, depthAfter, List.foldl_cons]
    dsimp only
    rw [hskip (by rw [hedit]; decide) (by rw [hedit]; decide)]
    exact ihbody
  | @block frames path config body close rest hconfig _ hclose _ ihbody ihrest =>
    rw [List.map_cons, List.map_append, List.map_cons, depthAfter, List.foldl_cons]
    dsimp only
    rw [depth_config hconfig]
    show depthAfter isWord _ _ = _
    -- what `config` opened, its own `end` closes
    rw [depthAfter_append, ihbody, depthAfter, List.foldl_cons, depth_end hclose]
    exact ihrest

end

/-! ## Lines that set a name -/

def Blank (text : List Char) : Prop := ∀ c ∈ text, isWhitespace c = true

/-- A `set name` line: what comes before the value, and the value to the end of the line. -/
structure SetName (line head value : List Char) : Prop where
  split : line = head ++ value
  words : ∃ indent set gap name gap', head = indent ++ (set ++ (gap ++ (name ++ gap'))) ∧
    Blank indent ∧ lower set = "set".toList ∧ Blank gap ∧ gap ≠ [] ∧
      lower name = "name".toList ∧ Blank gap' ∧ gap' ≠ []
  value_head : ∀ c ∈ value.head?, isWhitespace c = false
  one_line : '\n' ∉ value

section

variable {isWord : Char → Bool} {line head value text rest expected : List Char}

/-- Blanks in front are skipped. -/
theorem blanks_append (h : Blank text) (hrest : ∀ c ∈ rest.head?, isWhitespace c = false) :
    blanks (text ++ rest) = rest := by
  rw [blanks, List.dropWhile_append_of_pos h]
  cases rest with
  | nil => rfl
  | cons c rest => rw [List.dropWhile_cons_of_neg (by simp [hrest c rfl])]

theorem blanks1_append (h : Blank text) (hne : text ≠ [])
    (hrest : ∀ c ∈ rest.head?, isWhitespace c = false) : blanks1 (text ++ rest) = some rest := by
  obtain ⟨c, text, rfl⟩ := List.exists_cons_of_ne_nil hne
  have hc := h c List.mem_cons_self
  rw [List.cons_append, blanks1, if_pos hc,
    blanks_append (fun d hd => h d (List.mem_cons_of_mem _ hd)) hrest]

/-- The letters that patterns are made of. -/
def isPatternChar (c : Char) : Bool := ('a' ≤ c && c ≤ 'z') || c == '-'

/-- Letters are compared without their case. -/
theorem foldCase_of_toLower {c p : Char} (h : c.toLower = p) (hp : isPatternChar p = true) :
    foldCase c = p := by
  have hlong : c ≠ 'ſ' := by
    rintro rfl
    subst h
    exact absurd hp (by decide)
  have hkelvin : c.toNat ≠ 0x212A := by
    intro hc
    have hkelvin : c = Char.ofNat 0x212A := by rw [← hc, Char.ofNat_toNat]
    subst hkelvin
    subst h
    exact absurd hp (by decide)
  rw [foldCase, if_neg hlong, if_neg hkelvin, h]

/-- A literal is found in any case. -/
theorem literal_lower (h : lower text = expected)
    (hexpected : ∀ c ∈ expected, isPatternChar c = true) :
    literal expected (text ++ rest) = some rest := by
  induction expected generalizing text with
  | nil =>
    rw [List.map_eq_nil_iff.mp h]
    rfl
  | cons p expected ih =>
    obtain ⟨c, text, rfl, hc, htext⟩ := List.map_eq_cons_iff.mp h
    rw [List.forall_mem_cons] at hexpected
    rw [List.cons_append, literal, if_pos (foldCase_of_toLower hc hexpected.1),
      ih htext hexpected.2]

/-- So is a word with a gap behind it. -/
theorem word_lower {expected : String} {gap : List Char} (h : lower text = expected.toList)
    (hexpected : ∀ c ∈ expected.toList, isPatternChar c = true) (hgap : Blank gap) (hne : gap ≠ [])
    (hrest : ∀ c ∈ rest.head?, isWhitespace c = false) :
    word expected (text ++ (gap ++ rest)) = some rest := by
  rw [word, literal_lower h hexpected, Option.bind_some, blanks1_append hgap hne hrest]

/-- A word whose letters are others is not found. -/
theorem literal_eq_none {given : List Char} (h : lower text = given)
    (hgiven : ∀ c ∈ given, isPatternChar c = true) (hne : ¬given <+: expected)
    (hne' : ¬expected <+: given) : literal expected (text ++ rest) = none := by
  induction given generalizing text expected with
  | nil => exact absurd List.nil_prefix hne
  | cons p given ih =>
    obtain ⟨c, text, rfl, hc, htext⟩ := List.map_eq_cons_iff.mp h
    rw [List.forall_mem_cons] at hgiven
    cases expected with
    | nil => exact absurd List.nil_prefix hne'
    | cons q expected =>
      rw [List.cons_append, literal, foldCase_of_toLower hc hgiven.1]
      by_cases hpq : p = q
      · subst hpq
        rw [if_pos rfl]
        refine ih htext hgiven.2 (fun hprefix => hne ?_) (fun hprefix => hne' ?_) <;>
          exact List.cons_prefix_cons.mpr ⟨rfl, hprefix⟩
      · rw [if_neg hpq]

/-- Another word is not taken for it. -/
theorem word_eq_none {given : List Char} {expected : String} (h : lower text = given)
    (hgiven : ∀ c ∈ given, isPatternChar c = true) (hne : ¬given <+: expected.toList)
    (hne' : ¬expected.toList <+: given) : word expected (text ++ rest) = none := by
  rw [word, literal_eq_none h hgiven hne hne', Option.bind_none]

/-- A blank is its own lower case. -/
theorem toLower_of_isWhitespace {c : Char} (h : isWhitespace c = true) : c.toLower = c := by
  refine dif_neg ?_
  rintro ⟨hA, hZ⟩
  have hA : 65 ≤ c.toNat := hA
  have hZ : c.toNat ≤ 90 := hZ
  simp [isWhitespace] at h
  omega

theorem isWhitespace_of_isPatternChar {c : Char} (h : isPatternChar c = true) :
    isWhitespace c = false := by
  have hrange : (97 ≤ c.toNat ∧ c.toNat ≤ 122) ∨ c.toNat = 45 := by
    rw [isPatternChar, Bool.or_eq_true, beq_iff_eq, Bool.and_eq_true, decide_eq_true_iff,
      decide_eq_true_iff] at h
    exact h.imp id fun h => congrArg Char.toNat h
  simp [isWhitespace]
  omega

theorem isWhitespace_of_toLower {c p : Char} (h : c.toLower = p) (hp : isPatternChar p = true) :
    isWhitespace c = false := by
  by_contra hblank
  rw [Bool.not_eq_false] at hblank
  rw [toLower_of_isWhitespace hblank] at h
  subst h
  rw [isWhitespace_of_isPatternChar hp] at hblank
  cases hblank

theorem head?_lower {word : List Char} (hword : lower text = word) (hne : word ≠ [])
    (hchars : ∀ c ∈ word, isPatternChar c = true) :
    ∀ c ∈ (text ++ rest).head?, isWhitespace c = false := by
  obtain ⟨p, word, rfl⟩ := List.exists_cons_of_ne_nil hne
  obtain ⟨c, text, rfl, hc, -⟩ := List.map_eq_cons_iff.mp hword
  rintro _ ⟨⟩
  exact isWhitespace_of_toLower hc (hchars p List.mem_cons_self)

/-- What follows on a word may lose blanks at its end, the word itself loses nothing. -/
theorem rdropWhile_append_word (htext : ∀ c ∈ text, isWhitespace c = false) :
    ∃ tail, (text ++ rest).rdropWhile isWhitespace = text ++ tail ∧ tail <+: rest := by
  induction rest using List.reverseRecOn with
  | nil =>
    refine ⟨[], ?_, List.prefix_rfl⟩
    rw [List.append_nil, List.rdropWhile_eq_self_iff]
    intro hne
    simp [htext _ (List.getLast_mem hne)]
  | append_singleton rest c ih =>
    rw [← List.append_assoc, List.rdropWhile_concat]
    by_cases hc : isWhitespace c = true
    · obtain ⟨tail, htail, hprefix⟩ := ih
      exact ⟨tail, by rw [if_pos hc, htail], hprefix.trans (List.prefix_append _ _)⟩
    · exact ⟨rest ++ [c], by rw [if_neg hc, List.append_assoc], List.prefix_rfl⟩

/-- The first word is what stands in front of the gap. -/
theorem firstWord_append {indent gap word : List Char} (hindent : Blank indent)
    (hword : lower text = word) (hne : word ≠ []) (hchars : ∀ c ∈ word, isPatternChar c = true)
    (hgap : Blank gap) (hgapne : gap ≠ []) :
    firstWord (indent ++ (text ++ (gap ++ rest))) = word := by
  have htext : ∀ c ∈ text, isWhitespace c = false := fun c hc =>
    isWhitespace_of_toLower rfl (hchars _ (hword ▸ List.mem_map_of_mem hc))
  have hwhole : ∀ c ∈ word, (!isWhitespace c) = true := by
    intro c hc
    rw [isWhitespace_of_isPatternChar (hchars c hc)]
    rfl
  obtain ⟨tail, htail, hprefix⟩ : ∃ tail,
      (text ++ (gap ++ rest)).rdropWhile isWhitespace = text ++ tail ∧ tail <+: gap ++ rest :=
    rdropWhile_append_word htext
  have htrim : trim (indent ++ (text ++ (gap ++ rest))) = text ++ tail := by
    rw [trim, List.dropWhile_append_of_pos hindent]
    have hfront : blanks ([] ++ (text ++ (gap ++ rest))) = text ++ (gap ++ rest) :=
      blanks_append (by simp [Blank]) (head?_lower hword hne hchars)
    rw [blanks, List.nil_append] at hfront
    rw [hfront, htail]
  rw [firstWord, htrim, lower, List.map_append, ← lower, hword,
    List.takeWhile_append_of_pos hwhole]
  cases tail with
  | nil => simp
  | cons c tail =>
    obtain ⟨d, gap, rfl⟩ := List.exists_cons_of_ne_nil hgapne
    obtain rfl : c = d := (List.cons_prefix_cons.mp hprefix).1
    have hc := hgap c List.mem_cons_self
    rw [List.map_cons, toLower_of_isWhitespace hc, List.takeWhile_cons_of_neg (by simp [hc]),
      List.append_nil]

namespace SetName

/-- The two words of the line, as the patterns read them. -/
theorem behind_set (h : SetName line head value) : ∃ set name gap',
    (∃ rest, blanks line = set ++ rest) ∧ lower set = "set".toList ∧
      word "set" (blanks line) = some (name ++ (gap' ++ value)) ∧ lower name = "name".toList ∧
        Blank gap' ∧ gap' ≠ [] := by
  obtain ⟨indent, set, gap, name, gap', hhead, hindent, hset, hgap, hgapne, hname, hgap',
    hgapne'⟩ :=
    h.words
  have hline : line = indent ++ (set ++ (gap ++ (name ++ (gap' ++ value)))) := by
    rw [h.split, hhead]
    simp only [List.append_assoc]
  have hblanks : blanks line = set ++ (gap ++ (name ++ (gap' ++ value))) := by
    rw [hline, blanks_append hindent (head?_lower hset (by decide) (by decide))]
  refine ⟨set, name, gap', ⟨_, hblanks⟩, hset, ?_, hname, hgap', hgapne'⟩
  rw [hblanks]
  exact word_lower hset (by decide) hgap hgapne (head?_lower hname (by decide) (by decide))

/-- The value of a name is found. -/
theorem fortiosSetName_eq (h : SetName line head value) :
    fortiosSetName line = some { value, after := [] } := by
  obtain ⟨-, name, gap', -, -, hbehind, hname, hgap', hne⟩ := h.behind_set
  rw [fortiosSetName, setValue, hbehind, Option.bind_some,
    word_lower hname (by decide) hgap' hne h.value_head, Option.bind_some, if_neg h.one_line]

/-- It is not taken for a password. -/
theorem fortiosPassword_eq (h : SetName line head value) : fortiosPassword line = none := by
  obtain ⟨-, name, gap', -, -, hbehind, hname, -⟩ := h.behind_set
  rw [fortiosPassword, setValue, hbehind, Option.bind_some,
    word_eq_none hname (by decide) (by decide) (by decide),
    word_eq_none hname (by decide) (by decide) (by decide)]
  rfl

/-- Nor for a command of another vendor. -/
theorem snmpServer_eq (h : SetName line head value) : snmpServer line = none := by
  obtain ⟨set, -, -, ⟨rest, hblanks⟩, hset, -⟩ := h.behind_set
  rw [snmpServer, optional, hblanks, word_eq_none hset (by decide) (by decide) (by decide),
    Option.toList_none, List.nil_append, List.findSome?_cons,
    word_eq_none hset (by decide) (by decide) (by decide)]
  rfl

/-- No other pattern masks anything of the line. -/
theorem pattern_eq (h : SetName line head value) : pattern isWord line = none := by
  have hcommunity : community line = none := by rw [community, h.snmpServer_eq]; rfl
  have hhost : hostCommunityKeyword isWord line = none := by
    rw [hostCommunityKeyword, h.snmpServer_eq]
    rfl
  have hcisco : ciscoHost line = none := by rw [ciscoHost, h.snmpServer_eq]; rfl
  rw [pattern, h.fortiosPassword_eq, hcommunity, hhost, hcisco, ite_self]
  rfl

/-- A name is found exactly where names are looked for. -/
theorem find_eq (h : SetName line head value) (named : Bool) :
    find isWord named line = if named then some { value, after := [] } else none := by
  rw [find, h.fortiosSetName_eq, h.pattern_eq, Option.or_none]

theorem firstWord_eq (h : SetName line head value) : firstWord line = "set".toList := by
  obtain ⟨indent, set, gap, name, gap', hhead, hindent, hset, hgap, hgapne, -⟩ := h.words
  have hline : line = indent ++ (set ++ (gap ++ (name ++ gap' ++ value))) := by
    rw [h.split, hhead]
    simp only [List.append_assoc]
  rw [hline]
  exact firstWord_append hindent hset (by decide) (by decide) hgap hgapne

/-- The line is masked exactly at depth one. -/
theorem redact_eq (h : SetName line head value) (depth : ℕ) : redact isWord depth line =
    (depth, if depth = 1 then head ++ mask else line) := by
  have hword := h.firstWord_eq
  rw [redact_other (by rw [hword]; decide) (by rw [hword]; decide), h.find_eq]
  by_cases hone : depth = 1
  · have hmasked : Found.replaceIn { value, after := [] } line = head ++ mask := by
      rw [Found.replaceIn, List.append_nil, h.split, List.length_append, Nat.add_sub_cancel,
        List.take_left]
    rw [if_pos (by simp [hone]), if_pos hone, Option.map_some, hmasked]
    rfl
  · rw [if_neg (by simpa using hone), if_neg hone]
    rfl

end SetName

/-! ## Whole sequences -/

/-- What is shown for a line: a name is masked exactly where it stands in the table. -/
def Follows (entry : List Frame × List Char) (shown : List Char) : Prop :=
  ∀ head value, SetName entry.2 head value →
    (InCommunityTable entry.1 → shown = head ++ mask) ∧
      (¬InCommunityTable entry.1 → shown = entry.2)

/-- The same for the entries of the table alone. -/
def FollowsEntries (entry : List Frame × List Char) (shown : List Char) : Prop :=
  ∀ head value, SetName entry.2 head value →
    (InCommunityEntry entry.1 → shown = head ++ mask) ∧
      (¬InCommunityEntry entry.1 → shown = entry.2)

/-- A line that sets nothing is no name. -/
theorem follows_of_firstWord {entry : List Frame × List Char} {shown : List Char}
    (h : firstWord entry.2 ≠ "set".toList) : Follows entry shown :=
  fun _ _ hname => absurd hname.firstWord_eq h

/-- A `set` line is masked as its place says. -/
theorem follows_set (hproper : Proper frames) :
    Follows (frames, line) (redact isWord (depthOf frames) line).2 := by
  intro head value hname
  rw [hname.redact_eq]
  by_cases hone : depthOf frames = 1
  · have hin := (depthOf_eq_one_iff hproper).mp hone
    exact ⟨fun _ => if_pos hone, fun hout => absurd hin hout⟩
  · have hout := mt (depthOf_eq_one_iff hproper).mpr hone
    exact ⟨fun hin => absurd hin hout, fun _ => if_neg hone⟩

/-- What is shown for a line, for the lines inside, and for what follows on them. -/
theorem follows_body {entry : List Frame × List Char} {body rest : List (List Frame × List Char)}
    (inner : List Frame) (hentry : firstWord entry.2 ≠ "set".toList)
    (hdepth : (redact isWord depth entry.2).1 = depthOf inner) (hnested : WellNested inner body)
    (hbody : List.Forall₂ Follows body
      (redactFrom isWord (depthOf inner) (body.map Prod.snd)))
    (hrest : List.Forall₂ Follows rest
      (redactFrom isWord (depthOf inner) (rest.map Prod.snd))) :
    List.Forall₂ Follows (entry :: (body ++ rest))
      (redactFrom isWord depth ((entry :: (body ++ rest)).map Prod.snd)) := by
  rw [List.map_cons, List.map_append, redactFrom, hdepth, redactFrom_append,
    depthAfter_wellNested hnested]
  exact .cons (follows_of_firstWord hentry) (List.rel_append hbody hrest)

/-- So is every line of a well-nested text. -/
theorem follows_wellNested {lines : List (List Frame × List Char)} (h : WellNested frames lines)
    (hproper : Proper frames) :
    List.Forall₂ Follows lines (redactFrom isWord (depthOf frames) (lines.map Prod.snd)) := by
  induction h with
  | nil => exact .nil
  | @set frames line rest hline _ ih =>
    have hword : (redact isWord (depthOf frames) line).1 = depthOf frames := by
      rw [redact_other (by rw [hline]; decide) (by rw [hline]; decide)]
    rw [List.map_cons, redactFrom, hword]
    exact .cons (follows_set hproper) (ih hproper)
  | @entry frames path edit body next rest hedit hbody hnext _ ihbody ihrest =>
    have hword : firstWord next = "next".toList := firstWord_of_eq hnext (by rfl)
    -- the lines of an entry are followed at the depth of its table
    refine follows_body (.entry :: .table path :: frames) (by rw [hedit]; decide) ?_ hbody
      (ihbody hproper) ?_
    · rw [redact_other (by rw [hedit]; decide) (by rw [hedit]; decide)]
      rfl
    · rw [List.map_cons, redactFrom,
        redact_other (by rw [hword]; decide) (by rw [hword]; decide)]
      exact .cons (follows_of_firstWord (by rw [hword]; decide)) (ihrest hproper)
  | @lastEntry frames path edit body hedit hbody ihbody =>
    rw [← List.append_nil body]
    refine follows_body (.entry :: .table path :: frames) (by rw [hedit]; decide) ?_ hbody
      (ihbody hproper) .nil
    rw [redact_other (by rw [hedit]; decide) (by rw [hedit]; decide)]
    rfl
  | @block frames path config body close rest hconfig hbody hclose _ ihbody ihrest =>
    have hword : firstWord config = "config".toList := firstWord_of_config ⟨path, hconfig.symm⟩
    have hend := firstWord_of_end hclose
    refine follows_body (.table path :: frames) (by rw [hword]; decide)
      (depth_config hconfig) hbody (ihbody hproper) ?_
    rw [List.map_cons, redactFrom, depth_end hclose]
    exact .cons (follows_of_firstWord (by rw [hend]; decide)) (ihrest hproper)

end

/-- Over well-nested lines, with looks at any text in between, a name is masked exactly in the
community table itself and in the entries of it. Looking does not move the counter, and the counter
never underflows. -/
theorem redactor_follows_nesting (isWord : Char → Bool) {lines : List (List Frame × List Char)}
    {calls : List Call} (hnested : WellNested [] lines)
    (hcalls : commands calls = lines.map Prod.snd) :
    List.Forall₂ Follows lines (CommandRedactor.redacted isWord {} calls) ∧
      (CommandRedactor.after isWord {} calls).snmpCommunityDepth = 0 ∧
      (∀ seen : List Call, (CommandRedactor.after isWord {} seen).snmpCommunityDepth =
        depthAfter isWord 0 (commands seen)) ∧
      ∀ depth command, checkedRedact isWord depth command =
        some (redact isWord depth command) := by
  refine ⟨?_, ?_, depth_after {}, checkedRedact_eq⟩
  · rw [redacted_eq, hcalls]
    exact follows_wellNested hnested trivial
  · rw [depth_after, hcalls]
    exact depthAfter_wellNested hnested

/-- The community table with a name of its own, a host in its entry, and a VLAN behind it. -/
def communityAndVlan : List (List Frame × List Char) :=
  let table : List Frame := [.table communityTable]
  let hosts : List Frame := .table "hosts".toList :: .entry :: table
  let vlans : List Frame := [.table "switch vlan".toList]
  [([], "Config System SNMP Community".toList),
    (table, "  set name default".toList),
    (table, "  edit 1".toList),
    (.entry :: table, "    SET Name \"lab\"".toList),
    (.entry :: table, "    config hosts".toList),
    (hosts, "      edit 1".toList),
    (.entry :: hosts, "        set name collector".toList),
    (hosts, "      next".toList),
    (.entry :: table, "    end".toList),
    (table, "  next".toList),
    ([], "END".toList),
    ([], "config switch vlan".toList),
    (vlans, "  edit 20".toList),
    (.entry :: vlans, "    set name lab".toList),
    ([], "end".toList)]

theorem wellNested_communityAndVlan : WellNested [] communityAndVlan := by
  change WellNested [] (_ :: ([_, _, _, _, _, _, _, _, _] ++ _ :: [_, _, _, _]))
  refine .block rfl (.set rfl ?_) rfl ?_
  · change WellNested _ (_ :: ([_, _, _, _, _, _] ++ _ :: []))
    refine .entry rfl (.set rfl ?_) rfl .nil
    change WellNested _ (_ :: ([_, _, _] ++ _ :: []))
    refine .block rfl ?_ rfl .nil
    change WellNested _ (_ :: ([_] ++ _ :: []))
    exact .entry rfl (.set rfl .nil) rfl .nil
  · change WellNested [] (_ :: ([_, _] ++ _ :: []))
    exact .block rfl (.lastEntry rfl (.set rfl .nil)) rfl .nil

/-- With a look at the echo of each line. -/
theorem communityAndVlan_follows :
    List.Forall₂ Follows communityAndVlan (CommandRedactor.redacted Char.isAlphanum {}
      (communityAndVlan.flatMap fun entry => [.redact entry.2, .peekText entry.2])) :=
  (redactor_follows_nesting Char.isAlphanum wellNested_communityAndVlan rfl).1

/-- A name that stands in the table in no entry of it. -/
def nameInTable : List (List Frame × List Char) :=
  [([], "config system snmp community".toList),
    ([.table communityTable], "set name lab".toList),
    ([], "end".toList)]

/-- It is masked all the same. -/
theorem name_in_table_masked : ¬∀ (isWord : Char → Bool) (lines : List (List Frame × List Char))
    (calls : List Call), WellNested [] lines → commands calls = lines.map Prod.snd →
      List.Forall₂ FollowsEntries lines (CommandRedactor.redacted isWord {} calls) := by
  intro h
  have hnested : WellNested [] nameInTable := by
    change WellNested [] (_ :: ([_] ++ _ :: []))
    exact .block rfl (.set rfl .nil) rfl .nil
  have hfollows := h Char.isAlphanum nameInTable (nameInTable.map fun entry => .redact entry.2)
    hnested rfl
  have hname : SetName "set name lab".toList "set name ".toList "lab".toList := by
    refine ⟨rfl, ⟨[], "set".toList, [' '], "name".toList, [' '], rfl, ?_, ?_, ?_, ?_, ?_, ?_, ?_⟩,
      ?_, ?_⟩
    case refine_3 | refine_6 => exact List.forall_mem_singleton.mpr (by decide)
    case refine_8 =>
      rintro c ⟨⟩
      rfl
    · exact List.forall_mem_nil _
    all_goals decide
  have hshown : CommandRedactor.redacted Char.isAlphanum {}
      (nameInTable.map fun entry => .redact entry.2) =
        ["config system snmp community".toList, "set name ".toList ++ mask, "end".toList] := by
    decide
  rw [hshown, nameInTable, List.forall₂_cons, List.forall₂_cons] at hfollows
  obtain ⟨-, hsecond, -⟩ := hfollows
  have hout : ¬InCommunityEntry [.table communityTable] := by
    rintro ⟨outer, heq, -⟩
    cases heq
  have hkept : "set name ".toList ++ mask = "set name lab".toList := (hsecond _ _ hname).2 hout
  revert hkept
  decide

end SwitchConfigurator.Redact
