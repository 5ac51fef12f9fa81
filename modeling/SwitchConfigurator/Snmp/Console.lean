import SwitchConfigurator.Snmp.Reference

/-!
# What is read of the console

Each interface gives one entry, and each MAC one; the lines around them give none.
-/

namespace SwitchConfigurator.Snmp

open Fortiswitch

variable {s : ReferenceSwitch} {word rest line : List Char} {tokens lines : List (List Char)}

/-! ## Names -/

theorem isWhitespace_of_isNameChar {c : Char} (h : isNameChar c = true) :
    isWhitespace c = false := by
  rcases Bool.or_eq_true_iff.mp h with halnum | hother
  · exact isWhitespace_of_isAlphanum halnum
  · have hmem : c ∈ "-_./".toList := of_decide_eq_true hother
    clear h hother
    revert c
    decide

namespace Name

variable (n : Name)

theorem isWord : IsWord n.chars :=
  ⟨n.nonempty, fun c hc => isWhitespace_of_isNameChar (n.valid c hc)⟩

theorem not_mem {c : Char} (h : isNameChar c = false) : c ∉ n.chars := by
  intro hc
  rw [n.valid c hc] at h
  cases h

/-- A name is no label, since it has no colon. -/
theorem ne_of_mem {label : List Char} {c : Char} (hmem : c ∈ label) (h : isNameChar c = false) :
    (n.chars == label) = false := by
  rw [beq_eq_false_iff_ne]
  rintro heq
  exact n.not_mem h (heq ▸ hmem)

end Name

/-! ## Words -/

/-- A word with a blank after it. -/
def Gapped (word : List Char × String) : Prop :=
  IsWord word.1 ∧ word.2 ∈ [" ", "   ", "    ", "\t"]

theorem gapped {gap : String} (h : IsWord word) (hgap : gap ∈ [" ", "   ", "    ", "\t"]) :
    Gapped (word, gap) := ⟨h, hgap⟩

/-- The gap behind a word is blanks on one line. -/
theorem Gapped.blank {w : List Char × String} (h : Gapped w) :
    (∀ c ∈ w.2.toList, isWhitespace c = true) ∧ w.2.toList ≠ [] ∧ '\n' ∉ w.2.toList := by
  have hgaps : ∀ gap ∈ [" ", "   ", "    ", "\t"],
      (∀ c ∈ gap.toList, isWhitespace c = true) ∧ gap.toList ≠ [] ∧ '\n' ∉ gap.toList := by decide
  exact hgaps w.2 h.2

/-- Words are read as they were printed. -/
theorem splitWhitespace_spaced {words : List (List Char × String)} (h : ∀ w ∈ words, Gapped w)
    (last : List Char) : splitWhitespace (ReferenceSwitch.spaced words ++ last) =
      words.map Prod.fst ++ splitWhitespace last := by
  induction words with
  | nil => rfl
  | cons first words ih =>
    obtain ⟨hfirst, hwords⟩ := List.forall_mem_cons.mp h
    obtain ⟨hblank, hne, -⟩ := hfirst.blank
    rw [ReferenceSwitch.spaced, List.flatMap_cons, List.append_assoc, List.append_assoc,
      splitWhitespace_append hfirst.1 hne hblank, List.map_cons, List.cons_append]
    exact congrArg (first.1 :: ·) (ih hwords)

theorem not_newline_word (h : IsWord word) : '\n' ∉ word := fun hmem =>
  absurd (h.2 '\n' hmem) (by decide)

theorem not_newline_spaced {words : List (List Char × String)} (h : ∀ w ∈ words, Gapped w) :
    '\n' ∉ ReferenceSwitch.spaced words := by
  intro hmem
  obtain ⟨w, hw, hmem⟩ := List.mem_flatMap.mp hmem
  rcases List.mem_append.mp hmem with hmem | hmem
  · exact not_newline_word (h w hw).1 hmem
  · exact (h w hw).blank.2.2 hmem

/-! ## Tokens -/

/-- The token behind a label is its value. -/
theorem tokenAfter_self {label : List Char → Bool} {value : List Char} (h : label word = true) :
    tokenAfter label (word :: value :: tokens) = some value := by
  rw [tokenAfter, List.findIdx?_cons, if_pos h]
  rfl

theorem tokenAfter_cons {label : List Char → Bool} (h : label word = false) :
    tokenAfter label (word :: tokens) = tokenAfter label tokens := by
  rw [tokenAfter, List.findIdx?_cons, if_neg (by simp [h]), tokenAfter]
  cases tokens.findIdx? label with
  | none => rfl
  | some pos => rfl

theorem tokenAfter_none {label : List Char → Bool} (h : ∀ token ∈ tokens, label token = false) :
    tokenAfter label tokens = none := by
  rw [tokenAfter, List.findIdx?_eq_none_iff.mpr h]
  rfl

/-- Words in front of a label make no difference. -/
theorem tokenAfter_append {label : List Char → Bool} {front : List (List Char)}
    (h : ∀ token ∈ front, label token = false) :
    tokenAfter label (front ++ tokens) = tokenAfter label tokens := by
  induction front with
  | nil => rfl
  | cons word front ih =>
    obtain ⟨hword, hfront⟩ := List.forall_mem_cons.mp h
    rw [List.cons_append, tokenAfter_cons hword, ih hfront]

/-- Where the pattern does not stand, nothing is stripped. -/
theorem stripRepeated_of_not_prefix {pattern text : List Char} (h : ¬pattern <+: text) (n : ℕ) :
    stripRepeated pattern n text = text := by
  cases n with
  | zero => rfl
  | succ n =>
    rw [stripRepeated]
    cases hprefix : pattern.isPrefixOf? text with
    | none => rfl
    | some rest =>
      exact absurd ⟨rest, List.isPrefixOf?_eq_some_iff_append_eq.mp hprefix⟩ h

/-- A pattern that stands there once is taken away. -/
theorem stripRepeated_once {pattern text : List Char} (hne : pattern ≠ [])
    (h : ¬pattern <+: text) :
    stripRepeated pattern (pattern ++ text).length (pattern ++ text) = text := by
  have hpos : 0 < (pattern ++ text).length := by
    rw [List.length_append]
    have := List.length_pos_iff.mpr hne
    omega
  obtain ⟨n, hn⟩ := Nat.exists_eq_succ_of_ne_zero hpos.ne'
  rw [hn, stripRepeated, List.isPrefixOf?_eq_some_iff_append_eq.mpr rfl]
  exact stripRepeated_of_not_prefix h n

theorem trimEndMatches_append {pattern : String} {text : List Char} (hne : pattern.toList ≠ [])
    (h : ¬pattern.toList <:+ text) : trimEndMatches pattern (text ++ pattern.toList) = text := by
  rw [trimEndMatches, List.reverse_append, ← List.length_reverse, List.reverse_append,
    stripRepeated_once (by simpa using hne), List.reverse_reverse]
  rwa [List.reverse_prefix]

/-! ## Port status -/

/-- What the console shows of an interface. -/
def Interface.consoleEntry (i : Interface) : PortStatusEntry :=
  match i.link with
  | .down _ => { portId := String.ofList i.name.chars, linkStatus := some "down" }
  | .up speed _ duplex =>
    { portId := String.ofList i.name.chars
      linkStatus := some "up"
      speed := some (toString speed)
      duplex := some (String.ofList duplex.text) }

/-- A word of a port's line that is neither a label that is read nor the speed. -/
structure Ignored (token : List Char) : Prop where
  noSpeed : '(' ∉ token
  noLink : token ≠ "link-status:".toList
  noPower : token ≠ "poe-status:".toList

/-- A name says nothing of a link. -/
theorem Name.ignored (n : Name) : Ignored n.chars :=
  ⟨n.not_mem (by decide), beq_eq_false_iff_ne.mp (n.ne_of_mem (c := ':') (by decide) (by decide)),
    beq_eq_false_iff_ne.mp (n.ne_of_mem (c := ':') (by decide) (by decide))⟩

/-- Nor is it taken for a speed. -/
theorem Ignored.not_isSpeedToken (h : Ignored word) : isSpeedToken word = false := by
  rw [isSpeedToken, Bool.and_eq_false_iff, beq_eq_false_iff_ne]
  left
  intro hhead
  exact h.noSpeed (List.mem_of_mem_head? hhead)

/-- `(100Mbps`. -/
def speedWord (speed : ℕ) : List Char := '(' :: ((toString speed).toList ++ "Mbps".toList)

/-- The word for a speed is taken for one. -/
theorem isSpeedToken_speedWord (speed : ℕ) : isSpeedToken (speedWord speed) = true := by
  have hends : "Mbps".toList <:+ speedWord speed :=
    ⟨'(' :: (toString speed).toList, rfl⟩
  rw [isSpeedToken, endsWith, List.isSuffixOf_iff_suffix.mpr hends]
  rfl

theorem not_mem_toString {c : Char} (h : c.isDigit = false) (n : ℕ) : c ∉ (toString n).toList := by
  intro hmem
  rw [Cli.isDigit_of_mem_toString hmem] at h
  cases h

theorem trimStartMatches_cons {c : Char} {pattern : String} (hpattern : pattern.toList = [c])
    (h : rest.head? ≠ some c) : trimStartMatches pattern (c :: rest) = rest := by
  have hprefix : ¬[c] <+: rest := by
    rintro ⟨after, rfl⟩
    exact h rfl
  rw [trimStartMatches, hpattern]
  exact stripRepeated_once (List.cons_ne_nil c []) hprefix

/-- The speed is read from its word. -/
theorem read_speedWord (speed : ℕ) :
    trimEndMatches "Mbps" (trimStartMatches "(" (speedWord speed)) = (toString speed).toList := by
  have hparen : '(' ∉ (toString speed).toList ++ "Mbps".toList := by
    rw [List.mem_append, not_or]
    exact ⟨not_mem_toString (by decide) speed, by decide⟩
  have hunit : ¬"Mbps".toList <:+ (toString speed).toList := by
    intro hsuffix
    exact not_mem_toString (c := 'M') (by decide) speed (hsuffix.subset (by decide))
  rw [speedWord, trimStartMatches_cons (c := '(') rfl fun hhead =>
    hparen (List.mem_of_mem_head? hhead), trimEndMatches_append (by decide) hunit]

theorem isWord_speedWord (speed : ℕ) : IsWord (speedWord speed) := by
  refine ⟨List.cons_ne_nil _ _, ?_⟩
  rw [speedWord, List.forall_mem_cons, List.forall_mem_append]
  exact ⟨by decide, (isWord_toString speed).2, by decide⟩

/-- So is the duplex. -/
theorem read_duplexWord (duplex : Duplex) :
    trimEndMatches "-duplex" (trimEndMatches ")" (duplex.text ++ "-duplex)".toList)) =
      duplex.text := by
  cases duplex <;> decide

/-- What is printed before the link of a port, after its name. -/
def frontWords (i : Interface) : List (List Char × String) :=
  i.detail.toList.flatMap fun d => [("egress-drop-mode:".toList, " "), (d.1.chars, "    ")]

def backWords (i : Interface) : List (List Char × String) :=
  i.detail.toList.flatMap fun d => [("status:".toList, " "), (d.2.chars, "    ")]

/-- The words in front of the link say nothing of it. -/
theorem frontWords_ignored (i : Interface) :
    ∀ token ∈ (frontWords i).map Prod.fst, Ignored token := by
  have hlabel : Ignored "egress-drop-mode:".toList := ⟨by decide, by decide, by decide⟩
  rcases hdetail : i.detail with _ | detail
  · simp [frontWords, hdetail]
  · simpa [frontWords, hdetail] using ⟨hlabel, detail.1.ignored⟩

/-- Nor do those behind it. -/
theorem backWords_ignored (i : Interface) : ∀ token ∈ (backWords i).map Prod.fst, Ignored token :=
    by
  have hlabel : Ignored "status:".toList := ⟨by decide, by decide, by decide⟩
  rcases hdetail : i.detail with _ | detail
  · simp [backWords, hdetail]
  · simpa [backWords, hdetail] using ⟨hlabel, detail.2.ignored⟩

def linkTokens : Link → List (List Char)
  | .down _ => ["link-status:".toList, "down".toList]
  | .up speed _ duplex =>
    ["link-status:".toList, "up".toList, speedWord speed, duplex.text ++ "-duplex)".toList]

/-- The words of a port's line. -/
def portTokens (i : Interface) : List (List Char) :=
  "name:".toList :: i.name.chars :: (frontWords i).map Prod.fst ++
    (linkTokens i.link ++ (backWords i).map Prod.fst)

theorem isWord_duplexWord (duplex : Duplex) : IsWord (duplex.text ++ "-duplex)".toList) := by
  cases duplex <;> decide

theorem gapped_linkWords (link : Link) : ∀ word ∈ ReferenceSwitch.linkWords link, Gapped word := by
  have hlabel : Gapped ("link-status:".toList, " ") := gapped (by decide) (by decide)
  cases link with
  | down idle =>
    rw [ReferenceSwitch.linkWords, List.forall_mem_cons, List.forall_mem_singleton]
    exact ⟨hlabel, gapped (by decide) (by decide)⟩
  | up speed running duplex =>
    rw [ReferenceSwitch.linkWords, List.forall_mem_cons, List.forall_mem_cons,
      List.forall_mem_cons, List.forall_mem_singleton]
    exact ⟨hlabel, gapped (by decide) (by decide), gapped (isWord_speedWord speed) (by decide),
      gapped (isWord_duplexWord duplex) (by decide)⟩

theorem gapped_frontWords (i : Interface) : ∀ word ∈ frontWords i, Gapped word := by
  rw [frontWords, List.forall_mem_flatMap]
  intro detail _
  rw [List.forall_mem_cons, List.forall_mem_singleton]
  exact ⟨gapped (by decide) (by decide), gapped detail.1.isWord (by decide)⟩

theorem gapped_backWords (i : Interface) : ∀ word ∈ backWords i, Gapped word := by
  rw [backWords, List.forall_mem_flatMap]
  intro detail _
  rw [List.forall_mem_cons, List.forall_mem_singleton]
  exact ⟨gapped (by decide) (by decide), gapped detail.2.isWord (by decide)⟩

/-- The line of a port is its name, its link and the words around it. -/
theorem portWords_eq (i : Interface) : ReferenceSwitch.portWords i =
    ("name:".toList, " ") :: (i.name.chars, "    ") ::
      (frontWords i ++ (ReferenceSwitch.linkWords i.link ++ backWords i)) := by
  rw [ReferenceSwitch.portWords, List.append_assoc, List.append_assoc]
  rfl

theorem gapped_portWords (i : Interface) : ∀ w ∈ ReferenceSwitch.portWords i, Gapped w := by
  rw [portWords_eq, List.forall_mem_cons, List.forall_mem_cons, List.forall_mem_append,
    List.forall_mem_append]
  exact ⟨gapped (by decide) (by decide), gapped i.name.isWord (by decide), gapped_frontWords i,
    gapped_linkWords i.link, gapped_backWords i⟩

/-- It is split into its words. -/
theorem splitWhitespace_portWords (i : Interface) :
    splitWhitespace (ReferenceSwitch.spaced (ReferenceSwitch.portWords i)) = portTokens i := by
  have hlink : (ReferenceSwitch.linkWords i.link).map Prod.fst = linkTokens i.link := by
    cases i.link with
    | down idle => rfl
    | up speed running duplex => rfl
  have hwords := splitWhitespace_spaced (gapped_portWords i) []
  rw [List.append_nil, portWords_eq, List.map_cons, List.map_cons, List.map_append,
    List.map_append, hlink] at hwords
  rw [portWords_eq, hwords]
  exact List.append_nil _

/-- What is before the link of a port is ignored, but for its name. -/
theorem front_ignored (i : Interface) :
    ∀ token ∈ "name:".toList :: i.name.chars :: (frontWords i).map Prod.fst, Ignored token := by
  rw [List.forall_mem_cons, List.forall_mem_cons]
  exact ⟨⟨by decide, by decide, by decide⟩, i.name.ignored, frontWords_ignored i⟩

/-- No word of the link is the label of the power. -/
theorem linkTokens_ne_power (link : Link) :
    ∀ token ∈ linkTokens link, (token == "poe-status:".toList) = false := by
  cases link with
  | down idle =>
    rw [linkTokens, List.forall_mem_cons, List.forall_mem_singleton]
    exact ⟨by decide, by decide⟩
  | up speed running duplex =>
    have hspeed : (speedWord speed == "poe-status:".toList) = false :=
      beq_false_of_ne fun heq => absurd (congrArg List.head? heq) (by simp [speedWord])
    rw [linkTokens, List.forall_mem_cons, List.forall_mem_cons, List.forall_mem_cons,
      List.forall_mem_singleton]
    exact ⟨by decide, by decide, hspeed, by cases duplex <;> decide⟩

/-- The power status is not printed. -/
theorem tokenAfter_power (i : Interface) :
    tokenAfter (· == "poe-status:".toList) (portTokens i) = none := by
  refine tokenAfter_none ?_
  rw [portTokens, List.forall_mem_append, List.forall_mem_append]
  exact ⟨fun token h => beq_false_of_ne (front_ignored i token h).noPower,
    linkTokens_ne_power i.link,
    fun token h => beq_false_of_ne (backWords_ignored i token h).noPower⟩

/-- The speed is printed with the link, if at all. -/
theorem find?_speed (i : Interface) :
    (portTokens i).find? isSpeedToken = (linkTokens i.link).find? isSpeedToken := by
  have hnone {front : List (List Char)} (h : ∀ token ∈ front, Ignored token) :
      front.find? isSpeedToken = none :=
    List.find?_eq_none.mpr fun token htoken => by simp [(h token htoken).not_isSpeedToken]
  rw [portTokens, List.find?_append, List.find?_append, hnone (front_ignored i),
    hnone (backWords_ignored i), Option.none_or, Option.or_none]

/-- Every port shows the status of its link. -/
theorem mem_portTokens (i : Interface) : "link-status:".toList ∈ portTokens i := by
  refine List.mem_append_right _ (List.mem_append_left _ ?_)
  cases i.link with
  | down idle => exact List.mem_cons_self
  | up speed running duplex => exact List.mem_cons_self

/-- The line of a port gives what is shown of it. -/
theorem parsePortStatusLine_portWords (i : Interface) :
    parsePortStatusLine (ReferenceSwitch.spaced (ReferenceSwitch.portWords i)) =
      some i.consoleEntry := by
  have hname : tokenAfter (· == "name:".toList) (portTokens i) = some i.name.chars :=
    tokenAfter_self (by decide)
  -- the tokens before the link are skipped by both later searches
  have hlink (label : List Char → Bool) (hlabel : ∀ token, Ignored token → label token = false) :
      tokenAfter label (portTokens i) =
        tokenAfter label (linkTokens i.link ++ (backWords i).map Prod.fst) :=
    tokenAfter_append fun token htoken => hlabel token (front_ignored i token htoken)
  rw [parsePortStatusLine, splitWhitespace_portWords]
  dsimp only
  rw [hname, Option.bind_some, if_pos (mem_portTokens i), tokenAfter_power, find?_speed,
    hlink (· == "link-status:".toList) fun token h => beq_false_of_ne h.noLink]
  cases hcase : i.link with
  | down idle =>
    have hstatus : tokenAfter (· == "link-status:".toList)
        (linkTokens (.down idle) ++ (backWords i).map Prod.fst) = some "down".toList :=
      tokenAfter_self (by decide)
    have hnone : (linkTokens (.down idle)).find? isSpeedToken = none := by
      rw [linkTokens]
      decide
    rw [hstatus, hnone, Interface.consoleEntry, hcase]
    rfl
  | up speed running duplex =>
    have hstatus : tokenAfter (· == "link-status:".toList)
        (linkTokens (.up speed running duplex) ++ (backWords i).map Prod.fst) =
          some "up".toList := tokenAfter_self (by decide)
    have hfound : (linkTokens (.up speed running duplex)).find? isSpeedToken =
        some (speedWord speed) := by
      rw [linkTokens, List.find?_cons_of_neg (by decide), List.find?_cons_of_neg (by decide),
        List.find?_cons_of_pos (isSpeedToken_speedWord speed)]
    -- the speed word starts with a parenthesis, the tokens before it do not
    have hother {token : List Char} (h : token.head? ≠ some '(') :
        (token == speedWord speed) = false := by
      refine beq_false_of_ne ?_
      rintro rfl
      exact h rfl
    have hduplex : tokenAfter (· == speedWord speed) (portTokens i) =
        some (duplex.text ++ "-duplex)".toList) := by
      have hfront : ∀ token ∈ ["link-status:".toList, "up".toList],
          (token == speedWord speed) = false := by
        rw [List.forall_mem_cons, List.forall_mem_singleton]
        exact ⟨hother (by decide), hother (by decide)⟩
      rw [hlink (· == speedWord speed) fun token h =>
        hother fun hhead => h.noSpeed (List.mem_of_mem_head? hhead), hcase]
      exact (tokenAfter_append hfront).trans (tokenAfter_self (beq_self_eq_true _))
    rw [hstatus, hfound, Interface.consoleEntry, hcase, Option.bind_some, hduplex]
    simp only [Option.map_some, Option.map_none, read_speedWord, read_duplexWord,
      String.ofList_toList]

/-! ## The console -/

theorem spaced_concat (words : List (List Char × String)) (last : List Char) :
    ReferenceSwitch.spaced (words ++ [(last, "")]) = ReferenceSwitch.spaced words ++ last := by
  rw [ReferenceSwitch.spaced, List.flatMap_append, List.flatMap_singleton]
  exact congrArg (_ ++ ·) (List.append_nil last)

def prompt (s : ReferenceSwitch) : List Char :=
  ReferenceSwitch.spaced [(s.hostname.chars, " "), ("#".toList, " ")]

theorem gapped_prompt (s : ReferenceSwitch) :
    ∀ w ∈ [(s.hostname.chars, " "), ("#".toList, " ")], Gapped w := by
  rw [List.forall_mem_cons, List.forall_mem_singleton]
  exact ⟨gapped s.hostname.isWord (by decide), gapped (by decide) (by decide)⟩

/-- The prompt is split into the host's name and the sign. -/
theorem splitWhitespace_prompt (s : ReferenceSwitch) :
    splitWhitespace (prompt s) = [s.hostname.chars, "#".toList] := by
  have hwords := splitWhitespace_spaced (gapped_prompt s) []
  rwa [List.append_nil] at hwords

/-- The text of a command is its echo, its lines and the prompt. -/
theorem strLines_consoleText {command : String} (hcommand : '\n' ∉ command.toList)
    (h : ∀ line ∈ lines, '\n' ∉ line) : strLines (s.consoleText command lines) =
      (command.toList ++ ['\r']) :: (lines ++ [[]]) ++ [prompt s] := by
  refine strLines_crlf ?_ (not_newline_spaced (gapped_prompt s)) ?_
  · rw [List.forall_mem_cons, List.forall_mem_append, List.forall_mem_singleton]
    exact ⟨by simpa using hcommand, h, List.not_mem_nil⟩
  · intro hnil
    have hwords := splitWhitespace_prompt s
    rw [prompt, hnil] at hwords
    cases hwords

/-- The echo, the empty line and the prompt are no entries. -/
theorem filterMap_consoleText {α : Type} {parse : List Char → Option α} {command : String}
    (hcommand : '\n' ∉ command.toList) (h : ∀ line ∈ lines, '\n' ∉ line)
    (hecho : parse (command.toList ++ ['\r']) = none) (hempty : parse [] = none)
    (hprompt : parse (prompt s) = none) :
    (strLines (s.consoleText command lines)).filterMap parse = lines.filterMap parse := by
  rw [strLines_consoleText hcommand h, List.filterMap_append, List.filterMap_cons_none hecho,
    List.filterMap_append, List.filterMap_cons_none hempty, List.filterMap_cons_none hprompt]
  simp

/-! ## All ports -/

/-- A line without a name is no port's. -/
theorem parsePortStatusLine_none (h : "name:".toList ∉ splitWhitespace line) :
    parsePortStatusLine line = none := by
  have hname : tokenAfter (· == "name:".toList) (splitWhitespace line) = none :=
    tokenAfter_none fun token htoken => beq_false_of_ne fun heq => h (heq ▸ htoken)
  rw [parsePortStatusLine]
  dsimp only
  rw [hname, Option.bind_none]

/-- No name is a label. -/
theorem Name.ne_label (n : Name) (label : String) (h : ':' ∈ label.toList) :
    label.toList ≠ n.chars :=
  (beq_eq_false_iff_ne.mp (n.ne_of_mem h (by decide))).symm

def headerWords (i : Interface) : List (List Char × String) :=
  [("==".toList, " "), ("[".toList, " "), (i.name.chars, " ")]

theorem gapped_headerWords (i : Interface) : ∀ w ∈ headerWords i, Gapped w := by
  rw [headerWords, List.forall_mem_cons, List.forall_mem_cons, List.forall_mem_singleton]
  exact ⟨gapped (by decide) (by decide), gapped (by decide) (by decide),
    gapped i.name.isWord (by decide)⟩

/-- A port is shown in a header and a line. -/
theorem portLines_eq (i : Interface) : ReferenceSwitch.portLines i =
    [ReferenceSwitch.spaced (headerWords i) ++ "]".toList,
      ReferenceSwitch.spaced (ReferenceSwitch.portWords i)] := by
  rw [← spaced_concat]
  rfl

/-- The lines of a port: only the second one has its fields. -/
theorem filterMap_portLines (i : Interface) :
    (ReferenceSwitch.portLines i).filterMap parsePortStatusLine = [i.consoleEntry] := by
  have hheader : parsePortStatusLine (ReferenceSwitch.spaced (headerWords i) ++ "]".toList) =
      none := by
    refine parsePortStatusLine_none ?_
    have hlast : splitWhitespace "]".toList = ["]".toList] := by decide
    rw [splitWhitespace_spaced (gapped_headerWords i), hlast]
    have hname := i.name.ne_label "name:" (by decide)
    rw [headerWords, List.mem_append, List.map_cons, List.map_cons, List.map_singleton,
      List.mem_cons, List.mem_cons, List.mem_singleton, List.mem_singleton]
    rintro ((h | h | h) | h)
    · exact absurd h (by decide)
    · exact absurd h (by decide)
    · exact hname h
    · exact absurd h (by decide)
  rw [portLines_eq, List.filterMap_cons_none hheader,
    List.filterMap_cons_some (parsePortStatusLine_portWords i), List.filterMap_nil]

theorem not_newline_portLines (i : Interface) :
    ∀ line ∈ ReferenceSwitch.portLines i, '\n' ∉ line := by
  rw [portLines_eq, List.forall_mem_cons, List.forall_mem_singleton, List.mem_append, not_or]
  exact ⟨⟨not_newline_spaced (gapped_headerWords i), by decide⟩,
    not_newline_spaced (gapped_portWords i)⟩

/-- A line without a colon has no field. -/
theorem extractField_none {key : String} (h : ':' ∉ line) : extractField key line = none := by
  rw [extractField, Option.map_eq_none_iff, Option.bind_eq_none_iff]
  intro rest hrest
  cases hvalue : stripPrefix ":" (rest.dropWhile isWhitespace) with
  | none => rfl
  | some value =>
    have hcolon : ':' ∈ rest.dropWhile isWhitespace := by
      rw [← text_of_stripPrefix hvalue]
      exact List.mem_append_left _ (by decide)
    have htrim : ':' ∈ trim line := by
      rw [← text_of_stripPrefix hrest]
      exact List.mem_append_right _ ((List.dropWhile_sublist _).subset hcolon)
    exact absurd (mem_of_mem_trim htrim) h

/-- Without a colon there is nothing for the older format either. -/
theorem parsePortStatusBlockFormat_nil {text : List Char} (h : ∀ line ∈ strLines text, ':' ∉ line) :
    parsePortStatusBlockFormat text = [] := by
  have hrun : (strLines text).foldl blockLine ([], none) = ([], none) := by
    generalize strLines text = lines at h
    induction lines with
    | nil => rfl
    | cons line lines ih =>
      obtain ⟨hline, hlines⟩ := List.forall_mem_cons.mp h
      have hstep : blockLine ([], none) line = ([], none) := by
        rw [blockLine, extractField_none hline]
      rw [List.foldl_cons, hstep, ih hlines]
  rw [parsePortStatusBlockFormat, hrun]
  rfl

/-- The console shows each port once. -/
theorem parsePortStatus_physicalPortText (s : ReferenceSwitch) :
    parsePortStatus s.physicalPortText = s.interfaces.map Interface.consoleEntry := by
  have hlines : ∀ line ∈ s.interfaces.flatMap ReferenceSwitch.portLines, '\n' ∉ line :=
    List.forall_mem_flatMap.mpr fun i _ => not_newline_portLines i
  have hsingle : parsePortStatusSingleLine s.physicalPortText =
      s.interfaces.map Interface.consoleEntry := by
    have hprompt : parsePortStatusLine (prompt s) = none := by
      refine parsePortStatusLine_none ?_
      rw [splitWhitespace_prompt, List.mem_cons, List.mem_singleton, not_or]
      exact ⟨s.hostname.ne_label "name:" (by decide), by decide⟩
    rw [parsePortStatusSingleLine, ReferenceSwitch.physicalPortText,
      filterMap_consoleText (by decide) hlines (by decide) (by decide) hprompt,
      List.filterMap_flatMap, funext filterMap_portLines, List.map_eq_flatMap]
  rw [parsePortStatus, hsingle]
  split
  · next hempty =>
    rw [List.isEmpty_iff] at hempty
    rw [hempty]
    refine parsePortStatusBlockFormat_nil ?_
    have hnone : s.interfaces = [] := List.map_eq_nil_iff.mp hempty
    rw [ReferenceSwitch.physicalPortText, strLines_consoleText (by decide) hlines, hnone]
    have hprompt : ':' ∉ prompt s := by
      simp [prompt, ReferenceSwitch.spaced, s.hostname.not_mem (c := ':') (by decide)]
    simp [hprompt]
  · rfl

/-! ## The MAC table -/

/-- What the console shows of an entry. -/
def FdbEntry.consoleEntry (e : FdbEntry) : MacTableEntry where
  macAddress := String.ofList (macText e.mac)
  vlanId := parseUint 16 (toString e.vlan).toList
  portId := toString e.portId

/-- A byte is two hexadecimal digits. -/
theorem hexByte_valid (b : UInt8) : (hexByte b).length = 2 ∧ (hexByte b).all isHexDigit = true ∧
    ':' ∉ hexByte b ∧ ∀ c ∈ hexByte b, isWhitespace c = false ∧ c ∉ ['P', 'T', 'V'] := by
  have hdigit : ∀ n < 16, isHexDigit (Nat.digitChar n) = true ∧ Nat.digitChar n ≠ ':' ∧
      isWhitespace (Nat.digitChar n) = false ∧ Nat.digitChar n ∉ ['P', 'T', 'V'] := by decide
  have hlt := b.toNat_lt
  obtain ⟨hhigh, hhigh', hhigh''⟩ := hdigit (b.toNat / 16) (by omega)
  obtain ⟨hlow, hlow', hlow''⟩ := hdigit (b.toNat % 16) (by omega)
  refine ⟨rfl, ?_, ?_, ?_⟩
  · simp [hexByte, hhigh, hlow]
  · simp [hexByte, hhigh'.symm, hlow'.symm]
  · rw [hexByte, List.forall_mem_cons, List.forall_mem_singleton]
    exact ⟨hhigh'', hlow''⟩

/-- Six bytes look like an address. -/
theorem looksLikeMac_macText {mac : List UInt8} (h : mac.length = 6) :
    looksLikeMac (macText mac) = true := by
  have hsplit : (macText mac).splitOn ':' = mac.map hexByte := by
    refine List.splitOn_intercalate _ ?_ ?_
    · rw [List.forall_mem_map]
      exact fun b _ => (hexByte_valid b).2.2.1
    · intro hnil
      rw [List.map_eq_nil_iff.mp hnil] at h
      cases h
  rw [looksLikeMac, hsplit, List.length_map, h, List.all_map, Bool.and_eq_true, List.all_eq_true]
  refine ⟨rfl, fun b _ => ?_⟩
  obtain ⟨hlength, hall, -⟩ := hexByte_valid b
  simp [hlength, hall]

theorem macText_chars (mac : List UInt8) :
    ∀ c ∈ macText mac, isWhitespace c = false ∧ c ∉ ['P', 'T', 'V'] := by
  refine (Cli.forall_mem_intercalate (by decide)).mpr ?_
  rw [List.forall_mem_map]
  exact fun b _ => (hexByte_valid b).2.2.2

theorem isWord_macText {mac : List UInt8} (h : mac.length = 6) : IsWord (macText mac) := by
  refine ⟨fun hnil => ?_, fun c hc => (macText_chars mac c hc).1⟩
  have hlooks := looksLikeMac_macText h
  rw [hnil] at hlooks
  cases hlooks

/-- The words of a line, but for the last one. -/
def macWords (e : FdbEntry) : List (List Char × String) :=
  [("MAC:".toList, " "), (macText e.mac, "\t"), ("VLAN:".toList, " "),
    ((toString e.vlan).toList, " "), ("Port:".toList, " "),
    (e.portName.chars ++ "(port-id".toList, " ")]

def portIdWord (e : FdbEntry) : List Char := (toString e.portId).toList ++ ")".toList

/-- An address is shown with its VLAN and its port. -/
theorem macLine_eq (e : FdbEntry) :
    ReferenceSwitch.macLine e = ReferenceSwitch.spaced (macWords e) ++ portIdWord e := by
  rw [← spaced_concat]
  rfl

theorem isWord_append {text other : List Char} (h : IsWord text) (h' : IsWord other) :
    IsWord (text ++ other) := by
  refine ⟨by simp [h.1], ?_⟩
  rw [List.forall_mem_append]
  exact ⟨h.2, h'.2⟩

theorem gapped_macWords (e : FdbEntry) : ∀ w ∈ macWords e, Gapped w := by
  rw [macWords, List.forall_mem_cons, List.forall_mem_cons, List.forall_mem_cons,
    List.forall_mem_cons, List.forall_mem_cons, List.forall_mem_singleton]
  exact ⟨gapped (by decide) (by decide), gapped (isWord_macText e.six) (by decide),
    gapped (by decide) (by decide), gapped (isWord_toString e.vlan) (by decide),
    gapped (by decide) (by decide),
    gapped (isWord_append e.portName.isWord (by decide)) (by decide)⟩

theorem isWord_portIdWord (e : FdbEntry) : IsWord (portIdWord e) :=
  isWord_append (isWord_toString e.portId) (by decide)

/-- The line is split into labels and values. -/
theorem splitWhitespace_macLine (e : FdbEntry) : splitWhitespace (ReferenceSwitch.macLine e) =
    ["MAC:".toList, macText e.mac, "VLAN:".toList, (toString e.vlan).toList, "Port:".toList,
      e.portName.chars ++ "(port-id".toList, portIdWord e] := by
  rw [macLine_eq, splitWhitespace_spaced (gapped_macWords e),
    splitWhitespace_word (isWord_portIdWord e)]
  rfl

/-- A word without these letters is no label of a port. -/
theorem not_isPortLabel (h : 'P' ∉ word) (h' : 'T' ∉ word) : isPortLabel word = false := by
  rw [isPortLabel, Bool.or_eq_false_iff, Bool.or_eq_false_iff]
  refine ⟨⟨beq_false_of_ne ?_, beq_false_of_ne ?_⟩, beq_false_of_ne ?_⟩
  · rintro rfl
    exact h (by decide)
  · rintro rfl
    exact h (by decide)
  · rintro rfl
    exact h' (by decide)

/-- The bare number in parentheses. -/
theorem read_portIdWord (e : FdbEntry) :
    trimEndMatches ")" (portIdWord e) = (toString e.portId).toList := by
  refine trimEndMatches_append (by decide) fun hsuffix => ?_
  exact not_mem_toString (c := ')') (by decide) e.portId (hsuffix.subset (by decide))

/-- The line of an entry gives what is shown of it. -/
theorem parseMacLine_macLine (e : FdbEntry) :
    parseMacLine (ReferenceSwitch.macLine e) = some e.consoleEntry := by
  -- an address has hexadecimal digits only, so it is never taken for a label
  have hmac := macText_chars e.mac
  have hmacLabel : isPortLabel (macText e.mac) = false :=
    not_isPortLabel (fun hc => (hmac 'P' hc).2 (by decide)) fun hc => (hmac 'T' hc).2 (by decide)
  have hvlanLabel : isPortLabel (toString e.vlan).toList = false :=
    not_isPortLabel (not_mem_toString (by decide) _) (not_mem_toString (by decide) _)
  rw [parseMacLine, splitWhitespace_macLine]
  set tokens := ["MAC:".toList, macText e.mac, "VLAN:".toList, (toString e.vlan).toList,
    "Port:".toList, e.portName.chars ++ "(port-id".toList, portIdWord e] with htokens
  have hafter : tokenAfter (· == "MAC:".toList) tokens = some (macText e.mac) :=
    tokenAfter_self (by decide)
  have hvlan : tokenAfter (· == "VLAN:".toList) tokens = some (toString e.vlan).toList := by
    have hfront : ∀ token ∈ ["MAC:".toList, macText e.mac], (token == "VLAN:".toList) = false := by
      rw [List.forall_mem_cons, List.forall_mem_singleton]
      refine ⟨by decide, beq_false_of_ne fun heq => ?_⟩
      exact (hmac 'V' (heq ▸ by decide)).2 (by decide)
    exact (tokenAfter_append hfront).trans (tokenAfter_self (by decide))
  have hlabel : tokens.findIdx? isPortLabel = some 4 := by
    have hfront : ∀ token ∈ ["MAC:".toList, macText e.mac, "VLAN:".toList,
        (toString e.vlan).toList], isPortLabel token = false := by
      rw [List.forall_mem_cons, List.forall_mem_cons, List.forall_mem_cons,
        List.forall_mem_singleton]
      exact ⟨by decide, hmacLabel, by decide, hvlanLabel⟩
    have hsplit : tokens = ["MAC:".toList, macText e.mac, "VLAN:".toList, (toString e.vlan).toList]
        ++ "Port:".toList :: [e.portName.chars ++ "(port-id".toList, portIdWord e] := rfl
    rw [hsplit, List.findIdx?_append, List.findIdx?_eq_none_iff.mpr hfront, Option.none_or,
      List.findIdx?_cons, if_pos (by decide)]
    rfl
  -- the id stands in the parenthesis behind the port's name
  have hport : extractPortId tokens 4 = some (toString e.portId).toList := by
    have hinfix : "port-id".toList <:+: e.portName.chars ++ "(port-id".toList :=
      ⟨e.portName.chars ++ ['('], [], by simp⟩
    have hvalue : tokens[4 + 1]? = some (e.portName.chars ++ "(port-id".toList) := rfl
    have hid : tokens[4 + 2]? = some (portIdWord e) := rfl
    rw [extractPortId, hvalue, Option.bind_some, if_pos hinfix, hid, Option.map_some,
      read_portIdWord]
  have hlabelled : parseLabelledMac tokens = some e.consoleEntry := by
    rw [parseLabelledMac, hafter, Option.bind_some, if_pos (looksLikeMac_macText e.six), hlabel,
      Option.bind_some, hport, Option.map_some, hvlan, Option.bind_some, String.ofList_toList]
    rfl
  rw [hafter, hlabelled]
  simp

theorem not_newline_macLine (e : FdbEntry) : '\n' ∉ ReferenceSwitch.macLine e := by
  rw [macLine_eq, List.mem_append, not_or]
  exact ⟨not_newline_spaced (gapped_macWords e), not_newline_word (isWord_portIdWord e)⟩

/-- A line without the label is no address. -/
theorem parseMacLine_none (hlabel : "MAC:".toList ∉ splitWhitespace line)
    (hfirst : ∀ token ∈ (splitWhitespace line)[0]?, ':' ∉ token) : parseMacLine line = none := by
  have hlabelled : parseLabelledMac (splitWhitespace line) = none := by
    have hnone : tokenAfter (· == "MAC:".toList) (splitWhitespace line) = none :=
      tokenAfter_none fun token htoken => beq_false_of_ne fun heq => hlabel (heq ▸ htoken)
    rw [parseLabelledMac, hnone, Option.bind_none]
  have hplain : parsePlainMac (splitWhitespace line) = none := by
    rw [parsePlainMac, Option.bind_eq_none_iff]
    intro token htoken
    have hlooks : looksLikeMac token = false := by
      have hone : token.splitOn ':' = [token] :=
        List.splitOnP_eq_singleton fun c hc => beq_false_of_ne fun heq =>
          hfirst token htoken (heq ▸ hc)
      rw [looksLikeMac, hone]
      rfl
    rw [if_neg (by simp [hlooks])]
  rw [parseMacLine, if_neg fun h => hlabel h.1, hlabelled, hplain]
  rfl

/-- The console shows the entries that are in use. -/
theorem parseMacTable_macAddressText (s : ReferenceSwitch) :
    parseMacTable s.macAddressText = s.fdb.map FdbEntry.consoleEntry := by
  have hlines : ∀ line ∈ s.fdb.map ReferenceSwitch.macLine, '\n' ∉ line :=
    List.forall_mem_map.mpr fun e _ => not_newline_macLine e
  have hprompt : parseMacLine (prompt s) = none := by
    refine parseMacLine_none ?_ ?_
    · rw [splitWhitespace_prompt, List.mem_cons, List.mem_singleton, not_or]
      exact ⟨s.hostname.ne_label "MAC:" (by decide), by decide⟩
    · rw [splitWhitespace_prompt]
      rintro _ ⟨⟩
      exact s.hostname.not_mem (by decide)
  rw [parseMacTable, ReferenceSwitch.macAddressText,
    filterMap_consoleText (by decide) hlines (by decide) (by decide) hprompt, List.filterMap_map]
  have hparse : parseMacLine ∘ ReferenceSwitch.macLine = some ∘ FdbEntry.consoleEntry := by
    funext e
    exact parseMacLine_macLine e
  rw [hparse, List.filterMap_eq_map]

end SwitchConfigurator.Snmp
