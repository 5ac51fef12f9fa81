import SwitchConfigurator.Config.Validate

/-!
# What a port id expands to

The segments of a port id, what each of them stands for, and expansion run twice.
-/

namespace SwitchConfigurator

open RelatedLists

/-! ## Numbers at the end -/

/-- A text that ends in the decimal digits of a `u32`, all of them taken. -/
structure Numbered (text portPrefix : List Char) (num : ℕ) : Prop where
  exists_digits : ∃ digits, text = portPrefix ++ digits ∧ digits ≠ [] ∧
    (∀ c ∈ digits, c.isDigit = true) ∧ digitsValue digits = num
  whole : ∀ c ∈ portPrefix.getLast?, c.isDigit = false
  bounded : num < 2 ^ 32

/-- A name with a number suffix is its front and the number. -/
theorem extractNumberSuffix_numbered {text portPrefix : List Char} {num : ℕ}
    (h : extractNumberSuffix text = .ok (portPrefix, num)) : Numbered text portPrefix num := by
  unfold extractNumberSuffix at h
  dsimp only at h
  split at h
  · cases h
  next hne =>
  split at h
  · next hbound =>
    obtain ⟨rfl, rfl⟩ := Prod.mk.inj (Except.ok.inj h)
    rw [List.isEmpty_iff] at hne
    refine ⟨⟨text.rtakeWhile Char.isDigit, ?_, hne, ?_, rfl⟩, ?_, hbound⟩
    · exact List.rdropWhile_append_rtakeWhile.symm
    · exact fun c hc => List.mem_rtakeWhile_imp hc
    · intro c hc
      have hrest : text.rdropWhile Char.isDigit ≠ [] := by
        rintro hnil
        rw [hnil] at hc
        cases hc
      have hlast := List.rdropWhile_last_not Char.isDigit text hrest
      rw [List.getLast?_eq_some_getLast hrest] at hc
      obtain rfl := Option.some.inj hc
      rwa [Bool.not_eq_true] at hlast
  · cases h

/-! ## Segments -/

/-- What one segment of a port id stands for. -/
inductive StandsFor (segment : List Char) : List String → Prop
  | itself (hyphen : '-' ∉ trim segment) : StandsFor segment [String.ofList (trim segment)]
  | range {first last portPrefix endPrefix : List Char} {start stop : ℕ}
      (split : trim segment = first ++ '-' :: last) (hyphen : '-' ∉ first)
      (hstart : Numbered (trim first) portPrefix start)
      (hstop : Numbered (trim last) endPrefix stop)
      (repeated : endPrefix = [] ∨ endPrefix = portPrefix) (ordered : start ≤ stop) :
      StandsFor segment ((List.range' start (stop - start + 1)).map fun num =>
        String.ofList portPrefix ++ toString num)

/-- A text with a hyphen is what stands around the first one. -/
theorem split_at_hyphen {text : List Char} (h : '-' ∈ text) :
    text = text.takeWhile (· != '-') ++ '-' :: (text.dropWhile (· != '-')).drop 1 := by
  have hne : text.dropWhile (· != '-') ≠ [] := by
    rw [ne_eq, List.dropWhile_eq_nil_iff]
    intro hall
    simpa using hall '-' h
  obtain ⟨c, rest, hrest⟩ := List.exists_cons_of_ne_nil hne
  have hc := List.head?_dropWhile_not (fun c => c != '-') text
  rw [hrest] at hc
  obtain rfl : c = '-' := by simpa using hc
  have hwhole := List.takeWhile_append_dropWhile (p := fun c => c != '-') (l := text)
  rw [hrest] at hwhole ⊢
  exact hwhole.symm

/-- A range stands for the ports it is expanded to. -/
theorem standsFor_of_parseRange {segment : List Char} {ids : List String}
    (h : parseRange (trim segment) = .ok ids) (hhyphen : '-' ∈ trim segment) :
    StandsFor segment ids := by
  obtain ⟨⟨portPrefix, start⟩, hstart, h⟩ := bind_ok_iff.mp h
  obtain ⟨⟨endPrefix, stop⟩, hstop, h⟩ := bind_ok_iff.mp h
  dsimp only at h
  split at h
  · cases h
  next hrepeated =>
  split at h
  · cases h
  next hordered =>
  obtain rfl := Except.ok.inj h
  refine .range (split_at_hyphen hhyphen) ?_ (extractNumberSuffix_numbered hstart)
    (extractNumberSuffix_numbered hstop) ?_ (by omega)
  · intro hmem
    simpa using List.mem_takeWhile_imp hmem
  · rw [Bool.and_eq_true, not_and_or, Bool.not_eq_true, Bool.not_eq_true, Bool.not_eq_false',
      List.isEmpty_iff, bne_eq_false_iff_eq] at hrepeated
    exact hrepeated.imp_right Eq.symm

/-- So does any segment that is parsed. -/
theorem standsFor_of_parseSegment {segment : List Char} {ids : List String}
    (h : parseSegment segment = .ok ids) : StandsFor segment ids := by
  rw [parseSegment] at h
  split at h
  · next hhyphen => exact standsFor_of_parseRange h (List.contains_iff_mem.mp hhyphen)
  · next hhyphen =>
    rw [List.contains_iff_mem] at hhyphen
    rw [← Except.ok.inj h]
    exact .itself hhyphen

/-! ## Single ports -/

/-- A port id that names exactly one port: not empty, no list, no range, nothing blank. -/
structure SinglePort (portId : String) : Prop where
  nonempty : portId.toList ≠ []
  comma : ',' ∉ portId.toList
  hyphen : '-' ∉ portId.toList
  blank : ∀ c ∈ portId.toList, isWhitespace c = false

/-- The port a segment starts with: all of it, or what stands before the hyphen of a range. -/
def firstPort (segment : List Char) : List Char :=
  trim ((trim segment).takeWhile (· != '-'))

/-- A segment whose first port is one word. -/
def NamesPort (segment : List Char) : Prop :=
  firstPort segment ≠ [] ∧ ∀ c ∈ firstPort segment, isWhitespace c = false

instance : DecidablePred NamesPort := fun _ => inferInstanceAs (Decidable (_ ∧ _))

/-- Without a hyphen a segment names one port. -/
theorem firstPort_of_notMem {segment : List Char} (h : '-' ∉ trim segment) :
    firstPort segment = trim segment := by
  have hwhole : (trim segment).takeWhile (· != '-') = trim segment := by
    rw [List.takeWhile_eq_self_iff]
    intro c hc
    rw [bne_iff_ne]
    rintro rfl
    exact h hc
  rw [firstPort, hwhole, trim_trim]

theorem firstPort_of_split {segment first last : List Char}
    (hsplit : trim segment = first ++ '-' :: last) (h : '-' ∉ first) :
    firstPort segment = trim first := by
  have hfirst : (first ++ '-' :: last).takeWhile (· != '-') = first := by
    rw [List.takeWhile_append_of_pos]
    · simp
    · intro c hc
      rw [bne_iff_ne]
      rintro rfl
      exact h hc
  rw [firstPort, hsplit, hfirst]

theorem toDigits_ne_nil (num : ℕ) : (toString num).toList ≠ [] := by
  have hrepr : (toString num).toList = Nat.toDigits 10 num := Nat.toList_repr
  rw [hrepr]
  exact Nat.toDigits_ne_nil

theorem isWhitespace_toDigits {num : ℕ} : ∀ c ∈ (toString num).toList, isWhitespace c = false := by
  intro c hc
  have hrepr : (toString num).toList = Nat.toDigits 10 num := Nat.toList_repr
  rw [hrepr] at hc
  exact isWhitespace_digit (Nat.isDigit_of_mem_toDigits (by decide) (by decide) hc)

/-- The ports a segment stands for are in one word exactly if its first one is. -/
theorem StandsFor.namesPort_iff {segment : List Char} {ids : List String}
    (h : StandsFor segment ids) : NamesPort segment ↔
      ∀ id ∈ ids, id.toList ≠ [] ∧ ∀ c ∈ id.toList, isWhitespace c = false := by
  cases h with
  | itself hyphen =>
    rw [List.forall_mem_singleton, String.toList_ofList, NamesPort, firstPort_of_notMem hyphen]
  | @range first last portPrefix endPrefix start stop split hyphen hstart hstop repeated ordered =>
    obtain ⟨digits, htext, hne, hdigits, -⟩ := hstart.exists_digits
    have hfirst : firstPort segment = portPrefix ++ digits := by
      rw [firstPort_of_split split hyphen, htext]
    rw [NamesPort, hfirst]
    constructor
    · rintro ⟨-, hblank⟩ id hid
      obtain ⟨num, -, rfl⟩ := List.mem_map.mp hid
      rw [String.toList_append, String.toList_ofList]
      refine ⟨List.append_ne_nil_of_right_ne_nil _ (toDigits_ne_nil num), fun c hc => ?_⟩
      rcases List.mem_append.mp hc with hc | hc
      · exact hblank c (List.mem_append_left _ hc)
      · exact isWhitespace_toDigits c hc
    · intro hids
      refine ⟨List.append_ne_nil_of_right_ne_nil _ hne, fun c hc => ?_⟩
      -- the prefix shows in every port of the range, and it has one at least
      have hmem : String.ofList portPrefix ++ toString start ∈
          (List.range' start (stop - start + 1)).map fun num =>
            String.ofList portPrefix ++ toString num := by
        refine List.mem_map.mpr ⟨start, ?_, rfl⟩
        rw [List.mem_range'_1]
        omega
      have hblank := (hids _ hmem).2
      rw [String.toList_append, String.toList_ofList] at hblank
      rcases List.mem_append.mp hc with hc | hc
      · exact hblank c (List.mem_append_left _ hc)
      · exact isWhitespace_digit (hdigits c hc)

/-! ## Whole port ids -/

/-- The expansion of a port id: its segments in order, every port of them single and final. -/
structure ExpandsExactly (portId : String) (ids : List String) : Prop where
  in_order : ∃ parts, List.Forall₂ StandsFor (portId.toList.splitOn ',') parts ∧
    ids = parts.flatten
  single : ∀ id ∈ ids, SinglePort id
  fixed : ∀ id ∈ ids, parsePortId id = .ok [id]

/-- A port text is parsed exactly if every segment is. -/
theorem parsePortId_ok_iff {portId : String} {ids : List String} : parsePortId portId = .ok ids ↔
    ∃ parts, List.Forall₂ (fun segment part => parseSegment segment = .ok part)
      (portId.toList.splitOn ',') parts ∧ ids = parts.flatten := by
  simp only [← mapM_ok_iff]
  unfold parsePortId
  cases (portId.toList.splitOn ',').mapM parseSegment with
  | error e => simp
  | ok parts =>
    constructor
    · intro h
      exact ⟨parts, rfl, (Except.ok.inj h).symm⟩
    · rintro ⟨_, hparts, rfl⟩
      rw [Except.ok.inj hparts]
      rfl

/-- Every port it is expanded to has a plain name. -/
theorem isPortId_of_parsePortId {portId : String} {ids : List String}
    (h : parsePortId portId = .ok ids) : ∀ id ∈ ids, IsPortId id.toList := by
  obtain ⟨parts, hparts, rfl⟩ := parsePortId_ok_iff.mp h
  intro id hid
  obtain ⟨part, hpart, hid⟩ := List.mem_flatten.mp hid
  obtain ⟨segment, hsegment, hok⟩ := exists_of_mem_left hparts.flip hpart
  exact isPortId_of_parseSegment hok (separator_notMem_splitOn segment hsegment) id hid

/-- A text expands exactly where every segment names a port. -/
theorem expandsExactly_iff {portId : String} {ids : List String}
    (h : parsePortId portId = .ok ids) :
    ExpandsExactly portId ids ↔ ∀ segment ∈ portId.toList.splitOn ',', NamesPort segment := by
  obtain ⟨parts, hparts, hids⟩ := parsePortId_ok_iff.mp h
  have hstands : List.Forall₂ StandsFor (portId.toList.splitOn ',') parts :=
    hparts.imp fun _ _ => standsFor_of_parseSegment
  constructor
  · rintro ⟨-, hsingle, -⟩ segment hsegment
    obtain ⟨part, hpart, hok⟩ := exists_of_mem_left hstands hsegment
    refine hok.namesPort_iff.mpr fun id hid => ?_
    have hmem : id ∈ ids := by
      rw [hids]
      exact List.mem_flatten.mpr ⟨part, hpart, hid⟩
    exact ⟨(hsingle id hmem).nonempty, (hsingle id hmem).blank⟩
  · intro hnames
    refine ⟨⟨parts, hstands, hids⟩, fun id hid => ?_, parsePortId_expanded h⟩
    have hport := isPortId_of_parsePortId h id hid
    rw [hids] at hid
    obtain ⟨part, hpart, hid⟩ := List.mem_flatten.mp hid
    obtain ⟨segment, hsegment, hok⟩ := exists_of_mem_left hstands.flip hpart
    obtain ⟨hne, hblank⟩ := hok.namesPort_iff.mp (hnames segment hsegment) id hid
    exact ⟨hne, hport.comma, hport.hyphen, hblank⟩

/-- A switch whose port ids all stand for themselves. -/
structure Expanded (switch : SwitchConfig) : Prop where
  ports : ∀ port ∈ switch.ports, parsePortId port.portId = .ok [port.portId]
  portMirrors : ∀ mirror ∈ switch.portMirrors, expandMirror mirror = .ok mirror

/-- What was expanded is expanded. -/
theorem expanded_of_expandPortRanges {raw switch : SwitchConfig}
    (h : expandPortRanges raw = .ok switch) : Expanded switch := by
  obtain ⟨hids, portMirrors, hmirrors, rfl⟩ := expandPortRanges_ok_iff.mp h
  constructor
  · intro port hport
    obtain ⟨source, hsource, hport⟩ := List.mem_flatMap.mp hport
    obtain ⟨ids, hparsed⟩ := hids source hsource
    rw [expandedPorts, hparsed] at hport
    obtain ⟨id, hid, rfl⟩ := List.mem_map.mp hport
    exact parsePortId_expanded hparsed id hid
  · intro mirror hmirror
    obtain ⟨source, -, hexpanded⟩ := exists_of_mem_left hmirrors.flip hmirror
    exact expandMirror_expanded hexpanded

/-- What is expanded is not expanded any further. -/
theorem Expanded.expandPortRanges_eq {switch : SwitchConfig} (h : Expanded switch) :
    expandPortRanges switch = .ok switch := by
  rw [expandPortRanges_ok_iff]
  refine ⟨fun port hport => ⟨_, h.ports port hport⟩, switch.portMirrors, ?_, ?_⟩
  · rw [List.forall₂_same]
    exact h.portMirrors
  · have hports : switch.ports.flatMap expandedPorts = switch.ports := by
      have hself : ∀ port ∈ switch.ports, expandedPorts port = [port] :=
        fun port hport => expandedPorts_of_single (h.ports port hport)
      rw [List.flatMap_congr hself, List.flatMap_singleton']
    rw [hports]

/-- Expansion is exact where every segment names a port in one word, and run twice it changes
nothing more. -/
theorem parsePortId_expandsExactly_iff (portId : String) (ids : List String)
    (h : parsePortId portId = .ok ids) : (ExpandsExactly portId ids ↔
      ∀ segment ∈ portId.toList.splitOn ',', NamesPort segment) ∧
    ∀ raw switch, expandPortRanges raw = .ok switch → expandPortRanges switch = .ok switch :=
  ⟨expandsExactly_iff h, fun _ _ h => (expanded_of_expandPortRanges h).expandPortRanges_eq⟩

theorem expandsExactly_port_list :
    ExpandsExactly "1-3, port7-8" ["1", "2", "3", "port7", "port8"] :=
  (parsePortId_expandsExactly_iff "1-3, port7-8" _ (by rfl)).1.mpr (by decide)

/-- A comma too many leaves a port without an id. -/
theorem exists_parsePortId_not_expandsExactly :
    parsePortId "1,,2" = .ok ["1", "", "2"] ∧ ¬ExpandsExactly "1,,2" ["1", "", "2"] :=
  ⟨by rfl, fun h => (h.single "" (by decide)).nonempty rfl⟩

end SwitchConfigurator
