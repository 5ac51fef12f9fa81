import SwitchConfigurator.Config.PortIds
import SwitchConfigurator.Models

/-!
# Managers of a community

`AllowedHost::try_from` of `models.rs`, with the address syntax of the standard library that it
relies on.
-/

namespace SwitchConfigurator

/-! ## Addresses -/

inductive IpAddr where
  | v4
  | v6
  deriving DecidableEq, Repr

def isHexDigit (c : Char) : Bool :=
  c.isDigit || ('a' ≤ c && c ≤ 'f') || ('A' ≤ c && c ≤ 'F')

/-- A decimal number up to 255, without leading zeros. -/
def isOctet (s : List Char) : Bool :=
  !s.isEmpty && s.length ≤ 3 && s.all Char.isDigit && (s.length == 1 || s.head? != some '0')
    && digitsValue s ≤ 255

def isIpv4 (s : List Char) : Bool :=
  (s.splitOn '.').length == 4 && (s.splitOn '.').all isOctet

def isHextet (s : List Char) : Bool := !s.isEmpty && s.length ≤ 4 && s.all isHexDigit

/-- The number of 16-bit groups in a list of them; a trailing IPv4 address counts for two. -/
def groupCount (allowIpv4 : Bool) : List (List Char) → Option ℕ
  | [] => some 0
  | [last] =>
    if isHextet last then some 1
    else if allowIpv4 && isIpv4 last then some 2
    else none
  | group :: rest => if isHextet group then (groupCount allowIpv4 rest).map (· + 1) else none

def groupsOf (s : List Char) : List (List Char) := if s.isEmpty then [] else s.splitOn ':'

/-- The parts before and after the first "::". -/
def splitElision : List Char → Option (List Char × List Char)
  | ':' :: ':' :: rest => some ([], rest)
  | c :: rest => (splitElision rest).map fun parts => (c :: parts.1, parts.2)
  | [] => none

def isIpv6 (s : List Char) : Bool :=
  match splitElision s with
  | none => groupCount true (s.splitOn ':') == some 8
  | some (head, tail) =>
    match groupCount false (groupsOf head), groupCount true (groupsOf tail) with
    -- "::" stands for one group at least
    | some h, some t => h + t ≤ 7
    | _, _ => false

/-- `str::parse::<IpAddr>`, as far as its kind. -/
def parseIpAddr (s : List Char) : Option IpAddr :=
  if isIpv4 s then some .v4
  else if isIpv6 s then some .v6
  else none

def IpAddr.maxPrefix : IpAddr → ℕ
  | v4 => 32
  | v6 => 128

/-- `str::parse::<u8>`. -/
def parseU8 (s : List Char) : Option ℕ :=
  let digits := if s.head? == some '+' then s.drop 1 else s
  if !digits.isEmpty && digits.all Char.isDigit && digitsValue digits ≤ 255 then
    some (digitsValue digits)
  else none

/-! ## Hosts -/

/-- `eq_ignore_ascii_case`. -/
def equalsIgnoringCase (s t : List Char) : Bool := s.map Char.toLower == t.map Char.toLower

/-- `AllowedHost::try_from`. -/
def AllowedHost.tryFrom (value : String) : Except String AllowedHost :=
  let text := trim value.toList
  if equalsIgnoringCase text "auto".toList then .ok .auto
  else
    let addr := text.takeWhile (· != '/')
    let netPrefix := if text.contains '/' then some ((text.dropWhile (· != '/')).drop 1) else none
    match parseIpAddr addr with
    | none => .error s!"allowed_hosts entry '{String.ofList text}' is neither 'auto' nor an IP address/CIDR"
    | some ip =>
      match netPrefix with
      | none => .ok (.network (String.ofList text))
      | some digits =>
        match parseU8 digits with
        | none => .error s!"allowed_hosts entry '{String.ofList text}' has an invalid prefix length"
        | some n =>
          if n ≤ ip.maxPrefix then
            -- A single host is spelled without a prefix.
            .ok (.network (String.ofList (if n = ip.maxPrefix then addr else text)))
          else .error s!"allowed_hosts entry '{String.ofList text}' has an invalid prefix length"

/-! ## What is accepted is in its final form -/

/-- The characters of an address. -/
def isAddrChar (c : Char) : Bool := isHexDigit c || c == '.' || c == ':'

/-- The characters of addresses, by their numbers. -/
theorem isAddrChar_toNat {c : Char} (h : isAddrChar c = true) : c.toNat = 46 ∨ c.toNat = 58 ∨
    48 ≤ c.toNat ∧ c.toNat ≤ 57 ∨ 65 ≤ c.toNat ∧ c.toNat ≤ 70 ∨ 97 ≤ c.toNat ∧ c.toNat ≤ 102 := by
  have hval : c.val.toNat = c.toNat := rfl
  simp only [isAddrChar, isHexDigit, Char.isDigit, Bool.or_eq_true, Bool.and_eq_true,
    decide_eq_true_eq, beq_iff_eq, Char.le_def, UInt32.le_iff_toNat_le, ge_iff_le, hval] at h
  rcases h with (((⟨h0, h9⟩ | ⟨ha, hf⟩) | ⟨ha, hf⟩) | rfl) | rfl
  · right; right; left; exact ⟨h0, h9⟩
  · right; right; right; right; exact ⟨ha, hf⟩
  · right; right; right; left; exact ⟨ha, hf⟩
  · left; rfl
  · right; left; rfl

/-- No character of an address is a blank. -/
theorem isWhitespace_addrChar {c : Char} (h : isAddrChar c = true) : isWhitespace c = false := by
  have hrange := isAddrChar_toNat h
  simp only [isWhitespace, Bool.or_eq_false_iff, Bool.and_eq_false_iff, decide_eq_false_iff_not,
    beq_eq_false_iff_ne]
  omega

theorem mem_intercalate {c sep : Char} {parts : List (List Char)}
    (h : c ∈ [sep].intercalate parts) : c = sep ∨ ∃ part ∈ parts, c ∈ part := by
  induction parts with
  | nil => simp [List.intercalate] at h
  | cons part rest ih =>
    cases rest with
    | nil =>
      refine .inr ⟨part, List.mem_cons_self, ?_⟩
      simpa [List.intercalate] using h
    | cons next rest =>
      have hsplit : [sep].intercalate (part :: next :: rest) =
          part ++ sep :: [sep].intercalate (next :: rest) := by
        simp [List.intercalate]
      rw [hsplit, List.mem_append, List.mem_cons] at h
      rcases h with h | rfl | h
      · exact .inr ⟨part, List.mem_cons_self, h⟩
      · exact .inl rfl
      · refine (ih h).imp_right ?_
        rintro ⟨p, hp, hc⟩
        exact ⟨p, List.mem_cons_of_mem _ hp, hc⟩

/-- A character of a text that is split is the separator, or is in one of the parts. -/
theorem mem_splitOn {c : Char} (sep : Char) {s : List Char} (h : c ∈ s) :
    c = sep ∨ ∃ part ∈ s.splitOn sep, c ∈ part := by
  apply mem_intercalate
  rw [List.intercalate_splitOn]
  exact h

/-- A version 4 address has characters of addresses only. -/
theorem isIpv4_chars {s : List Char} (h : isIpv4 s = true) : ∀ c ∈ s, isAddrChar c = true := by
  intro c hc
  rw [isIpv4, Bool.and_eq_true, List.all_eq_true] at h
  rcases mem_splitOn '.' hc with rfl | ⟨part, hpart, hc⟩
  · rfl
  · have hoctet := h.2 part hpart
    simp only [isOctet, Bool.and_eq_true, List.all_eq_true] at hoctet
    simp [isAddrChar, isHexDigit, hoctet.1.1.2 c hc]

/-- So have the groups that count as ones of version 6. -/
theorem groupCount_chars {allowIpv4 : Bool} {groups : List (List Char)} {n : ℕ}
    (h : groupCount allowIpv4 groups = some n) :
    ∀ group ∈ groups, ∀ c ∈ group, isAddrChar c = true := by
  have hextet {s : List Char} (hs : isHextet s = true) : ∀ c ∈ s, isAddrChar c = true := by
    intro c hc
    simp only [isHextet, Bool.and_eq_true, List.all_eq_true] at hs
    simp [isAddrChar, hs.2 c hc]
  induction groups generalizing n with
  | nil => exact fun _ hg => absurd hg List.not_mem_nil
  | cons group rest ih =>
    cases rest with
    | nil =>
      rw [groupCount] at h
      rw [List.forall_mem_singleton]
      split at h
      · next hhex => exact hextet hhex
      · split at h
        · next hv4 => exact isIpv4_chars (Bool.and_eq_true_iff.mp hv4).2
        · cases h
    | cons next rest =>
      rw [groupCount] at h
      · split at h
        · next hhex =>
          obtain ⟨m, hm, -⟩ := Option.map_eq_some_iff.mp h
          rw [List.forall_mem_cons]
          exact ⟨hextet hhex, ih hm⟩
        · cases h
      · simp

/-- A text with an elision is what stands around it. -/
theorem splitElision_some {s head tail : List Char} (h : splitElision s = some (head, tail)) :
    s = head ++ ':' :: ':' :: tail := by
  fun_induction splitElision s generalizing head tail with
  | case1 rest =>
    obtain ⟨rfl, rfl⟩ := Prod.mk.inj (Option.some.inj h)
    rfl
  | case2 c rest _ ih =>
    obtain ⟨parts, hparts, heq⟩ := Option.map_eq_some_iff.mp h
    obtain ⟨rfl, rfl⟩ := Prod.mk.inj heq
    rw [ih hparts]
    rfl
  | case3 => cases h

/-- A text whose groups count is made of characters of addresses. -/
theorem groupsOf_chars {allowIpv4 : Bool} {s : List Char} {n : ℕ}
    (h : groupCount allowIpv4 (groupsOf s) = some n) : ∀ c ∈ s, isAddrChar c = true := by
  intro c hc
  have hne : s.isEmpty = false := List.isEmpty_eq_false_iff_exists_mem.mpr ⟨c, hc⟩
  rw [groupsOf, hne, if_neg (by decide)] at h
  rcases mem_splitOn ':' hc with rfl | ⟨part, hpart, hc⟩
  · rfl
  · exact groupCount_chars h part hpart c hc

/-- An address has no whitespace and no slash, and of the letters only hexadecimal digits. -/
theorem parseIpAddr_chars {s : List Char} {ip : IpAddr} (h : parseIpAddr s = some ip) :
    ∀ c ∈ s, isAddrChar c = true := by
  intro c hc
  rw [parseIpAddr] at h
  split at h
  · next hv4 => exact isIpv4_chars hv4 c hc
  · split at h
    · next hv6 =>
      rw [isIpv6] at hv6
      split at hv6
      · rcases mem_splitOn ':' hc with rfl | ⟨part, hpart, hc⟩
        · rfl
        · exact groupCount_chars (eq_of_beq hv6) part hpart c hc
      · next head tail hsplit =>
        rw [splitElision_some hsplit, List.mem_append, List.mem_cons, List.mem_cons] at hc
        split at hv6
        · next hhead htail =>
          rcases hc with hc | rfl | rfl | hc
          · exact groupsOf_chars hhead c hc
          · rfl
          · rfl
          · exact groupsOf_chars htail c hc
        · cases hv6
    · cases h

/-- Of the characters of addresses none becomes a `u` when lowered. -/
theorem lower_ne_u : ∀ n < 103, n ≠ 85 → (Char.ofNat n).toLower ≠ 'u' := by decide

/-- An address is in its final form. -/
theorem AllowedHost.tryFrom_addr {addr : List Char} {ip : IpAddr}
    (h : parseIpAddr addr = some ip) :
    tryFrom (String.ofList addr) = .ok (.network (String.ofList addr)) := by
  have hchars := parseIpAddr_chars h
  have htrim : trim addr = addr := trim_of_forall fun c hc => isWhitespace_addrChar (hchars c hc)
  have hslash : ∀ c ∈ addr, (c != '/') = true := by
    intro c hc
    rw [bne_iff_ne]
    rintro rfl
    exact absurd (hchars '/' hc) (by decide)
  have hauto : equalsIgnoringCase addr "auto".toList = false := by
    rw [equalsIgnoringCase, beq_eq_false_iff_ne]
    intro heq
    have hmem : 'u' ∈ addr.map Char.toLower := heq ▸ by decide
    obtain ⟨c, hc, hlower⟩ := List.mem_map.mp hmem
    have hrange := isAddrChar_toNat (hchars c hc)
    have hne : (Char.ofNat c.toNat).toLower ≠ 'u' := lower_ne_u c.toNat (by omega) (by omega)
    rw [Char.ofNat_toNat] at hne
    exact hne hlower
  have hcontains : addr.contains '/' = false := by
    rw [Bool.eq_false_iff, ne_eq, List.contains_iff_mem]
    exact fun hmem => absurd (hslash '/' hmem) (by decide)
  have htake : addr.takeWhile (· != '/') = addr := List.takeWhile_eq_self_iff.mpr hslash
  rw [tryFrom, String.toList_ofList, htrim, hauto, hcontains, htake]
  dsimp only
  rw [h]
  rfl

/-- Trimming once is enough. -/
theorem AllowedHost.tryFrom_trim (value : String) :
    tryFrom (String.ofList (trim value.toList)) = tryFrom value := by
  rw [tryFrom, tryFrom, String.toList_ofList, trim_trim]

/-- What is accepted is accepted again, unchanged. -/
theorem AllowedHost.tryFrom_toText {value : String} {host : AllowedHost}
    (h : tryFrom value = .ok host) : tryFrom host.toText = .ok host := by
  have hvalue := h
  rw [tryFrom] at h
  dsimp only at h
  split at h
  · obtain rfl := Except.ok.inj h
    rfl
  · split at h
    · cases h
    · next ip hip =>
      split at h
      · obtain rfl := Except.ok.inj h
        exact (tryFrom_trim value).trans hvalue
      · split at h
        · cases h
        · split at h
          · split at h
            · obtain rfl := Except.ok.inj h
              exact tryFrom_addr hip
            · obtain rfl := Except.ok.inj h
              exact (tryFrom_trim value).trans hvalue
          · cases h

example : AllowedHost.tryFrom " 192.0.2.1/32 " = .ok (.network "192.0.2.1") := by rfl

example : AllowedHost.tryFrom "2001:db8::/32" = .ok (.network "2001:db8::/32") := by rfl

end SwitchConfigurator
