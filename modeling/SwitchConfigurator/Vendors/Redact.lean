import Mathlib.Data.List.Infix
import SwitchConfigurator.Config.PortIds

/-!
# Redaction of commands

`redact.rs`: the patterns that mask community strings in the text of a command, and the count of
nested blocks that they depend on. No secret is registered, so `scrub` changes nothing. A pattern
is a scanner from the front of a command to the value that it masks; where the engine could match
in several ways, the scanner takes the way that the engine tries first.
-/

namespace SwitchConfigurator.Redact

/-! ## Pieces of patterns -/

/-- Lower case as the `(?i)` of a pattern of ASCII letters has it. -/
def foldCase (c : Char) : Char :=
  if c = 'ſ' then 's' else if c.toNat = 0x212A then 'k' else c.toLower

/-- The text behind a word, in any case. -/
def literal : List Char → List Char → Option (List Char)
  | [], text => some text
  | _ :: _, [] => none
  | p :: word, c :: text => if foldCase c = p then literal word text else none

/-- `\s*` -/
def blanks (text : List Char) : List Char := text.dropWhile isWhitespace

/-- `\s+` -/
def blanks1 : List Char → Option (List Char)
  | [] => none
  | c :: text => if isWhitespace c then some (blanks text) else none

/-- A word and the blanks behind it. -/
def word (text : String) (rest : List Char) : Option (List Char) :=
  (literal text.toList rest).bind blanks1

/-- `\S+` -/
def bareToken (text : List Char) : Option (List Char) :=
  let rest := text.dropWhile fun c => !isWhitespace c
  if rest.length < text.length then some rest else none

/-- `"[^"]*"` -/
def quotedToken : List Char → Option (List Char)
  | [] => none
  | c :: text => if c = '"' then (text.dropWhile (· != '"')).tail? else none

/-- `"[^"]*"|\S+` -/
def token (text : List Char) : Option (List Char) := (quotedToken text).or (bareToken text)

/-- `(?:…)?`: what is there to go on with, first with the part and then without. -/
def optional (part : List Char → Option (List Char)) (text : List Char) : List (List Char) :=
  (part text).toList ++ [text]

/-! ## The patterns -/

/-- A masked value: the text from its start on, and the text behind it. -/
structure Found where
  value : List Char
  after : List Char
  deriving DecidableEq, Repr

def Found.of (token : List Char → Option (List Char)) (value : List Char) : Option Found :=
  (token value).map fun after => { value, after }

/-- `^\s*(?:no\s+)?snmp-server\s+` -/
def snmpServer (command : List Char) : Option (List Char) :=
  (optional (word "no") (blanks command)).findSome? (word "snmp-server")

def community (command : List Char) : Option Found :=
  ((snmpServer command).bind (word "community")).bind (Found.of token)

/-- `.*?\bcommunity\s+` and the value; `boundary` tells that no word ends here. -/
def communityKeyword (isWord : Char → Bool) (boundary : Bool) : List Char → Option Found
  | [] => none
  | c :: text =>
    let here := if boundary then (word "community" (c :: text)).bind (Found.of token) else none
    here.or (if c = '\n' then none else communityKeyword isWord (!isWord c) text)

def hostCommunityKeyword (isWord : Char → Bool) (command : List Char) : Option Found :=
  ((snmpServer command).bind (word "host")).bind (communityKeyword isWord true)

def notification (text : List Char) : Option (List Char) :=
  (word "traps" text).or (word "informs" text)

def version (text : List Char) : Option (List Char) :=
  (word "version" text).bind fun text => (word "1" text).or (word "2c" text)

def ciscoHost (command : List Char) : Option Found :=
  (((snmpServer command).bind (word "host")).bind fun host =>
      (bareToken host).bind blanks1).bind fun text =>
    ((optional notification text).flatMap (optional version)).findSome? (Found.of bareToken)

/-- The value of a `set` line, to the end of the line and only where nothing follows. -/
def setValue (field : List Char → Option (List Char)) (command : List Char) : Option Found :=
  ((word "set" (blanks command)).bind field).bind fun value =>
    if '\n' ∈ value then none else some { value, after := [] }

def fortiosPassword : List Char → Option Found :=
  setValue fun text => (word "auth-pwd" text).or (word "priv-pwd" text)

def fortiosSetName : List Char → Option Found := setValue (word "name")

/-! ## The redactor -/

def mask : List Char := "<redacted>".toList

/-- The command with the found value masked. -/
def Found.replaceIn (found : Found) (command : List Char) : List Char :=
  command.take (command.length - found.value.length) ++ mask ++ found.after

def lower (text : List Char) : List Char := text.map Char.toLower

def pattern (isWord : Char → Bool) (command : List Char) : Option Found :=
  (fortiosPassword command).or <| (community command).or <|
    (hostCommunityKeyword isWord command).or <|
      if "version 3".toList <:+: lower command then none else ciscoHost command

/-- The value that is masked, at some depth inside `config system snmp community`. -/
def find (isWord : Char → Bool) (named : Bool) (command : List Char) : Option Found :=
  (if named then fortiosSetName command else none).or (pattern isWord command)

/-- One command at a time: the depth after it, and its text. -/
def redact (isWord : Char → Bool) (depth : ℕ) (command : List Char) : ℕ × List Char :=
  let trimmed := lower (trim command)
  let text (named : Bool) := ((find isWord named command).map (·.replaceIn command)).getD command
  if depth = 0 then
    (if trimmed = "config system snmp community".toList then 1 else 0, text false)
  else if "config ".toList <+: trimmed then (depth + 1, text false)
  else if trimmed = "end".toList then (depth - 1, text false)
  else (depth, text (depth == 1))

def redactFrom (isWord : Char → Bool) : ℕ → List (List Char) → List (List Char)
  | _, [] => []
  | depth, command :: commands =>
    (redact isWord depth command).2 :: redactFrom isWord (redact isWord depth command).1 commands

def redactCommands (isWord : Char → Bool) (commands : List String) : List String :=
  (redactFrom isWord 0 (commands.map String.toList)).map String.ofList

/-! ## What can be masked -/

section Masked

variable {isWord : Char → Bool} {command text rest : List Char} {found : Found}

/-- What is left behind a literal is a part of the text. -/
theorem literal_suffix {expected : List Char} (h : literal expected text = some rest) :
    rest <:+ text := by
  induction expected generalizing text with
  | nil => rw [Option.some.inj h]
  | cons p expected ih =>
    cases text with
    | nil => cases h
    | cons c text =>
      rw [literal] at h
      split at h
      · exact (ih h).trans (List.suffix_cons c text)
      · cases h

theorem blanks_suffix : blanks text <:+ text := List.dropWhile_suffix _

theorem blanks1_suffix (h : blanks1 text = some rest) : rest <:+ text := by
  cases text with
  | nil => cases h
  | cons c text =>
    rw [blanks1] at h
    split at h
    · rw [← Option.some.inj h]
      exact blanks_suffix.trans (List.suffix_cons c text)
    · cases h

/-- So is what is left behind a word. -/
theorem word_suffix {expected : String} (h : word expected text = some rest) : rest <:+ text := by
  obtain ⟨behind, hliteral, hblanks⟩ := Option.bind_eq_some_iff.mp h
  exact (blanks1_suffix hblanks).trans (literal_suffix hliteral)

/-- A text that a pattern may mask: one line, or a text in quotes. -/
def Maskable (value : List Char) : Prop :=
  '\n' ∉ value ∨ ∃ body, '"' ∉ body ∧ value = '"' :: (body ++ ['"'])

/-- The value starts in the text and the rest of the text follows on it. -/
structure FoundIn (text : List Char) (found : Found) : Prop where
  suffix : found.value <:+ text
  maskable : ∃ value, found.value = value ++ found.after ∧ Maskable value

theorem FoundIn.of_suffix (h : FoundIn rest found) (hrest : rest <:+ text) : FoundIn text found :=
  ⟨h.suffix.trans hrest, h.maskable⟩

/-- A bare token can be masked. -/
theorem bareToken_maskable (h : bareToken text = some rest) :
    ∃ value, text = value ++ rest ∧ Maskable value := by
  rw [bareToken] at h
  split at h
  · obtain rfl := Option.some.inj h
    refine ⟨text.takeWhile fun c => !isWhitespace c, List.takeWhile_append_dropWhile.symm, .inl ?_⟩
    intro hnewline
    exact absurd (List.mem_takeWhile_imp hnewline) (by decide)
  · cases h

/-- So can a quoted one. -/
theorem quotedToken_maskable (h : quotedToken text = some rest) :
    ∃ value, text = value ++ rest ∧ Maskable value := by
  cases text with
  | nil => cases h
  | cons c body =>
    rw [quotedToken] at h
    split at h
    · next hc =>
      have hbody : body.takeWhile (· != '"') ++ body.dropWhile (· != '"') = body :=
        List.takeWhile_append_dropWhile
      have hnot := List.head?_dropWhile_not (· != '"') body
      cases hbehind : body.dropWhile (· != '"') with
      | nil =>
        rw [hbehind] at h
        cases h
      | cons quote behind =>
        rw [hbehind] at h hbody hnot
        obtain rfl : behind = rest := Option.some.inj h
        have hquote : quote = '"' := by simpa using hnot
        refine ⟨'"' :: (body.takeWhile (· != '"') ++ ['"']), ?_, .inr ⟨_, ?_, rfl⟩⟩
        · rw [hquote] at hbody
          rw [hc, List.cons_append, List.append_assoc, List.singleton_append, hbody]
        · intro hmem
          exact absurd (List.mem_takeWhile_imp hmem) (by decide)
    · cases h

/-- What a scan finds is found in the text. -/
theorem foundIn_of {scan : List Char → Option (List Char)}
    (hscan : ∀ {text rest}, scan text = some rest → ∃ value, text = value ++ rest ∧ Maskable value)
    (h : Found.of scan text = some found) : FoundIn text found := by
  obtain ⟨after, hafter, rfl⟩ := Option.map_eq_some_iff.mp h
  exact ⟨List.suffix_rfl, hscan hafter⟩

theorem foundIn_token (h : Found.of token text = some found) : FoundIn text found := by
  refine foundIn_of (fun {text rest} h => ?_) h
  rcases Option.or_eq_some_iff.mp h with h | ⟨-, h⟩
  · exact quotedToken_maskable h
  · exact bareToken_maskable h

/-- So is what is left behind the command's own words. -/
theorem snmpServer_suffix (h : snmpServer command = some rest) : rest <:+ command := by
  obtain ⟨start, hstart, hword⟩ := List.exists_of_findSome?_eq_some h
  have hbehind := word_suffix hword
  rw [optional, List.mem_append, Option.mem_toList, List.mem_singleton] at hstart
  rcases hstart with hno | rfl
  · exact hbehind.trans ((word_suffix hno).trans blanks_suffix)
  · exact hbehind.trans blanks_suffix

/-- A community is found in its command. -/
theorem foundIn_community (h : community command = some found) : FoundIn command found := by
  obtain ⟨value, hvalue, hfound⟩ := Option.bind_eq_some_iff.mp h
  obtain ⟨behind, hserver, hword⟩ := Option.bind_eq_some_iff.mp hvalue
  exact (foundIn_token hfound).of_suffix ((word_suffix hword).trans (snmpServer_suffix hserver))

theorem foundIn_communityKeyword {boundary : Bool}
    (h : communityKeyword isWord boundary text = some found) : FoundIn text found := by
  induction text generalizing boundary with
  | nil => cases h
  | cons c text ih =>
    rw [communityKeyword] at h
    rcases Option.or_eq_some_iff.mp h with h | ⟨-, h⟩
    · split at h
      · obtain ⟨value, hvalue, hfound⟩ := Option.bind_eq_some_iff.mp h
        exact (foundIn_token hfound).of_suffix (word_suffix hvalue)
      · cases h
    · split at h
      · cases h
      · exact (ih h).of_suffix (List.suffix_cons c text)

/-- So is that of a receiver. -/
theorem foundIn_hostCommunityKeyword (h : hostCommunityKeyword isWord command = some found) :
    FoundIn command found := by
  obtain ⟨value, hvalue, hfound⟩ := Option.bind_eq_some_iff.mp h
  obtain ⟨behind, hserver, hword⟩ := Option.bind_eq_some_iff.mp hvalue
  exact (foundIn_communityKeyword hfound).of_suffix
    ((word_suffix hword).trans (snmpServer_suffix hserver))

theorem optional_suffix {part : List Char → Option (List Char)}
    (hpart : ∀ {text rest}, part text = some rest → rest <:+ text) (h : rest ∈ optional part text) :
    rest <:+ text := by
  rw [optional, List.mem_append, Option.mem_toList, List.mem_singleton] at h
  rcases h with h | rfl
  · exact hpart h
  · exact List.suffix_rfl

theorem notification_suffix (h : notification text = some rest) : rest <:+ text := by
  rcases Option.or_eq_some_iff.mp h with h | ⟨-, h⟩ <;> exact word_suffix h

theorem version_suffix (h : version text = some rest) : rest <:+ text := by
  obtain ⟨behind, hversion, h⟩ := Option.bind_eq_some_iff.mp h
  rcases Option.or_eq_some_iff.mp h with h | ⟨-, h⟩ <;>
    exact (word_suffix h).trans (word_suffix hversion)

/-- So is that of a Cisco receiver. -/
theorem foundIn_ciscoHost (h : ciscoHost command = some found) : FoundIn command found := by
  obtain ⟨start, hstart, h⟩ := Option.bind_eq_some_iff.mp h
  obtain ⟨host, hhost, hstart⟩ := Option.bind_eq_some_iff.mp hstart
  obtain ⟨server, hserver, hhost⟩ := Option.bind_eq_some_iff.mp hhost
  obtain ⟨behind, hbehind, hstart⟩ := Option.bind_eq_some_iff.mp hstart
  obtain ⟨value, hvalue, hfound⟩ := List.exists_of_findSome?_eq_some h
  obtain ⟨versioned, hversioned, hvalue⟩ := List.mem_flatMap.mp hvalue
  obtain ⟨token, htoken, -⟩ := bareToken_maskable hbehind
  have hhostSuffix : behind <:+ host := ⟨token, htoken.symm⟩
  refine (foundIn_of bareToken_maskable hfound).of_suffix ?_
  exact (optional_suffix version_suffix hvalue).trans <|
    (optional_suffix notification_suffix hversioned).trans <|
    (blanks1_suffix hstart).trans <| hhostSuffix.trans <|
    (word_suffix hhost).trans (snmpServer_suffix hserver)

/-- So is the value of a field. -/
theorem foundIn_setValue {field : List Char → Option (List Char)}
    (hfield : ∀ {text rest}, field text = some rest → rest <:+ text)
    (h : setValue field command = some found) : FoundIn command found := by
  obtain ⟨value, hvalue, h⟩ := Option.bind_eq_some_iff.mp h
  obtain ⟨behind, hset, hvalue⟩ := Option.bind_eq_some_iff.mp hvalue
  split at h
  · cases h
  next hline =>
  obtain rfl := Option.some.inj h
  exact ⟨(hfield hvalue).trans ((word_suffix hset).trans blanks_suffix), value,
    (List.append_nil value).symm, .inl hline⟩

/-- So is what any pattern finds. -/
theorem foundIn_pattern (h : pattern isWord command = some found) : FoundIn command found := by
  rcases Option.or_eq_some_iff.mp h with h | ⟨-, h⟩
  · refine foundIn_setValue (fun {text rest} h => ?_) h
    rcases Option.or_eq_some_iff.mp h with h | ⟨-, h⟩ <;> exact word_suffix h
  rcases Option.or_eq_some_iff.mp h with h | ⟨-, h⟩
  · exact foundIn_community h
  rcases Option.or_eq_some_iff.mp h with h | ⟨-, h⟩
  · exact foundIn_hostCommunityKeyword h
  split at h
  · cases h
  · exact foundIn_ciscoHost h

/-- So is what the redactor finds. -/
theorem foundIn_find {named : Bool} (h : find isWord named command = some found) :
    FoundIn command found := by
  rcases Option.or_eq_some_iff.mp h with h | ⟨-, h⟩
  · split at h
    · exact foundIn_setValue word_suffix h
    · cases h
  · exact foundIn_pattern h

/-! ## What no pattern masks -/

/-- A quote and a line break between two long words: no pattern masks both words. -/
def leak (n : ℕ) : List Char := List.replicate n 'x' ++ ['"', '\n'] ++ List.replicate n 'x'

/-- A text with a quote and a line feed inside cannot be masked. -/
theorem not_maskable {before behind : List Char} (hbefore : before ≠ []) (hbehind : behind ≠ []) :
    ¬Maskable (before ++ ['"', '\n'] ++ behind) := by
  rintro (h | ⟨body, hbody, h⟩)
  · exact h (by simp)
  · obtain ⟨c, front, rfl⟩ := List.exists_cons_of_ne_nil hbefore
    obtain ⟨back, d, rfl⟩ := List.eq_nil_or_concat behind |>.resolve_left hbehind
    rw [List.concat_eq_append, List.cons_append, List.cons_append, ← List.append_assoc] at h
    obtain ⟨-, h⟩ := List.cons.inj h
    obtain ⟨rfl, -⟩ := List.append_inj' h rfl
    exact hbody (by simp)

/-- Around a masked value, at least one of the long words is left. -/
theorem FoundIn.length_le {n : ℕ} (h : FoundIn command found) (hleak : leak n <:+: command) :
    n ≤ (found.replaceIn command).length := by
  obtain ⟨front, hfront⟩ := h.suffix
  obtain ⟨value, hvalue, hmaskable⟩ := h.maskable
  obtain ⟨before, behind, hcommand⟩ := hleak
  by_contra hshort
  have htake : command.take (command.length - found.value.length) = front := by
    rw [← hfront, List.length_append, Nat.add_sub_cancel, List.take_left]
  rw [Found.replaceIn, htake, List.length_append, List.length_append] at hshort
  -- both words reach into the masked value
  have hstart : front <+: before ++ List.replicate n 'x' := by
    have hwords : before ++ List.replicate n 'x' <+: command := by
      refine ⟨['"', '\n'] ++ List.replicate n 'x' ++ behind, ?_⟩
      rw [← hcommand, leak]
      simp only [List.append_assoc]
    refine List.prefix_of_prefix_length_le ⟨found.value, hfront⟩ hwords ?_
    rw [List.length_append, List.length_replicate]
    omega
  have hend : found.after <:+ List.replicate n 'x' ++ behind := by
    have hwords : List.replicate n 'x' ++ behind <:+ command := by
      refine ⟨before ++ List.replicate n 'x' ++ ['"', '\n'], ?_⟩
      rw [← hcommand, leak]
      simp only [List.append_assoc]
    have hafter : found.after <:+ command := by
      refine ⟨front ++ value, ?_⟩
      rw [← hfront, hvalue, List.append_assoc]
    refine List.suffix_of_suffix_length_le hafter hwords ?_
    rw [List.length_append, List.length_replicate]
    omega
  obtain ⟨reached, hreached⟩ := hstart
  obtain ⟨left, hleft⟩ := hend
  have hsplit : value = reached ++ ['"', '\n'] ++ left := by
    have hwhole : front ++ (value ++ found.after) =
        front ++ (reached ++ ['"', '\n'] ++ left ++ found.after) := by
      rw [← hvalue, hfront, ← hcommand, leak]
      simp only [List.append_assoc, ← hleft]
      simp only [← List.append_assoc, ← hreached]
    exact List.append_cancel_right (List.append_cancel_left hwhole)
  refine not_maskable ?_ ?_ (hsplit ▸ hmaskable)
  · rintro rfl
    have hlength := congrArg List.length hreached
    simp only [List.append_nil, List.length_append, List.length_replicate] at hlength
    omega
  · rintro rfl
    have hlength := congrArg List.length hleft
    simp only [List.nil_append, List.length_append, List.length_replicate] at hlength
    omega

/-- A leak is as long as it was. -/
theorem length_redact {n depth : ℕ} (hleak : leak n <:+: command) :
    n ≤ (redact isWord depth command).2.length := by
  have hcommand : n ≤ command.length := by
    refine le_trans ?_ hleak.length_le
    simp only [leak, List.length_append, List.length_replicate]
    omega
  have htext (named : Bool) :
      n ≤ (((find isWord named command).map (·.replaceIn command)).getD command).length := by
    cases hfind : find isWord named command with
    | none => exact hcommand
    | some found => exact (foundIn_find hfind).length_le hleak
  rw [redact]
  split_ifs <;> exact htext _

/-- A list of commands with one that leaks stays long. -/
theorem length_redactFrom {n depth : ℕ} {commands : List (List Char)} (hmem : command ∈ commands)
    (hleak : leak n <:+: command) :
    ∃ text ∈ redactFrom isWord depth commands, n ≤ text.length := by
  induction commands generalizing depth with
  | nil => cases hmem
  | cons first commands ih =>
    rcases List.mem_cons.mp hmem with rfl | hmem
    · exact ⟨_, List.mem_cons_self, length_redact hleak⟩
    · obtain ⟨text, htext, hlength⟩ := ih hmem
      exact ⟨text, List.mem_cons_of_mem _ htext, hlength⟩

variable (isWord) in
/-- So it is among other commands. -/
theorem length_redactCommands {n : ℕ} {commands : List String} {command : String}
    (hmem : command ∈ commands) (hleak : leak n <:+: command.toList) :
    ∃ text ∈ redactCommands isWord commands, n ≤ text.length := by
  obtain ⟨text, htext, hlength⟩ : ∃ text ∈ redactFrom isWord 0 (commands.map String.toList),
      n ≤ text.length := length_redactFrom (List.mem_map_of_mem hmem) hleak
  refine ⟨String.ofList text, List.mem_map_of_mem htext, ?_⟩
  rwa [← String.length_toList, String.toList_ofList]

end Masked

end SwitchConfigurator.Redact
