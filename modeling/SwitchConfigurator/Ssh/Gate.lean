import SwitchConfigurator.Foundations.CommandRun
import SwitchConfigurator.Vendors.Text

/-!
# What a dry run sends

The two copies of the gate in `execute_command`, one in `ssh/client.rs` and one in
`ssh/serial.rs`. What they make of a command depends on its first words only.
-/

namespace SwitchConfigurator.Ssh

open Cli

/-! ## The gates -/

/-- `command.trim().starts_with(start)` -/
def trimmedStartsWith (start command : String) : Bool :=
  start.toList.isPrefixOf (trim command.toList)

/-- `command.trim() == text` -/
def trimmedIs (text command : String) : Bool := trim command.toList == text.toList

namespace SshClient

def isReadonly (command : String) : Bool := trimmedStartsWith "show " command

def isSessionSetting (command : String) : Bool :=
  trimmedIs "no page" command || trimmedIs "terminal length 0" command ||
    trimmedIs "terminal pager 0" command || trimmedIs "end" command ||
    trimmedIs "config system console" command || trimmedIs "set output standard" command

/-- Is the command put on the wire? -/
def sends (dryRun : Bool) (command : String) : Bool :=
  !(dryRun && !isReadonly command && !isSessionSetting command)

end SshClient

namespace SerialClient

def isReadonly (command : String) : Bool :=
  trimmedStartsWith "show " command || trimmedStartsWith "get " command

def isSessionSetting (command : String) : Bool :=
  trimmedIs "no page" command || trimmedIs "terminal length 0" command ||
    trimmedIs "terminal pager 0" command || trimmedIs "enable" command ||
    trimmedIs "end" command || trimmedIs "config system console" command ||
    trimmedIs "set output standard" command

/-- Is the command put on the wire? `authMode` is on while the client logs in. -/
def sends (dryRun authMode : Bool) (command : String) : Bool :=
  !(dryRun && !authMode && !isReadonly command && !isSessionSetting command)

end SerialClient

/-! ## Words -/

/-- A blank at the end makes no difference. -/
theorem splitWhitespace_concat_blank {c : Char} (h : isWhitespace c = true) (text : List Char) :
    splitWhitespace (text ++ [c]) = splitWhitespace text := by
  have hsplit : (text ++ [c]).splitOnP isWhitespace = text.splitOnP isWhitespace ++ [[]] := by
    induction text with
    | nil => rw [List.nil_append, List.splitOnP_cons_eq_if_modifyHead, if_pos h]; rfl
    | cons a text ih =>
      rw [List.cons_append, List.splitOnP_cons_eq_if_modifyHead, ih,
        List.splitOnP_cons_eq_if_modifyHead]
      split
      · rfl
      · cases hparts : text.splitOnP isWhitespace with
        | nil => exact absurd hparts (List.splitOnP_ne_nil _ _)
        | cons part parts => rfl
  rw [splitWhitespace, hsplit, List.filter_append, splitWhitespace]
  exact List.append_nil _

/-- Whitespace around a command makes no difference to its words. -/
theorem splitWhitespace_trim (text : List Char) :
    splitWhitespace (trim text) = splitWhitespace text := by
  have hfront : splitWhitespace (text.dropWhile isWhitespace) = splitWhitespace text := by
    induction text with
    | nil => rfl
    | cons c text ih =>
      by_cases hc : isWhitespace c = true
      · rw [List.dropWhile_cons_of_pos hc, ih, splitWhitespace_cons_blank hc]
      · rw [List.dropWhile_cons_of_neg hc]
  rw [trim, ← hfront]
  generalize text.dropWhile isWhitespace = text
  induction text using List.reverseRecOn with
  | nil => rfl
  | append_singleton text c ih =>
    by_cases hc : isWhitespace c = true
    · rw [List.rdropWhile_concat_pos _ _ _ hc, ih, splitWhitespace_concat_blank hc]
    · rw [List.rdropWhile_concat_neg _ _ _ hc]

/-- A command that is the text has its words. -/
theorem splitWhitespace_of_trimmedIs {text command : String} (h : trimmedIs text command = true) :
    splitWhitespace command.toList = splitWhitespace text.toList := by
  rw [← splitWhitespace_trim, eq_of_beq h]

/-- A command that starts with a word has it in front. -/
theorem head_of_trimmedStartsWith {word command : String} (hword : IsWord word.toList)
    (h : trimmedStartsWith (word ++ " ") command = true) :
    (splitWhitespace command.toList).head? = some word.toList := by
  obtain ⟨rest, hrest⟩ := List.isPrefixOf_iff_prefix.mp h
  rw [← splitWhitespace_trim, ← hrest, String.toList_append, List.append_assoc]
  exact congrArg List.head? (splitWhitespace_cons hword)

/-- The words of a command that starts with a keyword. -/
theorem splitWhitespace_render_cons {keyword : String} (h : IsWord keyword.toList)
    (words : List Arg) : splitWhitespace (render (.bare keyword :: words)).toList =
      keyword.toList :: splitWhitespace (render words).toList := by
  cases words with
  | nil =>
    simpa [render, Arg.text, splitWhitespace] using splitWhitespace_word h
  | cons word words =>
    have hrender : (render (.bare keyword :: word :: words)).toList =
        keyword.toList ++ ' ' :: (render (word :: words)).toList := by
      simp only [render, List.map_cons, String.toList_intercalate, List.intercalate_cons_cons,
        List.append_assoc]
      rfl
    rw [hrender, splitWhitespace_cons h]

/-- The words that a command which gets past a gate starts with. -/
def passWords : List (List String) :=
  [["show"], ["get"], ["no", "page"], ["terminal"], ["enable"], ["end"],
    ["config", "system", "console"], ["set", "output", "standard"]]

/-- On a dry run the serial client sends reads and settings of the session. -/
theorem SerialClient.sends_iff {command : String} : SerialClient.sends true false command = true ↔
    SerialClient.isReadonly command = true ∨ SerialClient.isSessionSetting command = true := by
  cases hread : SerialClient.isReadonly command <;>
    cases hset : SerialClient.isSessionSetting command <;> simp [SerialClient.sends, hread, hset]

/-- So does the other one, by lists of its own. -/
theorem SshClient.sends_iff {command : String} : SshClient.sends true command = true ↔
    SshClient.isReadonly command = true ∨ SshClient.isSessionSetting command = true := by
  cases hread : SshClient.isReadonly command <;>
    cases hset : SshClient.isSessionSetting command <;> simp [SshClient.sends, hread, hset]

/-- The serial gate lets through what the other one does. -/
theorem SshClient.sends_imp {command : String} (h : SshClient.sends true command = true) :
    SerialClient.sends true false command = true := by
  rw [SshClient.sends_iff] at h
  rw [SerialClient.sends_iff]
  simp only [SshClient.isReadonly, SshClient.isSessionSetting, SerialClient.isReadonly,
    SerialClient.isSessionSetting, Bool.or_eq_true] at h ⊢
  grind

/-- A command that gets past the serial gate starts with such words. -/
theorem exists_passWords {command : String} (h : SerialClient.sends true false command = true) :
    ∃ words ∈ passWords, words.map String.toList <+: splitWhitespace command.toList := by
  have hread {word : String} (hword : IsWord word.toList)
      (h : trimmedStartsWith (word ++ " ") command = true) :
      [word].map String.toList <+: splitWhitespace command.toList := by
    have hhead := head_of_trimmedStartsWith hword h
    cases hsplit : splitWhitespace command.toList with
    | nil =>
      rw [hsplit] at hhead
      cases hhead
    | cons first rest =>
      rw [hsplit] at hhead
      obtain rfl : first = word.toList := Option.some.inj hhead
      exact List.prefix_append [word.toList] rest
  have hset {text : String} {words : List String} (h : trimmedIs text command = true)
      (hwords : words.map String.toList <+: splitWhitespace text.toList) :
      words.map String.toList <+: splitWhitespace command.toList := by
    rwa [splitWhitespace_of_trimmedIs h]
  have hword {word : String} (h : word ∈ ["show", "get"]) : IsWord word.toList := by
    simp only [List.mem_cons, List.not_mem_nil, or_false] at h
    rcases h with rfl | rfl <;> exact ⟨by decide, by decide⟩
  rw [SerialClient.sends_iff] at h
  simp only [SerialClient.isReadonly, SerialClient.isSessionSetting, Bool.or_eq_true, or_assoc] at h
  -- one case for each test of the gate, in its order
  rcases h with h | h | h | h | h | h | h | h | h
  · exact ⟨["show"], by decide, hread (hword (by decide)) h⟩
  · exact ⟨["get"], by decide, hread (hword (by decide)) h⟩
  · exact ⟨["no", "page"], by decide, hset h (by decide)⟩
  · exact ⟨["terminal"], by decide, hset h (by decide)⟩
  · exact ⟨["terminal"], by decide, hset h (by decide)⟩
  · exact ⟨["enable"], by decide, hset h (by decide)⟩
  · exact ⟨["end"], by decide, hset h (by decide)⟩
  · exact ⟨["config", "system", "console"], by decide, hset h (by decide)⟩
  · exact ⟨["set", "output", "standard"], by decide, hset h (by decide)⟩

/-! ## Commands that are held back -/

/-- Neither gate lets the command through. -/
def HeldBack (words : List Arg) : Prop :=
  SshClient.sends true (render words) = false ∧ SerialClient.sends true false (render words) = false

/-- What the serial client does not send is held back. -/
theorem heldBack_of_sends {words : List Arg}
    (h : SerialClient.sends true false (render words) ≠ true) : HeldBack words := by
  refine ⟨?_, by simpa using h⟩
  cases hssh : SshClient.sends true (render words) with
  | true => exact absurd (SshClient.sends_imp hssh) h
  | false => rfl

/-- Keywords in front are words of their own. -/
theorem splitWhitespace_render_append {keywords : List String} {rest : List Arg}
    (h : ∀ keyword ∈ keywords, IsWord keyword.toList) :
    splitWhitespace (render (keywords.map .bare ++ rest)).toList =
      keywords.map String.toList ++ splitWhitespace (render rest).toList := by
  induction keywords with
  | nil => rfl
  | cons keyword keywords ih =>
    obtain ⟨hkeyword, hkeywords⟩ := List.forall_mem_cons.mp h
    rw [List.map_cons, List.cons_append, splitWhitespace_render_cons hkeyword, ih hkeywords]
    rfl

/-- Keywords that no command on the list starts with. -/
def Distinctive (keywords : List String) : Prop :=
  (∀ keyword ∈ keywords, keyword.toList ≠ [] ∧ ∀ c ∈ keyword.toList, isWhitespace c = false) ∧
    ∀ words ∈ passWords, ¬(words.map String.toList).take keywords.length <+:
      keywords.map String.toList

instance {keywords : List String} : Decidable (Distinctive keywords) :=
  inferInstanceAs (Decidable (_ ∧ _))

/-- The keywords that a command starts with are enough to hold it back. -/
theorem heldBack_of_distinctive {keywords : List String} (h : Distinctive keywords)
    (rest : List Arg) : HeldBack (keywords.map .bare ++ rest) := by
  refine heldBack_of_sends fun hsends => ?_
  obtain ⟨words, hwords, hprefix⟩ := exists_passWords hsends
  rw [splitWhitespace_render_append h.1] at hprefix
  refine h.2 words hwords ?_
  have htake := hprefix.take keywords.length
  rw [List.take_append_of_le_length (by simp)] at htake
  exact htake.trans (List.take_prefix _ _)

example : Distinctive ["no", "vlan"] := by decide

end SwitchConfigurator.Ssh
