import SwitchConfigurator.Snmp.Mapping
import SwitchConfigurator.Vendors.Aruba.RunningConfig

/-!
# Waiting for a prompt

`wait_for_prompt` of the SSH and of the serial client, `verify_connectivity` of the serial client
and `strip_pager_prompt`. Bytes arrive in chunks of any size, and what the clock says is part of
the events. The patterns run on the received bytes as `from_utf8_lossy` decodes them, without
escape sequences; the pager prompt is taken out of the bytes themselves.
-/

namespace SwitchConfigurator.Ssh

open Snmp (fromUtf8Lossy firstChar)
open Aruba (stripAnsi)

/-! ## Slices of a text -/

/-- The bytes of a `str`. -/
def utf8 (text : List Char) : List UInt8 := text.flatMap String.utf8EncodeChar

/-- `str::is_char_boundary`; a slice that starts or ends elsewhere panics. -/
def isCharBoundary (text : List Char) (index : ℕ) : Bool :=
  if index = 0 then true
  else
    match (utf8 text)[index]? with
    | none => index == (utf8 text).length
    | some b => b < 0x80 || 0xC0 ≤ b

/-- `&text[text.len().saturating_sub(n)..]` -/
def canSliceLast (n : ℕ) (text : List Char) : Bool := isCharBoundary text ((utf8 text).length - n)

/-- `&text[..text.len().min(n)]` -/
def canSliceFirst (n : ℕ) (text : List Char) : Bool :=
  isCharBoundary text (min (utf8 text).length n)

/-! ## The pager prompt -/

section Marker

variable {α : Type*} (char : α → Char)

/-- What follows on a word. -/
def behindWord : List Char → List α → Option (List α)
  | [], text => some text
  | _ :: _, [] => none
  | c :: word, a :: text => if char a = c then behindWord word text else none

def behindBlanks (text : List α) : List α := text.dropWhile fun a => isWhitespace (char a)

/-- What follows on `--\s*MORE\s*--`. -/
def behindMarker (text : List α) : Option (List α) :=
  ((behindWord char "--".toList text).bind fun rest =>
    behindWord char "MORE".toList (behindBlanks char rest)).bind fun rest =>
      behindWord char "--".toList (behindBlanks char rest)

def hasMarker : List α → Bool
  | [] => false
  | a :: text => (behindMarker char (a :: text)).isSome || hasMarker text

end Marker

/-- A character of a byte string, or bytes that are none; those are read as `char`. -/
structure Scalar where
  char : Char
  bytes : List UInt8
  deriving DecidableEq, Repr

/-- Are these the bytes of the character? -/
def Scalar.valid (scalar : Scalar) : Bool := utf8 [scalar.char] == scalar.bytes

/-- `[^\r\n]` -/
def Scalar.inLine (scalar : Scalar) : Bool :=
  scalar.valid && scalar.char != '\r' && scalar.char != '\n'

/-- The characters after so many bytes that belong to the one before. -/
def scalarsFrom : ℕ → List UInt8 → List Scalar
  | _, [] => []
  | skipped + 1, _ :: rest => scalarsFrom skipped rest
  | 0, a :: rest =>
    let first := firstChar a rest
    ⟨first.1, a :: rest.take first.2⟩ :: scalarsFrom first.2 rest

def scalars (bytes : List UInt8) : List Scalar := scalarsFrom 0 bytes

/-- What follows on `--\s*MORE\s*--[^\r\n]*`. -/
def behindPrompt (scalars : List Scalar) : Option (List Scalar) :=
  (behindMarker Scalar.char scalars).map fun rest => rest.dropWhile Scalar.inLine

/-- The scalars that are in no pager prompt, after so many of a prompt that is found already. -/
def stripFrom : ℕ → List Scalar → List Scalar
  | _, [] => []
  | skipped + 1, _ :: rest => stripFrom skipped rest
  | 0, scalar :: rest =>
    match behindPrompt (scalar :: rest) with
    | some behind => stripFrom (rest.length - behind.length) rest
    | none => scalar :: stripFrom 0 rest

/-- Whether there was a prompt, and what is left. -/
def stripPagerPrompt (output : List UInt8) : Bool × List UInt8 :=
  (hasMarker Scalar.char (scalars output), (stripFrom 0 (scalars output)).flatMap Scalar.bytes)

/-! ## Patterns of prompts -/

/-- The received bytes as the patterns see them. -/
def clean (output : List UInt8) : List Char := stripAnsi (fromUtf8Lossy output)

/-- `--\s*MORE\s*--` -/
def moreMatches (text : List Char) : Bool := hasMarker id text

/-- The pattern `word\s*$`. -/
def endsInWord (word : String) (text : List Char) : Bool :=
  word.toList.isSuffixOf (text.rdropWhile isWhitespace)

def pressKeyMatches (text : List Char) : Bool := endsInWord "Press any key to continue" text

def interactiveMatches (text : List Char) : Bool :=
  endsInWord "Username:" text || endsInWord "username:" text || endsInWord "Password:" text ||
    endsInWord "password:" text || endsInWord "Enable password:" text

/-- `\s*(\([^\)]+\))?\s*[>#]\s*$` -/
def promptEndMatches (text : List Char) : Bool :=
  let text := text.dropWhile isWhitespace
  let text :=
    match text with
    | '(' :: context =>
      match context.dropWhile (· != ')') with
      | _ :: rest => if context.head? = some ')' then text else rest.dropWhile isWhitespace
      | [] => text
    | _ => text
  match text with
  | [] => false
  | c :: rest => (c == '>' || c == '#') && rest.all isWhitespace

section Wait

variable (isWord : Char → Bool)

/-- `^[\w-]{2,}\s*(\([^\)]+\))?\s*[>#]\s*$`. No word character can be part of what follows on the
name. -/
def promptMatches (line : List Char) : Bool :=
  let name := line.takeWhile fun c => isWord c || c == '-'
  2 ≤ name.length && promptEndMatches (line.drop name.length)

/-- The same pattern without `^`. -/
def endPromptMatches (line : List Char) : Bool := line.tails.any (promptMatches isWord)

def lastNonemptyLine (text : List Char) : List Char :=
  trim (((strLines text).reverse.find? fun line => !(trim line).isEmpty).getD [])

/-- A prompt on the last line, at its end, or on one of the last three. -/
def hasPrompt (text : List Char) : Bool :=
  promptMatches isWord (lastNonemptyLine text) ||
    ((strLines text).reverse.take 3).any (fun line => promptMatches isWord (trim line)) ||
    endPromptMatches isWord (lastNonemptyLine text)

/-! ## The loop -/

inductive Client where
  | ssh
  | serial
  deriving DecidableEq, Repr

structure Wait where
  output : List UInt8 := []
  /-- `prompt_detected_at` is set. -/
  detected : Bool := false
  deriving DecidableEq, Repr

/-- What may happen next; `sent` tells whether an answer can be written. -/
inductive Event where
  | timeout
  /-- The confirmation delay is over. -/
  | settled
  | data (chunk : List UInt8) (sent : Bool)
  /-- Nothing was read, or nothing that is data. -/
  | quiet
  /-- No data for the settle time. -/
  | idle (sent : Bool)
  /-- Reading failed, or the channel was closed. -/
  | closed
  deriving DecidableEq, Repr

inductive Status where
  | waiting (wait : Wait)
  | returned (text : List Char)
  | failed
  | panicked
  deriving DecidableEq, Repr

inductive Answer where
  | enter
  | space
  deriving DecidableEq, Repr

/-- An answer is written and the loop goes on, or writing fails. -/
def answer (key : Answer) (sent : Bool) (output : List UInt8) : Option Answer × Status :=
  if sent then (some key, .waiting { output, detected := false }) else (none, .failed)

/-- Data arrived; the trace message holds the last 100 bytes of the text. -/
def onData (output : List UInt8) (sent : Bool) : Option Answer × Status :=
  let text := fromUtf8Lossy output
  if canSliceLast 100 text = false then (none, .panicked)
  else if pressKeyMatches (clean output) then answer .enter sent []
  else if moreMatches (clean output) then answer .space sent (stripPagerPrompt output).2
  else if interactiveMatches (clean output) then (none, .returned text)
  else (none, .waiting { output, detected := hasPrompt isWord (clean output) })

/-- Only the serial client answers here. -/
def onIdle (client : Client) (output : List UInt8) (sent : Bool) : Option Answer × Status :=
  if client = .serial && pressKeyMatches (clean output) then answer .enter sent []
  else if client = .serial && moreMatches (clean output) then
    answer .space sent (stripPagerPrompt output).2
  else if hasPrompt isWord (clean output) || interactiveMatches (clean output) then
    (none, .returned (fromUtf8Lossy output))
  else (none, .waiting { output, detected := false })

def step (client : Client) (wait : Wait) : Event → Option Answer × Status
  | .timeout =>
    (none, if canSliceLast 200 (clean wait.output) then .failed else .panicked)
  | .settled =>
    (none, if wait.detected then .returned (fromUtf8Lossy wait.output) else .waiting wait)
  | .data chunk sent =>
    if client = .serial && chunk.isEmpty then (none, .waiting wait)
    else onData isWord (wait.output ++ chunk) sent
  | .quiet => (none, .waiting wait)
  | .idle sent =>
    if wait.detected || wait.output.isEmpty then (none, .waiting wait)
    else onIdle isWord client wait.output sent
  | .closed => (none, .failed)

/-- The answers that were sent, and where the loop is after the events; it takes no event once it
is left. -/
def waitForPrompt (client : Client) : Wait → List Event → List Answer × Status
  | wait, [] => ([], .waiting wait)
  | wait, event :: events =>
    match step isWord client wait event with
    | (key, .waiting next) =>
      let rest := waitForPrompt client next events
      (key.toList ++ rest.1, rest.2)
    | (key, status) => (key.toList, status)

end Wait

/-! ## Verifying connectivity -/

inductive Connectivity where
  | ready
  | noResponse
  | notAuthenticated
  | panicked
  deriving DecidableEq, Repr

/-- `verify_connectivity`, with the chunks that `check_current_state` accumulates. -/
def verifyConnectivity (chunks : List (List UInt8)) : Connectivity :=
  let text := trim (stripAnsi (chunks.flatMap fromUtf8Lossy))
  if text.isEmpty then .noResponse
  else if '#' ∈ text ∨ '>' ∈ text then .ready
  else if "Password:".toList <:+: text ∨ "login:".toList <:+: text ∨
      "Username:".toList <:+: text then .notAuthenticated
  else if canSliceFirst 200 text then .ready
  else .panicked

end SwitchConfigurator.Ssh
