import SwitchConfigurator.Foundations.Dialogue
import SwitchConfigurator.Ssh.PromptWait

/-!
# Logging in over the serial console

`login_inner`, `login`, `login_with_factory_default_fallback` and what they call. What the device
sends back is the answer to a reading, in the chunks it was read in. The waits between what is
typed and what is read are left out, and so is what is only logged.
-/

namespace SwitchConfigurator.Ssh

open Snmp (fromUtf8Lossy)
open Aruba (stripAnsi)

/-! ## The console -/

/-- What is typed, and what it is for: Ctrl-C, a carriage return, a blank, `no`, `end`, `enable` or
a text, the words with a carriage return behind them. -/
inductive Keys where
  | interrupt
  | enter
  | space
  | no
  | «end»
  | enable
  | username (name : String)
  | password (password : String)
  | newPassword (password : String)
  deriving DecidableEq, Repr

namespace Console

inductive Call where
  | send (keys : Keys)
  /-- `check_current_state`, for so many seconds. -/
  | read (timeout : ℕ)
  | clearBuffer
  deriving DecidableEq, Repr

/-- The port may fail, with any message. -/
abbrev Answer : Call → Type
  | .send _ => Except String Unit
  | .read _ => Except String (List (List UInt8))
  | .clearBuffer => Unit

inductive LoginFailure where
  | error (message : String)
  | panicked
  deriving DecidableEq, Repr

end Console

abbrev Console : Type → Type := Dialogue Console.Answer Console.LoginFailure

namespace Console

def send (keys : Keys) : Console Unit :=
  .ask (.send keys) fun sent => .ofExcept (Except.mapError LoginFailure.error sent)

def readChunks (timeout : ℕ) : Console (List (List UInt8)) :=
  .ask (.read timeout) fun read => .ofExcept (Except.mapError LoginFailure.error read)

/-- Each chunk is decoded by itself. -/
def received (chunks : List (List UInt8)) : List Char := chunks.flatMap fromUtf8Lossy

def checkCurrentState (timeout : ℕ) : Console (List Char) := do
  return received (← readChunks timeout)

def clearBuffer : Console Unit := .ask .clearBuffer .ok

def bail {α : Type} (message : String) : Console α := .fail (.error message)

end Console

/-! ## What is recognised -/

/-- Does the word occur in the text? -/
def contains (word : String) (text : List Char) : Bool := word.toList <:+: text

def isForcedPasswordChangePrompt (text : List Char) : Bool := contains "New Password:" text

def isPasswordConfirmPrompt (text : List Char) : Bool := contains "Re-enter New Password:" text

def isPasswordChangeRejected (text : List Char) : Bool :=
  contains "doesn't match" text || contains "doesn't conform" text

def showsLogin (text : List Char) : Bool := contains "login:" text || contains "Username:" text

def showsPrompt (text : List Char) : Bool := text.contains '#' || text.contains '>'

def sessionTerminated (text : List Char) : Bool :=
  contains "Session Terminated" (stripAnsi text) || contains "session terminated" (stripAnsi text)

/-! ## Messages -/

section Messages

variable (printable : Char → Bool)

/-- `{:?}` of a character; `printable` tells which others are shown as they are. -/
def escapeDebug (c : Char) : List Char :=
  if c = '\x00' then "\\0".toList
  else if c = '\t' then "\\t".toList
  else if c = '\r' then "\\r".toList
  else if c = '\n' then "\\n".toList
  else if c = '"' then "\\\"".toList
  else if c = '\\' then "\\\\".toList
  else if printable c then [c]
  else "\\u\x7b".toList ++ Nat.toDigits 16 c.toNat ++ "\x7d".toList

/-- `{:?}` of a string. -/
def debugStr (text : List Char) : String :=
  String.ofList ('"' :: (text.flatMap (escapeDebug printable) ++ ['"']))

def stuckMessage (state : List Char) : String :=
  "Failed to detect login prompt or command prompt after 3 recovery attempts. Last state: " ++
    debugStr printable (state.take 200) ++ (". The serial session may be stuck — try " ++
    "power-cycling the console connection or rebooting the switch.")

def shortPasswordMessage (length : ℕ) : String :=
  "Switch demands a password change on first login (its password policy rejected the " ++
    "current/default password), but the configured password is only " ++ toString length ++
    (" character(s). FortiOS's default policy requires at least 8. Set a compliant password in " ++
    "the switch credentials and try again — this tool will not invent or guess a replacement " ++
    "password.")

def unconfirmedMessage (state : List Char) : String :=
  "Expected FortiOS's 'Re-enter New Password:' confirmation prompt after sending the new " ++
    "password, got: " ++ debugStr printable (state.take 200)

def rejectedMessage (state : List Char) : String :=
  "FortiOS rejected the password change (mismatched confirmation, or the password itself " ++
    "violates the device's policy). Last state: " ++ debugStr printable (state.take 200)

def notRespondingMessage (baudRate : ℕ) : String :=
  "Serial device not responding. Possible causes: (1) Device locked by another process (e.g., " ++
    "picocom, minicom, screen), (2) Switch powered off or not connected, (3) Wrong baud rate " ++
    "(configured: " ++ toString baudRate ++ ")"

def notAuthenticatedMessage : String :=
  "Serial session not authenticated. Got a login/password prompt instead of a command prompt. " ++
    "The login sequence may have failed."

def fallbackMessage (first fallback : String) : String :=
  "Login failed with the configured password (" ++ first ++ "); factory-default fallback also " ++
    "failed: " ++ fallback

end Messages

/-! ## The login -/

namespace SerialClient

open Console

variable (printable : Char → Bool)

/-- The banner of the policy may arrive before the prompt itself. -/
def stateWithPrompt (state : List Char) : Console (List Char) :=
  if !isForcedPasswordChangePrompt state && contains "password policy" state then
    checkCurrentState 2
  else pure state

def changePassword (newPassword : String) : Console Unit := do
  send (.newPassword newPassword)
  let confirm ← checkCurrentState 2
  if !isPasswordConfirmPrompt confirm then
    bail (unconfirmedMessage printable confirm)
  else do
    send (.newPassword newPassword)
    let result ← checkCurrentState 3
    if isPasswordChangeRejected result then
      bail (rejectedMessage printable result)
    else pure ()

def maybeCompleteForcedPasswordChange (newPassword : String) (stateAfterLogin : List Char) :
    Console Unit := do
  let state ← stateWithPrompt stateAfterLogin
  if !isForcedPasswordChangePrompt state then pure ()
  else if newPassword.utf8ByteSize < 8 then
    bail (shortPasswordMessage newPassword.utf8ByteSize)
  else changePassword printable newPassword

/-- What is typed at a login prompt. -/
def enterCredentials (username currentPassword newPasswordIfForced : String) : Console Unit := do
  send (.username username)
  send (.password currentPassword)
  let postLoginState ← checkCurrentState 2
  maybeCompleteForcedPasswordChange printable newPasswordIfForced postLoginState

/-- The initial configuration dialog of a Cisco switch is declined. -/
def declineDialog (state : List Char) : Console (List Char) :=
  if contains "initial configuration dialog" state then do
    send .no
    checkCurrentState 2
  else pure state

/-- A session that is still open may stand in the configuration mode; what it answers is not
looked at. -/
def leaveConfig (state : List Char) : Console Unit :=
  if contains "(config" (stripAnsi state) then do
    send .end
    let _ ← (checkCurrentState 1).attempt (E := LoginFailure)
    pure ()
  else pure ()

/-- What is typed to get a stuck session to answer. -/
def wake : ℕ → Console Unit
  | 1 => do
    send .interrupt
    send .enter
  | 2 => do
    send .space
    send .interrupt
    send .enter
  | _ => send .enter

/-- A session that was just terminated is followed by a banner and a new login prompt. -/
def awaitNewSession (state : List Char) : Console (List Char) :=
  if sessionTerminated state then do
    clearBuffer
    send .enter
    checkCurrentState 5
  else pure state

/-- The attempts that are left, and the state last read. -/
def recover (username currentPassword newPasswordIfForced : String) :
    List ℕ → List Char → Console Unit
  | [], state => bail (stuckMessage printable state)
  | attempt :: rest, _ => do
    wake attempt
    let state ← checkCurrentState 3
    let state ← awaitNewSession state
    if showsLogin state then
      enterCredentials printable username currentPassword newPasswordIfForced
    else if showsPrompt state then pure ()
    else recover username currentPassword newPasswordIfForced rest state

/-- Where `enable` asks for a password, it is left empty. -/
def leaveEmpty (response : List Char) : Console Unit :=
  if contains "Password:" response then send .enter else pure ()

def enable : Console Unit := do
  send .enable
  let response ← checkCurrentState 2
  leaveEmpty response
  send .enter
  let _ ← checkCurrentState 2
  pure ()

def enterPrivilegedMode : Console Unit := do
  send .enter
  let promptRaw ← checkCurrentState 2
  if (lastNonemptyLine (stripAnsi promptRaw)).getLast? = some '>' then enable else pure ()

def judge (baudRate : ℕ) : Connectivity → Console Unit
  | .ready => pure ()
  | .noResponse => bail (notRespondingMessage baudRate)
  | .notAuthenticated => bail notAuthenticatedMessage
  | .panicked => .fail .panicked

/-- `verify_connectivity`. -/
def verify (baudRate : ℕ) : Console Unit := do
  send .enter
  judge baudRate (verifyConnectivity (← readChunks 3))

/-- What leads to a session that takes commands, as far as can be told. -/
def openSession (username currentPassword newPasswordIfForced : String) : Console Unit := do
  send .interrupt
  send .enter
  let state ← declineDialog (← checkCurrentState 2)
  if showsLogin state then
    enterCredentials printable username currentPassword newPasswordIfForced
  else if showsPrompt state then leaveConfig state
  else recover printable username currentPassword newPasswordIfForced [1, 2, 3] state

def loginInner (baudRate : ℕ) (username currentPassword newPasswordIfForced : String) :
    Console Unit := do
  openSession printable username currentPassword newPasswordIfForced
  enterPrivilegedMode
  verify baudRate

def login (baudRate : ℕ) (username password : String) : Console Unit :=
  loginInner printable baudRate username password password

def loginWithFactoryDefaultFallback (baudRate : ℕ) (username password : String) :
    Console Unit := do
  match ← (login printable baudRate username password).attempt with
  | .ok () => pure ()
  | .error .panicked => .fail .panicked
  | .error (.error first) =>
    if password.isEmpty || !contains "not authenticated" first.toList then bail first
    else
      (loginInner printable baudRate username "" password).mapError fun
        | .error fallback => .error (fallbackMessage first fallback)
        | .panicked => .panicked

end SerialClient

end SwitchConfigurator.Ssh
