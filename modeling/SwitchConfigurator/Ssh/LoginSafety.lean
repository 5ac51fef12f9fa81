import SwitchConfigurator.Foundations.CliText
import SwitchConfigurator.Ssh.SerialLogin
import SwitchConfigurator.Vendors.Text

/-!
# What a login types

Whatever the device shows, credentials are typed only where it asks for them, and only so often.
-/

namespace SwitchConfigurator.Ssh

open Dialogue Console SerialClient
open Aruba (stripAnsi)

namespace Console

/-- A call on the console, with what came of it. -/
abbrev Exchange : Type := Dialogue.Event Answer

def sent (keys : Keys) : Exchange := ⟨.send keys, .ok ()⟩

def shown (timeout : ℕ) (chunks : List (List UInt8)) : Exchange := ⟨.read timeout, .ok chunks⟩

/-- The last that happened is that the text was read. -/
def JustRead (before : List Exchange) (text : List Char) : Prop :=
  ∃ timeout chunks, before.getLast? = some (shown timeout chunks) ∧ received chunks = text

section Rules

variable {α : Type} {allowed : List Exchange → Call → Prop} {before : List Exchange}

theorem keeps_send {keys : Keys} {post : List Exchange → Except LoginFailure Unit → Prop} :
    Keeps allowed post before (send keys) ↔ allowed before (.send keys) ∧
      post (before ++ [sent keys]) (.ok ()) ∧
        ∀ message, post (before ++ [⟨.send keys, .error message⟩]) (.error (.error message)) := by
  refine and_congr_right fun _ => ?_
  simp only [keeps_ofExcept]
  constructor
  · intro h
    exact ⟨h (.ok ()), fun message => h (.error message)⟩
  · rintro ⟨hok, herror⟩ (message | _)
    · exact herror message
    · exact hok

theorem keeps_readChunks {timeout : ℕ}
    {post : List Exchange → Except LoginFailure (List (List UInt8)) → Prop} :
    Keeps allowed post before (readChunks timeout) ↔ allowed before (.read timeout) ∧
      (∀ chunks, post (before ++ [shown timeout chunks]) (.ok chunks)) ∧
        ∀ message,
          post (before ++ [⟨.read timeout, .error message⟩]) (.error (.error message)) := by
  refine and_congr_right fun _ => ?_
  simp only [keeps_ofExcept]
  constructor
  · intro h
    exact ⟨fun chunks => h (.ok chunks), fun message => h (.error message)⟩
  · rintro ⟨hok, herror⟩ (message | chunks)
    · exact herror message
    · exact hok chunks

theorem keeps_checkCurrentState {timeout : ℕ}
    {post : List Exchange → Except LoginFailure (List Char) → Prop} :
    Keeps allowed post before (checkCurrentState timeout) ↔ allowed before (.read timeout) ∧
      (∀ chunks, post (before ++ [shown timeout chunks]) (.ok (received chunks))) ∧
        ∀ message,
          post (before ++ [⟨.read timeout, .error message⟩]) (.error (.error message)) := by
  rw [checkCurrentState, keeps_bind, keeps_readChunks]
  simp only [keeps_pure]

theorem keeps_send_bind {keys : Keys} {f : Unit → Console α}
    {post : List Exchange → Except LoginFailure α → Prop} :
    Keeps allowed post before (send keys >>= f) ↔ allowed before (.send keys) ∧
      Keeps allowed post (before ++ [sent keys]) (f ()) ∧
        ∀ message, post (before ++ [⟨.send keys, .error message⟩]) (.error (.error message)) := by
  rw [keeps_bind, keeps_send]

theorem keeps_check_bind {timeout : ℕ} {f : List Char → Console α}
    {post : List Exchange → Except LoginFailure α → Prop} :
    Keeps allowed post before (checkCurrentState timeout >>= f) ↔ allowed before (.read timeout) ∧
      (∀ chunks, Keeps allowed post (before ++ [shown timeout chunks]) (f (received chunks))) ∧
        ∀ message,
          post (before ++ [⟨.read timeout, .error message⟩]) (.error (.error message)) := by
  rw [keeps_bind, keeps_checkCurrentState]

end Rules

end Console

/-! ## Why a login fails -/

/-- The phrase that a second login is tried for. -/
def Rejecting (text : List Char) : Prop := contains "not authenticated" text

instance {text : List Char} : Decidable (Rejecting text) := inferInstanceAs (Decidable (_ = true))

/-- The last reading shows a login or password prompt, and no prompt for commands. -/
def Rejected (tr : List Exchange) : Prop :=
  ∃ before chunks, tr = before ++ [sent .enter, shown 3 chunks] ∧
    verifyConnectivity chunks = .notAuthenticated

/-- The console itself says the phrase: in the message of a failure, or in what it shows. -/
def Quoted (printable : Char → Bool) (tr : List Exchange) : Prop :=
  (∃ keys message, (⟨.send keys, .error message⟩ : Exchange) ∈ tr ∧ Rejecting message.toList) ∨
  (∃ timeout message, (⟨.read timeout, .error message⟩ : Exchange) ∈ tr ∧
    Rejecting message.toList) ∨
  ∃ timeout chunks, shown timeout chunks ∈ tr ∧
    Rejecting (debugStr printable ((received chunks).take 200)).toList

section Phrase

variable {word l r mid : List Char} {c : Char}

/-- A word does not reach over a character that it does not have. -/
theorem infix_of_infix_append_cons (h : c ∉ word) (hword : word <:+: l ++ c :: r) :
    word <:+: l ∨ word <:+: r := by
  obtain ⟨s, t, heq⟩ := hword
  rw [List.append_assoc, List.append_eq_append_iff] at heq
  rcases heq with ⟨m, rfl, hm⟩ | ⟨m, rfl, hm⟩
  · rw [List.append_eq_append_iff] at hm
    rcases hm with ⟨m', rfl, hm'⟩ | ⟨m', rfl, hm'⟩
    · exact .inl ⟨s, m', List.append_assoc _ _ _⟩
    · cases m' with
      | nil => exact .inl ⟨s, [], by simp⟩
      | cons d m' =>
        -- the word would go on over the character
        obtain ⟨rfl, -⟩ := List.cons.inj hm'
        exact absurd (List.mem_append_right m List.mem_cons_self) h
  · cases m with
    | nil =>
      cases word with
      | nil => exact .inl (List.nil_infix)
      | cons d word =>
        obtain ⟨rfl, -⟩ := List.cons.inj hm
        exact absurd List.mem_cons_self h
    | cons d m =>
      obtain ⟨-, rfl⟩ := List.cons.inj hm
      exact .inr ⟨m, t, by simp⟩

/-- Nor over some of them. -/
theorem infix_of_infix_append_append (h : ∀ c ∈ mid, c ∉ word) (hmid : mid ≠ [])
    (hword : word <:+: l ++ (mid ++ r)) : word <:+: l ∨ word <:+: r := by
  induction mid generalizing l with
  | nil => exact absurd rfl hmid
  | cons c mid ih =>
    obtain ⟨hc, hmid'⟩ := List.forall_mem_cons.mp h
    rcases infix_of_infix_append_cons hc hword with hleft | hright
    · exact .inl hleft
    · by_cases hnil : mid = []
      · subst hnil
        exact .inr hright
      · rcases ih (l := []) hmid' hnil hright with hleft | hright
        · exact .inl (hleft.trans (List.nil_infix))
        · exact .inr hright

end Phrase

section Messages

variable {printable : Char → Bool} {state : List Char}

/-- A text rejects if the phrase is in it. -/
theorem rejecting_iff {text : List Char} :
    Rejecting text ↔ "not authenticated".toList <:+: text := decide_eq_true_iff

/-- In a message that quotes a text, the phrase stands in the text or in one of the parts around
it. -/
theorem rejecting_of_quoted {before after : String} {text : List Char}
    (h : Rejecting (before ++ debugStr printable text ++ after).toList) :
    Rejecting before.toList ∨ Rejecting (debugStr printable text).toList ∨
      Rejecting after.toList := by
  simp only [rejecting_iff, String.toList_append, debugStr, String.toList_ofList] at h ⊢
  rw [List.append_assoc, List.cons_append, List.append_assoc] at h
  rcases infix_of_infix_append_cons (by decide) h with hbefore | h
  · exact .inl hbefore
  rcases infix_of_infix_append_cons (by decide) h with htext | hafter
  · exact .inr (.inl (htext.trans (List.infix_append ['"'] _ ['"'])))
  · exact .inr (.inr hafter)

/-- A message that ends in a quotation rejects by itself or by what it quotes. -/
theorem rejecting_of_quoted_last {before : String} {text : List Char}
    (h : Rejecting (before ++ debugStr printable text).toList) :
    Rejecting before.toList ∨ Rejecting (debugStr printable text).toList := by
  rw [← String.append_empty (s := before ++ debugStr printable text)] at h
  rcases rejecting_of_quoted h with hbefore | htext | hafter
  · exact .inl hbefore
  · exact .inr htext
  · exact absurd hafter (by decide)

/-- Nor does the phrase reach over a number. -/
theorem rejecting_of_number {before after : String} {n : ℕ}
    (h : Rejecting (before ++ toString n ++ after).toList) :
    Rejecting before.toList ∨ Rejecting after.toList := by
  simp only [rejecting_iff, String.toList_append, List.append_assoc] at h ⊢
  refine infix_of_infix_append_append (fun c hc hword => ?_) (fun hnil => ?_) h
  · have hdigit : c.isDigit = true := Cli.isDigit_of_mem_toString hc
    have hletters : ∀ c ∈ "not authenticated".toList, c.isDigit = false := by decide
    rw [hletters c hword] at hdigit
    cases hdigit
  · exact absurd hnil (toString_ne_nil n)

/-- The message of a stuck console rejects only by what it quotes. -/
theorem rejecting_of_stuckMessage (h : Rejecting (stuckMessage printable state).toList) :
    Rejecting (debugStr printable (state.take 200)).toList := by
  rcases rejecting_of_quoted h with hbefore | htext | hafter
  · exact absurd hbefore (by decide +kernel)
  · exact htext
  · exact absurd hafter (by decide +kernel)

/-- So does that of an unconfirmed change. -/
theorem rejecting_of_unconfirmedMessage
    (h : Rejecting (unconfirmedMessage printable state).toList) :
    Rejecting (debugStr printable (state.take 200)).toList := by
  rcases rejecting_of_quoted_last h with hbefore | htext
  · exact absurd hbefore (by decide +kernel)
  · exact htext

/-- So does that of a rejected one. -/
theorem rejecting_of_rejectedMessage (h : Rejecting (rejectedMessage printable state).toList) :
    Rejecting (debugStr printable (state.take 200)).toList := by
  rcases rejecting_of_quoted_last h with hbefore | htext
  · exact absurd hbefore (by decide +kernel)
  · exact htext

/-- A password that is too short is no rejection. -/
theorem not_rejecting_shortPasswordMessage (length : ℕ) :
    ¬Rejecting (shortPasswordMessage length).toList := by
  intro h
  rcases rejecting_of_number h with hbefore | hafter
  · exact absurd hbefore (by decide +kernel)
  · exact absurd hafter (by decide +kernel)

/-- Nor is a console that does not respond. -/
theorem not_rejecting_notRespondingMessage (baudRate : ℕ) :
    ¬Rejecting (notRespondingMessage baudRate).toList := by
  intro h
  rcases rejecting_of_number h with hbefore | hafter
  · exact absurd hbefore (by decide +kernel)
  · exact absurd hafter (by decide +kernel)

end Messages

/-- The credentials are given as the reason of a failure only where the device said so. -/
def Explained (printable : Char → Bool) (tr : List Exchange) : LoginFailure → Prop
  | .error message => Rejecting message.toList → Rejected tr ∨ Quoted printable tr
  | .panicked => True

/-- Nothing is asked of a success. -/
def FailsExplained {α : Type} (printable : Char → Bool) (tr : List Exchange) :
    Except LoginFailure α → Prop
  | .ok _ => True
  | .error e => Explained printable tr e

section Explanations

variable {printable : Char → Bool} {before : List Exchange} {message : String}

theorem justRead_concat {timeout : ℕ} {chunks : List (List UInt8)} :
    JustRead (before ++ [shown timeout chunks]) (received chunks) :=
  ⟨timeout, chunks, List.getLast?_concat, rfl⟩

/-- A write that fails explains its error. -/
theorem explained_send {keys : Keys} :
    Explained printable (before ++ [⟨.send keys, .error message⟩]) (.error message) :=
  fun h => .inr (.inl ⟨keys, message, List.mem_append_right _ List.mem_cons_self, h⟩)

/-- So does a reading that fails. -/
theorem explained_read {timeout : ℕ} :
    Explained printable (before ++ [⟨.read timeout, .error message⟩]) (.error message) :=
  fun h => .inr (.inr (.inl ⟨timeout, message, List.mem_append_right _ List.mem_cons_self, h⟩))

/-- A message that the phrase can only be in with the text that was read. -/
theorem explained_of_justRead {state : List Char} (h : JustRead before state)
    (hmessage : Rejecting message.toList → Rejecting (debugStr printable (state.take 200)).toList) :
    Explained printable before (.error message) := by
  intro hphrase
  obtain ⟨timeout, chunks, hlast, rfl⟩ := h
  exact .inr (.inr (.inr ⟨timeout, chunks, List.mem_of_getLast? hlast, hmessage hphrase⟩))

/-- An error that rejects nothing needs no explanation. -/
theorem explained_of_not (h : ¬Rejecting message.toList) :
    Explained printable before (.error message) :=
  fun hphrase => absurd hphrase h

end Explanations

/-! ## On demand -/

/-- What may be typed after what was typed and read before. A password is typed half a second behind
the user name, and what the device shows meanwhile is not read. A new password is typed a second
time only where it is asked for again. -/
def OnDemand (username password : String) (before : List Exchange) : Call → Prop
  | .send (.username name) => name = username ∧ ∃ text, JustRead before text ∧ showsLogin text
  | .send (.password typed) =>
    (typed = password ∨ typed = "") ∧ ∃ front text, before = front ++ [sent (.username username)] ∧
      JustRead front text ∧ showsLogin text
  | .send (.newPassword typed) =>
    typed = password ∧ 8 ≤ password.utf8ByteSize ∧ ∃ text, JustRead before text ∧
      isForcedPasswordChangePrompt text ∧
        (before.dropLast.getLast? = some (sent (.newPassword password)) →
          isPasswordConfirmPrompt text)
  | .send .no => ∃ text, JustRead before text ∧ contains "initial configuration dialog" text
  | .send .end =>
    ∃ text, JustRead before text ∧ showsPrompt text ∧ contains "(config" (stripAnsi text)
  | .send .enable =>
    ∃ text, JustRead before text ∧ (lastNonemptyLine (stripAnsi text)).getLast? = some '>'
  | .send .interrupt | .send .enter | .send .space | .read _ | .clearBuffer => True

section Steps

variable {printable : Char → Bool} {username password currentPassword : String}
variable {before : List Exchange} {state : List Char}

/-- A text that is returned was just read. -/
def ReturnsRead (printable : Char → Bool) (tr : List Exchange) :
    Except LoginFailure (List Char) → Prop
  | .ok text => JustRead tr text
  | .error e => Explained printable tr e

/-- What is returned by a reading was just read. -/
theorem keeps_reading {timeout : ℕ} : Keeps (OnDemand username password) (ReturnsRead printable)
    before (checkCurrentState timeout) :=
  keeps_checkCurrentState.mpr ⟨trivial, fun _ => justRead_concat, fun _ => explained_read⟩

/-- The dialog is declined only where it was just read. -/
theorem keeps_declineDialog (h : JustRead before state) :
    Keeps (OnDemand username password) (ReturnsRead printable) before (declineDialog state) := by
  refine keeps_ite.mpr ⟨fun hdialog => ?_, fun _ => h⟩
  exact keeps_send_bind.mpr ⟨⟨state, h, hdialog⟩, keeps_reading, fun _ => explained_send⟩

/-- Waiting for a new session types an Enter at most. -/
theorem keeps_awaitNewSession (h : JustRead before state) :
    Keeps (OnDemand username password) (ReturnsRead printable) before (awaitNewSession state) := by
  refine keeps_ite.mpr ⟨fun _ => ⟨trivial, fun _ => ?_⟩, fun _ => h⟩
  exact keeps_send_bind.mpr ⟨trivial, keeps_reading, fun _ => explained_send⟩

/-- A prompt to confirm is a prompt of the forced change. -/
theorem isForced_of_isConfirm {text : List Char} (h : isPasswordConfirmPrompt text = true) :
    isForcedPasswordChangePrompt text = true := by
  rw [isPasswordConfirmPrompt, contains, decide_eq_true_eq] at h
  rw [isForcedPasswordChangePrompt, contains, decide_eq_true_eq]
  have hword : "New Password:".toList <:+: "Re-enter New Password:".toList := by decide
  exact hword.trans h

/-- The new password was not typed yet where the text was read. -/
structure FirstPrompt (password : String) (before : List Exchange) (text : List Char) : Prop where
  read : JustRead before text
  first : before.dropLast.getLast? ≠ some (sent (.newPassword password))

/-- The first prompt may be read again. -/
theorem FirstPrompt.again {timeout : ℕ} {chunks : List (List UInt8)}
    (h : FirstPrompt password before state) :
    FirstPrompt password (before ++ [shown timeout chunks]) (received chunks) := by
  refine ⟨justRead_concat, ?_⟩
  obtain ⟨timeout', chunks', hlast, -⟩ := h.read
  rw [List.dropLast_concat, hlast]
  intro heq
  cases heq

/-- A new password is typed at its prompts only. -/
theorem keeps_changePassword (h : FirstPrompt password before state)
    (hprompt : isForcedPasswordChangePrompt state = true) (hlength : 8 ≤ password.utf8ByteSize) :
    Keeps (OnDemand username password) (FailsExplained printable) before
      (changePassword printable password) := by
  refine keeps_send_bind.mpr ⟨⟨rfl, hlength, state, h.read, hprompt, fun hlast => ?_⟩, ?_,
    fun _ => explained_send⟩
  · exact absurd hlast h.first
  refine keeps_check_bind.mpr ⟨trivial, fun chunks => ?_, fun _ => explained_read⟩
  refine keeps_ite.mpr
    ⟨fun _ => explained_of_justRead justRead_concat rejecting_of_unconfirmedMessage, ?_⟩
  intro hconfirm
  rw [Bool.not_eq_true, Bool.not_eq_false'] at hconfirm
  refine keeps_send_bind.mpr ⟨⟨rfl, hlength, received chunks, justRead_concat,
    isForced_of_isConfirm hconfirm, fun _ => hconfirm⟩, ?_, fun _ => explained_send⟩
  refine keeps_check_bind.mpr ⟨trivial, fun chunks => ?_, fun _ => explained_read⟩
  exact keeps_ite.mpr
    ⟨fun _ => explained_of_justRead justRead_concat rejecting_of_rejectedMessage, fun _ => trivial⟩

/-- So the forced change is made only where it was asked for. -/
theorem keeps_maybeComplete (h : FirstPrompt password before state) :
    Keeps (OnDemand username password) (FailsExplained printable) before
      (maybeCompleteForcedPasswordChange printable password state) := by
  have hstate : Keeps (OnDemand username password)
      (fun tr r => (∀ text ∈ r.toOption, FirstPrompt password tr text) ∧
        FailsExplained printable tr r)
      before (stateWithPrompt state) := by
    refine keeps_ite.mpr ⟨fun _ => ?_, fun _ => ⟨fun text htext => ?_, trivial⟩⟩
    · refine keeps_checkCurrentState.mpr ⟨trivial, fun chunks => ⟨fun text htext => ?_, trivial⟩,
        fun message => ⟨fun text htext => ?_, explained_read⟩⟩
      · obtain rfl := Option.some.inj htext
        exact h.again
      · cases htext
    · obtain rfl := Option.some.inj htext
      exact h
  rw [maybeCompleteForcedPasswordChange]
  refine hstate.bind (fun tr text htext => ?_) fun _ _ herror => herror.2
  refine keeps_ite.mpr ⟨fun _ => trivial, fun hprompt => keeps_ite.mpr ⟨fun _ => ?_, ?_⟩⟩
  · exact explained_of_not (not_rejecting_shortPasswordMessage _)
  · intro hlength
    rw [Bool.not_eq_true, Bool.not_eq_false'] at hprompt
    exact keeps_changePassword (htext.1 text rfl) hprompt (Nat.le_of_not_lt hlength)

/-- Credentials are entered only at a login prompt that was just read. -/
theorem keeps_enterCredentials (h : JustRead before state) (hlogin : showsLogin state = true)
    (hcurrent : currentPassword = password ∨ currentPassword = "") :
    Keeps (OnDemand username password) (FailsExplained printable) before
      (enterCredentials printable username currentPassword password) := by
  refine keeps_send_bind.mpr ⟨⟨rfl, state, h, hlogin⟩, ?_, fun _ => explained_send⟩
  refine keeps_send_bind.mpr ⟨⟨hcurrent, before, state, rfl, h, hlogin⟩, ?_,
    fun _ => explained_send⟩
  refine keeps_check_bind.mpr ⟨trivial, fun chunks => ?_, fun _ => explained_read⟩
  refine keeps_maybeComplete ⟨justRead_concat, ?_⟩
  rw [List.dropLast_concat, List.getLast?_concat]
  intro heq
  cases heq

/-- Configuration mode is left only where it was just read. -/
theorem keeps_leaveConfig (h : JustRead before state) (hprompt : showsPrompt state = true) :
    Keeps (OnDemand username password) (FailsExplained printable) before (leaveConfig state) := by
  refine keeps_ite.mpr ⟨fun hconfig => ?_, fun _ => trivial⟩
  refine keeps_send_bind.mpr ⟨⟨state, h, hprompt, hconfig⟩, ?_, fun _ => explained_send⟩
  rw [keeps_bind, keeps_attempt, keeps_checkCurrentState]
  exact ⟨trivial, fun _ => trivial, fun _ => trivial⟩

/-- Waking the console types nothing secret. -/
theorem keeps_wake (attempt : ℕ) :
    Keeps (OnDemand username password) (FailsExplained printable) before (wake attempt) := by
  -- only keys that are always allowed
  have hlast : ∀ {before : List Exchange} {keys : Keys},
      OnDemand username password before (.send keys) →
      Keeps (OnDemand username password) (FailsExplained printable) before (send keys) :=
    fun h => keeps_send.mpr ⟨h, trivial, fun _ => explained_send⟩
  match attempt with
  | 1 => exact keeps_send_bind.mpr ⟨trivial, hlast trivial, fun _ => explained_send⟩
  | 2 =>
    refine keeps_send_bind.mpr ⟨trivial, ?_, fun _ => explained_send⟩
    exact keeps_send_bind.mpr ⟨trivial, hlast trivial, fun _ => explained_send⟩
  | 0 | _ + 3 => exact hlast trivial

/-- The attempts to recover enter credentials at a login prompt only. -/
theorem keeps_recover (hcurrent : currentPassword = password ∨ currentPassword = "")
    (attempts : List ℕ) (h : JustRead before state) :
    Keeps (OnDemand username password) (FailsExplained printable) before
      (recover printable username currentPassword password attempts state) := by
  induction attempts generalizing before state with
  | nil => exact explained_of_justRead h rejecting_of_stuckMessage
  | cons attempt rest ih =>
    rw [recover]
    refine (keeps_wake attempt).bind (fun tr _ _ => ?_) fun _ _ herror => herror
    refine keeps_reading.bind (fun tr text hread => ?_) fun _ _ herror => herror
    refine (keeps_awaitNewSession hread).bind (fun tr text hread => ?_)
      fun _ _ herror => herror
    refine keeps_ite.mpr ⟨fun hlogin => keeps_enterCredentials hread hlogin hcurrent, fun _ => ?_⟩
    exact keeps_ite.mpr ⟨fun _ => trivial, fun _ => ih hread⟩

/-- Opening a session types only what was asked for. -/
theorem keeps_openSession (hcurrent : currentPassword = password ∨ currentPassword = "") :
    Keeps (OnDemand username password) (FailsExplained printable) before
      (openSession printable username currentPassword password) := by
  refine keeps_send_bind.mpr ⟨trivial, ?_, fun _ => explained_send⟩
  refine keeps_send_bind.mpr ⟨trivial, ?_, fun _ => explained_send⟩
  refine keeps_reading.bind (fun tr text hread => ?_) fun _ _ herror => herror
  refine (keeps_declineDialog hread).bind (fun tr text hread => ?_) fun _ _ herror => herror
  refine keeps_ite.mpr ⟨fun hlogin => keeps_enterCredentials hread hlogin hcurrent, fun _ => ?_⟩
  exact keeps_ite.mpr ⟨keeps_leaveConfig hread, fun _ => keeps_recover hcurrent _ hread⟩

/-- `enable` is typed only at an unprivileged prompt. -/
theorem keeps_enterPrivilegedMode :
    Keeps (OnDemand username password) (FailsExplained printable) before enterPrivilegedMode := by
  refine keeps_send_bind.mpr ⟨trivial, ?_, fun _ => explained_send⟩
  refine keeps_check_bind.mpr ⟨trivial, fun chunks => ?_, fun _ => explained_read⟩
  refine keeps_ite.mpr ⟨fun huser => ?_, fun _ => trivial⟩
  refine keeps_send_bind.mpr ⟨⟨received chunks, justRead_concat, huser⟩, ?_,
    fun _ => explained_send⟩
  refine keeps_check_bind.mpr ⟨trivial, fun response => ?_, fun _ => explained_read⟩
  have hempty : Keeps (OnDemand username password) (FailsExplained printable)
      (before ++ [sent .enter] ++ [shown 2 chunks] ++ [sent .enable] ++ [shown 2 response])
      (leaveEmpty (received response)) :=
    keeps_ite.mpr
      ⟨fun _ => keeps_send.mpr ⟨trivial, trivial, fun _ => explained_send⟩, fun _ => trivial⟩
  refine hempty.bind (fun tr _ _ => ?_) fun _ _ herror => herror
  refine keeps_send_bind.mpr ⟨trivial, ?_, fun _ => explained_send⟩
  exact keeps_check_bind.mpr ⟨trivial, fun _ => trivial, fun _ => explained_read⟩

theorem keeps_verify {baudRate : ℕ} :
    Keeps (OnDemand username password) (FailsExplained printable) before (verify baudRate) := by
  refine keeps_send_bind.mpr ⟨trivial, ?_, fun _ => explained_send⟩
  rw [keeps_bind, keeps_readChunks]
  refine ⟨trivial, fun chunks => ?_, fun _ => explained_read⟩
  show Keeps _ _ _ (judge baudRate (verifyConnectivity chunks))
  cases hverify : verifyConnectivity chunks with
  | ready => trivial
  | noResponse => exact explained_of_not (not_rejecting_notRespondingMessage baudRate)
  | notAuthenticated =>
    intro _
    rw [List.append_assoc]
    exact .inl ⟨before, chunks, rfl, hverify⟩
  | panicked => trivial

/-- One login types only what was asked for. -/
theorem keeps_loginInner {baudRate : ℕ}
    (hcurrent : currentPassword = password ∨ currentPassword = "") :
    Keeps (OnDemand username password) (FailsExplained printable) before
      (loginInner printable baudRate username currentPassword password) := by
  refine (keeps_openSession hcurrent).bind (fun _ _ _ => ?_) fun _ _ herror => herror
  exact keeps_enterPrivilegedMode.bind (fun _ _ _ => keeps_verify) fun _ _ herror => herror

/-- So does the login with its fallback. -/
theorem keeps_login {baudRate : ℕ} : Keeps (OnDemand username password) (fun _ _ => True) before
    (loginWithFactoryDefaultFallback printable baudRate username password) := by
  have hfirst : Keeps (OnDemand username password) (fun _ _ => True) before
      ((login printable baudRate username password).attempt (E := LoginFailure)) :=
    keeps_attempt.mpr ((keeps_loginInner (.inl rfl)).mono fun _ _ _ => trivial)
  refine hfirst.bind (fun tr outcome _ => ?_) fun _ _ _ => trivial
  match outcome with
  | .ok () => trivial
  | .error .panicked => trivial
  | .error (.error first) =>
    refine keeps_ite.mpr ⟨fun _ => trivial, fun _ => ?_⟩
    exact keeps_mapError.mpr ((keeps_loginInner (.inr rfl)).mono fun _ _ _ => trivial)

end Steps

/-- Whatever a console shows and whatever fails: the user name is typed only where a login prompt
was just read, a password only as the next thing behind that user name, and the new password only
at its prompts. -/
theorem login_onDemand {printable : Char → Bool} {baudRate : ℕ} {username password : String}
    {before after : List Exchange} {exchange : Exchange} {outcome : Except LoginFailure Unit}
    (h : Run (loginWithFactoryDefaultFallback printable baudRate username password)
      (before ++ exchange :: after) outcome) : OnDemand username password before exchange.1 := by
  have hkeeps : Keeps (OnDemand username password) (fun _ _ => True) []
      (loginWithFactoryDefaultFallback printable baudRate username password) := keeps_login
  exact hkeeps.allows h

/-- A switch as it comes: only a blank password is taken. -/
def factoryDefault : List Exchange → (call : Call) → Console.Answer call
  | _, .send _ => .ok ()
  | before, .read _ =>
    let blank := before.any fun exchange => exchange.1 = .send (.password "")
    .ok [utf8 (if blank then "switch#" else "login:").toList]
  | _, .clearBuffer => ()

def firstLogin : List Exchange × Except LoginFailure Unit :=
  exec factoryDefault [] (loginWithFactoryDefaultFallback (fun _ => true) 9600 "admin" "secret99")

theorem login_onDemand_first : ∃ after,
    firstLogin.1 = [sent .interrupt, sent .enter, shown 2 [utf8 "login:".toList]] ++
      sent (.username "admin") :: after ∧
    OnDemand "admin" "secret99" [sent .interrupt, sent .enter, shown 2 [utf8 "login:".toList]]
      (.send (.username "admin")) := by
  have hrun : Run (loginWithFactoryDefaultFallback (fun _ => true) 9600 "admin" "secret99")
      ([sent .interrupt, sent .enter, shown 2 [utf8 "login:".toList]] ++
        sent (.username "admin") :: firstLogin.1.drop 4) firstLogin.2 :=
    run_exec factoryDefault [] _
  exact ⟨_, rfl, login_onDemand hrun⟩

end SwitchConfigurator.Ssh
