import SwitchConfigurator.Ssh.LoginSafety

/-!
# How often a login tries

No console gets a login to type without end, and a blank password is tried at most once, behind a
failure that says that the configured one was not accepted.
-/

namespace SwitchConfigurator.Ssh

open Dialogue Console SerialClient

/-! ## What is typed -/

namespace Console

def typed (tr : List Exchange) : List Keys :=
  tr.filterMap fun exchange =>
    match exchange.1 with
    | .send keys => some keys
    | .read _ => none
    | .clearBuffer => none

/-- What a call costs where keys have weights. -/
def cost (weight : Keys → ℕ) : Call → ℕ
  | .send keys => weight keys
  | .read _ => 0
  | .clearBuffer => 0

/-- What is typed costs what the calls cost. -/
theorem sum_typed (weight : Keys → ℕ) (tr : List Exchange) :
    ((typed tr).map weight).sum = (tr.map fun exchange => cost weight exchange.1).sum := by
  induction tr with
  | nil => rfl
  | cons exchange tr ih =>
    obtain ⟨call, answer⟩ := exchange
    cases call with
    | send keys =>
      show weight keys + ((typed tr).map weight).sum = _
      rw [ih]
      rfl
    | read timeout =>
      show ((typed tr).map weight).sum = _
      rw [ih, List.map_cons, List.sum_cons, cost, Nat.zero_add]
    | clearBuffer =>
      show ((typed tr).map weight).sum = _
      rw [ih, List.map_cons, List.sum_cons, cost, Nat.zero_add]

theorem typed_append (tr₁ tr₂ : List Exchange) : typed (tr₁ ++ tr₂) = typed tr₁ ++ typed tr₂ :=
  List.filterMap_append

section Costs

variable {α : Type} {weight : Keys → ℕ} {n : ℕ}

theorem within_send (keys : Keys) : Within (cost weight) (weight keys) (send keys) :=
  ⟨Nat.le_refl _, fun _ => within_ofExcept⟩

/-- To read costs nothing. -/
theorem within_readChunks {timeout : ℕ} : Within (cost weight) 0 (readChunks timeout) :=
  ⟨Nat.le_refl _, fun _ => within_ofExcept⟩

theorem within_checkCurrentState {timeout : ℕ} :
    Within (cost weight) 0 (checkCurrentState timeout) :=
  within_readChunks.bind fun _ => within_pure (n := 0)

theorem within_send_bind {keys : Keys} {f : Unit → Console α} (h : Within (cost weight) n (f ())) :
    Within (cost weight) (weight keys + n) (send keys >>= f) :=
  (within_send keys).bind fun _ => h

theorem within_check_bind {timeout : ℕ} {f : List Char → Console α}
    (h : ∀ text, Within (cost weight) n (f text)) :
    Within (cost weight) n (checkCurrentState timeout >>= f) := by
  have hread : Within (cost weight) 0 (checkCurrentState timeout) := within_checkCurrentState
  have hbind := hread.bind h
  rwa [Nat.zero_add] at hbind

theorem within_ite {c : Prop} [Decidable c] {p q : Console α} (hp : Within (cost weight) n p)
    (hq : Within (cost weight) n q) : Within (cost weight) n (if c then p else q) := by
  split
  · exact hp
  · exact hq

end Costs

end Console

section Bounds

variable {printable : Char → Bool} {weight : Keys → ℕ} {username current new : String}

/-- User name and password, and the new password twice. -/
def credentialCost (weight : Keys → ℕ) (username current new : String) : ℕ :=
  weight (.username username) + (weight (.password current) +
    (weight (.newPassword new) + weight (.newPassword new)))

def wakeCost (weight : Keys → ℕ) : ℕ → ℕ
  | 1 => weight .interrupt + weight .enter
  | 2 => weight .space + (weight .interrupt + weight .enter)
  | _ => weight .enter

/-- The attempts to recover, each of which may find a session that was just terminated. -/
def recoveryCost (weight : Keys → ℕ) (attempts : List ℕ) : ℕ :=
  (attempts.map fun attempt => wakeCost weight attempt + weight .enter).sum

def loginCost (weight : Keys → ℕ) (username current new : String) : ℕ :=
  (weight .interrupt + (weight .enter + (weight .no + max (weight .end)
    (recoveryCost weight [1, 2, 3] + credentialCost weight username current new)))) +
  ((weight .enter + (weight .enable + (weight .enter + weight .enter))) + weight .enter)

/-- A forced change types the new password twice at most. -/
theorem within_changePassword : Within (cost weight) (weight (.newPassword new) +
    weight (.newPassword new)) (changePassword printable new) := by
  refine within_send_bind (within_check_bind fun confirm => ?_)
  refine within_ite within_fail ?_
  rw [← Nat.add_zero (weight (.newPassword new))]
  refine within_send_bind (within_check_bind fun result => ?_)
  exact within_ite within_fail within_pure

/-- Credentials cost the user name, one password and a change at most. -/
theorem within_enterCredentials : Within (cost weight) (credentialCost weight username current new)
    (enterCredentials printable username current new) := by
  refine within_send_bind (within_send_bind (within_check_bind fun state => ?_))
  have hstate : Within (cost weight) 0 (stateWithPrompt state) :=
    within_ite within_checkCurrentState within_pure
  rw [← Nat.zero_add (weight (.newPassword new) + weight (.newPassword new))]
  refine hstate.bind fun state => ?_
  exact within_ite within_pure (within_ite within_fail within_changePassword)

/-- An attempt to wake the console costs its keys. -/
theorem within_wake (attempt : ℕ) :
    Within (cost weight) (wakeCost weight attempt) (wake attempt) := by
  match attempt with
  | 0 => exact within_send _
  | 1 => exact within_send_bind (within_send _)
  | 2 => exact within_send_bind (within_send_bind (within_send _))
  | _ + 3 => exact within_send _

theorem within_awaitNewSession {state : List Char} :
    Within (cost weight) (weight .enter) (awaitNewSession state) := by
  refine within_ite ⟨Nat.zero_le _, fun _ => ?_⟩ within_pure
  exact within_send_bind (n := 0) within_checkCurrentState

/-- The attempts to recover end, with credentials entered once at most. -/
theorem within_recover (attempts : List ℕ) (state : List Char) : Within (cost weight)
    (recoveryCost weight attempts + credentialCost weight username current new)
    (recover printable username current new attempts state) := by
  induction attempts generalizing state with
  | nil => exact within_fail
  | cons attempt rest ih =>
    have hcost : recoveryCost weight (attempt :: rest) =
        wakeCost weight attempt + weight .enter + recoveryCost weight rest :=
      List.sum_cons
    rw [hcost, Nat.add_assoc, Nat.add_assoc]
    refine (within_wake attempt).bind fun _ => within_check_bind fun state => ?_
    refine within_awaitNewSession.bind fun state => within_ite ?_ ?_
    · exact within_enterCredentials.mono (Nat.le_add_left _ _)
    · exact within_ite within_pure (ih state)

theorem within_leaveConfig {state : List Char} :
    Within (cost weight) (weight .end) (leaveConfig state) := by
  refine within_ite ?_ within_pure
  refine within_send_bind (n := 0) ?_
  exact within_checkCurrentState.attempt.bind fun _ => within_pure (n := 0)

/-- Opening a session costs at most its keys and one recovery. -/
theorem within_openSession : Within (cost weight)
    (weight .interrupt + (weight .enter + (weight .no + max (weight .end)
      (recoveryCost weight [1, 2, 3] + credentialCost weight username current new))))
    (openSession printable username current new) := by
  refine within_send_bind (within_send_bind (within_check_bind fun state => ?_))
  have hdecline : Within (cost weight) (weight .no) (declineDialog state) :=
    within_ite (within_send_bind (n := 0) within_checkCurrentState) within_pure
  refine hdecline.bind fun state => within_ite ?_ (within_ite ?_ ?_)
  · exact within_enterCredentials.mono ((Nat.le_add_left _ _).trans (le_max_right _ _))
  · exact within_leaveConfig.mono (le_max_left _ _)
  · exact (within_recover [1, 2, 3] state).mono (le_max_right _ _)

/-- Entering privileged mode costs at most four keys. -/
theorem within_enterPrivilegedMode : Within (cost weight)
    (weight .enter + (weight .enable + (weight .enter + weight .enter))) enterPrivilegedMode := by
  refine within_send_bind (within_check_bind fun prompt => within_ite ?_ within_pure)
  refine within_send_bind (within_check_bind fun response => ?_)
  have hempty : Within (cost weight) (weight .enter) (leaveEmpty response) :=
    within_ite (within_send _) within_pure
  exact hempty.bind fun _ => within_send_bind (n := 0) (within_check_bind fun _ => within_pure)

theorem within_verify {baudRate : ℕ} : Within (cost weight) (weight .enter) (verify baudRate) := by
  refine within_send_bind (n := 0) (within_readChunks.bind (n := 0) fun chunks => ?_)
  show Within _ _ (judge baudRate (verifyConnectivity chunks))
  cases verifyConnectivity chunks <;> trivial

/-- One login stays within its cost. -/
theorem within_loginInner {baudRate : ℕ} : Within (cost weight)
    (loginCost weight username current new)
    (loginInner printable baudRate username current new) :=
  within_openSession.bind fun _ => within_enterPrivilegedMode.bind fun _ => within_verify

/-- A login and, with a blank password, a second one. -/
theorem within_login {baudRate : ℕ} {password : String} : Within (cost weight)
    (loginCost weight username password password + loginCost weight username "" password)
    (loginWithFactoryDefaultFallback printable baudRate username password) := by
  refine (within_loginInner.attempt (ε := LoginFailure)).bind fun outcome => ?_
  match outcome with
  | .ok () => exact within_pure
  | .error .panicked => exact within_fail
  | .error (.error first) => exact within_ite within_fail within_loginInner.mapError

end Bounds

/-! ## Attempts -/

section Attempts

variable {printable : Char → Bool} {baudRate : ℕ} {username current new password : String}
variable {tr : List Exchange}

/-- What counts the keys that are looked for. -/
def indicator (keys : Keys) (typed : Keys) : ℕ := if typed = keys then 1 else 0

/-- Weighing one kind of key counts it. -/
theorem sum_indicator (keys : Keys) (l : List Keys) :
    (l.map (indicator keys)).sum = l.count keys := by
  induction l with
  | nil => rfl
  | cons first l ih =>
    rw [List.map_cons, List.sum_cons, List.count_cons, ih, indicator, Nat.add_comm]
    simp only [beq_iff_eq]

/-- A budget for one kind of key bounds how often it is typed. -/
theorem count_le_of_within {α : Type} {p : Console α} {keys : Keys} {n : ℕ}
    {outcome : Except LoginFailure α} (h : Within (cost (indicator keys)) n p)
    (hrun : Run p tr outcome) :
    (typed tr).count keys ≤ n := by
  rw [← sum_indicator, sum_typed]
  exact h.sum_le hrun

/-- One login types the user name at most once. -/
theorem loginCost_username :
    loginCost (indicator (.username username)) username current new = 1 := by
  simp [loginCost, credentialCost, recoveryCost, wakeCost, indicator]

/-- One login types the new password at most twice. -/
theorem loginCost_newPassword :
    loginCost (indicator (.newPassword new)) username current new = 2 := by
  simp [loginCost, credentialCost, recoveryCost, wakeCost, indicator]

/-- One login types a password only if it is the current one, and once. -/
theorem loginCost_password {keys : String} :
    loginCost (indicator (.password keys)) username current new =
      if current = keys then 1 else 0 := by
  simp [loginCost, credentialCost, recoveryCost, wakeCost, indicator]

/-- The blank password is typed by the second login only. -/
theorem blank_after_rejection (hne : password ≠ "") {outcome : Except LoginFailure Unit}
    (h : Run (loginWithFactoryDefaultFallback printable baudRate username password) tr outcome)
    (hblank : Keys.password "" ∈ typed tr) :
    ∃ tr₁ tr₂, tr = tr₁ ++ tr₂ ∧ Keys.password "" ∉ typed tr₁ ∧
      (Rejected tr₁ ∨ Quoted printable tr₁) := by
  rw [loginWithFactoryDefaultFallback, run_bind_iff] at h
  rcases h with ⟨e, hfirst, -⟩ | ⟨first, tr₁, tr₂, rfl, hfirst, hrest⟩
  · obtain ⟨r, -, hr⟩ := run_attempt_iff.mp hfirst
    cases hr
  obtain ⟨r, hrun, hr⟩ := run_attempt_iff.mp hfirst
  obtain rfl := Except.ok.inj hr
  have hnot : Keys.password "" ∉ typed tr₁ := by
    have hcount : (typed tr₁).count (.password "") ≤ _ := count_le_of_within within_loginInner hrun
    rw [loginCost_password, if_neg hne, Nat.le_zero] at hcount
    exact List.count_eq_zero.mp hcount
  rw [typed_append] at hblank
  have htail : Keys.password "" ∈ typed tr₂ :=
    (List.mem_append.mp hblank).resolve_left hnot
  refine ⟨tr₁, tr₂, rfl, hnot, ?_⟩
  match first with
  | .ok () =>
    obtain ⟨rfl, -⟩ := run_pure_iff.mp hrest
    cases htail
  | .error .panicked =>
    obtain ⟨rfl, -⟩ := run_fail_iff.mp hrest
    cases htail
  | .error (.error message) =>
    have hexplained : Explained printable ([] ++ tr₁) (.error message) :=
      (keeps_loginInner (.inl rfl)).outcome hrun
    refine hexplained ?_
    by_cases hphrase : Rejecting message.toList
    · exact hphrase
    · -- without the phrase nothing more is typed
      have hcond : (password.isEmpty || !contains "not authenticated" message.toList) = true := by
        rw [Rejecting, Bool.not_eq_true] at hphrase
        rw [hphrase, Bool.not_false, Bool.or_true]
      simp only [hcond, if_true] at hrest
      obtain ⟨rfl, -⟩ := run_fail_iff.mp hrest
      cases htail

end Attempts

/-- Whatever a console answers, a login comes to an end and tries little: no more than 42 times is
anything typed, the user name no more than twice, the configured password and the blank one no more
than once each; and the blank one is only tried behind a login that the device itself rejected. -/
theorem login_attempts {printable : Char → Bool} {baudRate : ℕ} {username password : String}
    {tr : List Exchange} {outcome : Except LoginFailure Unit}
    (h : Run (loginWithFactoryDefaultFallback printable baudRate username password) tr outcome) :
    (typed tr).length ≤ 42 ∧
    (typed tr).count (.username username) ≤ 2 ∧
    (typed tr).count (.newPassword password) ≤ 4 ∧
    (password ≠ "" →
      (typed tr).count (.password password) ≤ 1 ∧
      (typed tr).count (.password "") ≤ 1 ∧
      (Keys.password "" ∈ typed tr → ∃ tr₁ tr₂, tr = tr₁ ++ tr₂ ∧
        Keys.password "" ∉ typed tr₁ ∧ (Rejected tr₁ ∨ Quoted printable tr₁))) := by
  have hcount : ∀ keys, (typed tr).count keys ≤
      loginCost (indicator keys) username password password +
        loginCost (indicator keys) username "" password :=
    fun keys => count_le_of_within within_login h
  refine ⟨?_, ?_, ?_, fun hne => ⟨?_, ?_, blank_after_rejection hne h⟩⟩
  · have hone : Within (cost fun _ => 1) _ (loginWithFactoryDefaultFallback printable baudRate
        username password) := within_login
    have hsum := hone.sum_le h
    rw [← sum_typed] at hsum
    have hlength : ((typed tr).map fun _ => 1).sum = (typed tr).length := by simp
    rwa [hlength] at hsum
  · have hname := hcount (.username username)
    rwa [loginCost_username, loginCost_username] at hname
  · have hnew := hcount (.newPassword password)
    rwa [loginCost_newPassword, loginCost_newPassword] at hnew
  · have hconfigured := hcount (.password password)
    rwa [loginCost_password, loginCost_password, if_pos rfl, if_neg hne.symm] at hconfigured
  · have hblank := hcount (.password "")
    rwa [loginCost_password, loginCost_password, if_neg hne, if_pos rfl] at hblank

theorem login_attempts_first : (typed firstLogin.1).length ≤ 42 ∧
    ∃ tr₁ tr₂, firstLogin.1 = tr₁ ++ tr₂ ∧ Keys.password "" ∉ typed tr₁ ∧
      (Rejected tr₁ ∨ Quoted (fun _ => true) tr₁) := by
  obtain ⟨hlength, -, -, hpassword⟩ := login_attempts (run_exec factoryDefault []
    (loginWithFactoryDefaultFallback (fun _ => true) 9600 "admin" "secret99"))
  exact ⟨hlength, (hpassword (by decide)).2.2 (by decide +kernel)⟩

end SwitchConfigurator.Ssh
