import SwitchConfigurator.Config.AllowedHosts
import SwitchConfigurator.Ssh.JumpHost
import SwitchConfigurator.Vendors.Text

/-!
# Host strings of jump hosts

The text `[user@]host[:port]` of a jump host, written from its parts and read back. The reader
looks for the first `@` and for the last `:`, so all depends on whether the host itself has one.
-/

namespace SwitchConfigurator.Ssh

/-! ## Writing a host string -/

/-- A host, by its name or by its address. Of the syntax of a name it counts only which separators
it cannot hold. -/
inductive Host where
  | dns (name : String) (valid : name.toList ≠ [] ∧ ':' ∉ name.toList ∧ '@' ∉ name.toList)
  | v4 (address : String) (valid : isIpv4 address.toList = true)
  | v6 (address : String) (valid : isIpv6 address.toList = true)

namespace Host

def text : Host → String
  | dns name _ => name
  | v4 address _ => address
  | v6 address _ => address

def isV6 : Host → Bool
  | v6 _ _ => true
  | _ => false

end Host

/-- The parts of a host string. A literal of IPv6 stands without a port. -/
structure HostString where
  user : Option String
  host : Host
  port : Option ℕ
  user_valid : ∀ name ∈ user, '@' ∉ name.toList
  port_valid : ∀ n ∈ port, n < 2 ^ 16
  bare : host.isV6 = true → port = none

def userPart : Option String → List Char
  | some name => name.toList ++ ['@']
  | none => []

def portPart : Option ℕ → List Char
  | some n => ':' :: (toString n).toList
  | none => []

def HostString.text (parts : HostString) : String :=
  String.ofList (userPart parts.user ++ (parts.host.text.toList ++ portPart parts.port))

/-! ## Reading a host string -/

section Read

variable {user : Option String} {hostPort before after : List Char}

/-- The user is taken off, whatever it holds besides an `@`. -/
theorem parseHostString_eq (huser : ∀ name ∈ user, '@' ∉ name.toList) (hat : '@' ∉ hostPort) :
    parseHostString (String.ofList (userPart user ++ hostPort)) = readHostPort user hostPort := by
  cases user with
  | none =>
    rw [parseHostString, userPart, List.nil_append, String.toList_ofList]
    simp only [if_neg hat]
  | some name =>
    have hname : ∀ c ∈ name.toList, decide (c ≠ '@') = true := by
      intro c hc
      rw [decide_eq_true_iff]
      rintro rfl
      exact huser name rfl hc
    have hmem : '@' ∈ name.toList ++ '@' :: hostPort := by simp
    have htext : userPart (some name) ++ hostPort = name.toList ++ '@' :: hostPort := by
      simp [userPart]
    have htake : (name.toList ++ '@' :: hostPort).takeWhile (· ≠ '@') = name.toList := by
      rw [List.takeWhile_append_of_pos hname]
      simp
    have hdrop : ((name.toList ++ '@' :: hostPort).dropWhile (· ≠ '@')).drop 1 = hostPort := by
      rw [List.dropWhile_append_of_pos hname]
      simp
    rw [parseHostString, htext, String.toList_ofList]
    simp only [if_pos hmem, htake, hdrop, String.ofList_toList]

/-- Without a colon there is no port. -/
theorem readHostPort_of_not_mem (h : ':' ∉ hostPort) (hne : hostPort ≠ []) :
    readHostPort user hostPort = .ok (user, String.ofList hostPort, none) := by
  have hempty : hostPort.isEmpty = false := by simpa using hne
  simp only [readHostPort, if_neg h, hempty]
  rfl

/-- Behind the last colon there is the port, or nothing can be read. -/
theorem readHostPort_of_mem (h : ':' ∉ after) :
    readHostPort user (before ++ ':' :: after) =
      match parseUint 16 after with
      | none => .error ["Invalid port number: " ++ String.ofList after]
      | some port =>
        if before = [] then .error ["Hostname cannot be empty"]
        else .ok (user, String.ofList before, some port) := by
  have hmem : ':' ∈ before ++ ':' :: after := by simp
  have hafter : ∀ c ∈ after.reverse, decide (c ≠ ':') = true := by
    intro c hc
    rw [decide_eq_true_iff]
    rintro rfl
    exact h (List.mem_reverse.mp hc)
  have hreverse : (before ++ ':' :: after).reverse = after.reverse ++ ':' :: before.reverse := by
    simp
  have htake : (before ++ ':' :: after).rtakeWhile (· ≠ ':') = after := by
    rw [List.rtakeWhile, hreverse, List.takeWhile_append_of_pos hafter]
    simp
  have hdrop : (before ++ ':' :: after).rdropWhile (· ≠ ':') = before ++ [':'] := by
    rw [List.rdropWhile, hreverse, List.dropWhile_append_of_pos hafter]
    simp
  simp only [readHostPort, if_pos hmem, htake, hdrop, List.dropLast_concat]
  cases parseUint 16 after with
  | none => rfl
  | some port =>
    cases before with
    | nil => rfl
    | cons c before => rfl

/-- A text with a colon is never read as a host alone. -/
theorem port_of_readHostPort {user' : Option String} {hostname : String} {port : Option ℕ}
    (h : ':' ∈ hostPort) (hread : readHostPort user hostPort = .ok (user', hostname, port)) :
    port.isSome := by
  obtain ⟨after, before, hsplit, hnot⟩ := List.eq_append_cons_of_mem (List.mem_reverse.mpr h)
  have hhost : hostPort = before.reverse ++ ':' :: after.reverse := by
    rw [← List.reverse_reverse hostPort, hsplit]
    simp
  rw [hhost, readHostPort_of_mem (by simpa using hnot)] at hread
  split at hread
  · cases hread
  · split at hread
    · cases hread
    · cases hread
      rfl

end Read

/-! ## The separators in hosts -/

section Separators

variable {address : List Char}

/-- A version 4 address is made of digits and dots. -/
theorem not_mem_of_isIpv4 {c : Char} (h : isIpv4 address = true) (hdigit : c.isDigit = false)
    (hdot : c ≠ '.') : c ∉ address := by
  intro hc
  rw [isIpv4, Bool.and_eq_true, List.all_eq_true] at h
  rcases mem_splitOn '.' hc with rfl | ⟨part, hpart, hc⟩
  · exact hdot rfl
  · have hoctet := h.2 part hpart
    simp only [isOctet, Bool.and_eq_true, List.all_eq_true] at hoctet
    rw [hoctet.1.1.2 c hc] at hdigit
    cases hdigit

/-- One of version 6 has a colon. -/
theorem colon_mem_of_isIpv6 (h : isIpv6 address = true) : ':' ∈ address := by
  rw [isIpv6] at h
  split at h
  · by_contra hcolon
    -- without a colon there is one group, or two
    have hone : address.splitOn ':' = [address] := List.splitOn_eq_singleton hcolon
    rw [hone, groupCount] at h
    split at h
    · exact absurd h (by decide)
    · split at h
      · exact absurd h (by decide)
      · exact absurd h (by decide)
  · next head tail hsplit =>
    rw [splitElision_some hsplit]
    simp

/-- It has no `@`. -/
theorem at_not_mem_of_isIpv6 (h : isIpv6 address = true) : '@' ∉ address := by
  intro hat
  have haddr : parseIpAddr address = some .v4 ∨ parseIpAddr address = some .v6 := by
    rw [parseIpAddr, if_pos h]
    split
    · exact .inl rfl
    · exact .inr rfl
  rcases haddr with haddr | haddr
  · exact absurd (parseIpAddr_chars haddr '@' hat) (by decide)
  · exact absurd (parseIpAddr_chars haddr '@' hat) (by decide)

end Separators

/-! ## What is read back -/

/-- The host string is read as its parts, and the connection goes to its host: for the user and
the port, the fields of the jump host come first, then the parts, then what stands in for them. -/
def HostString.ReadBack (parts : HostString) : Prop :=
  parseHostString parts.text = .ok (parts.user, parts.host.text, parts.port) ∧
  ∀ (currentUser : Option String) (jumpHost : JumpHost) (targetUsername : String),
    jumpHost.host = parts.text →
    resolveJumpHost currentUser jumpHost targetUsername = .ok
      { hostname := parts.host.text
        port := jumpHost.port.getD (parts.port.getD 22)
        username :=
          jumpHost.username.getD (parts.user.getD (currentUser.getD targetUsername))
        sshKeyPath := jumpHost.sshKeyPath
        password := jumpHost.password }

/-- A jump host is what its string says, with defaults for the rest. -/
theorem resolveJumpHost_eq {host hostname : String} {user : Option String} {port : Option ℕ}
    (h : parseHostString host = .ok (user, hostname, port)) (currentUser : Option String)
    {jumpHost : JumpHost} (targetUsername : String) (hhost : jumpHost.host = host) :
    resolveJumpHost currentUser jumpHost targetUsername = .ok
      { hostname
        port := jumpHost.port.getD (port.getD 22)
        username := jumpHost.username.getD (user.getD (currentUser.getD targetUsername))
        sshKeyPath := jumpHost.sshKeyPath
        password := jumpHost.password } := by
  rw [resolveJumpHost, hhost, h]
  simp only [withContext, Except.mapError, Except.map, Option.getD_or]

theorem at_not_mem_portPart (port : Option ℕ) : '@' ∉ portPart port := by
  cases port with
  | none => exact List.not_mem_nil
  | some n =>
    rw [portPart, List.mem_cons, not_or]
    refine ⟨by decide, fun hat => ?_⟩
    exact absurd (Cli.isDigit_of_mem_toString hat) (by decide)

namespace Host

variable {host : Host}

theorem at_not_mem : '@' ∉ host.text.toList := by
  cases host with
  | dns name valid => exact valid.2.2
  | v4 address valid => exact not_mem_of_isIpv4 valid (by decide) (by decide)
  | v6 address valid => exact at_not_mem_of_isIpv6 valid

/-- A host has a colon exactly if it is an address of version 6. -/
theorem colon_mem_iff : ':' ∈ host.text.toList ↔ host.isV6 = true := by
  cases host with
  | dns name valid => exact iff_of_false valid.2.1 Bool.false_ne_true
  | v4 address valid =>
    exact iff_of_false (not_mem_of_isIpv4 valid (by decide) (by decide)) Bool.false_ne_true
  | v6 address valid => exact iff_of_true (colon_mem_of_isIpv6 valid) rfl

theorem text_ne_nil : host.text.toList ≠ [] := by
  cases host with
  | dns name valid => exact valid.1
  | v4 address valid =>
    intro hempty
    rw [text] at hempty
    rw [hempty] at valid
    exact absurd valid (by decide)
  | v6 address valid => exact List.ne_nil_of_mem (colon_mem_of_isIpv6 valid)

end Host

/-- A string is split at its user first. -/
theorem HostString.parse_text (parts : HostString) :
    parseHostString parts.text =
      readHostPort parts.user (parts.host.text.toList ++ portPart parts.port) := by
  apply parseHostString_eq parts.user_valid
  rw [List.mem_append, not_or]
  exact ⟨Host.at_not_mem, at_not_mem_portPart parts.port⟩

/-- Names and addresses of IPv4 are read back. -/
theorem HostString.parse_of_not_v6 {parts : HostString} (h : parts.host.isV6 = false) :
    parseHostString parts.text = .ok (parts.user, parts.host.text, parts.port) := by
  have hcolon : ':' ∉ parts.host.text.toList := by
    rw [Host.colon_mem_iff, h]
    exact Bool.false_ne_true
  rw [parse_text]
  cases hport : parts.port with
  | none =>
    rw [portPart, List.append_nil, readHostPort_of_not_mem hcolon Host.text_ne_nil,
      String.ofList_toList]
  | some n =>
    have hdigits : ':' ∉ (toString n).toList := fun hmem =>
      absurd (Cli.isDigit_of_mem_toString hmem) (by decide)
    rw [portPart, readHostPort_of_mem hdigits, parseUint_toString (parts.port_valid n hport)]
    dsimp only
    rw [if_neg Host.text_ne_nil, String.ofList_toList]

/-- A host string is read back unless its host is a literal of IPv6: the last colon of that is
taken for the one in front of a port. -/
theorem host_string_read_back_iff (parts : HostString) :
    parts.ReadBack ↔ parts.host.isV6 = false := by
  constructor
  · rintro ⟨hparse, -⟩
    rw [← Bool.not_eq_true]
    intro hv6
    have hport := parts.bare hv6
    rw [parts.parse_text, hport, portPart, List.append_nil] at hparse
    have hsome := port_of_readHostPort (Host.colon_mem_iff.mpr hv6) hparse
    cases hsome
  · intro h
    have hparse := HostString.parse_of_not_v6 h
    refine ⟨hparse, ?_⟩
    intro currentUser jumpHost targetUsername hhost
    exact resolveJumpHost_eq hparse currentUser targetUsername hhost

/-- The documentation address `2001:db8::1`, without a user. -/
def documentationHost : HostString where
  user := none
  host := .v6 "2001:db8::1" (by decide)
  port := none
  user_valid := by decide
  port_valid := by decide
  bare := fun _ => rfl

/-- The connection would go to port 1 of a host that does not exist. -/
theorem documentationHost_misread :
    parseHostString documentationHost.text = .ok (none, "2001:db8:", some 1) ∧
      ¬documentationHost.ReadBack := by
  have hparse : parseHostString documentationHost.text = .ok (none, "2001:db8:", some 1) := by
    decide
  refine ⟨hparse, ?_⟩
  rintro ⟨hread, -⟩
  rw [hparse] at hread
  exact absurd hread (by decide)

end SwitchConfigurator.Ssh
