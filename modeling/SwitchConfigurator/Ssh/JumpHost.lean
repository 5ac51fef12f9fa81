import SwitchConfigurator.Models
import SwitchConfigurator.Vendors.Capabilities
import Mathlib.Data.List.DropRight

/-!
# Jump hosts

One hop of a chain of jump hosts: how its address is read, how it is connected to, and what
forwards a local port through it. The other end of a connection is a parameter.
-/

namespace SwitchConfigurator.Ssh

/-- An error with its contexts, the outermost first. -/
abbrev Failure := List String

def withContext {α : Type} (text : String) (r : Except Failure α) : Except Failure α :=
  r.mapError (text :: ·)

/-! ## Addresses -/

abbrev Address := String × ℕ

/-- What `parse_host_string` does with the text behind the user. -/
def readHostPort (user : Option String) (hostPort : List Char) :
    Except Failure (Option String × String × Option ℕ) :=
  let portText := hostPort.rtakeWhile (· ≠ ':')
  let hostname := if ':' ∈ hostPort then (hostPort.rdropWhile (· ≠ ':')).dropLast else hostPort
  let invalid := String.ofList portText
  let port : Except Failure (Option ℕ) :=
    if ':' ∈ hostPort then
      match parseUint 16 portText with
      | some port => .ok (some port)
      | none => .error [s!"Invalid port number: {invalid}"]
    else .ok none
  port.bind fun port =>
    if hostname.isEmpty then .error ["Hostname cannot be empty"]
    else .ok (user, String.ofList hostname, port)

/-- The user goes up to the first `@`, the port starts after the last `:`. -/
def parseHostString (host : String) : Except Failure (Option String × String × Option ℕ) :=
  let text := host.toList
  let user := if '@' ∈ text then some (String.ofList (text.takeWhile (· ≠ '@'))) else none
  let hostPort := if '@' ∈ text then (text.dropWhile (· ≠ '@')).drop 1 else text
  readHostPort user hostPort

structure ResolvedJumpHost where
  hostname : String
  port : ℕ
  username : String
  sshKeyPath : Option String
  password : Option String
  deriving DecidableEq, Repr

def ResolvedJumpHost.address (resolved : ResolvedJumpHost) : Address :=
  (resolved.hostname, resolved.port)

/-- `currentUser` is the variable `USER`. -/
def resolveJumpHost (currentUser : Option String) (jumpHost : JumpHost) (targetUsername : String) :
    Except Failure ResolvedJumpHost :=
  let host := jumpHost.host
  (withContext s!"Failed to parse jump host: {host}" (parseHostString host)).map
    fun (embeddedUser, hostname, embeddedPort) =>
      { hostname
        port := (jumpHost.port.or embeddedPort).getD 22
        username := ((jumpHost.username.or embeddedUser).or currentUser).getD targetUsername
        sshKeyPath := jumpHost.sshKeyPath
        password := jumpHost.password }

/-! ## Sessions -/

/-- What happens outside of the process while a chain is established. Hops are counted from 0. -/
structure Network where
  currentUser : Option String
  /-- The connection of a hop to an address. -/
  connect : ℕ → Address → Except Failure Unit
  /-- Authentication of a hop as a user, with the key at a path. -/
  keyAuth : ℕ → String → String → Except Failure Bool
  /-- Authentication of a hop as a user, with a password. -/
  passwordAuth : ℕ → String → String → Except Failure Bool
  /-- The port that binding port 0 gives a hop, where the ports in the list are taken. -/
  bind : ℕ → List ℕ → Except Failure ℕ
  bind_fresh : ∀ hop taken port, bind hop taken = .ok port → port ∉ taken
  localAddr : ℕ → Except Failure Unit
  /-- Has some program connected to the forwarded port of the hop, and closed the connection? -/
  served : ℕ → Bool

/-- `connectedTo` is the address that the connection was made to. -/
structure JumpHostSession where
  info : ResolvedJumpHost
  connectedTo : Address
  listener : Option ℕ := none
  deriving DecidableEq, Repr

/-- The task behind a forwarded port. It shares the session of its hop and the listener, accepts
one connection, and ends when that is closed. -/
structure ForwardTask where
  hop : ℕ
  localPort : ℕ
  target : Address
  deriving DecidableEq, Repr

section

variable (net : Network) (hop : ℕ)

/-- The key comes first, then the password. -/
def authenticate (resolved : ResolvedJumpHost) : Except Failure Bool :=
  let ⟨hostname, port, username, sshKeyPath, password⟩ := resolved
  match sshKeyPath.map (net.keyAuth hop username), password.map (net.passwordAuth hop username) with
  | some (.ok true), _ => .ok true
  | _, some (.ok true) => .ok true
  | none, none =>
    .error [s!"No authentication credentials provided for jump host {username}@{hostname}:{port}"]
  | _, _ => .ok false

def connect (resolved : ResolvedJumpHost) : Except Failure JumpHostSession := do
  let ⟨hostname, port, username, _, _⟩ := resolved
  withContext s!"Failed to establish connection to jump host {hostname}:{port}"
    (net.connect hop resolved.address)
  let authenticated ← authenticate net hop resolved
  if authenticated then
    .ok { info := resolved, connectedTo := resolved.address }
  else
    .error [s!"All authentication methods failed for jump host {username}@{hostname}:{port}"]

/-- The port of the listener that is bound for a hop. -/
def bindListener (taken : List ℕ) : Except Failure ℕ := do
  let port ← withContext "Failed to bind TCP listener for port forward" (net.bind hop taken)
  withContext "Failed to get local address" (net.localAddr hop)
  .ok port

def createPortForward (taken : List ℕ) (session : JumpHostSession) (target : Address) :
    Except Failure (JumpHostSession × ForwardTask) := do
  let localPort ← bindListener net hop taken
  .ok ({ session with listener := some localPort }, { hop, localPort, target })

end

/-! ## Successful steps -/

theorem bind_eq_ok {α β : Type} {r : Except Failure α} {f : α → Except Failure β} {b : β}
    (h : r.bind f = .ok b) : ∃ a, r = .ok a ∧ f a = .ok b := by
  cases r with
  | error failure => cases h
  | ok a => exact ⟨a, rfl, h⟩

theorem withContext_eq_ok {α : Type} {text : String} {r : Except Failure α} {a : α}
    (h : withContext text r = .ok a) : r = .ok a := by
  cases r with
  | error failure => cases h
  | ok a' => exact h

variable {net : Network} {hop : ℕ}

/-- A session is connected to the address of its own jump host. -/
theorem connect_eq_ok {resolved : ResolvedJumpHost} {session : JumpHostSession}
    (h : connect net hop resolved = .ok session) :
    session = { info := resolved, connectedTo := resolved.address } := by
  obtain ⟨_, _, h⟩ := bind_eq_ok h
  obtain ⟨authenticated, _, h⟩ := bind_eq_ok h
  cases authenticated with
  | true => exact (Except.ok.inj h).symm
  | false => cases h

/-- A listener is bound to a port that is free. -/
theorem bindListener_fresh {taken : List ℕ} {port : ℕ}
    (h : bindListener net hop taken = .ok port) : port ∉ taken := by
  obtain ⟨port', hbind, h⟩ := bind_eq_ok h
  obtain ⟨_, _, h⟩ := bind_eq_ok h
  cases h
  exact net.bind_fresh hop taken port (withContext_eq_ok hbind)

end SwitchConfigurator.Ssh
