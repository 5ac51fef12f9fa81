import SwitchConfigurator.Ssh.JumpHost
import Mathlib.Data.List.Nodup

/-!
# Chains of jump hosts

`JumpHostChain::establish`, with the tasks that it leaves running, and when a chain tunnels
through each of its hops.
-/

namespace SwitchConfigurator.Ssh

/-! ## Establishing a chain -/

structure JumpHostChain where
  sessions : List JumpHostSession
  finalLocalPort : ℕ
  deriving DecidableEq, Repr

/-- What the loop carries from hop to hop; `tasks` are those it has spawned. -/
structure Progress where
  sessions : List JumpHostSession := []
  tasks : List ForwardTask := []
  currentTarget : Option Address := none
  deriving DecidableEq, Repr

/-- The ports of the listeners that the sessions keep open. -/
def Progress.listening (progress : Progress) : List ℕ :=
  progress.sessions.filterMap JumpHostSession.listener

inductive Outcome where
  | established (chain : JumpHostChain) (tasks : List ForwardTask)
  | failed (failure : Failure) (tasks : List ForwardTask)
  deriving DecidableEq, Repr

section

variable (net : Network) (jumpHosts : List JumpHost) (target : Address) (targetUsername : String)

/-- Where a hop forwards to: the next jump host, or the target. -/
def nextTarget (idx : ℕ) : Except Failure Address :=
  match jumpHosts[idx + 1]? with
  | some nextJump =>
    (resolveJumpHost net.currentUser nextJump targetUsername).map ResolvedJumpHost.address
  | none => .ok target

/-- Connect to a hop and forward a port through it, where the ports in the list are taken. -/
def openHop (taken : List ℕ) (idx : ℕ) (jumpHost : JumpHost) :
    Except Failure (JumpHostSession × ForwardTask) := do
  let hopNum := idx + 1
  let resolved ← withContext s!"Failed to resolve jump host #{hopNum}"
    (resolveJumpHost net.currentUser jumpHost targetUsername)
  -- the tunnel that ends at this hop takes no part in connecting to it
  let jumpSession ← withContext s!"Failed to connect to jump host #{hopNum}"
    (connect net idx resolved)
  let next ← nextTarget net jumpHosts target targetUsername idx
  withContext s!"Failed to create port forward on jump host #{hopNum}"
    (createPortForward net idx taken jumpSession next)

def Progress.add (progress : Progress) (hop : JumpHostSession × ForwardTask) : Progress where
  sessions := progress.sessions ++ [hop.1]
  tasks := progress.tasks ++ [hop.2]
  currentTarget := some ("127.0.0.1", hop.2.localPort)

/-- The loop. A failure drops the sessions, not the tasks. -/
def establishFrom : List (JumpHost × ℕ) → Progress → Except (Failure × List ForwardTask) Progress
  | [], progress => .ok progress
  | (jumpHost, idx) :: rest, progress =>
    match openHop net jumpHosts target targetUsername progress.listening idx jumpHost with
    | .ok hop => establishFrom rest (progress.add hop)
    | .error failure => .error (failure, progress.tasks)

def establish : Outcome :=
  if jumpHosts.isEmpty then .failed ["Jump host chain is empty"] []
  else
    match establishFrom net jumpHosts target targetUsername jumpHosts.zipIdx {} with
    | .error (failure, tasks) => .failed failure tasks
    | .ok progress =>
      match progress.currentTarget with
      | some (_, finalLocalPort) =>
        .established { sessions := progress.sessions, finalLocalPort } progress.tasks
      | none => .failed ["Should have established at least one port forward"] progress.tasks

end

/-! ## Tunnels -/

/-- The tasks that have not ended. -/
def running (net : Network) (tasks : List ForwardTask) : List ForwardTask :=
  tasks.filter fun task => !net.served task.hop

/-- The hops with a session, and a listener, that something refers to. -/
def Outcome.openHops (net : Network) : Outcome → List ℕ
  | .established chain tasks =>
    List.range chain.sessions.length ++ (running net tasks).map ForwardTask.hop
  | .failed _ tasks => (running net tasks).map ForwardTask.hop

/-- Hop after hop is reached through the port that the hop before it forwards, no port is shared,
and the last one leads to the target. -/
structure Tunnels (net : Network) (target : Address) (chain : JumpHostChain)
    (tasks : List ForwardTask) : Prop where
  hops : ∀ k session, chain.sessions[k + 1]? = some session →
    ∃ task ∈ running net tasks, task.hop = k ∧ task.target = session.info.address ∧
      session.connectedTo = ("127.0.0.1", task.localPort)
  distinct : (tasks.map ForwardTask.localPort).Nodup
  final : ∃ task ∈ running net tasks, task.hop + 1 = chain.sessions.length ∧
    task.target = target ∧ task.localPort = chain.finalLocalPort

/-- What is asked of a chain of jump hosts, and of a failure to establish one. -/
def Outcome.Secure (net : Network) (jumpHosts : List JumpHost) (target : Address)
    (targetUsername : String) : Outcome → Prop
  | .established chain tasks =>
    List.Forall₂ (fun jumpHost session =>
        resolveJumpHost net.currentUser jumpHost targetUsername = .ok session.info)
      jumpHosts chain.sessions ∧ Tunnels net target chain tasks
  | .failed failure tasks => (failed failure tasks).openHops net = []

/-! ## When a chain tunnels -/

section

variable (net : Network) (jumpHosts : List JumpHost) (target : Address) (targetUsername : String)

/-- The ports that the hops before one are given. -/
def takenPorts : ℕ → List ℕ
  | 0 => []
  | k + 1 => takenPorts k ++ (bindListener net k (takenPorts k)).toOption.toList

def givenPort (k : ℕ) : Option ℕ := (bindListener net k (takenPorts net k)).toOption

/-- The address that a jump host is configured with. -/
def configuredAddress (jumpHost : JumpHost) : Option Address :=
  ((resolveJumpHost net.currentUser jumpHost targetUsername).map ResolvedJumpHost.address).toOption

/-- Can the hop be resolved, connected to and forwarded through? -/
def comesAbout (k : ℕ) : Bool :=
  match jumpHosts[k]? with
  | some jumpHost =>
    (openHop net jumpHosts target targetUsername (takenPorts net k) k jumpHost).isOk
  | none => false

def firstFailure : Option ℕ :=
  (List.range jumpHosts.length).find? fun k => !comesAbout net jumpHosts target targetUsername k

/-- Where no hop fails: every hop after the first is configured with the very port that the one
before it is given, and no other program has used a port up. Where one fails: the ports of all
hops before it have been used up by other programs. -/
def TunnelledByConfiguration : Prop :=
  match firstFailure net jumpHosts target targetUsername with
  | none =>
    (∀ k < jumpHosts.length, net.served k = false) ∧
      ∀ k jumpHost, jumpHosts[k + 1]? = some jumpHost →
        configuredAddress net targetUsername jumpHost =
          (givenPort net k).map fun port => ("127.0.0.1", port)
  | some k => ∀ j < k, net.served j = true

end

variable {net : Network} {jumpHosts : List JumpHost} {target : Address} {targetUsername : String}

/-- What an iteration opens: a session to the hop's own address, and the task that forwards. -/
theorem openHop_eq_ok {taken : List ℕ} {idx : ℕ} {jumpHost : JumpHost}
    {hop : JumpHostSession × ForwardTask}
    (h : openHop net jumpHosts target targetUsername taken idx jumpHost = .ok hop) :
    ∃ resolved port next, resolveJumpHost net.currentUser jumpHost targetUsername = .ok resolved ∧
      bindListener net idx taken = .ok port ∧
      nextTarget net jumpHosts target targetUsername idx = .ok next ∧
      hop = ({ info := resolved, connectedTo := resolved.address, listener := some port },
        { hop := idx, localPort := port, target := next }) := by
  obtain ⟨resolved, hresolved, h⟩ := bind_eq_ok h
  obtain ⟨session, hsession, h⟩ := bind_eq_ok h
  obtain ⟨next, hnext, h⟩ := bind_eq_ok h
  obtain ⟨port, hport, h⟩ := bind_eq_ok (withContext_eq_ok h)
  refine ⟨resolved, port, next, withContext_eq_ok hresolved, hport, hnext, ?_⟩
  rw [← Except.ok.inj h, connect_eq_ok (withContext_eq_ok hsession)]

/-- No port is taken twice. -/
theorem nodup_takenPorts (k : ℕ) : (takenPorts net k).Nodup := by
  induction k with
  | zero => exact .nil
  | succ k ih =>
    rw [takenPorts]
    cases hport : bindListener net k (takenPorts net k) with
    | error failure =>
      show (takenPorts net k ++ []).Nodup
      rwa [List.append_nil]
    | ok port =>
      refine List.nodup_append.mpr ⟨ih, List.nodup_singleton port, fun p hp q hq hpq => ?_⟩
      rw [List.mem_singleton.mp hq] at hpq
      exact bindListener_fresh hport (hpq ▸ hp)

/-- What the loop has built after so many hops. -/
structure Reached (net : Network) (jumpHosts : List JumpHost) (target : Address)
    (targetUsername : String) (done : List JumpHost) (progress : Progress) : Prop where
  infos : List.Forall₂ (fun jumpHost session =>
    resolveJumpHost net.currentUser jumpHost targetUsername =
      .ok session.info) done progress.sessions
  connected : ∀ session ∈ progress.sessions, session.connectedTo = session.info.address
  hops : progress.tasks.map ForwardTask.hop = List.range done.length
  ports : progress.tasks.map ForwardTask.localPort = takenPorts net done.length
  listening : progress.listening = takenPorts net done.length
  tasks : ∀ task ∈ progress.tasks, givenPort net task.hop = some task.localPort ∧
    nextTarget net jumpHosts target targetUsername task.hop = .ok task.target
  currentTarget : ∀ task, progress.tasks.getLast? = some task →
    progress.currentTarget = some ("127.0.0.1", task.localPort)

/-- One more hop has been opened. -/
theorem Reached.add {done : List JumpHost} {progress : Progress} {jumpHost : JumpHost}
    {hop : JumpHostSession × ForwardTask}
    (h : Reached net jumpHosts target targetUsername done progress)
    (hhop : openHop net jumpHosts target targetUsername (takenPorts net done.length) done.length
      jumpHost = .ok hop) :
    Reached net jumpHosts target targetUsername (done ++ [jumpHost]) (progress.add hop) := by
  obtain ⟨resolved, port, next, hresolved, hport, hnext, rfl⟩ := openHop_eq_ok hhop
  have hgiven : givenPort net done.length = some port := by rw [givenPort, hport]; rfl
  have htaken :
    takenPorts net (done ++ [jumpHost]).length = takenPorts net done.length ++ [port] := by
    rw [List.length_append, List.length_singleton, takenPorts, hport]
    rfl
  -- the new hop is appended everywhere; the older ones stay as they were
  refine ⟨?_, ?_, ?_, ?_, ?_, ?_, ?_⟩
  · exact List.rel_append h.infos (.cons hresolved .nil)
  · intro session hsession
    rcases List.mem_append.mp hsession with hmem | hmem
    · exact h.connected session hmem
    · rw [List.mem_singleton.mp hmem]
  · rw [Progress.add, List.map_append, h.hops, List.length_append, List.length_singleton,
      List.range_succ]
    rfl
  · rw [Progress.add, List.map_append, h.ports, htaken]
    rfl
  · rw [Progress.listening, Progress.add, List.filterMap_append, htaken, ← h.listening]
    rfl
  · intro task htask
    rcases List.mem_append.mp htask with hmem | hmem
    · exact h.tasks task hmem
    · rw [List.mem_singleton.mp hmem]
      exact ⟨hgiven, hnext⟩
  · intro task htask
    rw [Progress.add, List.getLast?_append_cons, List.getLast?_singleton,
      Option.some.injEq] at htask
    rw [← htask]
    rfl

/-- A chain comes about hop by hop. -/
theorem comesAbout_append {done rest : List JumpHost} {jumpHost : JumpHost}
    (hsplit : done ++ jumpHost :: rest = jumpHosts) :
    comesAbout net jumpHosts target targetUsername done.length =
      (openHop net jumpHosts target targetUsername (takenPorts net done.length) done.length
        jumpHost).isOk := by
  have hget : jumpHosts[done.length]? = some jumpHost := by simp [← hsplit]
  rw [comesAbout, hget]

/-- The loop goes on to the first hop that does not come about; the tasks of the hops before it
are left over. -/
theorem establishFrom_spec {done rest : List JumpHost} {progress : Progress}
    (hsplit : done ++ rest = jumpHosts)
    (h : Reached net jumpHosts target targetUsername done progress)
    (hdone : ∀ k < done.length, comesAbout net jumpHosts target targetUsername k = true) :
    match establishFrom net jumpHosts target targetUsername (rest.zipIdx done.length) progress with
    | .ok progress' =>
      Reached net jumpHosts target targetUsername jumpHosts progress' ∧
        firstFailure net jumpHosts target targetUsername = none
    | .error (_, tasks) =>
      ∃ k, firstFailure net jumpHosts target targetUsername = some k ∧
        tasks.map ForwardTask.hop = List.range k := by
  -- on the hops still to open; `done` says which are open already
  induction rest generalizing done progress with
  | nil =>
    rw [List.append_nil] at hsplit
    subst hsplit
    refine ⟨h, List.find?_eq_none.mpr fun k hk => ?_⟩
    simp [hdone k (List.mem_range.mp hk)]
  | cons jumpHost rest ih =>
    have hcomes : comesAbout net jumpHosts target targetUsername done.length = _ :=
      comesAbout_append hsplit
    rw [List.zipIdx_cons, establishFrom, h.listening]
    cases hhop : openHop net jumpHosts target targetUsername (takenPorts net done.length)
        done.length jumpHost with
    | error failure =>
      rw [hhop] at hcomes
      -- this hop fails, so it is the first one that does not come about
      refine ⟨done.length, ?_, h.hops⟩
      refine List.find?_range_eq_some.mpr ⟨?_, ?_, ?_⟩
      · rw [hcomes]
        rfl
      · rw [List.mem_range, ← hsplit, List.length_append, List.length_cons]
        omega
      · intro j hj
        rw [hdone j hj]
        rfl
    | ok hop =>
      rw [hhop] at hcomes
      have hnext := @ih (done ++ [jumpHost]) (progress.add hop)
        (by rw [List.append_assoc]; exact hsplit) (h.add hhop) ?_
      · simpa using hnext
      · intro k hk
        rw [List.length_append, List.length_singleton] at hk
        rcases Nat.lt_succ_iff_lt_or_eq.mp hk with hlt | rfl
        · exact hdone k hlt
        · exact hcomes

/-- The tasks that run are those that have not served their connection. -/
theorem map_hop_running (tasks : List ForwardTask) :
    (running net tasks).map ForwardTask.hop =
      (tasks.map ForwardTask.hop).filter fun k => !net.served k := by
  rw [running, List.filter_map]
  rfl

/-- A task is left over unless the port of every hop was used up. -/
theorem running_eq_nil_iff {tasks : List ForwardTask} {k : ℕ}
    (h : tasks.map ForwardTask.hop = List.range k) :
    (running net tasks).map ForwardTask.hop = [] ↔ ∀ j < k, net.served j = true := by
  rw [map_hop_running, h, List.filter_eq_nil_iff]
  simp

/-- Each hop that was opened has its task. -/
theorem Reached.getTask {done : List JumpHost} {progress : Progress}
    (h : Reached net jumpHosts target targetUsername done progress) {k : ℕ} (hk : k < done.length) :
    ∃ task ∈ progress.tasks, task.hop = k := by
  have hmem : k ∈ progress.tasks.map ForwardTask.hop := by
    rw [h.hops]
    exact List.mem_range.mpr hk
  obtain ⟨task, htask, rfl⟩ := List.mem_map.mp hmem
  exact ⟨task, htask, rfl⟩

/-- Each hop that was opened has its session, with the host it was resolved to. -/
theorem Reached.getSession {done : List JumpHost} {progress : Progress}
    (h : Reached net jumpHosts target targetUsername done progress) {k : ℕ} (hk : k < done.length) :
    ∃ session, progress.sessions[k]? = some session ∧
      resolveJumpHost net.currentUser done[k] targetUsername = .ok session.info ∧
      session.connectedTo = session.info.address := by
  have hlen : k < progress.sessions.length := h.infos.length_eq ▸ hk
  exact ⟨progress.sessions[k], List.getElem?_eq_getElem hlen,
    (List.forall₂_iff_get.mp h.infos).2 k hk hlen, h.connected _ (List.getElem_mem hlen)⟩

/-- The port to connect to next is that of the last task. -/
theorem Reached.lastTask {done : List JumpHost} {progress : Progress}
    (h : Reached net jumpHosts target targetUsername done progress) (hne : done ≠ []) :
    ∃ task ∈ progress.tasks, task.hop + 1 = done.length ∧
      progress.currentTarget = some ("127.0.0.1", task.localPort) := by
  have hlast : progress.tasks.getLast?.map ForwardTask.hop = some (done.length - 1) := by
    rw [← List.getLast?_map, h.hops, List.getLast?_range, if_neg]
    simpa using hne
  obtain ⟨task, htask, hhop⟩ := Option.map_eq_some_iff.mp hlast
  have hpos := List.length_pos_iff.mpr hne
  exact ⟨task, List.mem_of_getLast? htask, by omega, h.currentTarget task htask⟩

/-- The tunnels of a chain whose hops have all come about. -/
theorem Reached.tunnels_iff {progress : Progress} {finalLocalPort : ℕ} {host : String}
    (h : Reached net jumpHosts target targetUsername jumpHosts progress)
    (hfinal : progress.currentTarget = some (host, finalLocalPort)) (hne : jumpHosts ≠ []) :
    Tunnels net target { sessions := progress.sessions, finalLocalPort } progress.tasks ↔
      (∀ k < jumpHosts.length, net.served k = false) ∧
        ∀ k jumpHost, jumpHosts[k + 1]? = some jumpHost →
          configuredAddress net targetUsername jumpHost =
            (givenPort net k).map fun port => ("127.0.0.1", port) := by
  have hlen : progress.sessions.length = jumpHosts.length := h.infos.length_eq.symm
  have hrunning : ∀ task, task ∈ running net progress.tasks ↔
      task ∈ progress.tasks ∧ net.served task.hop = false := by
    intro task
    simp [running]
  constructor
  · intro htunnels
    constructor
    · intro k hk
      -- each forward but the last leads to the next hop, the last one to the switch
      rcases Nat.lt_or_ge (k + 1) jumpHosts.length with hlt | hge
      · obtain ⟨task, htask, rfl, _⟩ := htunnels.hops k _ (List.getElem?_eq_getElem (hlen ▸ hlt))
        exact ((hrunning task).mp htask).2
      · obtain ⟨task, htask, hhop, _⟩ := htunnels.final
        have heq : task.hop = k := by
          have : task.hop + 1 = progress.sessions.length := hhop
          omega
        exact heq ▸ ((hrunning task).mp htask).2
    · intro k jumpHost hget
      obtain ⟨hk, rfl⟩ := List.getElem?_eq_some_iff.mp hget
      obtain ⟨session, hsession, hresolved, hconnected⟩ := h.getSession hk
      obtain ⟨task, htask, rfl, _, hport⟩ := htunnels.hops k session hsession
      have hgiven := (h.tasks task ((hrunning task).mp htask).1).1
      -- the hop was connected to where it was configured, so both addresses are one
      have haddress : session.info.address = ("127.0.0.1", task.localPort) :=
        hconnected.symm.trans hport
      rw [configuredAddress, hresolved, hgiven]
      exact congrArg some haddress
  · rintro ⟨hserved, haddress⟩
    refine ⟨?_, ?_, ?_⟩
    · intro k session hsession
      have hk : k + 1 < jumpHosts.length :=
        hlen ▸ (List.getElem?_eq_some_iff.mp hsession).1
      obtain ⟨session', hsession', hresolved, hconnected⟩ := h.getSession hk
      obtain rfl : session' = session := Option.some.inj (hsession'.symm.trans hsession)
      obtain ⟨task, htask, rfl⟩ := h.getTask (show k < jumpHosts.length by omega)
      obtain ⟨hgiven, hnext⟩ := h.tasks task htask
      have hget : jumpHosts[task.hop + 1]? = some jumpHosts[task.hop + 1] :=
        List.getElem?_eq_getElem hk
      refine ⟨task, (hrunning task).mpr ⟨htask, hserved _ (by omega)⟩, rfl, ?_, ?_⟩
      · rw [nextTarget, hget] at hnext
        simp only [hresolved] at hnext
        exact (Except.ok.inj hnext).symm
      · have hconfigured := haddress _ _ hget
        rw [configuredAddress, hresolved, hgiven] at hconfigured
        rw [hconnected]
        exact Option.some.inj hconfigured
    · rw [h.ports]
      exact nodup_takenPorts _
    · obtain ⟨task, htask, hhop, hcurrent⟩ := h.lastTask hne
      obtain rfl : task.localPort = finalLocalPort := by
        rw [hcurrent] at hfinal
        exact (Prod.mk.inj (Option.some.inj hfinal)).2
      have hnone : jumpHosts[task.hop + 1]? = none := List.getElem?_eq_none (by omega)
      have hnext := (h.tasks task htask).2
      rw [nextTarget, hnone] at hnext
      exact ⟨task, (hrunning task).mpr ⟨htask, hserved _ (by omega)⟩, hhop.trans hlen.symm,
        (Except.ok.inj hnext).symm, rfl⟩

/-- A chain is secure exactly if its configuration already says what the tunnels would be, or
establishing fails where nothing is left over. -/
theorem secure_establish_iff (net : Network) (jumpHosts : List JumpHost) (target : Address)
    (targetUsername : String) :
    (establish net jumpHosts target targetUsername).Secure net jumpHosts target targetUsername ↔
      TunnelledByConfiguration net jumpHosts target targetUsername := by
  by_cases hempty : jumpHosts = []
  · subst hempty
    simp [establish, Outcome.Secure, Outcome.openHops, running, TunnelledByConfiguration,
      firstFailure]
  have hstart : Reached net jumpHosts target targetUsername [] {} :=
    ⟨.nil, by simp, rfl, rfl, rfl, by simp, by simp⟩
  have hspec :=
    establishFrom_spec (List.nil_append jumpHosts) hstart fun k hk => absurd hk k.not_lt_zero
  rw [establish, if_neg (by simpa using hempty)]
  rw [List.length_nil] at hspec
  cases hrun : establishFrom net jumpHosts target targetUsername jumpHosts.zipIdx {} with
  | error left =>
    obtain ⟨failure, tasks⟩ := left
    rw [hrun] at hspec
    obtain ⟨k, hfirst, hhops⟩ := hspec
    rw [TunnelledByConfiguration, hfirst]
    exact running_eq_nil_iff hhops
  | ok progress =>
    rw [hrun] at hspec
    obtain ⟨hreached, hfirst⟩ := hspec
    rw [TunnelledByConfiguration, hfirst]
    obtain ⟨last, _, _, hcurrent⟩ := hreached.lastTask hempty
    simp only [hcurrent]
    exact (and_iff_right hreached.infos).trans (hreached.tunnels_iff hcurrent hempty)

/-- A network where the hops below `reachable` answer, and ports are given out in order. -/
def orderedNetwork (reachable : ℕ) : Network where
  currentUser := none
  connect hop _ := if hop < reachable then .ok () else .error ["Connection refused"]
  keyAuth _ _ _ := .ok false
  passwordAuth _ _ _ := .ok true
  bind hop taken :=
    if 40001 + hop ∈ taken then .error ["Address already in use"] else .ok (40001 + hop)
  bind_fresh := by
    intro hop taken port h
    split at h
    · cases h
    · next hfree => exact Except.ok.inj h ▸ hfree
  localAddr _ := .ok ()
  served _ := false

def twoBastions : List JumpHost :=
  [{ host := "ops@bastion-1", password := some "secret" },
    { host := "ops@10.0.0.9", password := some "secret" }]

/-- What is opened for `twoBastions`, where both answer. -/
def twoBastionsChain : JumpHostChain where
  sessions :=
    [{ info := ⟨"bastion-1", 22, "ops", none, some "secret"⟩
       connectedTo := ("bastion-1", 22)
       listener := some 40001 },
     { info := ⟨"10.0.0.9", 22, "ops", none, some "secret"⟩
       connectedTo := ("10.0.0.9", 22)
       listener := some 40002 }]
  finalLocalPort := 40002

/-- The second hop is connected to at its own address; where it does not answer, the session and
the listener of the first hop stay open. -/
theorem twoBastions_bypass :
    establish (orderedNetwork 2) twoBastions ("10.0.0.20", 22) "admin" =
        .established twoBastionsChain
          [⟨0, 40001, ("10.0.0.9", 22)⟩, ⟨1, 40002, ("10.0.0.20", 22)⟩] ∧
      ¬(establish (orderedNetwork 2) twoBastions ("10.0.0.20", 22) "admin").Secure
        (orderedNetwork 2) twoBastions ("10.0.0.20", 22) "admin" ∧
      (establish (orderedNetwork 1) twoBastions ("10.0.0.20", 22) "admin").openHops
        (orderedNetwork 1) = [0] ∧
      ¬(establish (orderedNetwork 1) twoBastions ("10.0.0.20", 22) "admin").Secure
        (orderedNetwork 1) twoBastions ("10.0.0.20", 22) "admin" := by
  have hchain : establish (orderedNetwork 2) twoBastions ("10.0.0.20", 22) "admin" =
      .established twoBastionsChain
        [⟨0, 40001, ("10.0.0.9", 22)⟩, ⟨1, 40002, ("10.0.0.20", 22)⟩] := by
    decide +kernel
  have hleft : establish (orderedNetwork 1) twoBastions ("10.0.0.20", 22) "admin" =
      .failed
        ["Failed to connect to jump host #2",
          "Failed to establish connection to jump host 10.0.0.9:22", "Connection refused"]
        [⟨0, 40001, ("10.0.0.9", 22)⟩] := by
    decide +kernel
  rw [hchain, hleft]
  refine ⟨rfl, ?_, rfl, ?_⟩
  · rintro ⟨_, htunnels⟩
    obtain ⟨task, _, _, _, hport⟩ := htunnels.hops 0 _ rfl
    have haddress : "10.0.0.9" = "127.0.0.1" := congrArg Prod.fst hport
    exact absurd haddress (by decide)
  · intro hnothing
    cases hnothing

end SwitchConfigurator.Ssh
