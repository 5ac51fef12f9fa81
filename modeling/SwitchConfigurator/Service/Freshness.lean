import SwitchConfigurator.Service.Ownership
import SwitchConfigurator.Service.PendingReload

/-!
# What an apply sends

A configuration that is still the store's when its apply obtains the turn is not overtaken by an
older one. Nothing in the code ensures that it still is: `apply_config` clones it before the wait.
-/

namespace SwitchConfigurator.Service

/-- What was sent was the store's at this moment, between the turn and the sending. -/
structure FromStore (w : World) (x : Sent) (v : ℕ) : Prop where
  turn : x.turn ≤ v
  sent : v ≤ x.sentAt
  config : findSwitch x.config.id (w.history v) = some x.config

/-- No stale apply. The newest is first in `sent`. -/
structure NoStale (w : World) : Prop where
  fresh : ∀ x ∈ w.sent, ∃ v, FromStore w x v
  /-- What was sent later comes from no earlier moment. -/
  ordered : w.sent.Pairwise fun x y => x.config.id = y.config.id →
    ∀ v, FromStore w y v → ∃ v' ≥ v, FromStore w x v'
  /-- An apply that was requested, or at least obtained its turn, after the last update. -/
  current : ∀ x ∈ w.sent, x.requested = w.version ∨ x.turn = w.version →
    ∃ z ∈ w.sent.find? (·.config.id = x.config.id),
      findSwitch x.config.id w.config = some z.config

/-- What holds of the record along a run. -/
structure Recorded (w : World) : Prop where
  fresh : ∀ x ∈ w.sent, ∃ v, FromStore w x v
  ordered : w.sent.Pairwise fun x y => x.config.id = y.config.id →
    ∀ v, FromStore w y v → ∃ v' ≥ v, FromStore w x v'
  requested : ∀ x ∈ w.sent, x.requested ≤ x.turn
  sent : ∀ x ∈ w.sent, x.sentAt ≤ w.version

section

variable {hash : ConnectionKey → UInt64} {w w' : World} {t : Task} {e : Event} {new : List Task}
variable {Γ : Ctx} {x y : Sent} {v : ℕ}

/-- What was in the store at a version stays so. -/
theorem fromStore_congr (hhistory : ∀ v ≤ w.version, w'.history v = w.history v)
    (hsent : x.sentAt ≤ w.version) : FromStore w' x v ↔ FromStore w x v := by
  constructor
  all_goals
    intro h
    have hsame := hhistory v (h.sent.trans hsent)
    refine ⟨h.turn, h.sent, ?_⟩
  · exact hsame ▸ h.config
  · exact hsame.symm ▸ h.config

/-- Nothing is sent: the record stays, and the store's past with it. -/
theorem Recorded.same (h : Recorded w) (hsent : w'.sent = w.sent)
    (hversion : w.version ≤ w'.version) (hhistory : ∀ v ≤ w.version, w'.history v = w.history v) :
    Recorded w' := by
  have hfrom (x : Sent) (hx : x ∈ w.sent) (v : ℕ) : FromStore w' x v ↔ FromStore w x v :=
    fromStore_congr hhistory (h.sent x hx)
  refine ⟨?_, ?_, ?_, ?_⟩ <;> rw [hsent]
  · intro x hx
    obtain ⟨v, hv⟩ := h.fresh x hx
    exact ⟨v, (hfrom x hx v).mpr hv⟩
  · refine h.ordered.imp_of_mem fun hx hy hxy hid v hv => ?_
    obtain ⟨v', hle, hv'⟩ := hxy hid v ((hfrom _ hy v).mp hv)
    exact ⟨v', hle, (hfrom _ hx v').mpr hv'⟩
  · exact h.requested
  · exact fun x hx => (h.sent x hx).trans hversion

/-- The holder of the turn sends what its function has read. -/
theorem Recorded.send {c : SwitchConfig} (h : Recorded w) (hk : Knows True w t Γ)
    (hid : c.id ∈ t.guards) (hc : Γ.config c.id = some c) : Recorded (w.send c t.requested) := by
  obtain ⟨v, hturn, hversion, hfind⟩ := hk.fresh trivial c.id hid c hc
  let x : Sent := ⟨c, t.requested, w.turnAt c.id, w.version⟩
  have hx : FromStore w x v := ⟨hturn, hversion, hfind⟩
  refine ⟨?_, ?_, ?_, ?_⟩
  · refine List.forall_mem_cons.mpr ⟨⟨v, hx.turn, hx.sent, hx.config⟩, fun y hy => ?_⟩
    obtain ⟨u, hu⟩ := h.fresh y hy
    exact ⟨u, hu.turn, hu.sent, hu.config⟩
  · have hpast : w.sent.Pairwise fun x y => x.config.id = y.config.id → ∀ v,
        FromStore (w.send c t.requested) y v → ∃ v' ≥ v, FromStore (w.send c t.requested) x v' := by
      refine h.ordered.imp fun hxy hid v hv => ?_
      obtain ⟨v', hle, hv'⟩ := hxy hid v ⟨hv.turn, hv.sent, hv.config⟩
      exact ⟨v', hle, hv'.turn, hv'.sent, hv'.config⟩
    refine List.pairwise_cons.mpr ⟨fun y hy hsame u hu => ?_, hpast⟩
    have hsame : c.id = y.config.id := hsame
    by_cases hle : u ≤ v
    · exact ⟨v, hle, hx.turn, hx.sent, hx.config⟩
    · -- sent before in the same turn, so it is the same configuration
      have hyid : y.config.id ∈ t.guards := hsame ▸ hid
      rcases hk.sent y hy hyid with hsent | hconfig
      · have hturn' : w.turnAt c.id ≤ v := hturn
        have huv : u ≤ v := (hu.sent.trans (hsame ▸ hsent)).trans hturn'
        exact absurd huv hle
      · have heq : c = y.config := Option.some.inj (hc.symm.trans (hsame ▸ hconfig))
        refine ⟨u, le_rfl, ?_, hu.sent.trans (h.sent y hy), ?_⟩
        · exact hturn.trans (Nat.le_of_not_le hle)
        · show findSwitch c.id (w.history u) = some c
          rw [heq]
          exact hu.config
  · exact List.forall_mem_cons.mpr ⟨hk.requested c.id hid, h.requested⟩
  · exact List.forall_mem_cons.mpr ⟨le_rfl, h.sent⟩

/-- A step sends only what was in the store. -/
theorem Recorded.step (h : Recorded w) (ht : Sound True w t) (hs : Steps hash w t e w' new) :
    Recorded w' := by
  obtain ⟨Γ, hf, hk⟩ := ht
  have hsame (hsent : w'.sent = w.sent) : Recorded w' := by
    have hstable : w.Stable w' [] := hs.stable hf (by simp) (by simp)
    exact h.same hsent hstable.version hstable.history
  cases hs with
  | @apply b config k hi hprog =>
    have hok := (ok_idle hi).mp hf.ok
    rw [hprog] at hok
    exact h.send hk (hf.guards ▸ hok.1) hok.2.1
  | _ => exact hsame rfl

/-- What was sent last was sent no earlier than any other, so it is from no earlier moment. -/
theorem Recorded.noStale (h : Recorded w) : NoStale w := by
  refine ⟨h.fresh, h.ordered, fun x hx hlast => ?_⟩
  obtain ⟨v, hv⟩ := h.fresh x hx
  -- the last turn began after every change, so it saw the newest version
  have hversion : v = w.version := by
    have hrequested := h.requested x hx
    have hsent := h.sent x hx
    have hturn := hv.turn
    have hbefore := hv.sent
    omega
  have hfind : (w.sent.find? (·.config.id = x.config.id)).isSome := by
    rw [List.find?_isSome]
    exact ⟨x, hx, by simp⟩
  obtain ⟨z, hz⟩ := Option.isSome_iff_exists.mp hfind
  refine ⟨z, hz, ?_⟩
  obtain ⟨hzid, pre, post, hsplit, hpre⟩ := List.find?_eq_some_iff_append.mp hz
  have hzid : z.config.id = x.config.id := by simpa using hzid
  have hzmem : z ∈ w.sent := by
    rw [hsplit]
    simp
  have hmem : x ∈ z :: post := by
    rw [hsplit] at hx
    refine (List.mem_append.mp hx).resolve_left fun hx => ?_
    simpa using hpre x hx
  -- `z` was sent last, so what it sent is at least as new
  have hcurrent : findSwitch z.config.id (w.history w.version) = some z.config := by
    rcases List.mem_cons.mp hmem with rfl | hmem
    · exact hversion ▸ hv.config
    · have hpair := h.ordered
      rw [hsplit] at hpair
      have hcons := (List.pairwise_append.mp hpair).2.1
      obtain ⟨v', hle, hv'⟩ := (List.pairwise_cons.mp hcons).1 x hmem hzid v hv
      have hlatest : v' = w.version := by
        have hbefore := hv'.sent
        have hsent := h.sent z hzmem
        omega
      exact hlatest ▸ hv'.config
  rw [← hzid]
  exact hcurrent

end

section

variable {hash : ConnectionKey → UInt64} {initial : List SwitchConfig}
variable {s : TaskState World Task}
variable {tr : List (TaskState World Task × TaskLabel Request Event)}

/-- In every timely run, what is sent was in the store. -/
theorem recorded_of_run (hrun : (service hash initial).Run tr s)
    (htimely : TransitionSystem.Along Timely tr) : Recorded s.shared := by
  have hinit : Recorded (service hash initial).init :=
    ⟨List.forall_mem_nil _, .nil, List.forall_mem_nil _, List.forall_mem_nil _⟩
  refine @TaskSystem.run_invariant _ _ _ _ (service hash initial) Timely (Recorded ·.shared) _ _ hrun
    htimely hinit ?_ ?_
  · intro _ w tasks r _ _ _ _ hs
    exact hs
  · intro tr w pre t post e w' new hr hC _ hadv hs
    have hsound : AllSound True ⟨w, pre ++ t :: post⟩ :=
      sound_of_run hr fun p hp _ => hC p hp
    exact hs.step (hsound.tasks t (by simp)) (reached_of_run hr hadv).steps

/-- Where every apply that obtains the turn finds the configuration that it has read still in the
store, no apply is stale, in every state of the run. -/
theorem noStale_of_timely (hrun : (service hash initial).Run tr s)
    (htimely : TransitionSystem.Along Timely tr) :
    TransitionSystem.Always (fun s => NoStale s.shared) tr s :=
  hrun.always htimely fun _ _ hr hC => (recorded_of_run hr hC).noStale

end

instance (w : World) (t : Task) (e : Event) : Decidable (Current w t e) :=
  inferInstanceAs (Decidable (∀ c ∈ t.activity.calls, ∀ config ∈ t.prog.toApply, _ → _ = _))

instance (s : TaskState World Task) : ∀ l : TaskLabel Request Event, Decidable (Timely s l)
  | .arrive _ => .isTrue trivial
  | .go i e => inferInstanceAs (Decidable (∀ t ∈ s.tasks[i]?, Current s.shared t e))

/-- A `PUT` that gives the switch another hostname, up to its end. -/
def hostnameChanges : List (TaskLabel Request Event) :=
  [.arrive (.updateSwitch "office" fun old => old.map fun c => { c with hostname := "new" }),
    .go 0 .go, .go 0 .go]

/-- The apply that has the turn connects, sends, disconnects and ends. -/
def applySends : List (TaskLabel Request Event) :=
  [.go 0 .go, .go 0 (.outcome true), .go 0 (.outcome true), .go 0 (.outcome true),
    .go 0 (.outcome true), .go 0 (.outcome true), .go 0 .go, .go 0 .go, .go 0 .go, .go 0 .go,
    .go 0 .go]

/-- An apply that is requested after the update. -/
theorem noStale_of_timely_afterUpdate : ∃ tr s,
    (service (fun _ => 0) [{ id := "office" }]).Run tr s ∧
      TransitionSystem.Always (fun s => NoStale s.shared) tr s ∧
        s.tasks.length = 0 ∧ s.shared.sent.length = 1 := by
  have hrun := TransitionSystem.run_of_replay
    (show (service (fun _ => 0) [{ id := "office" }]).system.replay
      (service (fun _ => 0) [{ id := "office" }]).system.init
        (hostnameChanges ++ applyGetsTurn ++ applySends) = some (_, _) from rfl)
  exact ⟨_, _, hrun, noStale_of_timely hrun (by decide), rfl, rfl⟩

/-- One that has read its configuration before the update sends what the store no longer has. -/
theorem stale_apply : ∃ tr s, (service (fun _ => 0) [{ id := "office" }]).Run tr s ∧
    s.tasks.length = 0 ∧ ¬NoStale s.shared := by
  have hrun := TransitionSystem.run_of_replay
    (show (service (fun _ => 0) [{ id := "office" }]).system.replay
      (service (fun _ => 0) [{ id := "office" }]).system.init
        ([.arrive (.applyConfig "office"), .go 0 .go] ++ hostnameChanges ++
          List.replicate 7 (.go 0 .go) ++ applySends) = some (_, _) from rfl)
  refine ⟨_, _, hrun, rfl, fun hstale => ?_⟩
  obtain ⟨v, hv⟩ := hstale.fresh ⟨{ id := "office" }, 0, 1, 1⟩ List.mem_cons_self
  have hone : v = 1 := Nat.le_antisymm hv.sent hv.turn
  subst hone
  exact absurd hv.config (by decide)

end SwitchConfigurator.Service
