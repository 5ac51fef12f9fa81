import SwitchConfigurator.Service.Discipline

/-!
# What a task owns and knows

The discipline of the handlers, carried along the steps of a task: what it has agrees with what
its function knows, and while it has the guard of a switch, no other task fills the switch's
slot or applies a configuration to it.
-/

namespace SwitchConfigurator.Service

open SessionPool (Op PoolEvent)

/-- A session is on its way to the caller, with it, or on its way back to the slot. -/
def onLoan : SessionPool.Phase → Bool
  | .requested _ | .resuming _ _ | .closingKept _ _ | .opening _ | .out _ _ | .keeping _ _ => true
  | _ => false

def isKeeping : SessionPool.Phase → Bool
  | .keeping _ _ => true
  | _ => false

/-- The operation has found the slot empty or has emptied it, and has not filled it again. -/
def emptied : SessionPool.Phase → Bool
  | .resuming _ _ | .closingKept _ _ | .opening _ | .out _ _ | .keeping _ _ | .closing _ => true
  | _ => false

section

variable {p p' : SessionPool} {op op' : Op} {a : PoolEvent} {ops : List Op} {id : String}

/-- An operation on the pool stays with its switch. -/
theorem switch_advance (h : SessionPool.advance p op a = some (p', ops)) (hop : op' ∈ ops) :
    op'.switch = op.switch := by
  cases SessionPool.advance_effect h <;> simp_all

/-- A slot is filled only by a release of its switch. -/
theorem slots_advance (h : SessionPool.advance p op a = some (p', ops))
    (hnone : p.slots id = none) :
    p'.slots id = none ∨ op.switch = id ∧ isKeeping op.phase = true := by
  cases SessionPool.advance_effect h with
  | go | done | giveUp | dropped | opened => exact .inl hnone
  | take | takeClose => exact .inl (by simp [hnone])
  | keep v f hphase _ | replace v f old hphase _ =>
    by_cases hid : id = op.switch
    · exact .inr ⟨hid.symm, by rw [hphase]; rfl⟩
    · exact .inl (by simp [hid, hnone])

/-- Only who had the session on loan has it after a step. -/
theorem onLoan_advance (h : SessionPool.advance p op a = some (p', ops)) (hop : op' ∈ ops)
    (hloan : onLoan op'.phase = true) : onLoan op.phase = true := by
  obtain ⟨switch, phase⟩ := op
  cases a <;> cases phase <;> simp only [SessionPool.advance] at h <;> try split at h
  all_goals try split_ifs at h
  all_goals cases h
  all_goals simp_all [onLoan]

/-- A slot that was emptied stays empty. -/
theorem emptied_advance (h : SessionPool.advance p op a = some (p', ops)) (hop : op' ∈ ops)
    (hempty : emptied op'.phase = true)
    (hnone : emptied op.phase = true → p.slots op.switch = none) : p'.slots op.switch = none := by
  obtain ⟨switch, phase⟩ := op
  cases a <;> cases phase <;> simp only [SessionPool.advance] at h <;> try split at h
  all_goals try split_ifs at h
  all_goals cases h
  all_goals simp_all [emptied]

/-- A session goes back to the slot from its caller only. -/
theorem isOut_of_keeping (h : SessionPool.advance p op a = some (p', ops)) (hop : op' ∈ ops)
    (hkeeping : isKeeping op'.phase = true) : isOut op.phase = true := by
  obtain ⟨switch, phase⟩ := op
  cases a <;> cases phase <;> simp only [SessionPool.advance] at h <;> try split at h
  all_goals try split_ifs at h
  all_goals cases h
  all_goals simp_all [isKeeping, isOut]

/-- When `close_idle` ends, no session is kept. -/
theorem closeIdle_advance {b : Bool}
    (h : SessionPool.advance p op (if b then .ok else .err) = some (p', []))
    (hphase : isCloseIdle op.phase = true)
    (hnone : emptied op.phase = true → p.slots op.switch = none) : p'.slots op.switch = none := by
  obtain ⟨switch, phase⟩ := op
  cases b <;> cases phase <;> cases hphase <;>
    simp only [SessionPool.advance, if_true, Bool.false_eq_true, if_false] at h <;> try split at h
  all_goals cases h
  all_goals simp_all [emptied]

end

/-- The operation on the pool that a task waits for. -/
def Activity.ops : Activity → List Op
  | .pool op => [op]
  | _ => []

/-- What a task has on the pool: its operation, and the session it has checked out. -/
def Task.ops (t : Task) : List Op := t.activity.ops ++ t.session.toList

/-- The rest of the function keeps to the discipline. The guard that is being released and the
session that is being ended are no longer the function's. -/
def Activity.Ok : Activity → Prog → Ctx → Prop
  | .turn _, .releaseGuard _ k, Γ | .pool _, .endSession _ k, Γ => k.Ok Γ
  | _, p, Γ => p.Ok Γ

def Task.Ok (t : Task) (Γ : Ctx) : Prop := t.activity.Ok t.prog Γ

/-- What a task has agrees with what its function knows. -/
structure Task.Fits (t : Task) (Γ : Ctx) : Prop where
  ok : t.Ok Γ
  guards : t.guards = Γ.guards
  session : Γ.session = false → t.session = none
  own : Γ.own = false → t.own = none
  timed : Γ.timed = false → t.deadline = none
  deadline : ∀ p ∈ t.deadline, t.own = none ∧ p.Ok { guards := t.guards, config := Γ.config }
  loan : ∀ op ∈ t.ops, onLoan op.phase = true → op.switch ∈ t.guards
  keeping : ∀ op ∈ t.ops, isKeeping op.phase = true → Γ.idle = ∅
  alone : ∀ op ∈ t.activity.ops, t.session = none

/-- The configuration was the store's at a moment since the turn was last obtained. -/
def World.Fresh (w : World) (id : String) (config : SwitchConfig) : Prop :=
  ∃ v, w.turnAt id ≤ v ∧ v ≤ w.version ∧ findSwitch id (w.history v) = some config

/-- What its function knows is true of the switches that it has the guard of. With `checked`,
the configurations that it applies are no older than the turn. -/
structure Knows (checked : Prop) (w : World) (t : Task) (Γ : Ctx) : Prop where
  idle : ∀ id ∈ t.guards, id ∈ Γ.idle → w.pool.slots id = none
  slot : ∀ op ∈ t.ops, op.switch ∈ t.guards → emptied op.phase = true →
    w.pool.slots op.switch = none
  fresh : checked → ∀ id ∈ t.guards, ∀ c, Γ.config id = some c → w.Fresh id c
  sent : ∀ x ∈ w.sent, x.config.id ∈ t.guards →
    x.sentAt ≤ w.turnAt x.config.id ∨ Γ.config x.config.id = some x.config
  turn : ∀ id ∈ t.guards, w.turnAt id ≤ w.version
  requested : ∀ id ∈ t.guards, t.requested ≤ w.turnAt id
  arrived : t.requested ≤ w.version

/-- Nothing has changed for the holder of these guards. -/
structure World.Stable (w w' : World) (guards : List String) : Prop where
  slots : ∀ id ∈ guards, w.pool.slots id = none → w'.pool.slots id = none
  turnAt : ∀ id ∈ guards, w'.turnAt id = w.turnAt id
  history : ∀ v ≤ w.version, w'.history v = w.history v
  version : w.version ≤ w'.version
  sent : ∀ x ∈ w'.sent, x.config.id ∈ guards → x ∈ w.sent

/-- The configuration that the function will apply in the turn that it asks for. -/
def Prog.toApply : Prog → Option SwitchConfig
  | .tryAcquire _ toApply _ | .acquireQueued _ toApply _ => toApply
  | _ => none

/-- The step gives the call the turn. -/
def getsTurn (w : World) (c : StatusTracker.Call) : Event → Bool
  | .go =>
    match StatusTracker.advance w.tracker c .go with
    | some (_, [c']) => c'.phase = .holding
    | _ => false
  | _ => false

section

variable {hash : ConnectionKey → UInt64} {checked : Prop} {w w' : World} {t t' : Task}
variable {Γ Γ' : Ctx} {e : Event} {new : List Task} {guards : List String}

/-- Nothing has changed for anybody. -/
theorem World.Stable.refl (w : World) (guards : List String) : w.Stable w guards :=
  ⟨fun _ _ h => h, fun _ _ => rfl, fun _ _ => rfl, le_rfl, fun _ h _ => h⟩

theorem World.Stable.tracker (w : World) (tracker : StatusTracker) (guards : List String) :
    w.Stable { w with tracker } guards :=
  ⟨fun _ _ h => h, fun _ _ => rfl, fun _ _ => rfl, le_rfl, fun _ h _ => h⟩

theorem World.Stable.write (w : World) (switches : List SwitchConfig) (guards : List String) :
    w.Stable (w.write switches) guards where
  slots _ _ h := h
  turnAt _ _ := rfl
  history v hv := Function.update_of_ne (by omega) _ _
  version := Nat.le_succ _
  sent _ h _ := h

theorem World.Stable.gotTurn (w : World) (tracker : StatusTracker) {id : String}
    (hid : id ∉ guards) : w.Stable (w.gotTurn tracker id) guards where
  slots _ _ h := h
  turnAt i hi := by
    have hne : i ≠ id := fun h => hid (h ▸ hi)
    exact Function.update_of_ne hne _ _
  history _ _ := rfl
  version := le_rfl
  sent _ h _ := h

/-- The pool may change as long as it fills no slot of these switches. -/
theorem World.Stable.pool {pool : SessionPool} (h : ∀ id ∈ guards, w.pool.slots id = none →
    pool.slots id = none) : w.Stable { w with pool } guards :=
  ⟨h, fun _ _ => rfl, fun _ _ => rfl, le_rfl, fun _ h _ => h⟩

/-- A configuration is sent to a switch whose turn somebody else has. -/
theorem World.Stable.send {c : SwitchConfig} {requested : ℕ} (h : c.id ∉ guards) :
    w.Stable (w.send c requested) guards where
  slots _ _ h := h
  turnAt _ _ := rfl
  history _ _ := rfl
  version := le_rfl
  sent x hx hid := by
    rcases List.mem_cons.mp hx with rfl | hx
    · exact absurd hid h
    · exact hx

/-- What was fresh stays fresh for the holder of the guard. -/
theorem World.Stable.fresh (h : w.Stable w' guards) {id : String} (hid : id ∈ guards)
    {c : SwitchConfig} (hc : w.Fresh id c) : w'.Fresh id c := by
  obtain ⟨v, hturn, hv, hfind⟩ := hc
  exact ⟨v, h.turnAt id hid ▸ hturn, hv.trans h.version, h.history v hv ▸ hfind⟩

/-- What a task knows stays true under steps of others. -/
theorem Knows.stable (hk : Knows checked w t Γ) (h : w.Stable w' t.guards) :
    Knows checked w' t Γ where
  idle id hid hidle := h.slots id hid (hk.idle id hid hidle)
  slot op hop hid hphase := h.slots _ hid (hk.slot op hop hid hphase)
  fresh hchecked id hid c hc := h.fresh hid (hk.fresh hchecked id hid c hc)
  sent x hx hid := h.turnAt _ hid ▸ hk.sent x (h.sent x hx hid) hid
  turn id hid := h.turnAt id hid ▸ (hk.turn id hid).trans h.version
  requested id hid := h.turnAt id hid ▸ hk.requested id hid
  arrived := hk.arrived.trans h.version

/-- Who has less knows less. -/
theorem Knows.weaken (hk : Knows checked w t Γ) (hguards : t'.guards ⊆ t.guards)
    (hops : t'.ops ⊆ t.ops) (hidle : Γ'.idle ⊆ Γ.idle) (hconfig : Γ'.config = Γ.config)
    (hrequested : t'.requested = t.requested) : Knows checked w t' Γ' where
  idle id hid hmem := hk.idle id (hguards hid) (hidle hmem)
  slot op hop hid := hk.slot op (hops hop) (hguards hid)
  fresh hchecked id hid := hconfig ▸ hk.fresh hchecked id (hguards hid)
  sent x hx hid := hconfig ▸ hk.sent x hx (hguards hid)
  turn id hid := hk.turn id (hguards hid)
  requested id hid := hrequested ▸ hk.requested id (hguards hid)
  arrived := hrequested ▸ hk.arrived

/-- A step of the task's operation on the pool. -/
theorem Knows.pool {op : Op} {a : PoolEvent} {pool : SessionPool} {ops : List Op}
    (hk : Knows checked w t Γ) (hf : t.Fits Γ) (hop : t.ops = [op])
    (hadv : SessionPool.advance w.pool op a = some (pool, ops)) (hguards : t'.guards = t.guards)
    (hops : t'.ops ⊆ ops)
    (hidle : ∀ id ∈ t.guards, id ∈ Γ'.idle → id ∈ Γ.idle ∨ pool.slots id = none)
    (hconfig : Γ'.config = Γ.config) (hrequested : t'.requested = t.requested) :
    Knows checked { w with pool } t' Γ' where
  idle id hid hmem := by
    rw [hguards] at hid
    rcases hidle id hid hmem with hmem | hnone
    · rcases slots_advance hadv (hk.idle id hid hmem) with hnone | ⟨_, hkeeping⟩
      · exact hnone
      · rw [hf.keeping op (hop ▸ List.mem_cons_self) hkeeping] at hmem
        exact hmem.elim
    · exact hnone
  slot op' hop' hid hphase := by
    have hswitch := switch_advance hadv (hops hop')
    rw [hswitch, hguards] at hid
    rw [hswitch]
    exact emptied_advance hadv (hops hop') hphase (hk.slot op (hop ▸ List.mem_cons_self) hid)
  fresh hchecked id hid := hconfig ▸ hk.fresh hchecked id (hguards ▸ hid)
  sent x hx hid := hconfig ▸ hk.sent x hx (hguards ▸ hid)
  turn id hid := hk.turn id (hguards ▸ hid)
  requested id hid := hrequested ▸ hk.requested id (hguards ▸ hid)
  arrived := hrequested ▸ hk.arrived

/-- A task that waits for the pool has this one operation. -/
theorem ops_pool {op : Op} (hf : t.Fits Γ) (h : t.activity = .pool op) : t.ops = [op] := by
  have halone := hf.alone op (by rw [h]; exact List.mem_cons_self)
  rw [Task.ops, h, halone]
  rfl

theorem ops_idle (h : t.activity = .idle) : t.ops = t.session.toList := by
  rw [Task.ops, h]
  rfl

theorem ok_idle (h : t.activity = .idle) : t.Ok Γ ↔ t.prog.Ok Γ := by
  rw [Task.Ok, h]
  exact Iff.rfl

/-- To choose a way keeps a program right. -/
theorem ok_control {p p' : Prog} (hp : p.Ok Γ) (h : Control w p e p') : p'.Ok Γ := by
  cases h with
  | choose k b => exact hp b
  | loadFiles k o => exact hp o
  | readConfig k => exact hp _
  | isSwitchBusy id k => exact hp _
  | connectFailed config k => exact hp.2.2.2.2.2

/-- The task keeps to the discipline, and what its function knows is true. -/
def Sound (checked : Prop) (w : World) (t : Task) : Prop :=
  ∃ Γ, t.Fits Γ ∧ Knows checked w t Γ

/-- The task of a cleanup or of an idle timer. -/
theorem sound_done (hok : t.prog = .done) (hguards : t.guards = []) (hsession : t.session = none)
    (hown : t.own = none) (hdeadline : t.deadline = none) (hrequested : t.requested = 0)
    (hops : ∀ op ∈ t.activity.ops, onLoan op.phase = false) : Sound checked w t := by
  have hloan : ∀ op ∈ t.ops, onLoan op.phase = false := by
    rw [Task.ops, hsession]
    simpa using hops
  have hkeeping {phase : SessionPool.Phase} (h : isKeeping phase = true) : onLoan phase = true := by
    cases phase <;> first | rfl | cases h
  refine ⟨{ guards := [] }, ⟨?_, hguards, fun _ => hsession, fun _ => hown, fun _ => hdeadline,
    by simp [hdeadline], ?_, fun _ _ _ => rfl, fun _ _ => hsession⟩, ?_⟩
  · unfold Task.Ok
    rw [hok]
    cases t.activity <;> rfl
  · intro op hop honLoan
    rw [hloan op hop] at honLoan
    cases honLoan
  · constructor <;> simp [hguards, hrequested]

/-- The turn is obtained, for an apply of the store's configuration if `checked`. -/
theorem sound_got {id : String} {a : Option SwitchConfig} {k : Bool → Prog} {c : StatusTracker.Call}
    {tracker : StatusTracker} (hwf : t.Wf) (hf : t.Fits Γ) (hk : Knows checked w t Γ)
    (hsent : ∀ x ∈ w.sent, x.sentAt ≤ w.version) (hc : t.activity = .turn c)
    (hid : id ∉ t.guards) (hp : Γ.timed = false ∧ (k true).Ok (Γ.gain id a))
    (hcurrent : checked → ∀ config ∈ a, findSwitch id w.config = some config) :
    Sound checked (w.gotTurn tracker id)
      { t with activity := .idle, prog := k true, guards := id :: t.guards } := by
  have hops : t.ops = t.session.toList := by
    rw [Task.ops, hc]
    rfl
  have hdeadline := hf.timed hp.1
  have hturn : Function.update w.turnAt id w.version id = w.version := Function.update_self ..
  -- the turn of every other switch keeps its time
  have hother {i : String} (hi : i ≠ id) :
      Function.update w.turnAt id w.version i = w.turnAt i := Function.update_of_ne hi ..
  refine ⟨Γ.gain id a, ⟨hp.2, congrArg _ hf.guards, hf.session, hf.own, hf.timed, ?_, ?_, ?_,
    by simp [Activity.ops]⟩, ?_⟩
  · simp [hdeadline]
  · intro op hop hloan
    exact List.mem_cons_of_mem _ (hf.loan op (hops ▸ hop) hloan)
  · intro op hop hkeeping
    have hidle := hf.keeping op (hops ▸ hop) hkeeping
    simp [Ctx.gain, hidle]
  constructor
  -- a turn that was held before keeps its slot idle
  · rintro i hi ⟨hmem, hne⟩
    exact hk.idle i ((List.mem_cons.mp hi).resolve_left hne) hmem
  · intro op hop hi hphase
    have hloan : onLoan op.phase = true := by
      have hout := hwf.session op (by simpa [Task.ops, Activity.ops] using hop)
      cases hphase : op.phase <;> rw [hphase] at hout <;> first | rfl | cases hout
    exact hk.slot op (hops ▸ hop) (hf.loan op (hops ▸ hop) hloan) hphase
  -- the new turn starts with what the store holds now; an older one keeps its version
  · intro hchecked i hi config hconfig
    by_cases hne : i = id
    · subst hne
      have ha : a = some config := by simpa [Ctx.gain] using hconfig
      exact ⟨w.version, hturn.le, le_rfl, hcurrent hchecked config ha⟩
    · have hmem := (List.mem_cons.mp hi).resolve_left hne
      have hold : Γ.config i = some config := by simpa [Ctx.gain, hne] using hconfig
      obtain ⟨v, hv, hle, hfind⟩ := hk.fresh hchecked i hmem config hold
      exact ⟨v, (hother hne).trans_le hv, hle, hfind⟩
  -- everything sent so far was sent before this turn began
  · intro x hx hi
    by_cases hne : x.config.id = id
    · left
      rw [hne]
      exact (hsent x hx).trans_eq hturn.symm
    · have hmem := (List.mem_cons.mp hi).resolve_left hne
      refine (hk.sent x hx hmem).imp (fun h => h.trans_eq (hother hne).symm) fun h => ?_
      simpa [Ctx.gain, hne] using h
  · intro i hi
    by_cases hne : i = id
    · subst hne
      exact hturn.le
    · exact (hother hne).trans_le (hk.turn i ((List.mem_cons.mp hi).resolve_left hne))
  · intro i hi
    by_cases hne : i = id
    · subst hne
      exact hk.arrived.trans_eq hturn.symm
    · exact (hk.requested i ((List.mem_cons.mp hi).resolve_left hne)).trans_eq (hother hne).symm
  · exact hk.arrived

/-- The configuration is written to the store. -/
theorem sound_write {f : List SwitchConfig → List SwitchConfig} {k : Prog} (hf : t.Fits Γ)
    (hk : Knows checked w t Γ) (hi : t.activity = .idle) (hprog : t.prog = .writeConfig f k) :
    Sound checked (w.write (f w.config)) (t.goTo k) := by
  have hp := (ok_idle hi).mp hf.ok
  rw [hprog] at hp
  obtain ⟨htimed, config, hwrites, hk'⟩ := hp
  have hdeadline := hf.timed htimed
  have hstable := hk.stable (.write w (f w.config) t.guards)
  have hok : (t.goTo k).Ok { Γ with config } := (ok_idle (t := t.goTo k) hi).mpr hk'
  refine ⟨{ Γ with config }, { hf with ok := hok, deadline := ?_ },
    { hstable with fresh := fun hchecked id hid c hc => ?_, sent := fun x hx hid => ?_ }⟩
  · simp [Task.goTo, hdeadline]
  · rcases hwrites id with hsame | ⟨_, hnew⟩
    · exact hstable.fresh hchecked id hid c (hsame.symm.trans hc)
    · refine ⟨w.version + 1, (hk.turn id hid).trans (Nat.le_succ _), le_rfl, ?_⟩
      have hhistory : (w.write (f w.config)).history (w.version + 1) = f w.config :=
        Function.update_self ..
      rw [hhistory, ← hnew]
      exact hc
  · refine (hstable.sent x hx hid).imp_right fun hold => ?_
    rcases hwrites x.config.id with hsame | ⟨hnone, _⟩
    · exact hsame.trans hold
    · cases hnone.symm.trans hold

/-- A task is spawned, and a guard may move into it. -/
theorem sound_spawn {p k : Prog} {guard : Option String} (hf : t.Fits Γ)
    (hk : Knows checked w t Γ) (hi : t.activity = .idle) (hprog : t.prog = .spawn p guard k) :
    Sound checked w { t with prog := k, guards := t.guards.diff guard.toList } ∧
      Sound checked w
        { handler := t.handler, prog := p, guards := guard.toList, requested := t.requested } := by
  have hp := (ok_idle hi).mp hf.ok
  rw [hprog] at hp
  obtain ⟨htimed, hsession, hguard, hp, hk'⟩ := hp
  have hdeadline := hf.timed htimed
  have hops : t.ops = [] := by
    rw [ops_idle hi, hf.session hsession]
    rfl
  constructor
  -- the parent keeps its knowledge of the turns it still holds
  · let parent : Task := { t with prog := k, guards := t.guards.diff guard.toList }
    have hparent : parent.ops = [] := hops
    have hok : parent.Ok { Γ with guards := Γ.guards.diff guard.toList } :=
      (ok_idle (t := parent) hi).mpr hk'
    refine ⟨_, { hf with ok := hok, guards := ?_, deadline := ?_, loan := ?_ },
      hk.weaken (List.diff_subset _ _) (fun _ h => h) (fun _ h => h) rfl rfl⟩
    · exact congrArg (·.diff guard.toList) hf.guards
    · simp [hdeadline]
    · intro op hop
      have hop : op ∈ parent.ops := hop
      rw [hparent] at hop
      cases hop
  · refine ⟨_, ⟨hp, rfl, fun _ => rfl, fun _ => rfl, fun _ => rfl, by simp, ?_, ?_, ?_⟩,
      hk.weaken ?_ ?_ (fun _ h => h.elim) rfl rfl⟩
    · simp [Task.ops, Activity.ops]
    · simp [Task.ops, Activity.ops]
    · simp [Activity.ops]
    -- the child knows of the one turn it was given
    · intro id hid
      rw [hf.guards]
      exact hguard id (by simpa using hid)
    · simp [Task.ops, Activity.ops]

/-- A step of the function that leaves all it has and knows as it is. -/
theorem sound_goTo {p : Prog} (hf : t.Fits Γ) (hk : Knows checked w t Γ)
    (hi : t.activity = .idle) (hp : p.Ok Γ) : Sound checked w (t.goTo p) :=
  ⟨Γ, { hf with ok := (ok_idle (t := t.goTo p) hi).mpr hp },
    hk.weaken (fun _ h => h) (fun _ h => h) (fun _ h => h) rfl rfl⟩

/-- A call has ended, and what it was called for has not been obtained. -/
theorem sound_resume {p : Prog} (hf : t.Fits Γ) (hk : Knows checked w t Γ) (hp : p.Ok Γ) :
    Sound checked w { t with activity := .idle, prog := p } := by
  have hops : ({ t with activity := .idle, prog := p } : Task).ops ⊆ t.ops :=
    List.subset_append_right _ _
  refine ⟨Γ, { hf with ok := hp, loan := ?_, keeping := ?_, alone := nofun },
    hk.weaken (fun _ h => h) hops (fun _ h => h) rfl rfl⟩
  · exact fun op hop => hf.loan op (hops hop)
  · exact fun op hop => hf.keeping op (hops hop)

/-- What is known to a task that is given up: it has what it had. -/
def Ctx.ended (Γ : Ctx) : Ctx := { Γ with session := true, own := true, timed := false, idle := ∅ }

theorem ops_ended : t.ended.ops ⊆ t.ops := List.subset_append_right _ _

/-- A task that ends is sound. -/
theorem sound_ended (hf : t.Fits Γ) (hk : Knows checked w t.ended Γ.ended) :
    Sound checked w t.ended :=
  ⟨Γ.ended, ⟨rfl, hf.guards, nofun, nofun, fun _ => rfl, nofun,
    fun op hop => hf.loan op (ops_ended hop), fun _ _ _ => rfl, nofun⟩, hk⟩

/-- What `tokio::time::timeout` has given up is dropped. -/
theorem sound_timedOut {p : Prog} (hf : t.Fits Γ) (hp : t.deadline = some p)
    (hk : Knows checked w (t.timedOut p) { guards := t.guards, config := Γ.config }) :
    Sound checked w (t.timedOut p) := by
  obtain ⟨hown, hok⟩ := hf.deadline p hp
  exact ⟨_, ⟨hok, rfl, fun _ => rfl, fun _ => hown, fun _ => rfl, nofun, nofun, fun _ _ _ => rfl,
    nofun⟩, hk⟩

section pool

variable {op op' : Op} {a : PoolEvent} {pool : SessionPool} {ops : List Op}

theorem ok_wait (h : t.activity = .pool op) : (t.wait (.pool op')).Ok Γ ↔ t.Ok Γ := by
  rw [Task.Ok, Task.Ok, h]
  show (Activity.pool op').Ok t.prog Γ ↔ _
  cases t.prog <;> exact Iff.rfl

/-- While a call on the pool is waited for, the session is not out. -/
theorem not_isOut_of_awaits {p : Prog} (h : Awaits p (.pool op)) : isOut op.phase = false := by
  obtain ⟨switch, phase⟩ := op
  cases h with
  | checkout _ _ h | closeIdle _ _ h | endSession _ _ _ h | timer _ h =>
    cases phase <;> first | rfl | cases h

/-- The operation goes on. -/
theorem sound_poolGoes (hwf : t.Wf) (hf : t.Fits Γ) (hk : Knows checked w t Γ)
    (hop : t.activity = .pool op) (hadv : SessionPool.advance w.pool op a = some (pool, [op'])) :
    Sound checked { w with pool } (t.wait (.pool op')) := by
  have hsession : t.session = none := hf.alone op (by rw [hop]; exact List.mem_cons_self)
  have hops : (t.wait (.pool op')).ops = [op'] := by
    rw [Task.ops, Task.wait, hsession]
    rfl
  have hmem : op ∈ t.ops := by rw [ops_pool hf hop]; exact List.mem_cons_self
  have hout := not_isOut_of_awaits (hop ▸ hwf.awaits)
  have hok : (t.wait (.pool op')).Ok Γ := (ok_wait hop).mpr hf.ok
  refine ⟨Γ, { hf with ok := hok, loan := ?_, keeping := ?_, alone := fun _ _ => hsession },
    hk.pool hf (ops_pool hf hop) hadv rfl ?_ ?_ rfl rfl⟩
  · intro op'' hop'' hloan
    rw [hops] at hop''
    rw [switch_advance hadv hop'']
    exact hf.loan op hmem (onLoan_advance hadv hop'' hloan)
  · intro op'' hop'' hkeeping
    rw [hops] at hop''
    cases hout.symm.trans (isOut_of_keeping hadv hop'' hkeeping)
  · rw [hops]
    exact fun _ h => h
  · exact fun _ _ h => .inl h

/-- What the function knows after a call on the pool. -/
theorem ok_poolEnds {p q : Prog} {id : String} (hq : Awaits q (.pool op))
    (hok : (Activity.pool op).Ok q Γ) (h : PoolEnds q id p) :
    ∃ idle, p.Ok { Γ with idle } ∧
      ∀ i ∈ idle, i ∈ Γ.idle ∨ i = id ∧ isCloseIdle op.phase = true := by
  cases h with
  | checkoutFailed config k => exact ⟨∅, hok.2.2.2.2, fun _ hi => hi.elim⟩
  | closeIdle id k =>
    have hphase : isCloseIdle op.phase = true := by cases hq; assumption
    refine ⟨insert id Γ.idle, hok.2, fun i hi => ?_⟩
    exact (Set.mem_insert_iff.mp hi).symm.imp_right (⟨·, hphase⟩)
  | discarded | timer => exact ⟨Γ.idle, hok, fun _ hi => .inl hi⟩

/-- The operation has ended, and its task goes on. -/
theorem sound_poolEnds {p : Prog} (hwf : t.Wf) (hf : t.Fits Γ) (hk : Knows checked w t Γ)
    (hop : t.activity = .pool op) {b : Bool} (hends : PoolEnds t.prog op.switch p)
    (hadv : SessionPool.advance w.pool op (if b then .ok else .err) = some (pool, [])) :
    Sound checked { w with pool } { t with activity := .idle, prog := p } := by
  have hsession : t.session = none := hf.alone op (by rw [hop]; exact List.mem_cons_self)
  have hmem : op ∈ t.ops := by rw [ops_pool hf hop]; exact List.mem_cons_self
  have hok := hf.ok
  rw [Task.Ok, hop] at hok
  obtain ⟨idle, hp, hidle⟩ := ok_poolEnds (hop ▸ hwf.awaits) hok hends
  have hops : ({ t with activity := .idle, prog := p } : Task).ops = [] := by
    rw [Task.ops, hsession]
    rfl
  refine ⟨{ Γ with idle }, { hf with ok := hp, loan := ?_, keeping := ?_, alone := nofun },
    hk.pool hf (ops_pool hf hop) hadv rfl ?_ ?_ rfl rfl⟩
  · simp [hops]
  · simp [hops]
  · simp [hops]
  · intro i hi hmemi
    rcases hidle i hmemi with h | ⟨rfl, hphase⟩
    · exact .inl h
    · exact .inr (closeIdle_advance hadv hphase (hk.slot op hmem hi))

/-- The session is handed to the caller. -/
theorem sound_checkedOut {config : SwitchConfig} {k : Bool → Prog} (hf : t.Fits Γ)
    (hk : Knows checked w t Γ) (hop : t.activity = .pool op) (hprog : t.prog = .checkout config k)
    (hadv : SessionPool.advance w.pool op a = some (pool, [op'])) :
    Sound checked { w with pool }
      { t with activity := .idle, prog := k true, session := some op' } := by
  have hmem : op ∈ t.ops := by rw [ops_pool hf hop]; exact List.mem_cons_self
  have hok := hf.ok
  rw [Task.Ok, hop, hprog] at hok
  have hdeadline := hf.deadline
  refine ⟨{ Γ with session := true, idle := ∅ }, ⟨hok.2.2.2.1, hf.guards, nofun, hf.own, hf.timed,
    hf.deadline, ?_, fun _ _ _ => rfl, nofun⟩,
    hk.pool hf (ops_pool hf hop) hadv rfl (fun _ h => h) (fun _ _ h => h.elim) rfl rfl⟩
  intro op'' hop'' hloan
  rw [switch_advance hadv hop'']
  exact hf.loan op hmem (onLoan_advance hadv hop'' hloan)

/-- The caller gives the session back. -/
theorem sound_endSession {k : Prog} {healthy : Bool} (hf : t.Fits Γ) (hk : Knows checked w t Γ)
    (hi : t.activity = .idle) (hprog : t.prog = .endSession healthy k)
    (hsession : t.session = some op)
    (hadv : SessionPool.advance w.pool op a = some (pool, [op'])) :
    Sound checked { w with pool } { t with activity := .pool op', session := none } := by
  have hops : t.ops = [op] := by rw [ops_idle hi, hsession]; rfl
  have hp := (ok_idle hi).mp hf.ok
  rw [hprog] at hp
  have hok : ({ t with activity := .pool op', session := none } : Task).Ok
      { Γ with session := false, idle := ∅ } := by
    rw [Task.Ok, hprog]
    exact hp
  refine ⟨_, ⟨hok, hf.guards, fun _ => rfl, hf.own, hf.timed, hf.deadline, ?_, fun _ _ _ => rfl,
    fun _ _ => rfl⟩, hk.pool hf hops hadv rfl (fun _ h => h) (fun _ _ h => h.elim) rfl rfl⟩
  intro op'' hop'' hloan
  rw [switch_advance hadv hop'']
  exact hf.loan op (hops ▸ List.mem_cons_self) (onLoan_advance hadv hop'' hloan)

/-- The session is given back, and its idle timer is left behind. -/
theorem sound_kept {k : Prog} {healthy : Bool} (hf : t.Fits Γ) (hk : Knows checked w t Γ)
    (hop : t.activity = .pool op) (hprog : t.prog = .endSession healthy k)
    (hadv : SessionPool.advance w.pool op a = some (pool, [op']))
    (hsleeping : isSleeping op'.phase = true) :
    Sound checked { w with pool } { t with activity := .idle, prog := k } ∧
      Sound checked { w with pool } (Task.idleTimer op') := by
  have hsession : t.session = none := hf.alone op (by rw [hop]; exact List.mem_cons_self)
  have hok := hf.ok
  rw [Task.Ok, hop, hprog] at hok
  have hops : ({ t with activity := .idle, prog := k } : Task).ops = [] := by
    rw [Task.ops, hsession]
    rfl
  constructor
  · refine ⟨Γ, { hf with ok := hok, loan := ?_, keeping := ?_, alone := nofun },
      hk.pool hf (ops_pool hf hop) hadv rfl ?_ (fun _ _ h => .inl h) rfl rfl⟩ <;> simp [hops]
  · refine sound_done rfl rfl rfl rfl rfl rfl fun op'' hop'' => ?_
    obtain rfl := List.mem_singleton.mp hop''
    cases hphase : op''.phase <;> simp_all [isSleeping, onLoan]

end pool

theorem ok_turn {c c' : StatusTracker.Call} (h : t.activity = .turn c) :
    (t.wait (.turn c')).Ok Γ ↔ t.Ok Γ := by
  rw [Task.Ok, Task.Ok, h]
  show (Activity.turn c').Ok t.prog Γ ↔ _
  cases t.prog <;> exact Iff.rfl

/-- The task starts to wait for a call. -/
theorem sound_starts {a : Activity} (hf : t.Fits Γ) (hk : Knows checked w t Γ)
    (hi : t.activity = .idle) (hs : Starts hash t.prog a) : Sound checked w (t.wait a) := by
  have hp := (ok_idle hi).mp hf.ok
  have hok : (t.wait a).Ok Γ := by
    rw [Task.Ok]
    show a.Ok t.prog Γ
    generalize t.prog = p at hs hp
    cases hs <;> exact hp
  have hops : (t.wait a).ops = a.ops ++ t.ops := by
    rw [ops_idle hi]
    rfl
  -- a call on the pool is made without a session, and `checkout` under the guard
  have hnew : ∀ op ∈ a.ops, t.session = none ∧ isKeeping op.phase = false ∧
      emptied op.phase = false ∧ (onLoan op.phase = true → op.switch ∈ t.guards) := by
    intro op hop
    generalize t.prog = p at hs hp
    cases hs with
    | tryAcquire | acquireQueued => cases hop
    | checkout config k =>
      obtain rfl := List.mem_singleton.mp hop
      exact ⟨hf.session hp.2.1, rfl, rfl, fun _ => hf.guards ▸ hp.1⟩
    | closeIdle id k =>
      obtain rfl := List.mem_singleton.mp hop
      exact ⟨hf.session hp.1, rfl, rfl, nofun⟩
  refine ⟨Γ, { hf with ok := hok, loan := ?_, keeping := ?_, alone := fun op hop => (hnew op hop).1 },
    { hk with slot := ?_ }⟩
  all_goals
    intro op hop
    rw [hops] at hop
    rcases List.mem_append.mp hop with hop | hop
  · exact (hnew op hop).2.2.2
  · exact hf.loan op hop
  · intro hkeeping
    cases (hnew op hop).2.1.symm.trans hkeeping
  · exact hf.keeping op hop
  · intro _ hempty
    cases (hnew op hop).2.2.1.symm.trans hempty
  · exact hk.slot op hop

/-- A guard is released. -/
theorem sound_release {id : String} {k : Prog} (hf : t.Fits Γ) (hk : Knows checked w t Γ)
    (hi : t.activity = .idle) (hprog : t.prog = .releaseGuard id k) : Sound checked w
      { t with activity := .turn ⟨id, .releasing⟩, guards := t.guards.erase id } := by
  have hp := (ok_idle hi).mp hf.ok
  rw [hprog] at hp
  obtain ⟨htimed, hsession, _, hk'⟩ := hp
  have hdeadline := hf.timed htimed
  have hnone := hf.session hsession
  let released : Task := { t with activity := .turn ⟨id, .releasing⟩, guards := t.guards.erase id }
  have hops : released.ops = [] := by
    rw [Task.ops, show released.session = none from hnone]
    rfl
  have hok : released.Ok { Γ with guards := Γ.guards.erase id } := by
    rw [Task.Ok, show released.prog = .releaseGuard id k from hprog]
    exact hk'
  have hsub : released.ops ⊆ t.ops := hops ▸ List.nil_subset _
  refine ⟨_, { hf with ok := hok, guards := ?_, deadline := ?_, loan := ?_, keeping := ?_, alone := nofun },
    hk.weaken List.erase_subset hsub (fun _ h => h) rfl rfl⟩
  · exact congrArg (·.erase id) hf.guards
  · simp [hdeadline]
  · intro op hop
    cases (hops ▸ hop : op ∈ [])
  · intro op hop
    cases (hops ▸ hop : op ∈ [])

/-- A vendor of the task's own is connected. -/
theorem sound_connected {config : SwitchConfig} {k : Bool → Prog} (hf : t.Fits Γ)
    (hk : Knows checked w t Γ) (hi : t.activity = .idle) (hprog : t.prog = .connect config k) :
    Sound checked w { t with prog := k true, own := some config.id } := by
  have hp := (ok_idle hi).mp hf.ok
  rw [hprog] at hp
  obtain ⟨_, _, htimed, _, hk', _⟩ := hp
  have hdeadline := hf.timed htimed
  let connected : Task := { t with prog := k true, own := some config.id }
  have hok : connected.Ok { Γ with own := true } := (ok_idle (t := connected) hi).mpr hk'
  refine ⟨_, { hf with ok := hok, own := nofun, deadline := ?_ },
    hk.weaken (fun _ h => h) (fun _ h => h) (fun _ h => h) rfl rfl⟩
  simp [hdeadline]

/-- A call for the turn goes on. -/
theorem sound_turnGoes {c c' : StatusTracker.Call} (hf : t.Fits Γ) (hk : Knows checked w t Γ)
    (hc : t.activity = .turn c) : Sound checked w (t.wait (.turn c')) := by
  have hops : (t.wait (.turn c')).ops = t.ops := by
    rw [Task.ops, Task.ops, hc]
    rfl
  refine ⟨Γ, { hf with ok := (ok_turn hc).mpr hf.ok, loan := ?_, keeping := ?_, alone := nofun },
    hk.weaken (fun _ h => h) (fun _ h => hops ▸ h) (fun _ h => h) rfl rfl⟩
  · exact fun op hop => hf.loan op (hops ▸ hop)
  · exact fun op hop => hf.keeping op (hops ▸ hop)

/-- Who asks for the turn goes on rightly with it and without it. -/
theorem ok_asks {id : String} {phase : StatusTracker.Phase} {a : Option SwitchConfig}
    {k : Bool → Prog} (hf : t.Fits Γ) (hc : t.activity = .turn ⟨id, phase⟩)
    (hasks : Asks t.prog phase id a k) : Γ.timed = false ∧
      (id ∉ Γ.guards → (k true).Ok (Γ.gain id a)) ∧ (k false).Ok Γ ∧ t.prog.toApply = a := by
  have hok := hf.ok
  rw [Task.Ok, hc] at hok
  generalize t.prog = p at hasks hok
  cases hasks <;> exact ⟨hok.1, hok.2.1, hok.2.2, rfl⟩

/-- The vendor of the task's own is disconnected. -/
theorem sound_disconnect {k : Prog} (hf : t.Fits Γ) (hk : Knows checked w t Γ)
    (hi : t.activity = .idle) (hprog : t.prog = .disconnect k) :
    Sound checked w { t with prog := k, own := none } := by
  have hp := (ok_idle hi).mp hf.ok
  rw [hprog] at hp
  have hok : k.Ok { Γ with own := false } := hp
  have hdeadline (p : Prog) (hp : p ∈ t.deadline) := (hf.deadline p hp).2
  exact ⟨_, { hf with
    ok := (ok_idle (t := { t with prog := k, own := none }) hi).mpr hok
    own := fun _ => rfl
    deadline := fun p hp => ⟨rfl, hdeadline p hp⟩ },
    hk.weaken (fun _ h => h) (fun _ h => h) (fun _ h => h) rfl rfl⟩

/-- A configuration is sent: what is known of it is known of what was sent. -/
theorem sound_apply {b : Bool} {config : SwitchConfig} {k : Bool → Prog} (hf : t.Fits Γ)
    (hk : Knows checked w t Γ) (hi : t.activity = .idle) (hprog : t.prog = .apply config k) :
    Sound checked (w.send config t.requested) (t.goTo (k b)) := by
  have hp := (ok_idle hi).mp hf.ok
  rw [hprog] at hp
  obtain ⟨hid, hconfig, hok⟩ := hp
  refine ⟨Γ, { hf with ok := (ok_idle (t := t.goTo (k b)) hi).mpr (hok b) },
    { hk with sent := ?_ }⟩
  intro x hx hmem
  rcases List.mem_cons.mp hx with rfl | hx
  · exact .inr hconfig
  · exact hk.sent x hx hmem

/-- A time limit is set: what it leads to has the guards that there are. -/
theorem sound_deadline {p k : Prog} (hf : t.Fits Γ) (hk : Knows checked w t Γ)
    (hi : t.activity = .idle) (hprog : t.prog = .deadline p k) :
    Sound checked w { t with prog := k, deadline := some p } := by
  have hok := (ok_idle hi).mp hf.ok
  rw [hprog] at hok
  obtain ⟨-, hown, hp, hok⟩ := hok
  have hp : p.Ok { guards := t.guards, config := Γ.config } := hf.guards ▸ hp
  refine ⟨{ Γ with timed := true }, { hf with
    ok := (ok_idle (t := { t with prog := k, deadline := some p }) hi).mpr hok
    timed := nofun
    deadline := ?_ }, hk.weaken (fun _ h => h) (fun _ h => h) (fun _ h => h) rfl rfl⟩
  intro q hq
  cases hq
  exact ⟨hf.own hown, hp⟩

/-- A time limit that was kept is forgotten. -/
theorem sound_inTime {k : Prog} (hf : t.Fits Γ) (hk : Knows checked w t Γ)
    (hi : t.activity = .idle) (hprog : t.prog = .inTime k) :
    Sound checked w { t with prog := k, deadline := none } := by
  have hp := (ok_idle hi).mp hf.ok
  rw [hprog] at hp
  have hok : k.Ok { Γ with timed := false } := hp
  exact ⟨_, { hf with
    ok := (ok_idle (t := { t with prog := k, deadline := none }) hi).mpr hok
    timed := fun _ => rfl
    deadline := nofun }, hk.weaken (fun _ h => h) (fun _ h => h) (fun _ h => h) rfl rfl⟩

/-! ### What is dropped -/

/-- A session that is dropped is no longer the task's. -/
theorem sound_dropSession {op : Op} {pool : SessionPool} {ops : List Op} (hf : t.Fits Γ)
    (hk : Knows checked w t Γ) (hi : t.activity = .idle) (hsession : t.session = some op)
    (hadv : SessionPool.advance w.pool op .drop = some (pool, ops)) :
    Sound checked { w with pool } { t with session := none } := by
  have hops : t.ops = [op] := by
    rw [ops_idle hi, hsession]
    rfl
  let dropped : Task := { t with session := none }
  have hnone : dropped.ops = [] := by
    rw [Task.ops, show dropped.activity = .idle from hi]
    rfl
  have hok : dropped.Ok Γ := (ok_idle (t := dropped) hi).mpr ((ok_idle hi).mp hf.ok)
  refine ⟨Γ, { hf with ok := hok, session := fun _ => rfl, loan := ?_, keeping := ?_, alone := ?_ },
    hk.pool hf hops hadv rfl ?_ (fun _ _ h => .inl h) rfl rfl⟩
  · exact hnone ▸ List.forall_mem_nil _
  · exact hnone ▸ List.forall_mem_nil _
  · exact fun _ _ => rfl
  · exact hnone ▸ List.nil_subset _

/-- Nor is a connection of its own. -/
theorem sound_dropOwn (hf : t.Fits Γ) (hk : Knows checked w t Γ) (hi : t.activity = .idle) :
    Sound checked w { t with own := none } := by
  have hok : ({ t with own := none } : Task).Ok Γ :=
    (ok_idle (t := { t with own := none }) hi).mpr ((ok_idle hi).mp hf.ok)
  have hdeadline (p : Prog) (hp : p ∈ t.deadline) := (hf.deadline p hp).2
  exact ⟨Γ, { hf with
    ok := hok
    own := fun _ => rfl
    deadline := fun p hp => ⟨rfl, hdeadline p hp⟩ },
    hk.weaken (fun _ h => h) (fun _ h => h) (fun _ h => h) rfl rfl⟩

/-- A guard that is dropped is no longer the task's; a task of its own gives the turn back. -/
theorem sound_dropGuard {id : String} {guards : List String} (hf : t.Fits Γ)
    (hk : Knows checked w t Γ) (hi : t.activity = .idle) (hprog : t.prog = .done)
    (hsession : t.session = none) (hguards : t.guards = id :: guards) :
    Sound checked w { t with guards } := by
  have hp := (ok_idle hi).mp hf.ok
  rw [hprog] at hp
  have htimed : Γ.timed = false := hp
  have hdeadline := hf.timed htimed
  let dropped : Task := { t with guards }
  have hops : dropped.ops = [] := by
    rw [ops_idle (t := dropped) hi, show dropped.session = none from hsession]
    rfl
  have hok : dropped.Ok { Γ with guards } := by
    rw [ok_idle (t := dropped) hi, show dropped.prog = .done from hprog]
    exact htimed
  have hsub : dropped.guards ⊆ t.guards := hguards ▸ List.subset_cons_self id guards
  refine ⟨_, { hf with
    ok := hok
    guards := rfl
    deadline := ?_
    loan := ?_
    keeping := ?_
    alone := fun _ _ => hsession }, hk.weaken hsub (fun _ h => h) (fun _ h => h) rfl rfl⟩
  · simp [hdeadline]
  · exact hops ▸ List.forall_mem_nil _
  · exact hops ▸ List.forall_mem_nil _

/-- The call on the pool is dropped with the task. -/
theorem sound_cancelPool {op : Op} {pool : SessionPool} {ops : List Op} (hf : t.Fits Γ)
    (hk : Knows checked w t Γ) (hop : t.activity = .pool op)
    (hadv : SessionPool.advance w.pool op .drop = some (pool, ops)) :
    Sound checked { w with pool } t.ended := by
  have hsession : t.session = none := hf.alone op (by rw [hop]; exact List.mem_cons_self)
  have hops : t.ended.ops = [] := by
    rw [Task.ops, show t.ended.session = none from hsession]
    rfl
  exact sound_ended hf (hk.pool hf (ops_pool hf hop) hadv rfl (hops ▸ List.nil_subset _)
    (fun _ _ h => h.elim) rfl rfl)

/-- What the time limit gives up has the session, or a call on the pool. -/
theorem sound_elapsed {p : Prog} {op : Op} {pool : SessionPool} {ops : List Op} (hf : t.Fits Γ)
    (hk : Knows checked w t Γ) (hd : t.deadline = some p) (hops : t.ops = [op])
    (hadv : SessionPool.advance w.pool op .drop = some (pool, ops)) :
    Sound checked { w with pool } (t.timedOut p) :=
  sound_timedOut hf hd (hk.pool hf hops hadv rfl (List.nil_subset _) (fun _ _ h => h.elim) rfl rfl)

/-- The task has obtained the turn to apply a configuration that is still the store's. -/
def Current (w : World) (t : Task) (e : Event) : Prop :=
  ∀ c ∈ t.activity.calls, ∀ config ∈ t.prog.toApply, getsTurn w c e = true →
    findSwitch c.switch w.config = some config

/-- One step of a task keeps it sound, and the tasks that it starts are. -/
theorem Steps.sound (hwf : t.Wf) (ht : Sound checked w t)
    (hsent : ∀ x ∈ w.sent, x.sentAt ≤ w.version) (hnodup : ∀ t' ∈ new, t'.guards.Nodup)
    (hcurrent : checked → Current w t e) (h : Steps hash w t e w' new) :
    ∀ t' ∈ new, Sound checked w' t' := by
  obtain ⟨Γ, hf, hk⟩ := ht
  have hone {w' : World} {t' : Task} (h : Sound checked w' t') : ∀ x ∈ [t'], Sound checked w' x :=
    List.forall_mem_singleton.mpr h
  have hcons {w' : World} {t' : Task} {rest : List Task} (h : Sound checked w' t')
      (hrest : ∀ x ∈ rest, Sound checked w' x) : ∀ x ∈ t' :: rest, Sound checked w' x :=
    List.forall_mem_cons.mpr ⟨h, hrest⟩
  have hcleanup {w' : World} (cs : List StatusTracker.Call) :
      ∀ x ∈ cs.map Task.cleanup, Sound checked w' x := by
    intro x hx
    obtain ⟨c, _, rfl⟩ := List.mem_map.mp hx
    exact sound_done rfl rfl rfl rfl rfl rfl nofun
  have htracker (tracker : StatusTracker) : Knows checked { w with tracker } t Γ :=
    hk.stable (.tracker w tracker t.guards)
  have hnode (hi : t.activity = .idle) (p : Prog) (hprog : t.prog = p) : p.Ok Γ :=
    hprog ▸ (ok_idle hi).mp hf.ok
  cases h with
  | control hi hc => exact hone (sound_goTo hf hk hi (ok_control ((ok_idle hi).mp hf.ok) hc))
  | starts hi hs => exact hone (sound_starts hf hk hi hs)
  | turnGoes hc => exact hone (sound_turnGoes hf (htracker _) hc)
  | @turnGot id phase a k tracker hc hasks hadv =>
    have hid : id ∉ t.guards := (List.nodup_cons.mp (hnodup _ List.mem_cons_self)).1
    obtain ⟨htimed, hok, -, happly⟩ := ok_asks hf hc hasks
    have hgets : getsTurn w ⟨id, phase⟩ .go = true := by simp [getsTurn, hadv]
    -- the configuration the turn brings along must still be the stored one
    refine hone (sound_got hwf hf hk hsent hc hid ⟨htimed, hok (hf.guards ▸ hid)⟩
      fun hchecked config hconfig => ?_)
    exact hcurrent hchecked ⟨id, phase⟩ (by rw [hc]; exact List.mem_cons_self) config
      (happly ▸ hconfig) hgets
  | turnLost hc hasks hadv =>
    exact hone (sound_resume hf (htracker _) (ok_asks hf hc hasks).2.2.1)
  | released hc hprog hadv | cleanedUp hc hprog hadv =>
    have hok := hf.ok
    rw [Task.Ok, hc, hprog] at hok
    exact hone (sound_resume hf (htracker _) hok)
  | poolGoes hop hadv _ _ => exact hone (sound_poolGoes hwf hf hk hop hadv)
  | checkedOut hop hprog hadv _ => exact hone (sound_checkedOut hf hk hop hprog hadv)
  | kept hop hprog hadv hsleeping =>
    obtain ⟨ht', htimer⟩ := sound_kept hf hk hop hprog hadv hsleeping
    exact hcons ht' (hone htimer)
  | poolEnds hop hends hadv => exact hone (sound_poolEnds hwf hf hk hop hends hadv)
  | write hi hprog => exact hone (sound_write hf hk hi hprog)
  | @queuePending id k hi hprog =>
    have hnode := hnode hi _ hprog
    have hok : k.Ok Γ := hnode
    exact hone (sound_goTo hf (htracker _) hi hok)
  | @takePending id k hi hprog =>
    have hnode := hnode hi _ hprog
    have hok : ∀ b, (k b).Ok Γ := hnode
    exact hone (sound_goTo hf (htracker _) hi (hok _))
  | release hi hprog _ => exact hone (sound_release hf hk hi hprog)
  | endSession hi hprog hsession hadv => exact hone (sound_endSession hf hk hi hprog hsession hadv)
  | connected hi hprog => exact hone (sound_connected hf hk hi hprog)
  | disconnect hi hprog => exact hone (sound_disconnect hf hk hi hprog)
  | apply hi hprog => exact hone (sound_apply hf hk hi hprog)
  | spawn hi hprog _ =>
    obtain ⟨ht', hchild⟩ := sound_spawn hf hk hi hprog
    -- the guard may move into the child; what the parent knew of the turn goes with it
    exact hcons ht' (hone hchild)
  | deadline hi hprog => exact hone (sound_deadline hf hk hi hprog)
  | inTime hi hprog => exact hone (sound_inTime hf hk hi hprog)
  | dropSession hi _ hsession hadv => exact hone (sound_dropSession hf hk hi hsession hadv)
  | dropOwn hi => exact hone (sound_dropOwn hf hk hi)
  | dropGuard hi hprog hsession _ hguards =>
    -- the cleanup of a dropped guard runs as a task of its own and owns nothing
    exact hcons (sound_dropGuard hf hk hi hprog hsession hguards)
      (hone (sound_done rfl rfl rfl rfl rfl rfl nofun))
  | exit => exact List.forall_mem_nil _
  | cancelIdle =>
    exact hone (sound_ended hf (hk.weaken (fun _ h => h) ops_ended (fun _ h => h.elim) rfl rfl))
  | cancelTurn =>
    have hk' := htracker ‹_›
    exact hcons (sound_ended hf (hk'.weaken (fun _ h => h) ops_ended (fun _ h => h.elim) rfl rfl))
      (hcleanup _)
  | cancelPool hop _ hadv => exact hone (sound_cancelPool hf hk hop hadv)
  | elapseIdle hd hi hsession =>
    exact hone (sound_timedOut hf hd (hk.weaken (fun _ h => h) (List.nil_subset _)
      (fun _ h => h.elim) rfl rfl))
  | @elapseSession p op pool ops hd hi hsession hadv =>
    have hops : t.ops = [op] := by
      rw [ops_idle hi, hsession]
      rfl
    exact hone (sound_elapsed hf hk hd hops hadv)
  | elapsePool hd hop hsession hadv =>
    exact hone (sound_elapsed hf hk hd (ops_pool hf hop) hadv)

/-- An operation on the pool changes nothing for the holder of other guards. -/
theorem stable_pool {op : Op} {a : PoolEvent} {pool : SessionPool} {ops : List Op}
    (hf : t.Fits Γ) (hop : op ∈ t.ops) (hadv : SessionPool.advance w.pool op a = some (pool, ops))
    (hold : ∀ id ∈ t.guards, id ∉ guards) : w.Stable { w with pool } guards := by
  refine .pool fun id hid hnone => ?_
  rcases slots_advance hadv hnone with hnone | ⟨rfl, hkeeping⟩
  · exact hnone
  · have hloan : onLoan op.phase = true := by
      cases hphase : op.phase <;> rw [hphase] at hkeeping <;> first | rfl | cases hkeeping
    exact absurd hid (hold _ (hf.loan op hop hloan))

/-- A step of a task changes nothing for the holder of other guards. -/
theorem Steps.stable (hf : t.Fits Γ) (hold : ∀ id ∈ t.guards, id ∉ guards)
    (hnew : ∀ t' ∈ new, ∀ id ∈ t'.guards, id ∉ guards) (h : Steps hash w t e w' new) :
    w.Stable w' guards := by
  have hpool {op : Op} (hop : t.activity = .pool op) : op ∈ t.ops := by
    rw [ops_pool hf hop]
    exact List.mem_cons_self
  have hsession {op : Op} (hop : t.session = some op) : op ∈ t.ops := by
    rw [Task.ops, hop]
    exact List.mem_append_right _ List.mem_cons_self
  cases h with
  | turnGot => exact .gotTurn _ _ (hnew _ List.mem_cons_self _ List.mem_cons_self)
  | turnGoes | turnLost | released | cleanedUp | queuePending | takePending | cancelTurn =>
    exact .tracker _ _ _
  | poolGoes hop hadv | checkedOut hop _ hadv | kept hop _ hadv | poolEnds hop _ hadv
  | cancelPool hop _ hadv => exact stable_pool hf (hpool hop) hadv hold
  | elapsePool _ hop _ hadv => exact stable_pool hf (hpool hop) hadv hold
  | endSession _ _ hop hadv | dropSession _ _ hop hadv | elapseSession _ _ hop hadv =>
    exact stable_pool hf (hsession hop) hadv hold
  | write => exact .write _ _ _
  | apply hi hprog =>
    have hok := (ok_idle hi).mp hf.ok
    rw [hprog] at hok
    exact .send (hold _ (hf.guards ▸ hok.1))
  | _ => exact .refl _ _

/-- What is sent is sent at the store's version. -/
theorem Steps.sentAt (h : Steps hash w t e w' new) (hsent : ∀ x ∈ w.sent, x.sentAt ≤ w.version) :
    ∀ x ∈ w'.sent, x.sentAt ≤ w'.version := by
  cases h with
  | apply => exact List.forall_mem_cons.mpr ⟨le_rfl, hsent⟩
  | write => exact fun x hx => (hsent x hx).trans (Nat.le_succ _)
  | _ => exact hsent

end

/-- Whoever obtains the turn for an apply finds the configuration that it will apply still in
the store. -/
def Timely (s : TaskState World Task) : TaskLabel Request Event → Prop
  | .arrive _ => True
  | .go i e => ∀ t ∈ s.tasks[i]?, Current s.shared t e

/-- All tasks are sound, and the record of what was sent is not ahead of the store. -/
structure AllSound (checked : Prop) (s : TaskState World Task) : Prop where
  tasks : ∀ t ∈ s.tasks, Sound checked s.shared t
  sent : ∀ x ∈ s.shared.sent, x.sentAt ≤ s.shared.version

section

variable {hash : ConnectionKey → UInt64} {initial : List SwitchConfig} {checked : Prop}
variable {w w' : World} {t : Task} {e : Event} {pre post new : List Task}
variable {s : TaskState World Task}
variable {tr : List (TaskState World Task × TaskLabel Request Event)}

/-- A request starts out with nothing. -/
theorem sound_start (w : World) (r : Request) :
    Sound checked w ((service hash initial).start w r) := by
  have hops : ((service hash initial).start w r).ops = [] := rfl
  refine ⟨{ guards := [] }, ⟨ok_prog r, rfl, fun _ => rfl, fun _ => rfl, fun _ => rfl, ?_, ?_,
    fun _ _ _ => rfl, fun _ _ => rfl⟩, ?_⟩
  · exact fun _ h => nomatch h
  · exact hops ▸ List.forall_mem_nil _
  · constructor <;> simp [service]

/-- A step of any task keeps all of them sound. -/
theorem AllSound.step (hs : AllSound checked ⟨w, pre ++ t :: post⟩)
    (hr : Reached hash w pre t post e w' new) (hcurrent : checked → Current w t e) :
    AllSound checked ⟨w', pre ++ new ++ post⟩ := by
  have ht : Sound checked w t := hs.tasks t (by simp)
  have hnodup : ∀ t' ∈ new, t'.guards.Nodup := by
    have hall := (List.nodup_flatMap.mp hr.after).1
    exact fun t' ht' => hall t' (by simp [ht'])
  refine ⟨?_, hr.steps.sentAt hs.sent⟩
  -- for the other tasks nothing has changed
  have hother : ∀ u ∈ pre ++ post, Sound checked w' u := by
    intro u hu
    obtain ⟨Γ, hf, _⟩ := ht
    obtain ⟨Γu, hfu, hku⟩ := hs.tasks u (by simp at hu ⊢; tauto)
    have hbefore : ((pre ++ [t] ++ post).flatMap Task.guards).Nodup := by
      rw [List.append_assoc]
      exact hr.before
    have hold : ∀ id ∈ t.guards, id ∉ u.guards :=
      fun id hid => not_mem_guards hbefore List.mem_cons_self hid hu
    have hnew : ∀ t' ∈ new, ∀ id ∈ t'.guards, id ∉ u.guards :=
      fun t' ht' id hid => not_mem_guards hr.after ht' hid hu
    exact ⟨Γu, hfu, hku.stable (hr.steps.stable hf hold hnew)⟩
  have hmoved := hr.steps.sound hr.wf ht hs.sent hnodup hcurrent
  intro u hu
  rcases List.mem_append.mp (TaskSystem.perm_front.mem_iff.mp hu) with hu | hu
  · exact hmoved u hu
  · exact hother u hu

/-- In every run all tasks are sound. -/
theorem sound_of_run (hrun : (service hash initial).Run tr s)
    (htimely : TransitionSystem.Along (fun s l => checked → Timely s l) tr) :
    AllSound checked s := by
  refine @TaskSystem.run_invariant _ _ _ _ (service hash initial) (fun s l => checked → Timely s l)
    (AllSound checked) _ _ hrun htimely ⟨List.forall_mem_nil _, List.forall_mem_nil _⟩ ?_ ?_
  · intro _ w tasks r _ _ _ _ hs
    exact ⟨List.forall_mem_cons.mpr ⟨sound_start w r, hs.tasks⟩, hs.sent⟩
  · intro _ w pre t post e w' new hr _ hc hadv hs
    refine hs.step (reached_of_run hr hadv) fun hchecked => ?_
    exact hc hchecked t (by simp)

end

end SwitchConfigurator.Service
