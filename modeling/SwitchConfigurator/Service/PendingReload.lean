import SwitchConfigurator.Service.Turn

/-!
# Pending reloads

The watcher queues a reload of a switch that it finds busy. Only its own apply of that switch
would take the reload up, and its next try for the turn is refused because of it.
-/

namespace SwitchConfigurator.Service

namespace Prog

/-- Functions that leave the pending reloads alone. -/
def NoReload : Prog → Prop
  | .done => True
  | .queuePendingReload _ _ | .takePendingReload _ _ => False
  | .choose k | .isSwitchBusy _ k | .tryAcquire _ _ k | .acquireQueued _ _ k | .checkout _ k
  | .connect _ k | .apply _ k => ∀ b, (k b).NoReload
  | .loadFiles k => ∀ o, (k o).NoReload
  | .readConfig k => ∀ switches, (k switches).NoReload
  | .writeConfig _ k | .releaseGuard _ k | .closeIdle _ k | .endSession _ k | .disconnect k
  | .inTime k => k.NoReload
  | .spawn p _ k | .deadline p k => p.NoReload ∧ k.NoReload

/-- The watcher's functions. It has had the turn of the switches in `free` and queued no
reload of them since; with `refused` it has just been refused the turn of that switch, and
queues a reload of it next. -/
def Watches : Prog → Set String → Option String → Prop
  | .done, _, refused => refused = none
  | .queuePendingReload id k, free, refused => refused = some id ∧ k.Watches (free \ {id}) none
  | .takePendingReload id k, free, refused =>
    refused = none ∧ id ∈ free ∧ ∀ b, (k b).Watches free none
  | .tryAcquire id _ k, free, refused =>
    refused = none ∧ (k true).Watches (insert id free) none ∧ (k false).Watches free (some id)
  | .choose k, free, refused | .isSwitchBusy _ k, free, refused | .connect _ k, free, refused
  | .apply _ k, free, refused => refused = none ∧ ∀ b, (k b).Watches free none
  | .loadFiles k, free, refused => refused = none ∧ ∀ o, (k o).Watches free none
  | .readConfig k, free, refused => refused = none ∧ ∀ switches, (k switches).Watches free none
  | .writeConfig _ k, free, refused | .releaseGuard _ k, free, refused
  | .closeIdle _ k, free, refused | .disconnect k, free, refused =>
    refused = none ∧ k.Watches free none
  | .acquireQueued _ _ _, _, _ | .checkout _ _, _, _ | .endSession _ _, _, _
  | .spawn _ _ _, _, _ | .deadline _ _, _, _ | .inTime _, _, _ => False

/-- The lookup of the switch at the start of a handler. -/
theorem noReload_lookup {f : SwitchConfig → Prog} (hf : ∀ config, (f config).NoReload)
    (o : Option SwitchConfig) :
    (match o with | none => Prog.done | some config => f config).NoReload := by
  cases o with
  | none => trivial
  | some config => exact hf config

/-- An apply of a request leaves the pending reloads alone. -/
theorem noReload_applyConfigImpl (id : String) (config : SwitchConfig) :
    (applyConfigImpl id config).NoReload := by
  simp [applyConfigImpl, NoReload, Bool.forall_bool]

/-- So does taking turns. -/
theorem noReload_acquireAll {k : List SwitchConfig → Prog} (hk : ∀ taken, (k taken).NoReload)
    (switches taken : List SwitchConfig) : (acquireAll switches taken k).NoReload := by
  induction switches generalizing taken with
  | nil => exact hk _
  | cons config rest ih => exact fun got => ih _

/-- So does spawning applies. -/
theorem noReload_spawnAll (switches : List SwitchConfig) : (spawnAll switches).NoReload := by
  induction switches with
  | nil => trivial
  | cons config rest ih => exact ⟨noReload_applyConfigImpl _ _, ih⟩

/-- So does a live reading. -/
theorem noReload_fetchLive {config : SwitchConfig} {k : Prog} (hk : k.NoReload) :
    (fetchLive config k).NoReload := by
  simp [fetchLive, NoReload, Bool.forall_bool, hk]

/-- So does a refresh. -/
theorem noReload_refreshAll (switches : List SwitchConfig) : (refreshAll switches).NoReload := by
  induction switches with
  | nil => trivial
  | cons config rest ih =>
    have hlive : (fetchLive config (.releaseGuard config.id (refreshAll rest))).NoReload :=
      noReload_fetchLive ih
    simp [refreshAll, NoReload, Bool.forall_bool, ih, hlive]

/-- So does a power operation. -/
theorem noReload_poeTask {id : String} {commands : Prog → Prog}
    (h : ∀ k : Prog, k.NoReload → (commands k).NoReload) : (poeTask id commands).NoReload := by
  intro switches
  refine noReload_lookup (fun config => ?_) (findSwitch id switches)
  have hcommands := h (.releaseGuard id .done) trivial
  simp [NoReload, Bool.forall_bool, hcommands]

end Prog

/-- Only the watcher queues and takes reloads. -/
theorem noReload_prog (r : Request) (hr : r.handler ≠ .watcher) : r.prog.NoReload := by
  have himpl := Prog.noReload_applyConfigImpl
  cases r with
  | applyConfig id =>
    intro switches
    refine Prog.noReload_lookup (fun config => ?_) (findSwitch id switches)
    simp [Prog.NoReload, Bool.forall_bool, himpl]
  | reloadConfig =>
    intro loaded
    cases loaded with
    | none => trivial
    | some switches => exact Prog.noReload_acquireAll Prog.noReload_spawnAll switches []
  | reloadSwitchConfig id =>
    refine Bool.forall_bool.mpr ⟨trivial, fun loaded => ?_⟩
    refine Prog.noReload_lookup (fun config => ?_) (loaded.bind (findSwitch id))
    exact ⟨himpl id config, trivial⟩
  -- the watcher's request is the one that queues
  | fileChanged => exact absurd rfl hr
  | refresh => exact fun switches => Prog.noReload_refreshAll switches
  | poeSet id =>
    show (Prog.poeSet id).NoReload
    rw [Prog.poeSet]
    apply Prog.noReload_poeTask
    intro k hk
    simpa [Prog.NoReload] using hk
  | poeReset id =>
    show (Prog.poeReset id).NoReload
    rw [Prog.poeReset]
    apply Prog.noReload_poeTask
    intro k hk
    simpa [Prog.NoReload, Bool.forall_bool] using hk
  | getLookup id =>
    intro switches
    refine Prog.noReload_lookup (fun config => ?_) (findSwitch id switches)
    have hlive : (Prog.fetchLive config (.releaseGuard id .done)).NoReload :=
      Prog.noReload_fetchLive trivial
    simp [Prog.NoReload, Bool.forall_bool, hlive]
  | getConfig id =>
    intro switches
    refine Prog.noReload_lookup (fun config => ?_) (findSwitch id switches)
    simp [Prog.NoReload, Bool.forall_bool]
  | previewDiff id currentState =>
    intro switches
    refine Prog.noReload_lookup (fun config => ?_) (findSwitch id switches)
    cases currentState <;> simp [Prog.NoReload, Bool.forall_bool]
  | updateSwitch id f => trivial
  | deleteSwitch id => trivial

namespace Prog

/-- A reload of one switch leaves what is pending as it is. -/
theorem watches_applySingleSwitch {config : SwitchConfig} {k : Prog} {free : Set String}
    (hk : k.Watches free none) : (applySingleSwitch config k).Watches free none := by
  simp [applySingleSwitch, Watches, Bool.forall_bool, hk]

/-- The watcher's loop takes a pending reload only in the turn of its switch. -/
theorem watches_applyAllConfigurations (switches : List SwitchConfig) (free : Set String) :
    (applyAllConfigurations switches).Watches free none := by
  induction switches generalizing free with
  | nil => rfl
  | cons config rest ih =>
    have hrest := ih (insert config.id free)
    have hrelease : (releaseGuard config.id (applyAllConfigurations rest)).Watches
        (insert config.id free) none := ⟨rfl, hrest⟩
    have hpending : (takePendingReload config.id fun pending =>
        if pending then applySingleSwitch config (releaseGuard config.id (applyAllConfigurations rest))
        else releaseGuard config.id (applyAllConfigurations rest)).Watches
          (insert config.id free) none :=
      ⟨rfl, Set.mem_insert _ _, Bool.forall_bool.mpr ⟨hrelease, watches_applySingleSwitch hrelease⟩⟩
    exact ⟨rfl, ⟨rfl, watches_applySingleSwitch hpending⟩, rfl, ih _⟩

end Prog

/-- So does the watcher as a whole. -/
theorem watches_watcherReload : Prog.watcherReload.Watches ∅ none := by
  refine ⟨rfl, fun loaded => ?_⟩
  cases loaded with
  | none => rfl
  | some switches => exact ⟨rfl, Prog.watches_applyAllConfigurations switches ∅⟩

section

variable {hash : ConnectionKey → UInt64} {w w' : World} {t : Task} {e : Event} {new : List Task}

/-- A call of a task leaves the pending reloads alone. -/
theorem pending_advance {p : Prog} {s s' : StatusTracker} {c : StatusTracker.Call}
    {a : StatusTracker.TurnEvent} {cs : List StatusTracker.Call} (hp : Awaits p (.turn c))
    (h : StatusTracker.advance s c a = some (s', cs)) :
    s'.pendingConfigReload = s.pendingConfigReload := by
  have hphase : c.phase ≠ .queueingReload ∧ c.phase ≠ .takingReload := by
    cases hp with
    | asks hasks =>
      cases hasks with
      | tries => exact ⟨nofun, nofun⟩
      | queues _ _ _ hq => constructor <;> (rintro rfl; cases hq)
    | releases _ _ hr => constructor <;> (rintro rfl; cases hr)
    | cleansUp _ hc => constructor <;> (rintro rfl; cases hc)
  obtain ⟨switch, phase⟩ := c
  cases a <;> cases phase <;> simp only [StatusTracker.advance] at h <;> try split_ifs at h
  all_goals cases h
  all_goals first | rfl | simp at hphase

/-- A task that leaves the pending reloads alone. -/
structure Task.NoReload (t : Task) : Prop where
  handler : t.handler ≠ .watcher
  prog : t.prog.NoReload
  deadline : ∀ p ∈ t.deadline, p.NoReload

theorem noReload_cleanup (cs : List StatusTracker.Call) :
    ∀ t ∈ cs.map Task.cleanup, t.NoReload := by
  intro t ht
  obtain ⟨c, _, rfl⟩ := List.mem_map.mp ht
  exact ⟨nofun, trivial, nofun⟩

/-- To choose a way does not touch pending reloads. -/
theorem noReload_control {p p' : Prog} (hp : p.NoReload) (h : Control w p e p') : p'.NoReload := by
  cases h with
  | choose k b => exact hp b
  | loadFiles k o => exact hp o
  | readConfig k => exact hp _
  | isSwitchBusy id k => exact hp _
  | connectFailed config k => exact hp false

/-- Nor does an answer on the turn. -/
theorem noReload_asks {p : Prog} {phase : StatusTracker.Phase} {id : String}
    {a : Option SwitchConfig} {k : Bool → Prog} (hp : p.NoReload) (h : Asks p phase id a k) :
    ∀ b, (k b).NoReload := by
  cases h <;> exact hp

/-- Nor does the end of a call on the pool. -/
theorem noReload_poolEnds {p p' : Prog} {id : String} (hp : p.NoReload) (h : PoolEnds p id p') :
    p'.NoReload := by
  cases h with
  | checkoutFailed config k => exact hp false
  | closeIdle | discarded => exact hp
  | timer => trivial

/-- The steps of the other tasks. -/
theorem noReload_steps (hwf : t.Wf) (ht : t.NoReload) (h : Steps hash w t e w' new) :
    w'.tracker.pendingConfigReload = w.tracker.pendingConfigReload ∧ ∀ t' ∈ new, t'.NoReload := by
  have hp := ht.prog
  have hturn {c : StatusTracker.Call} (hc : t.activity = .turn c) := hc ▸ hwf.awaits
  have hone {w' : World} {t' : Task}
      (hw : w'.tracker.pendingConfigReload = w.tracker.pendingConfigReload)
      (ht' : t'.NoReload) : w'.tracker.pendingConfigReload = w.tracker.pendingConfigReload ∧
        ∀ x ∈ [t'], x.NoReload := ⟨hw, List.forall_mem_singleton.mpr ht'⟩
  -- most steps change neither the handler nor the deadline of the task
  have hgoes {t' : Task} (hhandler : t'.handler = t.handler) (hprog : t'.prog.NoReload)
      (hdeadline : t'.deadline = t.deadline) : t'.NoReload :=
    ⟨hhandler ▸ ht.handler, hprog, hdeadline ▸ ht.deadline⟩
  cases h with
  | control _ hc => exact hone rfl (hgoes rfl (noReload_control hp hc) rfl)
  | starts => exact hone rfl (hgoes rfl hp rfl)
  | turnGoes hc hadv => exact hone (pending_advance (hturn hc) hadv) (hgoes rfl hp rfl)
  | turnGot hc hasks hadv =>
    exact hone (pending_advance (hturn hc) hadv) (hgoes rfl (noReload_asks hp hasks true) rfl)
  | turnLost hc hasks hadv =>
    exact hone (pending_advance (hturn hc) hadv) (hgoes rfl (noReload_asks hp hasks false) rfl)
  | released hc hprog hadv =>
    rw [hprog] at hp
    exact hone (pending_advance (hturn hc) hadv) (hgoes rfl hp rfl)
  | cleanedUp hc hprog hadv => exact hone (pending_advance (hturn hc) hadv) (hgoes rfl trivial rfl)
  | poolGoes => exact hone rfl (hgoes rfl hp rfl)
  | checkedOut _ hprog =>
    rw [hprog] at hp
    exact hone rfl (hgoes rfl (hp true) rfl)
  | kept _ hprog =>
    rw [hprog] at hp
    refine ⟨rfl, List.forall_mem_cons.mpr ⟨hgoes rfl hp rfl, List.forall_mem_singleton.mpr ?_⟩⟩
    -- a timer has nothing left to run, and so queues nothing
    exact ⟨nofun, trivial, nofun⟩
  | poolEnds _ hends => exact hone rfl (hgoes rfl (noReload_poolEnds hp hends) rfl)
  | queuePending _ hprog | takePending _ hprog =>
    rw [hprog] at hp
    -- only the watcher's own program has these two nodes
    cases hp
  | write _ hprog | disconnect _ hprog =>
    rw [hprog] at hp
    exact hone rfl (hgoes rfl hp rfl)
  | connected _ hprog | apply _ hprog =>
    rw [hprog] at hp
    exact hone rfl (hgoes rfl (hp _) rfl)
  | release | endSession | dropSession | dropOwn => exact hone rfl (hgoes rfl hp rfl)
  | spawn _ hprog =>
    rw [hprog] at hp
    refine ⟨rfl, List.forall_mem_cons.mpr ⟨hgoes rfl hp.2 rfl, List.forall_mem_singleton.mpr ?_⟩⟩
    exact ⟨ht.handler, hp.1, nofun⟩
  | deadline _ hprog =>
    rw [hprog] at hp
    exact hone rfl ⟨ht.handler, hp.2, by simpa using hp.1⟩
  | inTime _ hprog =>
    rw [hprog] at hp
    exact hone rfl ⟨ht.handler, hp, nofun⟩
  | dropGuard =>
    refine ⟨rfl, List.forall_mem_cons.mpr ⟨hgoes rfl hp rfl, List.forall_mem_singleton.mpr ?_⟩⟩
    exact ⟨nofun, trivial, nofun⟩
  | exit => exact ⟨rfl, List.forall_mem_nil _⟩
  | cancelIdle | cancelPool => exact hone rfl ⟨ht.handler, trivial, nofun⟩
  | cancelTurn hc _ hadv =>
    refine ⟨pending_advance (hturn hc) hadv, List.forall_mem_cons.mpr ⟨?_, noReload_cleanup _⟩⟩
    exact ⟨ht.handler, trivial, nofun⟩
  | elapseIdle hd | elapseSession hd | elapsePool hd =>
    exact hone rfl ⟨ht.handler, ht.deadline _ hd, nofun⟩

/-- The task is about to be refused the turn of the switch that it asks for. -/
def RefusedTurn (w : World) (t : Task) (id : String) : Prop :=
  t.activity = .turn ⟨id, .trying⟩ ∧
    (w.tracker.isSwitchBusy id = true ∨ (w.tracker.gates id).turn = 0)

/-- A step of the watcher: what it does to the pending reloads, and what comes next. -/
inductive WatcherStep (w : World) (t : Task) (free : Set String) :
    Option String → Finset String → Prog → Prop
  | goes {p : Prog} : (∀ id, ¬RefusedTurn w t id) → p.Watches free none →
      WatcherStep w t free none w.tracker.pendingConfigReload p
  | got {p : Prog} {id : String} : (∀ id, ¬RefusedTurn w t id) →
      id ∉ w.tracker.pendingConfigReload → p.Watches (insert id free) none →
      WatcherStep w t free none w.tracker.pendingConfigReload p
  | refused {p : Prog} {id : String} : RefusedTurn w t id → p.Watches free (some id) →
      WatcherStep w t free none w.tracker.pendingConfigReload p
  | queued {p : Prog} {id : String} : (∀ id, ¬RefusedTurn w t id) → p.Watches (free \ {id}) none →
      WatcherStep w t free (some id) (insert id w.tracker.pendingConfigReload) p
  | took {p : Prog} {id : String} : (∀ id, ¬RefusedTurn w t id) → id ∈ free →
      p.Watches free none → WatcherStep w t free none (w.tracker.pendingConfigReload.erase id) p

/-- The task of the watcher, which is neither cancelled nor under a time limit. -/
structure Task.Watches (t : Task) (free : Set String) (refused : Option String) : Prop where
  handler : t.handler = .watcher
  prog : t.prog.Watches free refused
  deadline : t.deadline = none

variable {free : Set String} {refused : Option String}

/-- Who asks for nothing is refused nothing. -/
theorem not_refusedTurn_of_idle (h : t.activity = .idle) (id : String) : ¬RefusedTurn w t id := by
  rintro ⟨hturn, _⟩
  cases h.symm.trans hturn

theorem not_refusedTurn_of_pool {op : SessionPool.Op} (h : t.activity = .pool op) (id : String) :
    ¬RefusedTurn w t id := by
  rintro ⟨hturn, _⟩
  cases h.symm.trans hturn

/-- What a try for the turn comes to. -/
theorem trying_cases {s s' : StatusTracker} {id : String} {cs : List StatusTracker.Call}
    (h : StatusTracker.advance s ⟨id, .trying⟩ .go = some (s', cs)) :
    ((s.isSwitchBusy id = true ∨ (s.gates id).turn = 0) ∧ cs = []) ∨
    (id ∉ s.pendingConfigReload ∧ ¬(s.isSwitchBusy id = true ∨ (s.gates id).turn = 0) ∧
      cs = [⟨id, .holding⟩]) := by
  simp only [StatusTracker.advance] at h
  split_ifs at h with hbusy
  · cases h
    exact .inl ⟨hbusy, rfl⟩
  · cases h
    refine .inr ⟨fun hpending => hbusy (.inl ?_), hbusy, rfl⟩
    simp [StatusTracker.isSwitchBusy, hpending]

/-- Who is refused the turn has tried for it. -/
theorem prog_of_refusedTurn (hwf : t.Wf) {id : String} (h : RefusedTurn w t id) :
    ∃ a k, t.prog = .tryAcquire id a k := by
  have hawaits := hwf.awaits
  rw [h.1] at hawaits
  generalize t.prog = p at hawaits
  cases hawaits with
  | asks hasks =>
    cases hasks with
    | tries => exact ⟨_, _, rfl⟩
    | queues _ _ _ hq => cases hq
  | releases _ _ hr => cases hr
  | cleansUp _ hc => cases hc

/-- To choose a way queues nothing. -/
theorem watches_control {p p' : Prog} (hp : p.Watches free refused) (h : Control w p e p') :
    refused = none ∧ p'.Watches free none := by
  cases h with
  | choose k b => exact ⟨hp.1, hp.2 b⟩
  | loadFiles k o => exact ⟨hp.1, hp.2 o⟩
  | readConfig k => exact ⟨hp.1, hp.2 _⟩
  | isSwitchBusy id k => exact ⟨hp.1, hp.2 _⟩
  | connectFailed config k => exact ⟨hp.1, hp.2 false⟩

/-- To start a call queues nothing. -/
theorem watches_starts {p : Prog} {a : Activity} (hp : p.Watches free refused)
    (h : Starts hash p a) : refused = none := by
  cases h with
  | tryAcquire | closeIdle => exact hp.1
  | acquireQueued | checkout => cases hp

/-- While a turn is waited for, none was refused. -/
theorem watches_turn {p : Prog} {c : StatusTracker.Call} (hp : p.Watches free refused)
    (h : Awaits p (.turn c)) : refused = none := by
  cases h with
  | asks hasks =>
    cases hasks with
    | tries => exact hp.1
    | queues => cases hp
  | releases => exact hp.1
  | cleansUp => exact hp

/-- Nor while the pool is waited for. -/
theorem watches_pool {p : Prog} {op : SessionPool.Op} (hp : p.Watches free refused)
    (h : Awaits p (.pool op)) : refused = none := by
  cases h with
  | checkout | endSession => cases hp
  | closeIdle => exact hp.1
  | timer => exact hp

/-- A call on the pool ends without touching pending reloads. -/
theorem watches_poolEnds {p p' : Prog} {id : String} (hp : p.Watches free refused)
    (h : PoolEnds p id p') : refused = none ∧ p'.Watches free none := by
  cases h with
  | checkoutFailed | discarded => cases hp
  | closeIdle => exact hp
  | timer => exact ⟨hp, rfl⟩

/-- What follows a step of the watcher. -/
def Onward (w : World) (t : Task) (free : Set String) (refused : Option String) (w' : World)
    (new : List Task) : Prop :=
  (∃ t' rest, new = t' :: rest ∧ t'.handler = .watcher ∧ t'.deadline = none ∧
    (∀ t'' ∈ rest, t''.NoReload) ∧
    WatcherStep w t free refused w'.tracker.pendingConfigReload t'.prog) ∨
  (new = [] ∧ refused = none ∧ (∀ id, ¬RefusedTurn w t id) ∧
    w'.tracker.pendingConfigReload = w.tracker.pendingConfigReload)

/-- A step that leaves the watcher its one task, under its own handler and no deadline. -/
theorem Onward.one {t' : Task} (ht : t.Watches free refused) (hhandler : t'.handler = t.handler)
    (hdeadline : t'.deadline = t.deadline)
    (hstep : WatcherStep w t free refused w'.tracker.pendingConfigReload t'.prog) :
    Onward w t free refused w' [t'] :=
  .inl ⟨t', [], rfl, hhandler.trans ht.handler, hdeadline.trans ht.deadline,
    List.forall_mem_nil _, hstep⟩

/-- A step that has nothing to do with the pending reloads. -/
theorem Onward.goes {t' : Task} (ht : t.Watches free refused) (hhandler : t'.handler = t.handler)
    (hdeadline : t'.deadline = t.deadline) (hnot : ∀ id, ¬RefusedTurn w t id)
    (hw : w'.tracker.pendingConfigReload = w.tracker.pendingConfigReload)
    (hprog : refused = none ∧ t'.prog.Watches free none) : Onward w t free refused w' [t'] := by
  obtain ⟨rfl, hprog⟩ := hprog
  exact .one ht hhandler hdeadline (hw ▸ .goes hnot hprog)

/-- Who does not try for the turn is not refused it. -/
theorem not_refusedTurn_of_prog {p : Prog} (hwf : t.Wf) (hprog : t.prog = p)
    (hne : ∀ id a k, p ≠ .tryAcquire id a k) (id : String) : ¬RefusedTurn w t id := by
  intro href
  obtain ⟨a, k, htry⟩ := prog_of_refusedTurn hwf href
  exact hne id a k (hprog.symm.trans htry)

/-- Where no refusal is open, the watcher goes on as it is. -/
theorem Task.Watches.stays (ht : t.Watches free refused) (hnone : refused = none) :
    refused = none ∧ t.prog.Watches free none := by
  subst hnone
  exact ⟨rfl, ht.prog⟩

/-- A try has its answer in one step, so a wait for the turn that goes on is none. -/
theorem not_refusedTurn_of_turnGoes {c c' : StatusTracker.Call} {a : StatusTracker.TurnEvent}
    {tracker : StatusTracker} (hc : t.activity = .turn c)
    (hadv : StatusTracker.advance w.tracker c a = some (tracker, [c'])) (hne : c'.phase ≠ .holding)
    (id : String) : ¬RefusedTurn w t id := by
  intro href
  obtain rfl := Activity.turn.inj (hc.symm.trans href.1)
  cases a with
  | quit => cases hadv
  | go =>
    rcases trying_cases hadv with ⟨_, hcs⟩ | ⟨_, _, hcs⟩ <;> cases hcs
    exact hne rfl

/-- The try for the turn that succeeds found no reload of the switch pending. -/
theorem watches_turnGot {id : String} {phase : StatusTracker.Phase} {a : Option SwitchConfig}
    {k : Bool → Prog} {tracker : StatusTracker} (hwf : t.Wf) (ht : t.Watches free refused)
    (hc : t.activity = .turn ⟨id, phase⟩) (hasks : Asks t.prog phase id a k)
    (hadv : StatusTracker.advance w.tracker ⟨id, phase⟩ .go = some (tracker, [⟨id, .holding⟩])) :
    Onward w t free refused (w.gotTurn tracker id)
      [{ t with activity := .idle, prog := k true, guards := id :: t.guards }] := by
  have hpending := pending_advance (hc ▸ hwf.awaits) hadv
  have hp := ht.prog
  generalize hprog : t.prog = p at hasks
  rw [hprog] at hp
  cases hasks with
  | queues => cases hp
  | tries =>
    obtain ⟨rfl, hk, _⟩ := hp
    rcases trying_cases hadv with ⟨_, hcs⟩ | ⟨hfree, hnot, _⟩
    · cases hcs
    · have hnot (id' : String) : ¬RefusedTurn w t id' := by
        rintro ⟨hactivity, href⟩
        cases hc.symm.trans hactivity
        exact hnot href
      have hstep : WatcherStep w t free none w.tracker.pendingConfigReload (k true) :=
        .got hnot hfree hk
      rw [← hpending] at hstep
      exact .one ht rfl rfl hstep

/-- The try for the turn that fails: the reload of the switch is to be queued. -/
theorem watches_turnLost {id : String} {phase : StatusTracker.Phase} {a : Option SwitchConfig}
    {k : Bool → Prog} {tracker : StatusTracker} (hwf : t.Wf) (ht : t.Watches free refused)
    (hc : t.activity = .turn ⟨id, phase⟩) (hasks : Asks t.prog phase id a k)
    (hadv : StatusTracker.advance w.tracker ⟨id, phase⟩ .go = some (tracker, [])) :
    Onward w t free refused { w with tracker } [{ t with activity := .idle, prog := k false }] := by
  have hpending := pending_advance (hc ▸ hwf.awaits) hadv
  have hp := ht.prog
  generalize hprog : t.prog = p at hasks
  rw [hprog] at hp
  cases hasks with
  | queues => cases hp
  | tries =>
    obtain ⟨rfl, _, hk⟩ := hp
    rcases trying_cases hadv with ⟨href, _⟩ | ⟨_, _, hcs⟩
    · have hstep : WatcherStep w t free none w.tracker.pendingConfigReload (k false) :=
        .refused ⟨hc, href⟩ hk
      rw [← hpending] at hstep
      exact .one ht rfl rfl hstep
    · cases hcs

/-- A guard that is dropped leaves a cleanup task behind. -/
theorem watches_dropGuard {id : String} {guards : List String} (ht : t.Watches free refused)
    (hi : t.activity = .idle) (hprog : t.prog = .done) :
    Onward w t free refused w
      [{ t with guards }, Task.cleanup ⟨id, .dropped⟩] := by
  have hp := ht.prog
  rw [hprog] at hp
  obtain rfl : refused = none := hp
  refine .inl ⟨_, _, rfl, ht.handler, ht.deadline, ?_, ?_⟩
  · exact List.forall_mem_singleton.mpr ⟨nofun, trivial, nofun⟩
  · exact .goes (not_refusedTurn_of_idle hi) (hprog ▸ rfl)

/-- What a step of the watcher does to the pending reloads, at every place of its loop. -/
theorem watches_steps (hwf : t.Wf) (ht : t.Watches free refused) (h : Steps hash w t e w' new) :
    Onward w t free refused w' new := by
  have hp := ht.prog
  have hturn {c : StatusTracker.Call} (hc : t.activity = .turn c) := hc ▸ hwf.awaits
  cases h with
  | control hi hc => exact .goes ht rfl rfl (not_refusedTurn_of_idle hi) rfl (watches_control hp hc)
  | starts hi hs =>
    exact .goes ht rfl rfl (not_refusedTurn_of_idle hi) rfl (ht.stays (watches_starts hp hs))
  | turnGoes hc hadv hne =>
    exact .goes ht rfl rfl (not_refusedTurn_of_turnGoes hc hadv hne) (pending_advance (hturn hc) hadv)
      (ht.stays (watches_turn hp (hturn hc)))
  | turnGot hc hasks hadv => exact watches_turnGot hwf ht hc hasks hadv
  | turnLost hc hasks hadv => exact watches_turnLost hwf ht hc hasks hadv
  | released hc hprog hadv =>
    have hnot := not_refusedTurn_of_prog (w := w) hwf hprog (by simp)
    rw [hprog] at hp
    exact .goes ht rfl rfl hnot (pending_advance (hturn hc) hadv) hp
  | cleanedUp hc hprog hadv =>
    have hnot := not_refusedTurn_of_prog (w := w) hwf hprog (by simp)
    rw [hprog] at hp
    exact .goes ht rfl rfl hnot (pending_advance (hturn hc) hadv) ⟨hp, rfl⟩
  | poolGoes hop =>
    exact .goes ht rfl rfl (not_refusedTurn_of_pool hop) rfl
      (ht.stays (watches_pool hp (hop ▸ hwf.awaits)))
  | checkedOut _ hprog | kept _ hprog | endSession _ hprog | spawn _ hprog | deadline _ hprog
  | inTime _ hprog =>
    -- the watcher opens sessions of its own and starts no other task
    rw [hprog] at hp
    cases hp
  | poolEnds hop hends =>
    exact .goes ht rfl rfl (not_refusedTurn_of_pool hop) rfl (watches_poolEnds hp hends)
  | write hi hprog | disconnect hi hprog =>
    rw [hprog] at hp
    exact .goes ht rfl rfl (not_refusedTurn_of_idle hi) rfl hp
  | connected hi hprog | apply hi hprog =>
    rw [hprog] at hp
    exact .goes ht rfl rfl (not_refusedTurn_of_idle hi) rfl ⟨hp.1, hp.2 _⟩
  | queuePending hi hprog =>
    rw [hprog] at hp
    obtain ⟨rfl, hk⟩ := hp
    exact .one ht rfl rfl (.queued (not_refusedTurn_of_idle hi) hk)
  | takePending hi hprog =>
    rw [hprog] at hp
    obtain ⟨rfl, hid, hk⟩ := hp
    exact .one ht rfl rfl (.took (not_refusedTurn_of_idle hi) hid (hk _))
  | release hi hprog =>
    rw [hprog] at hp
    exact .goes ht rfl rfl (not_refusedTurn_of_idle hi) rfl (ht.stays hp.1)
  | dropSession hi hprog | dropOwn hi hprog =>
    rw [hprog] at hp
    exact .goes ht rfl rfl (not_refusedTurn_of_idle hi) rfl (ht.stays hp)
  | dropGuard hi hprog => exact watches_dropGuard ht hi hprog
  | exit hi hprog =>
    rw [hprog] at hp
    exact .inr ⟨rfl, hp, not_refusedTurn_of_idle hi, rfl⟩
  | cancelIdle _ hh | cancelTurn _ hh | cancelPool _ hh => exact absurd ht.handler hh
  | elapseIdle hd | elapseSession hd | elapsePool hd => cases ht.deadline.symm.trans hd

end

/-- When the watcher asks for the turn of the switch, it is not refused: the switch is not
being configured, has no reload pending, and its permit is free. -/
def TurnFree (id : String) (s : TaskState World Task) : TaskLabel Request Event → Prop
  | .arrive _ => True
  | .go i _ => ∀ t ∈ s.tasks[i]?, t.handler = .watcher → ¬RefusedTurn s.shared t id

/-- Where the watcher stands in a run. There is one task of it at most. -/
inductive Watched (s : TaskState World Task) : Option String → Prop
  | absent : (∀ t ∈ s.tasks, t.NoReload) → Watched s none
  | present {t : Task} {rest : List Task} {free : Set String} {refused : Option String} :
      s.tasks.Perm (t :: rest) → t.Watches free refused → (∀ t' ∈ rest, t'.NoReload) →
      (∀ id ∈ free, id ∉ s.shared.tracker.pendingConfigReload) → Watched s refused

/-- A reload of the switch is pending, or is about to be. -/
def Due (s : TaskState World Task) (refused : Option String) (id : String) : Prop :=
  id ∈ s.shared.tracker.pendingConfigReload ∨ refused = some id

section

variable {hash : ConnectionKey → UInt64} {initial : List SwitchConfig}
variable {w w' : World} {t : Task} {e : Event} {pre post new rest : List Task}
variable {free : Set String} {refused : Option String}

/-- A request that arrives changes nothing for the watcher. -/
theorem Watched.arrive {tasks : List Task} {r : Request} (hs : Watched ⟨w, tasks⟩ refused)
    (hadmits : (service hash initial).admits w tasks r = true) :
    Watched ⟨w, (service hash initial).start w r :: tasks⟩ refused := by
  by_cases hr : r.handler = .watcher
  · have hnone : ∀ t ∈ tasks, t.handler ≠ .watcher := by simpa [service, hr] using hadmits
    have hstart : ((service hash initial).start w r).Watches ∅ none := by
      cases r <;> cases hr
      exact ⟨rfl, watches_watcherReload, rfl⟩
    cases hs with
    | absent hall => exact .present (.refl _) hstart hall (fun _ hid => hid.elim)
    | @present t rest free refused hperm ht _ _ =>
      have hmem : t ∈ tasks := hperm.mem_iff.mpr List.mem_cons_self
      exact absurd ht.handler (hnone t hmem)
  · have hstart : ((service hash initial).start w r).NoReload := ⟨hr, noReload_prog r hr, nofun⟩
    cases hs with
    | absent hall => exact .absent (List.forall_mem_cons.mpr ⟨hstart, hall⟩)
    | @present t rest free refused hperm ht hrest hfree =>
      refine .present ((hperm.cons _).trans (List.Perm.swap _ _ _)) ht ?_ hfree
      exact List.forall_mem_cons.mpr ⟨hstart, hrest⟩

/-- Behind a refusal the watcher queues the reload next. -/
theorem queue_iff {p : Prog} {id : String} (hp : p.Watches free (some id)) :
    ∃ k, p = .queuePendingReload id k := by
  cases p with
  | queuePendingReload id' k =>
    obtain ⟨hid, _⟩ := hp
    cases hid
    exact ⟨k, rfl⟩
  | acquireQueued | checkout | endSession | spawn | deadline | inTime => cases hp
  | done => cases hp
  | _ => cases hp.1

/-- A step of another task. -/
theorem Watched.other (id : String) (hs : Watched ⟨w, pre ++ t :: post⟩ refused) (ht : t.NoReload)
    (hpending : w'.tracker.pendingConfigReload = w.tracker.pendingConfigReload)
    (hnew : ∀ t' ∈ new, t'.NoReload) :
    Watched ⟨w', pre ++ new ++ post⟩ refused ∧
      (Due ⟨w', pre ++ new ++ post⟩ refused id ↔ Due ⟨w, pre ++ t :: post⟩ refused id) := by
  refine ⟨?_, by simp only [Due, hpending]⟩
  cases hs with
  | absent hall =>
    obtain ⟨hpre, hpost⟩ := List.forall_mem_append.mp hall
    refine .absent (List.forall_mem_append.mpr ⟨List.forall_mem_append.mpr ⟨hpre, hnew⟩, ?_⟩)
    exact (List.forall_mem_cons.mp hpost).2
  | @present t₀ rest free refused hperm ht₀ hrest hfree =>
    have hne : t ≠ t₀ := by
      rintro rfl
      exact ht.handler ht₀.handler
    have hmem : t ∈ rest := (List.mem_cons.mp (hperm.mem_iff.mp (by simp))).resolve_left hne
    obtain ⟨l, l', rfl⟩ := List.append_of_mem hmem
    have hothers : (pre ++ post).Perm (t₀ :: (l ++ l')) := by
      have hboth : (t :: (pre ++ post)).Perm (t :: (t₀ :: (l ++ l'))) :=
        List.perm_middle.symm.trans
          (hperm.trans ((List.perm_middle.cons t₀).trans (List.Perm.swap _ _ _)))
      exact hboth.cons_inv
    refine .present (t := t₀) ?_ ht₀ (?_ : ∀ t' ∈ new ++ (l ++ l'), t'.NoReload) ?_
    · exact TaskSystem.perm_front.trans ((hothers.append_left new).trans List.perm_middle)
    · obtain ⟨hl, hl'⟩ := List.forall_mem_append.mp hrest
      refine List.forall_mem_append.mpr ⟨hnew, List.forall_mem_append.mpr ⟨hl, ?_⟩⟩
      exact (List.forall_mem_cons.mp hl').2
    · show ∀ id ∈ free, id ∉ w'.tracker.pendingConfigReload
      rwa [hpending]

/-- A step of the watcher. -/
theorem Watched.onward {id : String} (hothers : ∀ t' ∈ pre ++ post, t'.NoReload)
    (hfree : ∀ id ∈ free, id ∉ w.tracker.pendingConfigReload)
    (h : Onward w t free refused w' new) :
    ∃ refused', Watched ⟨w', pre ++ new ++ post⟩ refused' ∧
      (Due ⟨w', pre ++ new ++ post⟩ refused' id ↔
        Due ⟨w, pre ++ t :: post⟩ refused id ∨ RefusedTurn w t id) := by
  rcases h with ⟨t', rest, rfl, hhandler, hdeadline, hrest, hstep⟩ | ⟨rfl, rfl, hnot, hpending⟩
  · have hpresent {free' : Set String} {refused' : Option String}
        (hprog : t'.prog.Watches free' refused')
        (hfree' : ∀ id ∈ free', id ∉ w'.tracker.pendingConfigReload) :
        Watched ⟨w', pre ++ t' :: rest ++ post⟩ refused' :=
      .present TaskSystem.perm_front ⟨hhandler, hprog, hdeadline⟩
        (List.forall_mem_append.mpr ⟨hrest, hothers⟩) hfree'
    generalize hpending : w'.tracker.pendingConfigReload = pending at hstep hpresent
    cases hstep with
    | goes hnot hprog => exact ⟨none, hpresent hprog hfree, by simp [Due, hpending, hnot id]⟩
    | got hnot hid hprog =>
      refine ⟨none, hpresent hprog ?_, by simp [Due, hpending, hnot id]⟩
      exact Set.forall_mem_insert.mpr ⟨hid, hfree⟩
    | @refused p id' href hprog =>
      refine ⟨some id', hpresent hprog hfree, ?_⟩
      have hid : RefusedTurn w t id ↔ id' = id := by
        refine ⟨fun h => ?_, fun h => h ▸ href⟩
        cases href.1.symm.trans h.1
        rfl
      simp [Due, hpending, hid]
    | @queued p id' hnot hprog =>
      refine ⟨none, hpresent hprog ?_, ?_⟩
      · intro i ⟨hi, hne⟩ hmem
        exact (Finset.mem_insert.mp hmem).elim hne (hfree i hi)
      · simp [Due, hpending, hnot id, or_comm, eq_comm]
    | @took p id' hnot hid hprog =>
      refine ⟨none, hpresent hprog fun i hi hmem => hfree i hi (Finset.mem_of_mem_erase hmem), ?_⟩
      -- nothing is taken: the switch had no reload pending when the watcher got its turn
      have hsame : w.tracker.pendingConfigReload.erase id' = w.tracker.pendingConfigReload :=
        Finset.erase_eq_of_notMem (hfree id' hid)
      simp [Due, hpending, hsame, hnot id]
  · refine ⟨none, .absent (by simpa using hothers), ?_⟩
    simp [Due, hpending, hnot id]

/-- The turn is not free exactly where the watcher is refused it. -/
theorem not_turnFree_iff {id : String} : ¬TurnFree id ⟨w, pre ++ t :: post⟩ (.go pre.length e) ↔
    t.handler = .watcher ∧ RefusedTurn w t id := by
  simp [TurnFree]

/-- One step of the service, as far as pending reloads go. -/
theorem Watched.step {id : String} (hs : Watched ⟨w, pre ++ t :: post⟩ refused) (hwf : t.Wf)
    (h : Steps hash w t e w' new) : ∃ refused', Watched ⟨w', pre ++ new ++ post⟩ refused' ∧
      (Due ⟨w', pre ++ new ++ post⟩ refused' id ↔ Due ⟨w, pre ++ t :: post⟩ refused id ∨
        ¬TurnFree id ⟨w, pre ++ t :: post⟩ (.go pre.length e)) := by
  rw [not_turnFree_iff]
  by_cases hwatcher : t.handler = .watcher
  · cases hs with
    | absent hall => exact absurd hwatcher (hall t (by simp)).handler
    | @present t₀ rest free refused hperm ht₀ hrest hfree =>
      have hmem : t ∈ t₀ :: rest := hperm.mem_iff.mp (by simp)
      rcases List.mem_cons.mp hmem with rfl | hmem
      · have hrest' : (pre ++ post).Perm rest := (List.perm_middle.symm.trans hperm).cons_inv
        have hothers : ∀ t' ∈ pre ++ post, t'.NoReload :=
          fun t' ht' => hrest t' (hrest'.mem_iff.mp ht')
        simpa [hwatcher] using Watched.onward hothers hfree (watches_steps hwf ht₀ h)
      · exact absurd hwatcher (hrest t hmem).handler
  · have ht : t.NoReload := by
      cases hs with
      | absent hall => exact hall t (by simp)
      | @present t₀ rest free refused hperm ht₀ hrest _ =>
        have hmem : t ∈ t₀ :: rest := hperm.mem_iff.mp (by simp)
        rcases List.mem_cons.mp hmem with rfl | hmem
        · exact absurd ht₀.handler hwatcher
        · exact hrest t hmem
    obtain ⟨hpending, hnew⟩ := noReload_steps hwf ht h
    obtain ⟨hs', hdue⟩ := hs.other id ht hpending hnew
    exact ⟨refused, hs', by simpa [hwatcher] using hdue⟩

end

section

variable {hash : ConnectionKey → UInt64} {initial : List SwitchConfig}
variable {s : TaskState World Task}
variable {tr : List (TaskState World Task × TaskLabel Request Event)}

/-- A reload of a switch is pending or about to be if and only if the watcher was once refused
the turn of that switch. -/
theorem due_of_run (hrun : (service hash initial).Run tr s) (id : String) :
    ∃ refused, Watched s refused ∧
      (Due s refused id ↔ ¬TransitionSystem.Along (TurnFree id) tr) := by
  induction hrun with
  | nil =>
    have hinit : Due (service hash initial).system.init none id ↔
        ¬TransitionSystem.Along (TurnFree id) [] := by
      simp [Due, TaskSystem.system, service, TransitionSystem.Along]
    exact ⟨none, .absent (List.forall_mem_nil _), hinit⟩
  | @snoc tr m l m' hr hstep ih =>
    obtain ⟨refused, hm, hdue⟩ := ih
    obtain ⟨w, tasks⟩ := m
    rw [TransitionSystem.along_append, TransitionSystem.along_singleton, not_and_or, ← hdue]
    obtain ⟨r, rfl, hadmits, rfl⟩ | ⟨e, pre, t, post, w', new, rfl, rfl, hadv, rfl⟩ :=
      TaskSystem.step_cases hstep
    · exact ⟨refused, hm.arrive hadmits, by simp [Due, TurnFree]⟩
    · have hreached := reached_of_run hr hadv
      exact hm.step hreached.wf hreached.steps

/-- No guard of the switch is held or awaited, and the watcher is not busy with it. -/
structure Quiet (s : TaskState World Task) (id : String) : Prop where
  turn : ∀ t ∈ s.tasks, ∀ c ∈ t.calls, c.switch ≠ id
  watcher : ∀ t ∈ s.tasks, t.handler = .watcher → ∀ k, t.prog ≠ .queuePendingReload id k

theorem quiet_of_nil (h : s.tasks = []) (id : String) : Quiet s id :=
  ⟨h ▸ List.forall_mem_nil _, h ▸ List.forall_mem_nil _⟩

/-- In every state in which a switch is quiet, it has no reload pending exactly if the watcher
has never been refused its turn: nothing takes up a reload that was queued. -/
theorem not_pending_iff (hrun : (service hash initial).Run tr s) {id : String}
    (hquiet : Quiet s id) : id ∉ s.shared.tracker.pendingConfigReload ↔
      TransitionSystem.Along (TurnFree id) tr := by
  obtain ⟨refused, hs, hdue⟩ := due_of_run hrun id
  have hrefused : refused ≠ some id := by
    rintro rfl
    cases hs with
    | @present t rest free _ hperm ht _ _ =>
      obtain ⟨k, hprog⟩ := queue_iff ht.prog
      exact hquiet.watcher t (hperm.mem_iff.mpr List.mem_cons_self) ht.handler k hprog
  have hpending : Due s refused id ↔ id ∈ s.shared.tracker.pendingConfigReload := by
    simp [Due, hrefused]
  rw [← hpending, hdue, not_not]

end

instance (w : World) (t : Task) (id : String) : Decidable (RefusedTurn w t id) :=
  inferInstanceAs (Decidable (_ ∧ _))

instance (id : String) (s : TaskState World Task) (l : TaskLabel Request Event) :
    Decidable (TurnFree id s l) := by
  cases l with
  | arrive r => exact inferInstanceAs (Decidable True)
  | go i e => exact inferInstanceAs (Decidable (∀ t ∈ s.tasks[i]?, _ → ¬_))

/-- An apply gets the turn of the switch. -/
def applyGetsTurn : List (TaskLabel Request Event) :=
  [.arrive (.applyConfig "office"), .go 0 .go, .go 0 .go, .go 0 .go, .go 0 .go, .go 0 .go,
    .go 0 .go, .go 0 .go, .go 0 .go]

/-- It ends early, since no vendor can be created. -/
def applyFails : List (TaskLabel Request Event) :=
  [.go 0 .go, .go 0 (.outcome true), .go 0 (.outcome false), .go 0 .go, .go 0 .go, .go 0 .go,
    .go 0 .go]

/-- The files change, and the watcher asks for the turn of the only switch. -/
def filesChange : List (TaskLabel Request Event) :=
  [.arrive .fileChanged, .go 0 (.loaded (some [{ id := "office" }])), .go 0 .go, .go 0 .go,
    .go 0 .go]

/-- What the watcher does with the turn. -/
def watcherApplies : List (TaskLabel Request Event) :=
  [.go 0 .go, .go 0 (.outcome true), .go 0 (.outcome true), .go 0 (.outcome true),
    .go 0 (.outcome true), .go 0 (.outcome true), .go 0 .go, .go 0 .go, .go 0 .go, .go 0 .go,
    .go 0 .go, .go 0 .go]

/-- The files change after an apply has ended. -/
theorem not_pending_iff_afterApply : ∃ tr s, (service (fun _ => 0) [{ id := "office" }]).Run tr s ∧
    Quiet s "office" ∧ "office" ∉ s.shared.tracker.pendingConfigReload := by
  have hrun := TransitionSystem.run_of_replay
    (show (service (fun _ => 0) [{ id := "office" }]).system.replay
      (service (fun _ => 0) [{ id := "office" }]).system.init
        (applyGetsTurn ++ applyFails ++ filesChange ++ watcherApplies) = some (_, _) from rfl)
  exact ⟨_, _, hrun, quiet_of_nil rfl _, (not_pending_iff hrun (quiet_of_nil rfl _)).mpr (by decide)⟩

/-- They change while an apply has the turn: the reload is still pending when all is over. -/
theorem reload_stays_pending : ∃ tr s, (service (fun _ => 0) [{ id := "office" }]).Run tr s ∧
    Quiet s "office" ∧ "office" ∈ s.shared.tracker.pendingConfigReload := by
  have hrun := TransitionSystem.run_of_replay
    (show (service (fun _ => 0) [{ id := "office" }]).system.replay
      (service (fun _ => 0) [{ id := "office" }]).system.init
        (applyGetsTurn ++ filesChange ++ [.go 0 .go, .go 0 .go] ++ applyFails) =
          some (_, _) from rfl)
  exact ⟨_, _, hrun, quiet_of_nil rfl _, by decide⟩

end SwitchConfigurator.Service
