import SwitchConfigurator.Service.Turn

/-!
# What the handlers keep to

Every handler keeps to a discipline that can be read off its text: it checks out a session and
applies a configuration under the guard of the switch only, lets no guard go while it has a
session checked out, and under a guard connects only after a look at the slot.
-/

namespace SwitchConfigurator.Service

/-- What is known at a point of a function: the guards it has, whether it may have a session
checked out or one of its own, whether a time limit runs, the switches for which it has seen
under the guard that no session is kept, and the configurations that it applies in its turns. -/
structure Ctx where
  guards : List String
  session : Bool := false
  own : Bool := false
  timed : Bool := false
  idle : Set String := ∅
  config : String → Option SwitchConfig := fun _ => none

namespace Ctx

/-- The turn of the switch has been obtained. -/
def gain (Γ : Ctx) (id : String) (toApply : Option SwitchConfig) : Ctx :=
  { Γ with
    guards := id :: Γ.guards
    idle := Γ.idle \ {id}
    config := Function.update Γ.config id toApply }

/-- A configuration that is still to be read in the turn may come from a write. -/
def Writes (Γ : Ctx) (f : List SwitchConfig → List SwitchConfig)
    (config : String → Option SwitchConfig) : Prop :=
  ∀ id, config id = Γ.config id ∨
    Γ.config id = none ∧ ∀ switches, config id = findSwitch id (f switches)

end Ctx

namespace Prog

@[grind =] def Ok : Prog → Ctx → Prop
  | .done, Γ => Γ.timed = false
  | .choose k, Γ | .isSwitchBusy _ k, Γ | .takePendingReload _ k, Γ => ∀ b, (k b).Ok Γ
  | .loadFiles k, Γ => ∀ o, (k o).Ok Γ
  | .readConfig k, Γ => ∀ switches, (k switches).Ok Γ
  | .writeConfig f k, Γ =>
    Γ.timed = false ∧ ∃ config, Γ.Writes f config ∧ k.Ok { Γ with config }
  | .queuePendingReload _ k, Γ => k.Ok Γ
  | .tryAcquire id a k, Γ | .acquireQueued id a k, Γ =>
    Γ.timed = false ∧ (id ∉ Γ.guards → (k true).Ok (Γ.gain id a)) ∧ (k false).Ok Γ
  | .releaseGuard id k, Γ =>
    Γ.timed = false ∧ Γ.session = false ∧ id ∈ Γ.guards ∧
      k.Ok { Γ with guards := Γ.guards.erase id }
  | .checkout config k, Γ =>
    config.id ∈ Γ.guards ∧ Γ.session = false ∧ Γ.own = false ∧
      (k true).Ok { Γ with session := true, idle := ∅ } ∧ (k false).Ok { Γ with idle := ∅ }
  | .closeIdle id k, Γ => Γ.session = false ∧ k.Ok { Γ with idle := insert id Γ.idle }
  | .endSession _ k, Γ => k.Ok { Γ with session := false, idle := ∅ }
  | .connect config k, Γ =>
    Γ.session = false ∧ Γ.own = false ∧ Γ.timed = false ∧
      (config.id ∈ Γ.guards → config.id ∈ Γ.idle) ∧ (k true).Ok { Γ with own := true } ∧
      (k false).Ok Γ
  | .disconnect k, Γ => k.Ok { Γ with own := false }
  | .apply config k, Γ =>
    config.id ∈ Γ.guards ∧ Γ.config config.id = some config ∧ ∀ b, (k b).Ok Γ
  | .spawn p guard k, Γ =>
    Γ.timed = false ∧ Γ.session = false ∧ (∀ id ∈ guard, id ∈ Γ.guards) ∧
      p.Ok { guards := guard.toList, config := Γ.config } ∧
      k.Ok { Γ with guards := Γ.guards.diff guard.toList }
  | .deadline p k, Γ =>
    Γ.timed = false ∧ Γ.own = false ∧ p.Ok { guards := Γ.guards, config := Γ.config } ∧
      k.Ok { Γ with timed := true }
  | .inTime k, Γ => k.Ok { Γ with timed := false }

variable {guards : List String} {idle : Set String} {config : String → Option SwitchConfig}
variable {id : String} {c : SwitchConfig} {k : Prog} {Γ : Ctx}

/-- A program is right whatever a lookup finds. -/
theorem ok_lookup {o : Option SwitchConfig} {f : SwitchConfig → Prog} (hΓ : Γ.timed = false)
    (h : ∀ c, o = some c → (f c).Ok Γ) : (match o with | none => Prog.done | some c => f c).Ok Γ := by
  cases o with
  | none => exact hΓ
  | some c => exact h c rfl

/-- An apply under the guard of its switch is right. -/
theorem ok_applyConfigImpl (hc : c.id = id) (hid : id ∈ guards) (hconfig : config id = some c) :
    (applyConfigImpl id c).Ok { guards, idle, config } := by
  subst hc
  simp [applyConfigImpl, Ok, Bool.forall_bool, hid, hconfig]

/-- Taking the turns one by one is right if what follows is. -/
theorem ok_acquireAll {f : List SwitchConfig → Prog}
    (hf : ∀ (taken : List SwitchConfig) (config : String → Option SwitchConfig),
      (taken.map (·.id)).Nodup → (∀ c ∈ taken, config c.id = some c) →
        (f taken.reverse).Ok { guards := taken.map (·.id), config })
    (switches taken : List SwitchConfig) (htaken : (taken.map (·.id)).Nodup)
    (hconfig : ∀ c ∈ taken, config c.id = some c) :
    (acquireAll switches taken f).Ok { guards := taken.map (·.id), config } := by
  induction switches generalizing taken config with
  | nil => exact hf taken config htaken hconfig
  | cons c rest ih =>
    refine ⟨rfl, fun hid => ?_, ih taken htaken hconfig⟩
    have hnext := @ih (Function.update config c.id (some c)) (c :: taken)
      (List.nodup_cons.mpr ⟨hid, htaken⟩) ?_
    · simpa [Ctx.gain] using hnext
    · intro c' hc'
      rcases List.mem_cons.mp hc' with rfl | hc'
      · simp
      · have hne : c'.id ≠ c.id := fun h => hid (h ▸ List.mem_map_of_mem hc')
        simpa [hne] using hconfig c' hc'

/-- Each switch is applied under the guard that was taken for it. -/
theorem ok_spawnAll (switches : List SwitchConfig) (hnodup : (switches.map (·.id)).Nodup)
    (hguards : ∀ c ∈ switches, c.id ∈ guards) (hconfig : ∀ c ∈ switches, config c.id = some c) :
    (spawnAll switches).Ok { guards, config } := by
  induction switches generalizing guards with
  | nil => rfl
  | cons c rest ih =>
    obtain ⟨hc, hrest⟩ := List.forall_mem_cons.mp hguards
    obtain ⟨hcc, hrestc⟩ := List.forall_mem_cons.mp hconfig
    obtain ⟨hnot, hnodup⟩ := List.nodup_cons.mp hnodup
    refine ⟨rfl, rfl, by simpa using hc, ok_applyConfigImpl rfl (by simp) hcc, ?_⟩
    refine ih hnodup (fun c' hc' => ?_) hrestc
    have hne : c'.id ≠ c.id := fun h => hnot (List.mem_map.mpr ⟨c', hc', h⟩)
    simpa using (List.mem_erase_of_ne hne).mpr (hrest c' hc')

/-- A reload closes idle sessions before it opens its own. -/
theorem ok_applySingleSwitch (hid : c.id ∈ guards) (hconfig : config c.id = some c)
    (hidle : c.id ∈ idle) (hk : k.Ok { guards, idle, config }) :
    (applySingleSwitch c k).Ok { guards, idle, config } := by
  simp [applySingleSwitch, Ok, Bool.forall_bool, hid, hconfig, hidle, hk]

/-- So the whole loop of the watcher is right. -/
theorem ok_applyAllConfigurations (switches : List SwitchConfig) (idle : Set String)
    (config : String → Option SwitchConfig) :
    (applyAllConfigurations switches).Ok { guards := [], idle, config } := by
  induction switches generalizing idle config with
  | nil => rfl
  | cons c rest ih =>
    refine ⟨rfl, fun _ => ?_, ih _ _⟩
    have hrelease (idle : Set String) (config : String → Option SwitchConfig) :
        (releaseGuard c.id (applyAllConfigurations rest)).Ok { guards := [c.id], idle, config } :=
      ⟨rfl, rfl, by simp, by simpa using ih idle config⟩
    -- the watcher applies twice where a reload is pending, both times after the look at the slot
    let Γ : Ctx := Ctx.mk [c.id] false false false (insert c.id (idle \ {c.id}))
      (Function.update config c.id (some c))
    have hsingle {k : Prog} (hk : k.Ok Γ) : (applySingleSwitch c k).Ok Γ :=
      ok_applySingleSwitch (by simp) (by simp) (by simp) hk
    have hpending : (takePendingReload c.id fun pending =>
        if pending then applySingleSwitch c (releaseGuard c.id (applyAllConfigurations rest))
        else releaseGuard c.id (applyAllConfigurations rest)).Ok Γ :=
      Bool.forall_bool.mpr ⟨hrelease _ _, hsingle (hrelease _ _)⟩
    exact ⟨rfl, hsingle hpending⟩

/-- A live reading gives its session back. -/
theorem ok_fetchLive (hid : c.id ∈ guards) (hk : ∀ config, k.Ok { guards, config }) :
    (fetchLive c k).Ok { guards, idle, config } := by
  simp [fetchLive, Ok, hid, hk]

/-- So does a refresh of all switches. -/
theorem ok_refreshAll (switches : List SwitchConfig) (idle : Set String)
    (config : String → Option SwitchConfig) :
    (refreshAll switches).Ok { guards := [], idle, config } := by
  induction switches generalizing idle config with
  | nil => rfl
  | cons c rest ih =>
    refine ⟨rfl, fun _ => ?_, ih _ _⟩
    refine ok_fetchLive (by simp) fun config => ⟨rfl, rfl, by simp, ?_⟩
    simpa using ih ∅ config

/-- A power operation gives back what it took. -/
theorem ok_poeTask {commands : Prog → Prog} (h : ∀ (k : Prog) (Γ : Ctx),
    k.Ok { Γ with session := false, idle := ∅ } → (commands k).Ok Γ) :
    (poeTask id commands).Ok { guards := [], idle, config } := by
  intro switches
  refine ok_lookup rfl fun c hc => ?_
  have hrelease (config : String → Option SwitchConfig) :
      (releaseGuard id done).Ok { guards := [id], config } := ⟨rfl, rfl, by simp, rfl⟩
  have hcommands (config : String → Option SwitchConfig) :
      (commands (releaseGuard id done)).Ok { guards := [id], session := true, config } :=
    h _ _ (hrelease config)
  simp [Ok, Bool.forall_bool, Ctx.gain, id_of_findSwitch hc, hcommands]

end Prog

/-- Every handler keeps to the discipline. -/
theorem ok_prog (r : Request) : r.prog.Ok { guards := [] } := by
  cases r with
  | applyConfig id =>
    intro switches
    refine Prog.ok_lookup rfl fun c hc => ?_
    let Γ := Ctx.gain { guards := [] } id (some c)
    have himpl : (Prog.applyConfigImpl id c).Ok Γ :=
      Prog.ok_applyConfigImpl (id_of_findSwitch hc) (by simp) (by simp)
    exact ⟨rfl, rfl, by simp, ⟨rfl, fun _ => himpl, rfl⟩, rfl⟩
  | reloadConfig =>
    intro loaded
    cases loaded with
    | none => rfl
    | some switches =>
      refine ⟨rfl, _, fun id => .inl rfl, Prog.ok_acquireAll ?_ switches [] (by simp) (by simp)⟩
      intro taken config hnodup hconfig
      have hperm : taken.reverse.Perm taken := taken.reverse_perm
      refine Prog.ok_spawnAll _ ((hperm.map _).nodup_iff.mpr hnodup) (fun c hc => ?_) fun c hc => ?_
      · exact List.mem_map_of_mem (hperm.mem_iff.mp hc)
      · exact hconfig c (hperm.mem_iff.mp hc)
  | reloadSwitchConfig id =>
    refine ⟨rfl, fun _ loaded => ?_, rfl⟩
    refine Prog.ok_lookup rfl fun c hc => ?_
    have hid : c.id = id := by
      obtain ⟨switches, _, hfind⟩ := Option.bind_eq_some_iff.mp hc
      exact id_of_findSwitch hfind
    refine ⟨rfl, Function.update (fun _ => none) id (some c), fun i => ?_, rfl, rfl, by simp [Ctx.gain],
      Prog.ok_applyConfigImpl hid (by simp) (by simp), rfl⟩
    by_cases hi : i = id
    · -- the turn is there already when the configuration is read
      subst hi
      refine .inr ⟨by simp [Ctx.gain], fun switches => ?_⟩
      rw [Function.update_self, ← hid, findSwitch_putSwitch]
    · exact .inl (by simp [Ctx.gain, hi])
  | fileChanged =>
    intro loaded
    cases loaded with
    | none => rfl
    | some switches =>
      exact ⟨rfl, _, fun id => .inl rfl, Prog.ok_applyAllConfigurations switches ∅ _⟩
  | refresh => exact fun switches => Prog.ok_refreshAll switches ∅ _
  | poeSet id =>
    show (Prog.poeSet id).Ok _
    rw [Prog.poeSet]
    apply Prog.ok_poeTask
    intro k Γ hk
    simpa [Prog.Ok] using hk
  | poeReset id =>
    show (Prog.poeReset id).Ok _
    rw [Prog.poeReset]
    apply Prog.ok_poeTask
    intro k Γ hk
    simpa [Prog.Ok, Bool.forall_bool] using hk
  | getLookup id =>
    intro switches
    refine Prog.ok_lookup rfl fun c hc => ?_
    have hrelease (config : String → Option SwitchConfig) :
        (Prog.releaseGuard id .done).Ok { guards := [id], config } := ⟨rfl, rfl, by simp, rfl⟩
    have hlive (idle : Set String) (config : String → Option SwitchConfig) :
        (Prog.fetchLive c (.releaseGuard id .done)).Ok { guards := [id], idle, config } :=
      Prog.ok_fetchLive (by simp [id_of_findSwitch hc]) hrelease
    simp [Prog.Ok, Bool.forall_bool, Ctx.gain, hlive]
  | getConfig id =>
    intro switches
    refine Prog.ok_lookup rfl fun c hc => ?_
    simp [Prog.Ok, Bool.forall_bool]
  | previewDiff id currentState =>
    intro switches
    refine Prog.ok_lookup rfl fun c hc => ?_
    cases currentState <;> simp [Prog.Ok, Bool.forall_bool]
  | updateSwitch id f | deleteSwitch id => exact ⟨rfl, _, fun id => .inl rfl, rfl⟩

end SwitchConfigurator.Service
