import SwitchConfigurator.Lookup.Step

/-!
# Records and caches of switches that are gone

Once nothing is under way, a switch with a status record or a cached lookup should be one of the
store. The status record of a switch is never removed, the watcher clears no cache, and a lookup
does not look again whether its switch is still there; `within_of_run` says that nothing else can
go wrong.
-/

namespace SwitchConfigurator.Lookup

open TransitionSystem (Along Always)

variable {w w' : World} {tasks pre post others new : List Task} {t : Task} {e : Event}
variable {kind : Kind} {id : String}

/-- All that is kept and shown is about switches of the store. -/
structure Within (w : World) : Prop where
  status : ∀ record ∈ w.getStatus, record.id ∈ w.ids
  cached : ∀ kind id, w.cached kind id ≠ none → id ∈ w.ids

/-- The switch is in the store, or a removal that is under way goes on to clear its entry. -/
def Covered (w : World) (tasks : List Task) (kind : Kind) (id : String) : Prop :=
  id ∈ w.ids ∨ ∃ t ∈ tasks, t.prog.clears kind id = true

instance : Decidable (Covered w tasks kind id) := inferInstanceAs (Decidable (_ ∨ _))

/-- What a step has to leave as it is:
- a request that alone has an entry to clear is not given up before;
- no switch with a status record leaves the store, and none with a cached lookup unless its entry
  is cleared next, which the watcher does not do;
- records are made, and lookups are stored, only for switches that are still in the store. -/
def StepKeeps (w : World) (others : List Task) (t : Task) (e : Event) : Prop :=
  match e, t.prog with
  | .cancel, _ => ∀ kind, ∀ entry ∈ w.caches kind, Covered w others kind entry.switchId
  | .go, .writeConfig f k =>
    let left := { w with config := f w.config }
    (∀ record ∈ w.status, record.id ∈ w.ids → record.id ∈ left.ids) ∧
      ∀ kind, ∀ entry ∈ w.caches kind, entry.switchId ∈ w.ids →
        Covered left (t.goTo (k w.config) :: others) kind entry.switchId
  | .go, .initializeSwitches switches _ => ∀ switch ∈ switches, switch.id ∈ w.ids
  | .go, .insert kind _ => ∀ reading ∈ t.pending kind, Covered w others kind reading.switchId
  | _, _ => True

def Keeps (s : TaskState World Task) : TaskLabel Request Event → Prop
  | .arrive _ => True
  | .go i e => ∀ t ∈ s.tasks[i]?, StepKeeps s.shared (s.tasks.eraseIdx i) t e

instance : Decidable (StepKeeps w others t e) := by
  obtain ⟨watcher, prog, guards, readings⟩ := t
  cases e <;> cases prog <;> (unfold StepKeeps; infer_instance)

instance (s : TaskState World Task) (l : TaskLabel Request Event) : Decidable (Keeps s l) :=
  match l with
  | .arrive _ => inferInstanceAs (Decidable True)
  | .go i e =>
    inferInstanceAs (Decidable (∀ t ∈ s.tasks[i]?, StepKeeps s.shared (s.tasks.eraseIdx i) t e))

/-! ## The invariant -/

structure Kept (w : World) (tasks : List Task) : Prop where
  status : ∀ record ∈ w.status, record.id ∈ w.ids
  cached : ∀ kind, ∀ entry ∈ w.caches kind, Covered w tasks kind entry.switchId

/-- A switch stays covered as long as some task is still to clear it. -/
theorem Covered.mono (h : Covered w tasks kind id) (hids : id ∈ w.ids → id ∈ w'.ids)
    (hnew : ∀ t ∈ tasks, t.prog.clears kind id = true →
      ∃ t' ∈ new, t'.prog.clears kind id = true) : Covered w' new kind id := by
  rcases h with h | ⟨t, ht, hclears⟩
  · exact .inl (hids h)
  · exact .inr (hnew t ht hclears)

/-- One task is replaced by what it leaves. -/
theorem Covered.replace (h : Covered w (pre ++ t :: post) kind id)
    (hids : id ∈ w.ids → id ∈ w'.ids)
    (hnew : t.prog.clears kind id = true → ∃ t' ∈ new, t'.prog.clears kind id = true) :
    Covered w' (pre ++ new ++ post) kind id := by
  refine h.mono hids fun t' ht' hclears => ?_
  rw [List.mem_append, List.mem_cons] at ht'
  rcases ht' with ht' | rfl | ht'
  · exact ⟨t', by simp [ht'], hclears⟩
  · obtain ⟨t'', ht'', hclears''⟩ := hnew hclears
    exact ⟨t'', by simp [ht''], hclears''⟩
  · exact ⟨t', by simp [ht'], hclears⟩

/-- A step of a task that leaves store, records and caches alone. -/
theorem Kept.same (h : Kept w (pre ++ t :: post)) (hconfig : w'.config = w.config)
    (hstatus : w'.status = w.status) (hcaches : w'.caches = w.caches)
    (hclears : ∀ kind id, t.prog.clears kind id = false) : Kept w' (pre ++ new ++ post) where
  status := by
    rw [hstatus, World.ids, hconfig]
    exact h.status
  cached := by
    rw [hcaches]
    intro kind entry hentry
    refine (h.cached kind entry hentry).replace ?_ fun hclear => ?_
    · rw [World.ids, World.ids, hconfig]
      exact fun h => h
    · exact absurd (hclears kind entry.switchId) (by rw [hclear]; decide)

/-- Recording a change adds no record. -/
theorem mem_recordChange {status : List SwitchStatus} {change : Change} {report : Report}
    {record : SwitchStatus} (h : record ∈ recordChange status id change report) :
    ∃ record' ∈ status, record'.id = record.id := by
  obtain ⟨record', hmem, rfl⟩ := List.mem_map.mp h
  refine ⟨record', hmem, ?_⟩
  split
  · cases change <;> rfl
  · rfl

/-- Nothing comes into a cache by dropping. -/
theorem mem_caches_retain {caches : Caches} {kind' : Kind} {keep : String → Bool}
    {entry : Stored kind'} (h : entry ∈ caches.retain kind keep kind') :
    entry ∈ caches kind' ∧ (kind = kind' → keep entry.switchId = true) := by
  by_cases hkind : kind' = kind
  · subst hkind
    rw [Caches.retain, Function.update_self, List.mem_filter] at h
    exact ⟨h.1, fun _ => h.2⟩
  · rw [Caches.retain, Function.update_of_ne hkind] at h
    exact ⟨h, fun heq => absurd heq.symm hkind⟩

/-- Only what is stored comes into a cache. -/
theorem mem_caches_insert {caches : Caches} {kind' : Kind} {stored : Stored kind}
    {entry : Stored kind'} (h : entry ∈ caches.insert stored kind') :
    entry ∈ caches kind' ∨ kind' = kind ∧ entry.switchId = stored.switchId := by
  by_cases hkind : kind' = kind
  · subst hkind
    rw [Caches.insert, Function.update_self] at h
    rcases Keyed.mem_upsert h with h | rfl
    · exact .inl h
    · exact .inr ⟨rfl, rfl⟩
  · rw [Caches.insert, Function.update_of_ne hkind] at h
    exact .inl h

/-- A step that keeps to the condition keeps the lookup state. -/
theorem Kept.step (h : Kept w (pre ++ t :: post)) (hs : Steps w t e w' new)
    (hkeeps : StepKeeps w (pre ++ post) t e) : Kept w' (pre ++ new ++ post) := by
  cases hs with
  | move _ hclears => exact h.same rfl rfl rfl hclears
  | @write f k hprog =>
    simp only [StepKeeps, hprog] at hkeeps
    refine ⟨fun record hrecord => hkeeps.1 record hrecord (h.status record hrecord), ?_⟩
    intro kind entry hentry
    by_cases hid : entry.switchId ∈ w.ids
    · refine (hkeeps.2 kind entry hentry hid).mono (fun h => h) fun t' ht' hclears => ?_
      refine ⟨t', ?_, hclears⟩
      rw [List.append_assoc, List.singleton_append]
      exact List.perm_middle.mem_iff.mpr ht'
    · -- it was another task's to clear, and still is
      refine (h.cached kind entry hentry).replace (fun h => absurd h hid) fun hclears => ?_
      rw [hprog] at hclears
      exact absurd hclears Bool.false_ne_true
  | @initialized switches k hprog =>
    simp only [StepKeeps, hprog] at hkeeps
    refine ⟨fun record hrecord => ?_, fun kind entry hentry => ?_⟩
    · rcases Keyed.mem_upsertAll hrecord with hrecord | hrecord
      · exact h.status record hrecord
      · obtain ⟨switch, hswitch, rfl⟩ := List.mem_map.mp hrecord
        exact hkeeps switch hswitch
    · refine (h.cached kind entry hentry).replace (fun h => h) fun hclears => ?_
      rw [hprog] at hclears
      exact ⟨t.goTo k, List.mem_singleton_self _, hclears⟩
  | @record id change k report hprog =>
    refine ⟨fun record hrecord => ?_, (h.same rfl rfl rfl fun _ _ => ?_ : Kept w _).cached⟩
    · obtain ⟨record', hmem, hid⟩ := mem_recordChange hrecord
      rw [← hid]
      exact h.status record' hmem
    · rw [hprog]
      rfl
  | @retain kind keep k hprog =>
    refine ⟨h.status, fun kind' entry hentry => ?_⟩
    obtain ⟨hmem, hkeep⟩ := mem_caches_retain hentry
    refine (h.cached kind' entry hmem).replace (fun h => h) fun hclears => ?_
    -- an entry that is still there is not one that this step has cleared
    rw [hprog, Prog.clears, Bool.or_eq_true, Bool.and_eq_true, decide_eq_true_eq] at hclears
    rcases hclears with ⟨hkind, hnot⟩ | hclears
    · rw [hkeep hkind] at hnot
      exact absurd hnot (by decide)
    · exact ⟨t.goTo k, List.mem_singleton_self _, hclears⟩
  | acquire hprog _ => exact h.same rfl rfl rfl fun _ _ => by rw [hprog]; rfl
  | release hprog _ => exact h.same rfl rfl rfl fun _ _ => by rw [hprog]; rfl
  | fetch hprog => exact h.same rfl rfl rfl fun _ _ => by rw [hprog]; rfl
  | giveUp hprog => exact h.same rfl rfl rfl fun _ _ => by rw [hprog]; rfl
  | stamp hprog _ _ => exact h.same rfl rfl rfl fun _ _ => by rw [hprog]; rfl
  | cached hprog _ => exact h.same rfl rfl rfl fun _ _ => by rw [hprog]; rfl
  | live hprog _ _ => exact h.same rfl rfl rfl fun _ _ => by rw [hprog]; rfl
  | spawn hprog _ => exact h.same rfl rfl rfl fun _ _ => by rw [hprog]; rfl
  | @insert kind k reading entry hprog hreading hentry =>
    simp only [StepKeeps, hprog] at hkeeps
    refine ⟨h.status, fun kind' entry' hentry' => ?_⟩
    have hclear {id : String} (hcovered : Covered w (pre ++ post) kind' id) :
        Covered (w.store entry) (pre ++ [(t.setReading { reading with stored := true }).goTo k] ++
          post) kind' id := by
      refine hcovered.mono (fun h => h) fun t' ht' hclears => ⟨t', ?_, hclears⟩
      rw [List.append_assoc, List.singleton_append]
      exact List.perm_middle.mem_iff.mpr (List.mem_cons_of_mem _ ht')
    rcases mem_caches_insert hentry' with hentry' | ⟨rfl, hid⟩
    · refine (h.cached kind' entry' hentry').replace (fun h => h) fun hclears => ?_
      rw [hprog] at hclears
      exact absurd hclears Bool.false_ne_true
    · obtain ⟨stamp, -, rfl⟩ := Option.map_eq_some_iff.mp hentry
      rw [hid]
      exact hclear (hkeeps reading hreading)
  | ended hend =>
    rw [List.append_nil]
    refine ⟨h.status, fun kind entry hentry => ?_⟩
    rcases hend with rfl | hprog
    · exact (hkeeps kind entry hentry).mono (fun h => h) fun t' ht' hclears => ⟨t', ht', hclears⟩
    · have hreplace : Covered w (pre ++ [] ++ post) kind entry.switchId :=
        (h.cached kind entry hentry).replace (fun h => h) fun hclears => by
          rw [hprog] at hclears
          cases hclears
      rwa [List.append_nil] at hreplace

/-! ## Runs -/

section

variable {initial : List SwitchConfig} {s : TaskState World Task}
variable {tr : List (TaskState World Task × TaskLabel Request Event)}

theorem keeps_go_iff : Keeps ⟨w, pre ++ t :: post⟩ (.go pre.length e) ↔
    StepKeeps w (pre ++ post) t e := by
  have herase : (pre ++ t :: post).eraseIdx pre.length = pre ++ post := by
    rw [List.eraseIdx_append_of_length_le le_rfl, Nat.sub_self]
    rfl
  simp [Keeps, herase]

/-- It is kept at the start. -/
theorem kept_init : Kept (lookups initial).init [] where
  status := by
    intro record hrecord
    rcases Keyed.mem_upsertAll hrecord with hrecord | hrecord
    · cases hrecord
    · obtain ⟨switch, hswitch, rfl⟩ := List.mem_map.mp hrecord
      exact List.mem_map_of_mem hswitch
  cached := fun _ _ hentry => nomatch hentry

/-- It is kept in every run whose steps keep to the condition. -/
theorem kept_of_run (hrun : (lookups initial).Run tr s) (h : Along Keeps tr) :
    Kept s.shared s.tasks := by
  refine TaskSystem.run_invariant (P := fun s => Kept s.shared s.tasks) hrun h kept_init ?_ ?_
  · intro tr w tasks r _ _ _ _ hkept
    refine ⟨hkept.status, fun kind entry hentry => ?_⟩
    exact (hkept.cached kind entry hentry).mono (fun h => h) fun t ht hclears =>
      ⟨t, List.mem_cons_of_mem _ ht, hclears⟩
  · intro tr w pre t post e w' new _ _ hkeeps hadvance hkept
    exact hkept.step (steps_of_advance hadvance) (keeps_go_iff.mp hkeeps)

/-- When no task is left, the lookup state is within the store. -/
theorem Kept.within (h : Kept w []) : Within w where
  status := h.status
  cached := by
    intro kind id hcached
    obtain ⟨entry, hentry⟩ := Option.ne_none_iff_exists'.mp hcached
    obtain ⟨hmem, rfl⟩ := Keyed.lookup_some hentry
    rcases h.cached kind entry hmem with hid | ⟨t, ht, -⟩
    · exact hid
    · cases ht

/-- In every run that keeps to `Keeps`, nothing of a switch that is gone is left in any state in
which no task is under way. -/
theorem within_of_run (hrun : (lookups initial).Run tr s) (h : Along Keeps tr) :
    Always (fun s => s.tasks = [] → Within s.shared) tr s := by
  refine hrun.always h fun tr m hr hkeeps hidle => ?_
  have hkept : Kept m.shared m.tasks := kept_of_run hr hkeeps
  rw [hidle] at hkept
  exact hkept.within

/-- A switch is created over the API; it gets no status record. -/
def putLab : List (TaskLabel Request Event) :=
  [.arrive (.updateSwitch "lab" fun _ => some { id := "lab", model := some .aruba2930F }),
    .go 0 .go, .go 0 .go]

def deleteLab : List (TaskLabel Request Event) :=
  [.arrive (.deleteSwitch "lab"), .go 0 .go, .go 0 .go, .go 0 .go, .go 0 .go]

/-- The files have no such switch, and the watcher gets no turn. -/
def filesChange : List (TaskLabel Request Event) :=
  [.arrive .fileChanged, .go 0 (.loaded (some [{ id := "office" }])), .go 0 .go, .go 0 .go,
    .go 0 (.outcome false), .go 0 .go]

theorem within_of_run_lab : ∃ tr s, (lookups [{ id := "office" }]).Run tr s ∧
    s.tasks = [] ∧ Within s.shared := by
  have hrun := TransitionSystem.run_of_replay
    (show (lookups [{ id := "office" }]).system.replay (lookups [{ id := "office" }]).system.init
      (putLab ++ macTableIsRead "lab" ++ macTableIsStored "a" ++ deleteLab) = some (_, _) from rfl)
  exact ⟨_, _, hrun, rfl, (within_of_run hrun (by decide +kernel)).2 rfl⟩

/-- A switch that is deleted keeps its status record; a lookup that has read a switch stores its
answer after the switch was deleted; and the watcher leaves the cached answer of a switch. -/
theorem removed_switches_linger :
    (∃ tr s, (lookups [{ id := "lab" }]).Run tr s ∧ s.tasks = [] ∧ ¬Within s.shared) ∧
    (∃ tr s, (lookups [{ id := "office" }]).Run tr s ∧ s.tasks = [] ∧
      s.shared.cached .macTable "lab" ≠ none ∧ ¬Within s.shared) ∧
    ∃ tr s, (lookups [{ id := "office" }]).Run tr s ∧ s.tasks = [] ∧
      s.shared.cached .macTable "lab" ≠ none ∧ ¬Within s.shared := by
  have hdeleted := TransitionSystem.run_of_replay
    (show (lookups [{ id := "lab" }]).system.replay (lookups [{ id := "lab" }]).system.init
      deleteLab = some (_, _) from rfl)
  have hlate := TransitionSystem.run_of_replay
    (show (lookups [{ id := "office" }]).system.replay (lookups [{ id := "office" }]).system.init
      (putLab ++ macTableIsRead "lab" ++ deleteLab ++ macTableIsStored "a") = some (_, _) from rfl)
  have hwatcher := TransitionSystem.run_of_replay
    (show (lookups [{ id := "office" }]).system.replay (lookups [{ id := "office" }]).system.init
      (putLab ++ macTableIsRead "lab" ++ macTableIsStored "a" ++ filesChange) = some (_, _) from rfl)
  refine ⟨⟨_, _, hdeleted, rfl, fun h => ?_⟩, ⟨_, _, hlate, rfl, nofun, fun h => ?_⟩,
    ⟨_, _, hwatcher, rfl, nofun, fun h => ?_⟩⟩
  · exact absurd (h.status _ List.mem_cons_self) (by decide)
  · exact absurd (h.cached .macTable "lab" nofun) (by decide)
  · exact absurd (h.cached .macTable "lab" nofun) (by decide)

end

end SwitchConfigurator.Lookup
