import SwitchConfigurator.Lookup.Step

/-!
# Readings on their way to the cache

A reading is numbered when it is taken and stored some steps later, in the turn of its switch, out
of it, or without ever having had it. Two readings that were both taken in the turn are ordered by
it for as long as the newer reader holds it.
-/

namespace SwitchConfigurator.Lookup

open TransitionSystem (Along Always)

variable {w w' : World} {tasks tasks' pre post rest new : List Task} {t t' : Task} {e : Event}
variable {kind : Kind} {id : String}

/-! ## Who has the turn -/

/-- No two tasks have a guard of the same switch. -/
structure Owned (w : World) (tasks : List Task) : Prop where
  nodup : (tasks.flatMap Task.guards).Nodup
  held : ∀ id ∈ tasks.flatMap Task.guards, id ∈ w.held

theorem Owned.perm (h : Owned w tasks) (hperm : tasks.Perm tasks') : Owned w tasks' where
  nodup := (hperm.flatMap_right Task.guards).nodup_iff.mp h.nodup
  held := fun id hid => h.held id ((hperm.flatMap_right Task.guards).mem_iff.mpr hid)

/-- Guards are at most lost. -/
theorem Owned.lessen (h : Owned w (t :: rest)) (hheld : w'.held = w.held)
    (hnodup : (new.flatMap Task.guards).Nodup)
    (hnew : ∀ id ∈ new.flatMap Task.guards, id ∈ t.guards) : Owned w' (new ++ rest) := by
  have hall := h.nodup
  rw [List.flatMap_cons, List.nodup_append'] at hall
  refine ⟨?_, fun id hid => ?_⟩
  · rw [List.flatMap_append, List.nodup_append']
    exact ⟨hnodup, hall.2.1, fun id hid => hall.2.2 (hnew id hid)⟩
  · rw [hheld]
    refine h.held id ?_
    rw [List.flatMap_append] at hid
    rw [List.flatMap_cons]
    exact List.mem_append.mpr ((List.mem_append.mp hid).imp_left (hnew id))

/-- A task that keeps its guards keeps them from the others. -/
theorem Owned.same (h : Owned w (t :: rest)) (hheld : w'.held = w.held)
    (hguards : t'.guards = t.guards) : Owned w' (t' :: rest) := by
  refine ⟨?_, fun id hid => ?_⟩
  · rw [List.flatMap_cons, hguards]
    exact h.nodup
  · rw [List.flatMap_cons, hguards] at hid
    rw [hheld]
    exact h.held id hid

/-- What is freed was not held by anyone else. -/
theorem Owned.free (h : Owned w (t :: rest)) {freed : List String} (hnodup : t'.guards.Nodup)
    (hguards : ∀ id ∈ t'.guards, id ∈ t.guards ∧ id ∉ freed) (hfreed : ∀ id ∈ freed, id ∈ t.guards) :
    Owned (w.free freed) (t' :: rest) := by
  have hall := h.nodup
  rw [List.flatMap_cons, List.nodup_append'] at hall
  refine ⟨?_, fun id hid => ?_⟩
  · rw [List.flatMap_cons, List.nodup_append']
    exact ⟨hnodup, hall.2.1, fun id hid => hall.2.2 (hguards id hid).1⟩
  · rw [World.free, Finset.mem_sdiff, List.mem_toFinset]
    rw [List.flatMap_cons, List.mem_append] at hid
    rcases hid with hid | hid
    · refine ⟨h.held id ?_, (hguards id hid).2⟩
      rw [List.flatMap_cons]
      exact List.mem_append_left _ (hguards id hid).1
    · refine ⟨h.held id ?_, fun hmem => hall.2.2 (hfreed id hmem) hid⟩
      rw [List.flatMap_cons]
      exact List.mem_append_right _ hid

/-- A task that ends frees its guards. -/
theorem Owned.tail (h : Owned w (t :: rest)) : Owned (w.free t.guards) rest := by
  have hnone : Owned (w.free t.guards) ({ prog := .done } :: rest) :=
    h.free List.nodup_nil (fun _ hid => nomatch hid) fun _ hid => hid
  exact ⟨hnone.nodup, hnone.held⟩

/-- No task has a guard twice. -/
theorem Owned.guards_nodup (h : Owned w (t :: rest)) : t.guards.Nodup := by
  have hall := h.nodup
  rw [List.flatMap_cons] at hall
  exact (List.nodup_append'.mp hall).1

/-- No two tasks have one guard. -/
theorem Owned.disjoint (h : Owned w (t :: rest)) (ht' : t' ∈ rest) (hid : id ∈ t.guards) :
    id ∉ t'.guards := by
  have hall := h.nodup
  rw [List.flatMap_cons] at hall
  exact fun hid' => (List.nodup_append'.mp hall).2.2 hid (List.mem_flatMap.mpr ⟨t', ht', hid'⟩)

/-- A step keeps the guards owned. -/
theorem Owned.step (h : Owned w (t :: rest)) (hs : Steps w t e w' new) :
    Owned w' (new ++ rest) := by
  cases hs with
  | move _ _ => exact h.same rfl rfl
  | write _ => exact h.same rfl rfl
  | initialized _ => exact h.same rfl rfl
  | record _ => exact h.same rfl rfl
  | retain _ => exact h.same rfl rfl
  | @acquire id k _ hfree =>
    refine ⟨?_, fun id' hid' => ?_⟩
    -- a lock is given only while nobody has it
    · refine List.nodup_cons.mpr ⟨fun hid => hfree (h.held id hid), h.nodup⟩
    · rcases List.mem_cons.mp hid' with rfl | hid'
      · exact Finset.mem_insert_self _ _
      · exact Finset.mem_insert_of_mem (h.held id' hid')
  | @release id k _ hid =>
    have hnodup : t.guards.Nodup := h.guards_nodup
    refine h.free (hnodup.erase id) (fun id' hid' => ?_) fun id' hid' => ?_
    · obtain ⟨hne, hmem⟩ := hnodup.mem_erase_iff.mp hid'
      exact ⟨hmem, fun hsingle => hne (List.mem_singleton.mp hsingle)⟩
    · rw [List.mem_singleton.mp hid']
      exact hid
  | fetch _ => exact h.same rfl rfl
  | giveUp _ => exact h.same rfl rfl
  | stamp _ _ _ => exact h.same rfl rfl
  | insert _ _ _ => exact h.same rfl rfl
  | cached _ _ => exact h.same rfl rfl
  | live _ _ _ => exact h.same rfl rfl
  | @spawn p guard k _ hguard =>
    have hnodup : t.guards.Nodup := h.guards_nodup
    cases guard with
    | none =>
      refine h.lessen rfl ?_ ?_
      · simpa [Task.hand, Task.goTo] using hnodup
      · simp [Task.hand, Task.goTo]
    | some id =>
      have hid : id ∈ t.guards := hguard id rfl
      refine h.lessen rfl ?_ fun id' hid' => ?_
      -- the guard is moved to the child, not copied
      · have hperm : (t.guards.erase id ++ [id]).Perm t.guards :=
          List.perm_append_comm.trans (List.perm_cons_erase hid).symm
        simpa [Task.hand, Task.goTo, Task.lose] using hperm.nodup_iff.mpr hnodup
      · simp only [Task.hand, Option.elim_some, Task.goTo, Task.lose, Option.toList_some,
          List.flatMap_cons, List.flatMap_nil, List.append_nil, List.mem_append,
          List.mem_singleton] at hid'
        rcases hid' with hid' | rfl
        · exact List.mem_of_mem_erase hid'
        · exact hid
  | ended _ => exact h.tail

/-! ## Which reading is older -/

/-- A reading whose reader still has the turn is newer than any other that was taken in the
turn. -/
def Precedes (t t' : Task) : Prop :=
  ∀ kind reading reading', t.pending kind = some reading → t'.pending kind = some reading' →
    reading'.switchId = reading.switchId → reading.turn = .held → reading'.turn ≠ .without →
    reading'.takenAt < reading.takenAt

def Apart (t t' : Task) : Prop := Precedes t t' ∧ Precedes t' t

theorem Apart.symm (h : Apart t t') : Apart t' t := And.symm h

structure Ordered (w : World) (tasks : List Task) : Prop where
  bound : ∀ kind id, w.newest kind id ≤ w.readings
  newer : ∀ t ∈ tasks, ∀ kind reading, t.pending kind = some reading →
    w.newest kind reading.switchId < reading.takenAt ∧ reading.takenAt ≤ w.readings
  guarded : ∀ t ∈ tasks, ∀ kind reading, t.pending kind = some reading → reading.turn = .held →
    reading.switchId ∈ t.guards
  apart : tasks.Pairwise Apart

theorem Ordered.perm (h : Ordered w tasks) (hperm : tasks.Perm tasks') : Ordered w tasks' where
  bound := h.bound
  newer := fun t ht => h.newer t (hperm.mem_iff.mpr ht)
  guarded := fun t ht => h.guarded t (hperm.mem_iff.mpr ht)
  apart := (hperm.pairwise_iff Apart.symm).mp h.apart

/-- `t'` has no reading that `t` did not have, and at most given the turn away. -/
structure Task.Fades (t t' : Task) : Prop where
  pending : ∀ kind reading', t'.pending kind = some reading' → ∃ reading,
    t.pending kind = some reading ∧ reading'.switchId = reading.switchId ∧
      reading'.takenAt = reading.takenAt ∧
      (reading'.turn ≠ .without → reading.turn ≠ .without) ∧
      (reading'.turn = .held → reading.turn = .held ∧
        (reading.switchId ∈ t.guards → reading.switchId ∈ t'.guards))

/-- A task that fades precedes those it preceded. -/
theorem Precedes.fades {u u' : Task} (h : Precedes t u) (ht : t.Fades t') (hu : u.Fades u') :
    Precedes t' u' := by
  intro kind reading reading' hreading hreading' hid hheld hturn
  obtain ⟨r, hr, hid₁, htaken₁, -, hheld₁⟩ := ht.pending kind reading hreading
  obtain ⟨r', hr', hid₂, htaken₂, hturn₂, -⟩ := hu.pending kind reading' hreading'
  rw [htaken₁, htaken₂]
  refine h kind r r' hr hr' ?_ (hheld₁ hheld).1 (hturn₂ hturn)
  rw [← hid₁, ← hid₂, hid]

theorem Task.fades_of_pending (hpending : ∀ kind, t'.pending kind = t.pending kind)
    (hguards : ∀ id ∈ t.guards, id ∈ t'.guards) : t.Fades t' where
  pending := fun kind reading h =>
    ⟨reading, hpending kind ▸ h, rfl, rfl, fun h => h, fun h => ⟨h, hguards _⟩⟩

theorem Task.fades_refl (t : Task) : t.Fades t := fades_of_pending (fun _ => rfl) fun _ h => h

/-- A task with nothing to store has faded. -/
theorem Task.fades_of_none (h : ∀ kind, t'.pending kind = none) : t.Fades t' where
  pending := fun kind reading hreading => by
    rw [h kind] at hreading
    cases hreading

theorem Reading.stored_lose (reading : Reading kind) : (reading.lose id).stored = reading.stored := by
  unfold Reading.lose
  split <;> rfl

/-- To lose a guard leaves what is to be stored. -/
theorem Task.pending_lose : (t.lose id).pending kind = (t.pending kind).map (·.lose id) := by
  show ((t.readings kind).map (·.lose id)).filter _ = _
  unfold Task.pending
  cases t.readings kind with
  | none => rfl
  | some reading =>
    rw [Option.map_some]
    by_cases hstored : reading.stored = true
    · simp [Option.filter, Reading.stored_lose, hstored]
    · simp [Option.filter, Reading.stored_lose, hstored]

theorem Task.pending_setReading_self {reading : Reading kind} :
    (t.setReading reading).pending kind = if reading.stored then none else some reading := by
  show Option.filter _ (Function.update t.readings kind (some reading) kind) = _
  rw [Function.update_self]
  by_cases hstored : reading.stored = true
  · simp [Option.filter, hstored]
  · simp [Option.filter, hstored]

theorem Task.pending_setReading_ne {kind' : Kind} {reading : Reading kind} (h : kind' ≠ kind) :
    (t.setReading reading).pending kind' = t.pending kind' := by
  show Option.filter _ (Function.update t.readings kind (some reading) kind') = _
  rw [Function.update_of_ne h]
  rfl

/-- What is to be stored is not stored yet. -/
theorem Task.not_stored_of_pending {reading : Reading kind} (h : t.pending kind = some reading) :
    reading.stored = false := by
  obtain ⟨-, hstored⟩ := Option.filter_eq_some_iff.mp h
  simpa using hstored

/-- To lose a guard is to fade. -/
theorem Task.fades_lose : t.Fades (t.lose id) where
  pending := by
    intro kind reading' hreading'
    rw [Task.pending_lose] at hreading'
    obtain ⟨reading, hreading, rfl⟩ := Option.map_eq_some_iff.mp hreading'
    refine ⟨reading, hreading, ?_⟩
    unfold Reading.lose
    by_cases h : reading.switchId = id ∧ reading.turn = .held
    · rw [if_pos h]
      exact ⟨rfl, rfl, fun _ => by rw [h.2]; decide, nofun⟩
    · rw [if_neg h]
      refine ⟨rfl, rfl, fun h => h, fun hheld => ⟨hheld, fun hmem => ?_⟩⟩
      exact (List.mem_erase_of_ne fun hid => h ⟨hid, hheld⟩).mpr hmem

/-- So is to hand one on. -/
theorem Task.fades_hand {guard : Option String} : t.Fades (t.hand guard) := by
  cases guard with
  | none => exact t.fades_refl
  | some id => exact Task.fades_lose

/-- Only the stamp of a reading changes. -/
theorem Task.fades_stamp {reading : Reading kind} {stamp : Option (ℤ × String)}
    (h : t.pending kind = some reading) :
    t.Fades (t.setReading { reading with stamp }) where
  pending := by
    intro kind' reading' hreading'
    by_cases hkind : kind' = kind
    · subst hkind
      rw [Task.pending_setReading_self, Task.not_stored_of_pending h] at hreading'
      cases hreading'
      exact ⟨reading, h, rfl, rfl, fun h => h, fun h => ⟨h, fun h => h⟩⟩
    · rw [Task.pending_setReading_ne hkind] at hreading'
      exact ⟨reading', hreading', rfl, rfl, fun h => h, fun h => ⟨h, fun h => h⟩⟩

/-- Nothing that counts here has changed but that readings may be gone. -/
theorem Ordered.fade (h : Ordered w (t :: rest)) (hnewest : w'.newest = w.newest)
    (hreadings : w'.readings = w.readings) (hnew : ∀ t' ∈ new, t.Fades t')
    (hapart : new.Pairwise Apart) : Ordered w' (new ++ rest) := by
  have hall := List.pairwise_cons.mp h.apart
  refine ⟨by rw [hnewest, hreadings]; exact h.bound, ?_, ?_, ?_⟩
  · rw [hnewest, hreadings]
    intro t' ht' kind reading' hreading'
    rcases List.mem_append.mp ht' with ht' | ht'
    · obtain ⟨reading, hreading, hid, htaken, -⟩ := (hnew t' ht').pending kind reading' hreading'
      rw [hid, htaken]
      exact h.newer t List.mem_cons_self kind reading hreading
    · exact h.newer t' (List.mem_cons_of_mem _ ht') kind reading' hreading'
  · intro t' ht' kind reading' hreading' hheld
    rcases List.mem_append.mp ht' with ht' | ht'
    · obtain ⟨reading, hreading, hid, -, -, hheld'⟩ := (hnew t' ht').pending kind reading' hreading'
      obtain ⟨hheld, hguard⟩ := hheld' hheld
      rw [hid]
      exact hguard (h.guarded t List.mem_cons_self kind reading hreading hheld)
    · exact h.guarded t' (List.mem_cons_of_mem _ ht') kind reading' hreading' hheld
  · rw [List.pairwise_append]
    refine ⟨hapart, hall.2, fun t' ht' u hu => ?_⟩
    obtain ⟨htu, hut⟩ := hall.1 u hu
    exact ⟨htu.fades (hnew t' ht') u.fades_refl, hut.fades u.fades_refl (hnew t' ht')⟩

/-- A reading is under the turn if the task has its guard. -/
theorem take_held_iff {answer : Answer} :
    (take w t kind id answer).turn = .held ↔ id ∈ t.guards := by
  by_cases hmem : id ∈ t.guards
  · simp [take, hmem]
  · simp [take, hmem]

theorem take_turn {answer : Answer} (h : (take w t kind id answer).turn ≠ .without) :
    (take w t kind id answer).turn = .held := by
  by_cases hmem : id ∈ t.guards
  · exact take_held_iff.mpr hmem
  · exact absurd (by simp [take, hmem]) h

/-- A new reading is newer than all others; that of another task in the same turn would mean two
guards of one switch. -/
theorem Ordered.fetch (h : Ordered w (t :: rest)) (howned : Owned w (t :: rest))
    {answer : Answer} {p : Prog} : Ordered { w with readings := w.readings + 1 }
      ((t.setReading (take w t kind id answer)).goTo p :: rest) := by
  have hall := List.pairwise_cons.mp h.apart
  have hself : (t.setReading (take w t kind id answer)).pending kind =
      some (take w t kind id answer) := Task.pending_setReading_self
  refine ⟨fun kind id => (h.bound kind id).trans (Nat.le_succ _), ?_, ?_, ?_⟩
  -- the new reading has the highest number; the old ones keep theirs
  · intro t' ht' kind' reading hreading
    rcases List.mem_cons.mp ht' with rfl | ht'
    · by_cases hkind : kind' = kind
      · subst hkind
        cases hself.symm.trans hreading
        exact ⟨Nat.lt_succ_of_le (h.bound kind' id), le_rfl⟩
      · obtain ⟨hlt, hle⟩ := h.newer t List.mem_cons_self kind' reading
          ((Task.pending_setReading_ne hkind).symm.trans hreading)
        exact ⟨hlt, hle.trans (Nat.le_succ _)⟩
    · obtain ⟨hlt, hle⟩ := h.newer t' (List.mem_cons_of_mem _ ht') kind' reading hreading
      exact ⟨hlt, hle.trans (Nat.le_succ _)⟩
  -- a reading counts as held only while the lock is
  · intro t' ht' kind' reading hreading hheld
    rcases List.mem_cons.mp ht' with rfl | ht'
    · by_cases hkind : kind' = kind
      · subst hkind
        cases hself.symm.trans hreading
        exact take_held_iff.mp hheld
      · exact h.guarded t List.mem_cons_self kind' reading
          ((Task.pending_setReading_ne hkind).symm.trans hreading) hheld
    · exact h.guarded t' (List.mem_cons_of_mem _ ht') kind' reading hreading hheld
  · refine List.pairwise_cons.mpr ⟨fun u hu => ⟨?_, ?_⟩, hall.2⟩
    · intro kind' reading reading' hreading hreading' hid hheld hturn
      by_cases hkind : kind' = kind
      · subst hkind
        cases hself.symm.trans hreading
        have hle := (h.newer u (List.mem_cons_of_mem _ hu) kind' reading' hreading').2
        exact Nat.lt_succ_of_le hle
      · exact (hall.1 u hu).1 kind' reading reading'
          ((Task.pending_setReading_ne hkind).symm.trans hreading) hreading' hid hheld hturn
    · intro kind' reading reading' hreading hreading' hid hheld hturn
      by_cases hkind : kind' = kind
      · subst hkind
        cases hself.symm.trans hreading'
        have hmem : id ∈ t.guards := take_held_iff.mp (take_turn hturn)
        have hguard := h.guarded u (List.mem_cons_of_mem _ hu) kind' reading hreading hheld
        rw [← hid] at hguard
        -- two tasks cannot have the lock of one switch
        exact absurd hguard (howned.disjoint hu hmem)
      · exact (hall.1 u hu).2 kind' reading reading' hreading
          ((Task.pending_setReading_ne hkind).symm.trans hreading') hid hheld hturn

/-- When a reading is stored, no older one of that table of the switch is still to be stored by
another task; of two that were taken in the turn this need not be asked while the other task has
its turn. -/
def StepInOrder (others : List Task) (t : Task) (e : Event) : Prop :=
  match e, t.prog with
  | .go, .insert kind _ => ∀ reading ∈ t.pending kind, ∀ t' ∈ others,
    ∀ reading' ∈ t'.pending kind, reading'.switchId = reading.switchId →
      reading.takenAt < reading'.takenAt ∨ (reading'.turn = .held ∧ reading.turn ≠ .without)
  | _, _ => True

/-- The stored reading is older than all that are left. -/
theorem Ordered.older {reading reading' : Reading kind} (h : Ordered w (t :: rest))
    (horder : reading.takenAt < reading'.takenAt ∨
      (reading'.turn = .held ∧ reading.turn ≠ .without)) (ht' : t' ∈ rest)
    (hreading : t.pending kind = some reading) (hreading' : t'.pending kind = some reading')
    (hid : reading'.switchId = reading.switchId) : reading.takenAt < reading'.takenAt := by
  rcases horder with hlt | ⟨hheld, hturn⟩
  · exact hlt
  · have hapart := (List.pairwise_cons.mp h.apart).1 t' ht'
    exact hapart.2 kind reading' reading hreading' hreading hid.symm hheld hturn

/-- To store a reading makes it count among the newest. -/
theorem World.newest_store {kind' : Kind} {entry : Stored kind} :
    (w.store entry).newest kind' id = if kind' = kind ∧ id = entry.switchId then
      max (w.newest kind' id) entry.takenAt else w.newest kind' id := by
  show Function.update w.newest kind _ kind' id = _
  by_cases hkind : kind' = kind
  · subst hkind
    rw [Function.update_self]
    by_cases hid : id = entry.switchId
    · subst hid
      rw [Function.update_self, if_pos ⟨rfl, rfl⟩]
    · rw [Function.update_of_ne hid, if_neg fun h => hid h.2]
  · rw [Function.update_of_ne hkind, if_neg fun h => hkind h.1]

/-- An entry is of its reading's switch and time. -/
theorem Reading.entry_eq_some {reading : Reading kind} {entry : Stored kind}
    (h : reading.entry = some entry) : entry.switchId = reading.switchId ∧
      entry.takenAt = reading.takenAt ∧ entry.cached.data = reading.data := by
  obtain ⟨stamp, -, rfl⟩ := Option.map_eq_some_iff.mp h
  exact ⟨rfl, rfl, rfl⟩

/-- A reading in order may be stored. -/
theorem Ordered.store {reading : Reading kind} {entry : Stored kind} {p : Prog}
    (h : Ordered w (t :: rest)) (hprog : t.prog = .insert kind p)
    (hreading : t.pending kind = some reading) (hentry : reading.entry = some entry)
    (horder : StepInOrder rest t .go) : Ordered (w.store entry)
      ((t.setReading { reading with stored := true }).goTo p :: rest) := by
  simp only [StepInOrder, hprog] at horder
  obtain ⟨hid, htaken, -⟩ := Reading.entry_eq_some hentry
  -- a reading is stored once: the task gives it up
  have hfades : t.Fades ((t.setReading { reading with stored := true }).goTo p) := by
    refine ⟨fun kind' reading' hreading' => ?_⟩
    by_cases hkind : kind' = kind
    · subst hkind
      have hnone := @Task.pending_setReading_self t _ { reading with stored := true }
      cases hnone.symm.trans hreading'
    · exact t.fades_refl.pending kind' reading'
        ((Task.pending_setReading_ne hkind).symm.trans hreading')
  have hleft : Ordered w ([(t.setReading { reading with stored := true }).goTo p] ++ rest) :=
    h.fade rfl rfl (List.forall_mem_singleton.mpr hfades) (List.pairwise_singleton _ _)
  refine ⟨fun kind' id => ?_, ?_, hleft.guarded, hleft.apart⟩
  · rw [World.newest_store]
    split
    · refine max_le (h.bound kind' id) ?_
      rw [htaken]
      exact (h.newer t List.mem_cons_self kind reading hreading).2
    · exact h.bound kind' id
  · intro t' ht' kind' reading' hreading'
    obtain ⟨hlt, hle⟩ := hleft.newer t' ht' kind' reading' hreading'
    refine ⟨?_, hle⟩
    rw [World.newest_store]
    split
    · next hsame =>
      obtain ⟨rfl, hsame⟩ := hsame
      rw [hid] at hsame
      -- only readings of the same switch must be newer than the stored one
      refine max_lt hlt ?_
      rw [htaken]
      rcases List.mem_cons.mp ht' with rfl | ht'
      · have hnone := @Task.pending_setReading_self t _ { reading with stored := true }
        cases hnone.symm.trans hreading'
      · exact h.older (horder reading hreading t' ht' reading' hreading' hsame) ht' hreading
          hreading' hsame
    · exact hlt

/-- A step in order keeps the order. -/
theorem Ordered.step (h : Ordered w (t :: rest)) (howned : Owned w (t :: rest))
    (hs : Steps w t e w' new) (horder : StepInOrder rest t e) : Ordered w' (new ++ rest) := by
  have hone {t' : Task} (hnewest : w'.newest = w.newest) (hreadings : w'.readings = w.readings)
      (hfades : t.Fades t') : Ordered w' ([t'] ++ rest) :=
    h.fade hnewest hreadings (List.forall_mem_singleton.mpr hfades) (List.pairwise_singleton _ _)
  have hmoved (p : Prog) : t.Fades (t.goTo p) :=
    Task.fades_of_pending (fun _ => rfl) fun _ hid => hid
  cases hs with
  | move _ _ => exact hone rfl rfl (hmoved _)
  | write _ => exact hone rfl rfl (hmoved _)
  | initialized _ => exact hone rfl rfl (hmoved _)
  | record _ => exact hone rfl rfl (hmoved _)
  | retain _ => exact hone rfl rfl (hmoved _)
  | acquire _ _ =>
    exact hone rfl rfl (Task.fades_of_pending (fun _ => rfl) fun _ => List.mem_cons_of_mem _)
  | @release id k _ _ => exact hone rfl rfl ⟨(@Task.fades_lose t id).pending⟩
  | fetch _ => exact h.fetch howned
  | giveUp _ => exact hone rfl rfl (Task.fades_of_none fun _ => rfl)
  | stamp _ hreading _ => exact hone rfl rfl ⟨(Task.fades_stamp hreading).pending⟩
  | insert hprog hreading hentry => exact h.store hprog hreading hentry horder
  | cached _ _ => exact hone rfl rfl (hmoved _)
  | live _ _ _ => exact hone rfl rfl (hmoved _)
  | @spawn p guard k _ _ =>
    -- the new task has read nothing
    refine h.fade rfl rfl (List.forall_mem_cons.mpr ⟨⟨Task.fades_hand.pending⟩,
      List.forall_mem_singleton.mpr (Task.fades_of_none fun _ => rfl)⟩) ?_
    refine List.pairwise_pair.mpr ⟨?_, ?_⟩
    · exact fun _ _ _ _ hreading' => nomatch hreading'
    · exact fun _ _ _ hreading => nomatch hreading
  | ended _ => exact h.fade rfl rfl (List.forall_mem_nil _) .nil

end SwitchConfigurator.Lookup
