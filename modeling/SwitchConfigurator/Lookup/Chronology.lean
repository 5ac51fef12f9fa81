import SwitchConfigurator.Lookup.Readings

/-!
# The cache and time

A cached entry should only ever be replaced by a later reading. The handlers store what they have
read after they have released the turn, and over SNMP without ever having had it, so that an older
reading can come last; `chronological_of_run` says that this is the only way. An `ETag` stands for
one answer in every run.
-/

namespace SwitchConfigurator.Lookup

open TransitionSystem (Along Always)

variable {w w' : World} {pre post rest new tasks tasks' : List Task} {t : Task} {e : Event}
variable {kind : Kind} {id : String}

/-- A cached entry stays, goes, or makes way for a later reading. -/
def Forward (w w' : World) : Prop :=
  ∀ kind id old new, w.cached kind id = some old → w'.cached kind id = some new →
    new = old ∨ old.takenAt < new.takenAt

/-- Of two responses from a cache, the newest first, the later shows no older reading. -/
def Successive (w : World) : Prop :=
  w.served.Pairwise fun later earlier =>
    later.isCached = true → earlier.isCached = true → later.kind = earlier.kind →
      later.switchId = earlier.switchId → earlier.takenAt ≤ later.takenAt

/-- Responses with one `ETag` carry the same data, where they carry any, and `Last-Modified`. -/
def SameEtag (w : World) : Prop :=
  ∀ response ∈ w.served, ∀ response' ∈ w.served,
    response.headers.etag = response'.headers.etag →
      response.headers.lastModified = response'.headers.lastModified ∧
        ∀ data ∈ response.body, ∀ data' ∈ response'.body,
          (⟨response.kind, data⟩ : (kind : Kind) × Data kind) = ⟨response'.kind, data'⟩

/-! ## What the cache holds is the newest reading -/

structure Chronicle (w : World) : Prop where
  cached : ∀ kind id entry, w.cached kind id = some entry → entry.takenAt = w.newest kind id
  served : ∀ response ∈ w.served, response.isCached = true →
    response.takenAt ≤ w.newest response.kind response.switchId
  successive : Successive w

/-- What touches no cache and serves nothing leaves the chronicle as it was. -/
theorem Chronicle.same (h : Chronicle w) (hcaches : w'.caches = w.caches)
    (hnewest : w'.newest = w.newest) (hserved : w'.served = w.served) : Chronicle w' where
  cached := by
    unfold World.cached
    rw [hcaches, hnewest]
    exact h.cached
  served := by
    rw [hserved, hnewest]
    exact h.served
  successive := by
    unfold Successive
    rw [hserved]
    exact h.successive

theorem Forward.same (h : w'.caches = w.caches) : Forward w w' := by
  intro kind id old new hold hnew
  unfold World.cached at hold hnew
  rw [h, hold] at hnew
  exact .inl (Option.some.inj hnew).symm

/-- What is dropped from a cache makes it no newer. -/
theorem cached_retain {kind' : Kind} {keep : String → Bool} {entry : Stored kind'}
    (h : ({ w with caches := w.caches.retain kind keep } : World).cached kind' id = some entry) :
    w.cached kind' id = some entry := by
  unfold World.cached at h ⊢
  by_cases hkind : kind' = kind
  · subst hkind
    rw [Caches.get_retain] at h
    exact (Option.ite_none_right_eq_some.mp h).2
  · rwa [Caches.get_retain_of_kind _ hkind] at h

/-- Under its key the new entry is found, under any other what was there. -/
theorem cached_store_cases {kind' : Kind} {stored : Stored kind} {entry : Stored kind'}
    (h : (w.store stored).cached kind' id = some entry) :
    (kind' = kind ∧ id = stored.switchId ∧ entry.takenAt = stored.takenAt) ∨
      ¬(kind' = kind ∧ id = stored.switchId) ∧ w.cached kind' id = some entry := by
  change (w.caches.insert stored).get kind' id = some entry at h
  by_cases hkind : kind' = kind
  · subst hkind
    by_cases hid : id = stored.switchId
    · subst hid
      rw [Caches.get_insert_self] at h
      cases h
      exact .inl ⟨rfl, rfl, rfl⟩
    · rw [Caches.get_insert_ne _ hid] at h
      exact .inr ⟨fun hsame => hid hsame.2, h⟩
  · rw [Caches.get_insert_of_kind _ hkind] at h
    exact .inr ⟨fun hsame => hkind hsame.1, h⟩

/-- A newer reading may be stored. -/
theorem Chronicle.store {entry : Stored kind} (h : Chronicle w)
    (hnewer : w.newest kind entry.switchId < entry.takenAt) : Chronicle (w.store entry) where
  cached := by
    intro kind' id entry' hcached
    rw [World.newest_store]
    rcases cached_store_cases hcached with ⟨rfl, rfl, htaken⟩ | ⟨hother, hcached⟩
    · rw [if_pos ⟨rfl, rfl⟩, max_eq_right hnewer.le, htaken]
    · rw [if_neg hother]
      exact h.cached kind' id entry' hcached
  served := by
    intro response hresponse hiscached
    have hle := h.served response hresponse hiscached
    rw [World.newest_store]
    split
    · exact hle.trans (le_max_left _ _)
    · exact hle
  successive := h.successive

/-- To store a newer reading is a step forward. -/
theorem Forward.store {entry : Stored kind} (h : Chronicle w)
    (hnewer : w.newest kind entry.switchId < entry.takenAt) : Forward w (w.store entry) := by
  intro kind' id old new hold hnew
  rcases cached_store_cases hnew with ⟨rfl, rfl, htaken⟩ | ⟨-, hcached⟩
  · rw [h.cached kind' entry.switchId old hold, htaken]
    exact .inr hnewer
  · rw [hold] at hcached
    exact .inl (Option.some.inj hcached).symm

/-- What is served from a cache is the newest that there is. -/
theorem Chronicle.serve {response : Response} (h : Chronicle w)
    (hnewest : response.isCached = true →
      response.takenAt = w.newest response.kind response.switchId) :
    Chronicle (w.serve response) where
  cached := h.cached
  served := by
    intro response' hresponse' hiscached
    rcases List.mem_cons.mp hresponse' with rfl | hresponse'
    · exact (hnewest hiscached).le
    · exact h.served response' hresponse' hiscached
  successive := by
    refine List.pairwise_cons.mpr ⟨fun earlier hearlier hlater hcached hkind hid => ?_, h.successive⟩
    rw [hnewest hlater, hkind, hid]
    exact h.served earlier hearlier hcached

/-- A step of a task in order keeps the chronicle, and goes forward. -/
theorem Chronicle.step (h : Chronicle w) (hordered : Ordered w (t :: rest))
    (hs : Steps w t e w' new) : Chronicle w' ∧ Forward w w' := by
  cases hs with
  | move _ _ => exact ⟨h, .same rfl⟩
  | write _ => exact ⟨h.same rfl rfl rfl, .same rfl⟩
  | initialized _ => exact ⟨h.same rfl rfl rfl, .same rfl⟩
  | record _ => exact ⟨h.same rfl rfl rfl, .same rfl⟩
  | retain _ =>
    refine ⟨⟨fun kind id entry hcached => ?_, h.served, h.successive⟩, fun kind id old new hold hnew => ?_⟩
    · exact h.cached kind id entry (cached_retain hcached)
    · exact .inl (Option.some.inj ((cached_retain hnew).symm.trans hold))
  | acquire _ _ => exact ⟨h.same rfl rfl rfl, .same rfl⟩
  | release _ _ => exact ⟨h.same rfl rfl rfl, .same rfl⟩
  | fetch _ => exact ⟨h.same rfl rfl rfl, .same rfl⟩
  | giveUp _ => exact ⟨h, .same rfl⟩
  | stamp _ _ _ => exact ⟨h.same rfl rfl rfl, .same rfl⟩
  | @insert kind k reading entry _ hreading hentry =>
    obtain ⟨hid, htaken, -⟩ := Reading.entry_eq_some hentry
    have hnewer := (hordered.newer t List.mem_cons_self kind reading hreading).1
    rw [← hid, ← htaken] at hnewer
    exact ⟨h.store hnewer, .store h hnewer⟩
  | cached _ hresponse =>
    obtain ⟨entry, hget, body, -, rfl⟩ := cacheResponse_eq_some hresponse
    exact ⟨h.serve fun _ => h.cached _ _ entry hget, .same rfl⟩
  | live _ _ _ => exact ⟨h.serve nofun, .same rfl⟩
  | spawn _ _ => exact ⟨h, .same rfl⟩
  | ended _ => exact ⟨h.same rfl rfl rfl, .same rfl⟩

/-! ## An `ETag` stands for one entry -/

/-- Everything that is cached, sent or about to be is one of the entries that were made. -/
structure Tagged (w : World) (tasks : List Task) : Prop where
  nodup : w.uuids.Nodup
  stamped : ∀ t ∈ tasks, ∀ kind reading entry, t.readings kind = some reading →
    reading.entry = some entry → ⟨kind, entry.cached⟩ ∈ w.made
  cached : ∀ kind id entry, w.cached kind id = some entry → ⟨kind, entry.cached⟩ ∈ w.made
  served : ∀ response ∈ w.served, ∃ cached : Cached response.kind,
    ⟨response.kind, cached⟩ ∈ w.made ∧
      response.headers.etag = cacheEtag cached.generationId ∧
      response.headers.lastModified = (cached.fetchedAt / 1000000000).toNat ∧
      ∀ data ∈ response.body, data = cached.data

/-- Responses with one tag have one body. -/
theorem Tagged.sameEtag (h : Tagged w tasks) : SameEtag w := by
  intro response hresponse response' hresponse' hetag
  obtain ⟨cached, hmade, htag, hmodified, hdata⟩ := h.served response hresponse
  obtain ⟨cached', hmade', htag', hmodified', hdata'⟩ := h.served response' hresponse'
  have huuid : cached.generationId = cached'.generationId :=
    cacheEtag_inj (htag.symm.trans (hetag.trans htag'))
  have hsame : (⟨response.kind, cached⟩ : (kind : Kind) × Cached kind) =
      ⟨response'.kind, cached'⟩ := List.inj_on_of_nodup_map h.nodup hmade hmade' huuid
  have hkind : response.kind = response'.kind := congrArg Sigma.fst hsame
  have hfetched : cached.fetchedAt = cached'.fetchedAt :=
    congrArg (fun entry : (kind : Kind) × Cached kind => entry.2.fetchedAt) hsame
  refine ⟨by rw [hmodified, hmodified', hfetched], fun data hd data' hd' => ?_⟩
  rw [hdata data hd, hdata' data' hd']
  exact congrArg (fun entry : (kind : Kind) × Cached kind =>
    (⟨entry.1, entry.2.data⟩ : (kind : Kind) × Data kind)) hsame

/-- The order of tasks has no part in it. -/
theorem Tagged.perm (h : Tagged w tasks) (hperm : tasks.Perm tasks') : Tagged w tasks' where
  nodup := h.nodup
  stamped := fun t ht => h.stamped t (hperm.mem_iff.mpr ht)
  cached := h.cached
  served := h.served

/-- No entry is made and none is stored or sent. -/
theorem Tagged.same (h : Tagged w (t :: rest)) (hmade : w'.made = w.made)
    (hcached : ∀ kind id entry, w'.cached kind id = some entry → w.cached kind id = some entry)
    (hserved : w'.served = w.served)
    (hnew : ∀ t' ∈ new, ∀ kind reading entry, t'.readings kind = some reading →
      reading.entry = some entry → ∃ reading', t.readings kind = some reading' ∧
        reading'.entry = some entry) : Tagged w' (new ++ rest) where
  nodup := by
    rw [World.uuids, hmade]
    exact h.nodup
  stamped := by
    rw [hmade]
    intro t' ht' kind reading entry hreading hentry
    rcases List.mem_append.mp ht' with ht' | ht'
    · obtain ⟨reading', hreading', hentry'⟩ := hnew t' ht' kind reading entry hreading hentry
      exact h.stamped t List.mem_cons_self kind reading' entry hreading' hentry'
    · exact h.stamped t' (List.mem_cons_of_mem _ ht') kind reading entry hreading hentry
  cached := by
    rw [hmade]
    exact fun kind id entry hentry => h.cached kind id entry (hcached kind id entry hentry)
  served := by
    rw [hmade, hserved]
    exact h.served

/-- To lose a guard does not change what was read. -/
theorem Reading.entry_lose (reading : Reading kind) : (reading.lose id).entry = reading.entry := by
  unfold Reading.lose
  split <;> rfl

/-- A reading that is handed on is the same reading. -/
theorem readings_hand {guard : Option String} {reading : Reading kind} {entry : Stored kind}
    (h : (t.hand guard).readings kind = some reading) (hentry : reading.entry = some entry) :
    ∃ reading', t.readings kind = some reading' ∧ reading'.entry = some entry := by
  cases guard with
  | none => exact ⟨reading, h, hentry⟩
  | some id =>
    obtain ⟨reading', hreading', rfl⟩ := Option.map_eq_some_iff.mp h
    exact ⟨reading', hreading', (Reading.entry_lose reading').symm.trans hentry⟩

/-- Another reading takes the place of the one of its kind only. -/
theorem readings_setReading {kind' : Kind} {reading : Reading kind} {reading' : Reading kind'}
    (h : (t.setReading reading).readings kind' = some reading') :
    (∃ hkind : kind = kind', hkind ▸ reading = reading') ∨
      kind' ≠ kind ∧ t.readings kind' = some reading' := by
  change Function.update t.readings kind (some reading) kind' = some reading' at h
  by_cases hkind : kind' = kind
  · subst hkind
    rw [Function.update_self] at h
    exact .inl ⟨rfl, Option.some.inj h⟩
  · rw [Function.update_of_ne hkind] at h
    exact .inr ⟨hkind, h⟩

/-- What is still to be stored was read. -/
theorem readings_of_pending {reading : Reading kind} (h : t.pending kind = some reading) :
    t.readings kind = some reading := (Option.filter_eq_some_iff.mp h).1

/-- The new entry has a UUID of its own. -/
theorem Tagged.stamp {reading : Reading kind} {now : ℤ} {uuid : String} {p : Prog}
    (h : Tagged w (t :: rest)) (hfresh : uuid ∉ w.uuids) :
    Tagged { w with made := ⟨kind, ⟨reading.data, now, uuid⟩⟩ :: w.made }
      ((t.setReading { reading with stamp := some (now, uuid) }).goTo p :: rest) where
  nodup := List.nodup_cons.mpr ⟨hfresh, h.nodup⟩
  stamped := by
    intro t' ht' kind' reading' entry hreading hentry
    rcases List.mem_cons.mp ht' with rfl | ht'
    · rcases readings_setReading hreading with ⟨rfl, rfl⟩ | ⟨-, hreading⟩
      · cases hentry
        exact List.mem_cons_self
      · exact List.mem_cons_of_mem _ (h.stamped t List.mem_cons_self kind' reading' entry hreading
          hentry)
    · exact List.mem_cons_of_mem _ (h.stamped t' (List.mem_cons_of_mem _ ht') kind' reading' entry
        hreading hentry)
  cached := fun kind id entry hentry => List.mem_cons_of_mem _ (h.cached kind id entry hentry)
  served := by
    intro response hresponse
    obtain ⟨cached, hmade, hrest⟩ := h.served response hresponse
    exact ⟨cached, List.mem_cons_of_mem _ hmade, hrest⟩

/-- What is served has the tag of the generation it was made of. -/
theorem Tagged.serve {response : Response} (h : Tagged w tasks) {cached : Cached response.kind}
    (hmade : ⟨response.kind, cached⟩ ∈ w.made)
    (hetag : response.headers.etag = cacheEtag cached.generationId)
    (hmodified : response.headers.lastModified = (cached.fetchedAt / 1000000000).toNat)
    (hdata : ∀ data ∈ response.body, data = cached.data) : Tagged (w.serve response) tasks where
  nodup := h.nodup
  stamped := h.stamped
  cached := h.cached
  served := List.forall_mem_cons.mpr ⟨⟨cached, hmade, hetag, hmodified, hdata⟩, h.served⟩

/-- A step keeps the tags. -/
theorem Tagged.step (h : Tagged w (t :: rest)) (hs : Steps w t e w' new) :
    Tagged w' (new ++ rest) := by
  -- a step that only moves the program makes no entry, caches none and serves none
  have hmoved {w' : World} (p : Prog) (hmade : w'.made = w.made) (hcaches : w'.caches = w.caches)
      (hserved : w'.served = w.served) : Tagged w' ([t.goTo p] ++ rest) := by
    refine h.same hmade (fun kind id entry hentry => ?_) hserved
      (List.forall_mem_singleton.mpr fun kind reading entry hreading hentry =>
        ⟨reading, hreading, hentry⟩)
    unfold World.cached at hentry ⊢
    rwa [hcaches] at hentry
  cases hs with
  | move _ _ => exact hmoved _ rfl rfl rfl
  | write _ => exact hmoved _ rfl rfl rfl
  | initialized _ => exact hmoved _ rfl rfl rfl
  | record _ => exact hmoved _ rfl rfl rfl
  | retain _ =>
    exact h.same rfl (fun _ _ _ => cached_retain) rfl
      (List.forall_mem_singleton.mpr fun _ reading _ hreading hentry =>
        ⟨reading, hreading, hentry⟩)
  | acquire _ _ =>
    exact h.same rfl (fun _ _ _ hentry => hentry) rfl
      (List.forall_mem_singleton.mpr fun _ reading _ hreading hentry =>
        ⟨reading, hreading, hentry⟩)
  | @release id k _ _ =>
    exact h.same rfl (fun _ _ _ hentry => hentry) rfl
      (List.forall_mem_singleton.mpr fun _ _ _ => @readings_hand t _ (some id) _ _)
  | fetch _ =>
    refine h.same rfl (fun _ _ _ hentry => hentry) rfl (List.forall_mem_singleton.mpr ?_)
    intro kind' reading' entry hreading hentry
    rcases readings_setReading hreading with ⟨rfl, rfl⟩ | ⟨-, hreading⟩
    · cases hentry
    · exact ⟨reading', hreading, hentry⟩
  | giveUp _ =>
    exact h.same rfl (fun _ _ _ hentry => hentry) rfl
      (List.forall_mem_singleton.mpr fun _ _ _ hreading => nomatch hreading)
  | stamp _ _ hfresh => exact h.stamp hfresh
  | @insert kind k reading entry _ hreading hentry =>
    -- what is inserted was stamped by this task's own reading
    have hmade := h.stamped t List.mem_cons_self kind reading entry (readings_of_pending hreading)
      hentry
    have hleft : Tagged w ([(t.setReading { reading with stored := true }).goTo k] ++ rest) := by
      refine h.same rfl (fun _ _ _ hentry => hentry) rfl (List.forall_mem_singleton.mpr ?_)
      intro kind' reading' entry' hreading' hentry'
      rcases readings_setReading hreading' with ⟨rfl, rfl⟩ | ⟨-, hreading'⟩
      · exact ⟨reading, readings_of_pending hreading, hentry'⟩
      · exact ⟨reading', hreading', hentry'⟩
    refine ⟨h.nodup, hleft.stamped, fun kind' id entry' hentry' => ?_, h.served⟩
    change (w.caches.insert entry).get kind' id = some entry' at hentry'
    by_cases hsame : kind' = kind
    · subst hsame
      by_cases hid : id = entry.switchId
      · subst hid
        rw [Caches.get_insert_self] at hentry'
        cases hentry'
        exact hmade
      · rw [Caches.get_insert_ne _ hid] at hentry'
        exact h.cached kind' id entry' hentry'
    · rw [Caches.get_insert_of_kind _ hsame] at hentry'
      exact h.cached kind' id entry' hentry'
  | cached _ hresponse =>
    -- served from the cache: the entry there was made by some reading
    obtain ⟨entry, hget, body, hbody, rfl⟩ := cacheResponse_eq_some hresponse
    exact (hmoved _ rfl rfl rfl).serve (h.cached _ _ entry hget) rfl rfl hbody
  | @live kind query source fellBack k now reading entry _ hreading hentry =>
    refine (hmoved _ rfl rfl rfl).serve
      (h.stamped t List.mem_cons_self kind reading entry hreading hentry) rfl rfl ?_
    exact fun data hdata => (Option.some.inj hdata).symm
  | spawn _ _ =>
    exact h.same rfl (fun _ _ _ hentry => hentry) rfl
      (List.forall_mem_cons.mpr ⟨fun _ _ _ => readings_hand,
        List.forall_mem_singleton.mpr fun _ _ _ hreading => nomatch hreading⟩)
  | ended _ => exact h.same rfl (fun _ _ _ hentry => hentry) rfl (List.forall_mem_nil _)

/-! ## Runs -/

def InOrder (s : TaskState World Task) : TaskLabel Request Event → Prop
  | .arrive _ => True
  | .go i e => ∀ t ∈ s.tasks[i]?, StepInOrder (s.tasks.eraseIdx i) t e

instance (others : List Task) : Decidable (StepInOrder others t e) := by
  unfold StepInOrder
  split <;> infer_instance

instance (s : TaskState World Task) (l : TaskLabel Request Event) : Decidable (InOrder s l) :=
  match l with
  | .arrive _ => inferInstanceAs (Decidable True)
  | .go i e =>
    inferInstanceAs (Decidable (∀ t ∈ s.tasks[i]?, StepInOrder (s.tasks.eraseIdx i) t e))

section

variable {initial : List SwitchConfig} {s s' : TaskState World Task} {l : TaskLabel Request Event}
variable {tr : List (TaskState World Task × TaskLabel Request Event)}

theorem inOrder_go_iff : InOrder ⟨w, pre ++ t :: post⟩ (.go pre.length e) ↔
    StepInOrder (pre ++ post) t e := by
  have herase : (pre ++ t :: post).eraseIdx pre.length = pre ++ post := by
    rw [List.eraseIdx_append_of_length_le le_rfl, Nat.sub_self]
    rfl
  simp [InOrder, herase]

/-- Guards are owned and responses tagged in every run. -/
theorem owned_tagged_of_run (hrun : (lookups initial).Run tr s) :
    Owned s.shared s.tasks ∧ Tagged s.shared s.tasks := by
  have hall : Along (fun _ _ => True) tr := fun _ _ => trivial
  refine TaskSystem.run_invariant
    (P := fun s => Owned s.shared s.tasks ∧ Tagged s.shared s.tasks) hrun hall ?_ ?_ ?_
  · exact ⟨⟨List.nodup_nil, nofun⟩,
      ⟨List.nodup_nil, nofun, nofun,
        nofun⟩⟩
  · rintro tr w tasks r - - - - ⟨howned, htagged⟩
    refine ⟨⟨howned.nodup, howned.held⟩, htagged.nodup, ?_, htagged.cached, htagged.served⟩
    exact List.forall_mem_cons.mpr ⟨nofun, htagged.stamped⟩
  · rintro tr w pre t post e w' new - - - hadvance ⟨howned, htagged⟩
    have hsteps : Steps w t e w' new := steps_of_advance hadvance
    exact ⟨((howned.perm List.perm_middle).step hsteps).perm TaskSystem.perm_front.symm,
      ((htagged.perm List.perm_middle).step hsteps).perm TaskSystem.perm_front.symm⟩

/-- A new task has read nothing. -/
theorem pending_start {r : Request} {reading : Reading kind} :
    ((lookups initial).start w r).pending kind ≠ some reading :=
  show none ≠ some reading from Option.some_ne_none reading |>.symm

/-- In a run in order, readings are stored in the order they were taken. -/
theorem ordered_of_run (hrun : (lookups initial).Run tr s) (h : Along InOrder tr) :
    Ordered s.shared s.tasks ∧ Chronicle s.shared := by
  refine TaskSystem.run_invariant
    (P := fun s => Ordered s.shared s.tasks ∧ Chronicle s.shared) hrun h ?_ ?_ ?_
  · exact ⟨⟨fun _ _ => le_rfl, nofun, nofun, .nil⟩,
      ⟨nofun, nofun, .nil⟩⟩
  · rintro tr w tasks r - - - - ⟨hordered, hchronicle⟩
    refine ⟨⟨hordered.bound, ?_, ?_, ?_⟩, hchronicle⟩
    · refine List.forall_mem_cons.mpr ⟨fun kind reading hreading => ?_, hordered.newer⟩
      exact absurd hreading pending_start
    · refine List.forall_mem_cons.mpr ⟨fun kind reading hreading => ?_, hordered.guarded⟩
      exact absurd hreading pending_start
    · refine List.pairwise_cons.mpr ⟨fun t' _ => ⟨?_, ?_⟩, hordered.apart⟩
      · exact fun _ _ _ hreading => absurd hreading pending_start
      · exact fun _ _ _ _ hreading' => absurd hreading' pending_start
  · rintro tr w pre t post e w' new hr - horder hadvance ⟨hordered, hchronicle⟩
    have hsteps : Steps w t e w' new := steps_of_advance hadvance
    have howned := (owned_tagged_of_run hr).1.perm List.perm_middle
    have hfront := hordered.perm List.perm_middle
    exact ⟨(hfront.step howned hsteps (inOrder_go_iff.mp horder)).perm TaskSystem.perm_front.symm,
      (hchronicle.step hfront hsteps).1⟩

/-- A step of the service goes forward. -/
theorem forward_of_step (hordered : Ordered s.shared s.tasks) (hchronicle : Chronicle s.shared)
    (hstep : (lookups initial).system.step s l = some s') : Forward s.shared s'.shared := by
  obtain ⟨w, tasks⟩ := s
  obtain ⟨r, -, -, rfl⟩ | ⟨e, pre, t, post, w', new, -, rfl, hadvance, rfl⟩ :=
    TaskSystem.step_cases hstep
  · exact .same rfl
  · exact (hchronicle.step (hordered.perm List.perm_middle) (steps_of_advance hadvance)).2

/-- In every run an `ETag` stands for one answer; and in every run in which readings are stored in
the order in which they were taken, each step replaces a cached entry by a later reading only, so
that no cached response shows an older reading than one before it. -/
theorem chronological_of_run (hrun : (lookups initial).Run tr s) :
    Always (fun s => SameEtag s.shared) tr s ∧
      (Along InOrder tr →
        (∀ p ∈ tr, ∀ s', (lookups initial).system.step p.1 p.2 = some s' →
          Forward p.1.shared s'.shared) ∧
        Always (fun s => Successive s.shared) tr s) := by
  constructor
  · have hall : Along (fun _ _ => True) tr := fun _ _ => trivial
    exact hrun.always hall fun tr m hr _ => (owned_tagged_of_run hr).2.sameEtag
  · intro h
    refine ⟨fun p hp s' hstep => ?_, hrun.always h fun tr m hr hC => ?_⟩
    · obtain ⟨tr₁, m, tr₂, hr, -, -, rfl⟩ := hrun.split hp
      obtain ⟨hordered, hchronicle⟩ := ordered_of_run hr (TransitionSystem.along_append.mp h).1
      exact forward_of_step hordered hchronicle hstep
    · exact (ordered_of_run hr hC).2.successive

/-- Two lookups one after the other, each followed by one that the cache answers. -/
theorem chronological_of_run_office : ∃ tr s,
    (lookups [{ id := "office", model := some .aruba2930F }]).Run tr s ∧
      s.shared.served.length = 4 ∧ SameEtag s.shared ∧ Successive s.shared := by
  have hrun := TransitionSystem.run_of_replay
    (show (lookups [{ id := "office", model := some .aruba2930F }]).system.replay
      (lookups [{ id := "office", model := some .aruba2930F }]).system.init
      (macTableIsRead "office" ++ macTableIsStored "a" ++ macTableIsServed "office" ++
        macTableIsRead "office" ++ macTableIsStored "b" ++ macTableIsServed "office") =
          some (_, _) from rfl)
  exact ⟨_, _, hrun, rfl, (chronological_of_run hrun).1.2,
    ((chronological_of_run hrun).2 (by decide +kernel)).2.2⟩

/-- A lookup reads the switch, and a second one reads it and stores what it has read before the
first one does: what the cache answers next is older than what it answered before. -/
theorem older_reading_comes_last :
    (∃ tr s l s', (lookups [{ id := "office", model := some .aruba2930F }]).Run tr s ∧
      (lookups [{ id := "office", model := some .aruba2930F }]).system.step s l = some s' ∧
        ¬Forward s.shared s'.shared) ∧
    ∃ tr s, (lookups [{ id := "office", model := some .aruba2930F }]).Run tr s ∧
      ¬Successive s.shared := by
  constructor
  · have hrun := TransitionSystem.run_of_replay
      (show (lookups [{ id := "office", model := some .aruba2930F }]).system.replay
        (lookups [{ id := "office", model := some .aruba2930F }]).system.init
        (macTableIsRead "office" ++ macTableIsRead "office" ++ macTableIsStored "b" ++
          [.go 0 (.drawn 0 "a")]) = some (_, _) from rfl)
    refine ⟨_, _, .go 0 .go, _, hrun, rfl, fun h => ?_⟩
    rcases h .macTable "office" _ _ rfl rfl with heq | hlt
    · exact absurd (congrArg Stored.takenAt heq) (by decide)
    · exact absurd hlt (by decide)
  · have hrun := TransitionSystem.run_of_replay
      (show (lookups [{ id := "office", model := some .aruba2930F }]).system.replay
        (lookups [{ id := "office", model := some .aruba2930F }]).system.init
        (macTableIsRead "office" ++ macTableIsRead "office" ++ macTableIsStored "b" ++
          macTableIsServed "office" ++ macTableIsStored "a" ++ macTableIsServed "office") =
            some (_, _) from rfl)
    exact ⟨_, _, hrun, by unfold Successive; decide +kernel⟩

end

end SwitchConfigurator.Lookup
