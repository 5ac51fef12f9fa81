import Mathlib.Data.List.Dedup
import Mathlib.Data.List.Nodup

/-!
# Differences between keyed lists

A list whose entries carry a key stands for the map collected from it: several entries
may share a key and the last one counts. This file gives that map (`lookup`, `keys`), the
difference of two such maps (`added`, `removed`, `updated`) and the operations that carry
a difference out (`erase`, `upsertAll`, `patch`). The main results are
`patch_converges`, that carrying out a difference leaves nothing to do, and
`no_difference_iff`, that a difference is empty exactly when the two maps agree.
-/

namespace Keyed

variable {α κ : Type*} [DecidableEq κ] (key : α → κ)

/-- The value at `k` of the map collected from a list: its last entry with that key. -/
def lookup (k : κ) : List α → Option α
  | [] => none
  | a :: l => (lookup k l).or (if key a = k then some a else none)

/-- The keys of the map collected from a list, each once. -/
def keys (l : List α) : List κ := (l.map key).dedup

/-- Entries under a key of `desired` that `current` lacks. -/
def added (current desired : List α) : List α :=
  ((keys key desired).filter (· ∉ keys key current)).filterMap (lookup key · desired)

/-- Keys of `current` that `desired` lacks. -/
def removed (current desired : List α) : List κ :=
  (keys key current).filter (· ∉ keys key desired)

/-- The desired entry under a shared key, where it is not the same as the current one. -/
def changedAt (same : α → α → Bool) (current desired : List α) (k : κ) : Option α :=
  match lookup key k current, lookup key k desired with
  | some a, some b => if same a b then none else some b
  | _, _ => none

def updated (same : α → α → Bool) (current desired : List α) : List α :=
  ((keys key current).filter (· ∈ keys key desired)).filterMap
    (changedAt key same current desired)

/-- Overwrite every entry that has the key of `b`, or append `b` when there is none. -/
def upsert (l : List α) (b : α) : List α :=
  if l.any (fun a => key a = key b) then l.map (fun a => if key a = key b then b else a)
  else l ++ [b]

def upsertAll (l new : List α) : List α := new.foldl (upsert key) l

def erase (ks : List κ) (l : List α) : List α := l.filter (fun a => key a ∉ ks)

/-- Carry out a difference: removals, then updates, then additions. -/
def patch (add : List α) (remove : List κ) (update current : List α) : List α :=
  upsertAll key (upsertAll key (erase key remove current) update) add

section Lookup

variable {key} {k : κ} {a b : α} {l : List α}

@[simp] theorem lookup_nil : lookup key k [] = none := rfl

theorem lookup_cons : lookup key k (a :: l) =
    (lookup key k l).or (if key a = k then some a else none) := rfl

/-- The last of a key wins. -/
theorem lookup_append (l l' : List α) :
    lookup key k (l ++ l') = (lookup key k l').or (lookup key k l) := by
  induction l with
  | nil => simp
  | cons a l ih => rw [List.cons_append, lookup_cons, ih, lookup_cons, Option.or_assoc]

theorem lookup_eq_none_iff : lookup key k l = none ↔ ∀ a ∈ l, key a ≠ k := by
  induction l with
  | nil => simp
  | cons a l ih =>
    rw [lookup_cons, Option.or_eq_none_iff, ih, List.forall_mem_cons]
    by_cases h : key a = k <;> simp [h]

/-- What a lookup finds is listed, under the key that was looked up. -/
theorem lookup_some (h : lookup key k l = some a) : a ∈ l ∧ key a = k := by
  induction l with
  | nil => simp at h
  | cons b l ih =>
    rw [lookup_cons] at h
    rcases Option.or_eq_some_iff.mp h with h | ⟨_, h⟩
    · exact ⟨List.mem_cons_of_mem _ (ih h).1, (ih h).2⟩
    · split at h
      · next hb => cases h; exact ⟨List.mem_cons_self, hb⟩
      · cases h

theorem mem_of_lookup (h : lookup key k l = some a) : a ∈ l := (lookup_some h).1

theorem key_of_lookup (h : lookup key k l = some a) : key a = k := (lookup_some h).2

variable (key) in
theorem exists_lookup_of_mem (h : a ∈ l) : ∃ b, lookup key (key a) l = some b := by
  cases hl : lookup key (key a) l with
  | some b => exact ⟨b, rfl⟩
  | none => exact absurd rfl (lookup_eq_none_iff.mp hl a h)

/-- Where keys are not repeated, a lookup finds what is listed. -/
theorem lookup_of_mem (hn : (l.map key).Nodup) (h : a ∈ l) :
    lookup key (key a) l = some a := by
  obtain ⟨b, hb⟩ := exists_lookup_of_mem key h
  have hab : b = a := List.inj_on_of_nodup_map hn (mem_of_lookup hb) h (key_of_lookup hb)
  rw [hb, hab]

/-- With distinct keys the order of the entries does not matter. -/
theorem lookup_perm {l' : List α} (hp : l.Perm l') (hn : (l.map key).Nodup) :
    lookup key k l = lookup key k l' := by
  have hn' : (l'.map key).Nodup := (hp.map key).nodup_iff.mp hn
  cases h : lookup key k l with
  | some a =>
    obtain rfl := key_of_lookup h
    exact (lookup_of_mem hn' (hp.subset (mem_of_lookup h))).symm
  | none =>
    refine (lookup_eq_none_iff.mpr fun a ha => ?_).symm
    exact lookup_eq_none_iff.mp h a (hp.symm.subset ha)

/-- Changing entries but not their keys. -/
theorem lookup_map {f : α → α} (hf : ∀ a, key (f a) = key a) :
    lookup key k (l.map f) = (lookup key k l).map f := by
  induction l with
  | nil => rfl
  | cons a l ih =>
    rw [List.map_cons, lookup_cons, ih, lookup_cons, hf]
    cases lookup key k l <;> by_cases ha : key a = k <;> simp [ha]

/-- Entries made from their keys. -/
theorem lookup_map_keys {g : κ → α} (hg : ∀ k, key (g k) = k) {ks : List κ} :
    lookup key k (ks.map g) = if k ∈ ks then some (g k) else none := by
  induction ks with
  | nil => rfl
  | cons k' ks ih =>
    rw [List.map_cons, lookup_cons, ih, hg]
    by_cases hk' : k' = k
    · subst hk'
      by_cases hk : k' ∈ ks <;> simp [hk]
    · by_cases hk : k ∈ ks <;> simp [hk, hk', Ne.symm hk']

/-- A list of plain keys is the map of a set. -/
theorem lookup_id {l : List κ} : lookup id k l = if k ∈ l then some k else none := by
  by_cases hk : k ∈ l
  · obtain ⟨b, hb⟩ := exists_lookup_of_mem id hk
    have hbk : b = k := key_of_lookup hb
    rw [if_pos hk, ← hbk]
    exact hbk ▸ hb
  · rw [if_neg hk]
    exact lookup_eq_none_iff.mpr fun a ha hak => hk (hak ▸ ha)

/-- Where keys are not repeated, to be found is to be listed. -/
theorem lookup_eq_some_iff (hn : (l.map key).Nodup) :
    lookup key (key a) l = some a ↔ a ∈ l := ⟨mem_of_lookup, lookup_of_mem hn⟩

theorem mem_keys_iff : k ∈ keys key l ↔ k ∈ l.map key := List.mem_dedup

/-- A key is listed exactly if its lookup finds something. -/
theorem mem_keys : k ∈ keys key l ↔ ∃ a, lookup key k l = some a := by
  rw [mem_keys_iff, List.mem_map]
  constructor
  · rintro ⟨a, ha, rfl⟩; exact exists_lookup_of_mem key ha
  · rintro ⟨a, ha⟩; exact ⟨a, mem_of_lookup ha, key_of_lookup ha⟩

theorem not_mem_keys : k ∉ keys key l ↔ lookup key k l = none := by
  rw [mem_keys, ← Option.ne_none_iff_exists', not_not]

/-- No key is listed twice. -/
theorem nodup_keys : (keys key l).Nodup := List.nodup_dedup _

end Lookup

section Difference

variable {key} {k : κ} {b : α} {same : α → α → Bool} {current desired : List α}

/-- What is added is desired and has no counterpart. -/
theorem mem_added : b ∈ added key current desired ↔
    lookup key (key b) desired = some b ∧ lookup key (key b) current = none := by
  simp only [added, List.mem_filterMap, List.mem_filter, decide_eq_true_eq, not_mem_keys]
  constructor
  · rintro ⟨k, ⟨_, hc⟩, hb⟩
    obtain rfl := key_of_lookup hb
    exact ⟨hb, hc⟩
  · rintro ⟨hb, hc⟩
    exact ⟨key b, ⟨mem_keys.mpr ⟨b, hb⟩, hc⟩, hb⟩

/-- What is removed is there and not desired. -/
theorem mem_removed : k ∈ removed key current desired ↔
    (∃ a, lookup key k current = some a) ∧ lookup key k desired = none := by
  rw [removed, List.mem_filter, decide_eq_true_eq, not_mem_keys, mem_keys]

/-- A key is changed if both sides have it and do not count as the same. -/
theorem changedAt_eq_some : changedAt key same current desired k = some b ↔
    ∃ a, lookup key k current = some a ∧ lookup key k desired = some b ∧ same a b = false := by
  unfold changedAt
  cases hc : lookup key k current with
  | none => simp
  | some a =>
    cases hd : lookup key k desired with
    | none => simp
    | some c =>
      by_cases hs : same a c = true
      · simp only [hs, if_true, reduceCtorEq, false_iff]
        rintro ⟨_, ha, hb, hf⟩
        cases ha; cases hb
        exact absurd hs (by simp [hf])
      · simp only [hs, Bool.false_eq_true, if_false, Option.some.injEq]
        constructor
        · rintro rfl; exact ⟨a, rfl, rfl, by simpa using hs⟩
        · rintro ⟨_, _, hb, _⟩; exact hb

/-- What is updated is there, desired, and not the same. -/
theorem mem_updated : b ∈ updated key same current desired ↔
    lookup key (key b) desired = some b ∧
      ∃ a, lookup key (key b) current = some a ∧ same a b = false := by
  simp only [updated, List.mem_filterMap, List.mem_filter, decide_eq_true_eq, mem_keys,
    changedAt_eq_some]
  constructor
  · rintro ⟨k, _, a, ha, hb, hs⟩
    obtain rfl := key_of_lookup hb
    exact ⟨hb, a, ha, hs⟩
  · rintro ⟨hb, a, ha, hs⟩
    exact ⟨key b, ⟨⟨a, ha⟩, b, hb⟩, a, ha, hb, hs⟩

/-- Where entries are told apart by their key alone, nothing is ever updated. -/
theorem updated_eq_nil (h : ∀ a b, same a b = true) : updated key same current desired = [] := by
  refine List.eq_nil_iff_forall_not_mem.mpr fun b hb => ?_
  obtain ⟨_, a, _, hs⟩ := mem_updated.mp hb
  simp [h a b] at hs

omit [DecidableEq κ] in
/-- What is chosen for keys that are not repeated has no repeated keys. -/
private theorem nodup_map_key_filterMap {ks : List κ} {f : κ → Option α}
    (hf : ∀ k b, f k = some b → key b = k) (hk : ks.Nodup) :
    ((ks.filterMap f).map key).Nodup := by
  induction ks with
  | nil => simp
  | cons k ks ih =>
    rw [List.nodup_cons] at hk
    cases hb : f k with
    | none => simpa [List.filterMap_cons, hb] using ih hk.2
    | some b =>
      simp only [List.filterMap_cons, hb, List.map_cons, List.nodup_cons, hf k b hb]
      refine ⟨?_, ih hk.2⟩
      intro hm
      obtain ⟨c, hc, hck⟩ := List.mem_map.mp hm
      obtain ⟨k', hk', hfc⟩ := List.mem_filterMap.mp hc
      rw [hf k' c hfc] at hck
      exact hk.1 (hck ▸ hk')

/-- Nothing is added twice. -/
theorem nodup_added : ((added key current desired).map key).Nodup :=
  nodup_map_key_filterMap (fun _ _ => key_of_lookup) (nodup_keys.filter _)

/-- Nothing is removed twice. -/
theorem nodup_removed : (removed key current desired).Nodup := nodup_keys.filter _

/-- Nothing is updated twice. -/
theorem nodup_updated : ((updated key same current desired).map key).Nodup :=
  nodup_map_key_filterMap
    (fun _ _ h => by obtain ⟨_, _, hb, _⟩ := changedAt_eq_some.mp h; exact key_of_lookup hb)
    (nodup_keys.filter _)

/-- No key is listed twice, within one part of a difference or across two. -/
theorem nodup_difference_keys :
    ((added key current desired).map key ++ removed key current desired ++
      (updated key same current desired).map key).Nodup := by
  simp only [List.nodup_append', nodup_added, nodup_removed, nodup_updated, true_and,
    List.disjoint_left, List.mem_append, List.mem_map]
  refine ⟨?_, ?_⟩
  · rintro _ ⟨b, hb, rfl⟩ hr
    have := (mem_added.mp hb).2
    obtain ⟨⟨a, ha⟩, _⟩ := mem_removed.mp hr
    simp [this] at ha
  · rintro _ (⟨b, hb, rfl⟩ | hr) ⟨c, hc, hk⟩
    · obtain ⟨_, a, ha, _⟩ := mem_updated.mp hc
      rw [hk, (mem_added.mp hb).2] at ha
      cases ha
    · obtain ⟨hd, _⟩ := mem_updated.mp hc
      rw [hk, (mem_removed.mp hr).2] at hd
      cases hd

/-- How the maps of `current` and `desired` compare at one key when nothing has to
change there; `keep` are the keys that are never removed. -/
def Agree (same : α → α → Bool) (keep : κ → Prop) (k : κ) : Option α → Option α → Prop
  | none, none => True
  | none, some _ => False
  | some _, none => keep k
  | some a, some b => same a b = true

omit [DecidableEq κ] in
/-- Each side agrees with itself. -/
theorem agree_refl {keep : κ → Prop} (hsame : ∀ b, same b b = true) (k : κ) (o : Option α) :
    Agree same keep k o o := by
  cases o with
  | none => trivial
  | some b => exact hsame b

/-- Maps of the same keys agree when all values under one key do. -/
theorem agree_of_keys {keep : κ → Prop} (hkeys : ∀ k, k ∈ current.map key ↔ k ∈ desired.map key)
    (hsame : ∀ a ∈ current, ∀ b ∈ desired, key a = key b → same a b = true) (k : κ) :
    Agree same keep k (lookup key k current) (lookup key k desired) := by
  cases hc : lookup key k current with
  | none =>
    cases hd : lookup key k desired with
    | none => trivial
    | some b =>
      obtain ⟨hb, rfl⟩ := lookup_some hd
      obtain ⟨a, ha, hkey⟩ := List.mem_map.mp ((hkeys _).mpr (List.mem_map_of_mem hb))
      exact absurd hkey (lookup_eq_none_iff.mp hc a ha)
  | some a =>
    obtain ⟨ha, rfl⟩ := lookup_some hc
    cases hd : lookup key (key a) desired with
    | none =>
      obtain ⟨b, hb, hkey⟩ := List.mem_map.mp ((hkeys _).mp (List.mem_map_of_mem ha))
      exact absurd hkey (lookup_eq_none_iff.mp hd b hb)
    | some b =>
      obtain ⟨hb, hkey⟩ := lookup_some hd
      exact hsame a ha b hb hkey.symm

/-- Two sets of plain keys agree when they have the same members. -/
theorem agree_id_iff {l l' : List κ} :
    (∀ k, Agree (fun _ _ => true) (fun _ => False) k (lookup id k l) (lookup id k l')) ↔
      ∀ k, k ∈ l ↔ k ∈ l' := by
  refine forall_congr' fun k => ?_
  by_cases hl : k ∈ l <;> by_cases hl' : k ∈ l' <;> simp [lookup_id, hl, hl', Agree]

/-- A difference is empty exactly when the two maps agree at every key. -/
theorem no_difference_iff {keep : κ → Prop} [DecidablePred keep] :
    (added key current desired = [] ∧
      (removed key current desired).filter (fun k => ¬ keep k) = [] ∧
      updated key same current desired = []) ↔
    ∀ k, Agree same keep k (lookup key k current) (lookup key k desired) := by
  constructor
  · rintro ⟨ha, hr, hu⟩ k
    -- on one key: it is in both lists, in one or in none
    cases hc : lookup key k current with
    | none =>
      cases hd : lookup key k desired with
      | none => trivial
      | some b =>
        obtain rfl := key_of_lookup hd
        exact absurd (mem_added.mpr ⟨hd, hc⟩) (by simp [ha])
    | some a =>
      cases hd : lookup key k desired with
      | none =>
        by_contra hk
        have hm : k ∈ (removed key current desired).filter (fun k => ¬ keep k) := by
          rw [List.mem_filter, mem_removed, decide_eq_true_eq]
          exact ⟨⟨⟨a, hc⟩, hd⟩, hk⟩
        rw [hr] at hm
        cases hm
      | some b =>
        obtain rfl := key_of_lookup hd
        by_contra hs
        exact absurd (mem_updated.mpr ⟨hd, a, hc, by simpa [Agree] using hs⟩) (by simp [hu])
  · intro h
    refine ⟨?_, ?_, ?_⟩
    · refine List.eq_nil_iff_forall_not_mem.mpr fun b hb => ?_
      obtain ⟨hd, hc⟩ := mem_added.mp hb
      simpa [Agree, hd, hc] using h (key b)
    · refine List.eq_nil_iff_forall_not_mem.mpr fun k hk => ?_
      rw [List.mem_filter, mem_removed] at hk
      obtain ⟨⟨⟨a, hc⟩, hd⟩, hkeep⟩ := hk
      have hk := h k
      rw [hc, hd] at hk
      exact of_decide_eq_true hkeep hk
    · refine List.eq_nil_iff_forall_not_mem.mpr fun b hb => ?_
      obtain ⟨hd, a, hc, hs⟩ := mem_updated.mp hb
      have := h (key b)
      rw [hc, hd] at this
      simp [Agree, hs] at this

/-- Entry by entry: every desired entry is there and the same, and the rest is kept on
purpose. -/
theorem forall_agree_iff {keep : κ → Prop} (hn : (desired.map key).Nodup) :
    (∀ k, Agree same keep k (lookup key k current) (lookup key k desired)) ↔
    (∀ b ∈ desired, ∃ a, lookup key (key b) current = some a ∧ same a b = true) ∧
      ∀ a ∈ current, ¬ keep (key a) → key a ∈ desired.map key := by
  constructor
  · intro h
    refine ⟨?_, ?_⟩
    · intro b hb
      have hk := h (key b)
      rw [lookup_of_mem hn hb] at hk
      cases hc : lookup key (key b) current with
      | none => simp [hc, Agree] at hk
      | some a => exact ⟨a, rfl, by simpa [hc, Agree] using hk⟩
    · intro a ha hkeep
      -- current keys may repeat, so the lookup gives some entry and not this one
      obtain ⟨c, hc⟩ := exists_lookup_of_mem key ha
      have hk := h (key a)
      rw [hc] at hk
      cases hd : lookup key (key a) desired with
      | none => exact absurd (by simpa [hd, Agree] using hk) hkeep
      | some b => exact List.mem_map.mpr ⟨b, mem_of_lookup hd, key_of_lookup hd⟩
  · rintro ⟨hthere, hrest⟩ k
    cases hd : lookup key k desired with
    | some b =>
      obtain rfl := key_of_lookup hd
      obtain ⟨a, ha, hs⟩ := hthere b (mem_of_lookup hd)
      rw [ha]
      exact hs
    | none =>
      cases hc : lookup key k current with
      | none => trivial
      | some a =>
        obtain rfl := key_of_lookup hc
        by_contra hkeep
        obtain ⟨b, hb, hab⟩ := List.mem_map.mp (hrest a (mem_of_lookup hc) hkeep)
        exact lookup_eq_none_iff.mp hd b hb hab

/-- An empty side agrees with an empty one only. -/
theorem agree_nil_left : (∀ k, Agree same (fun _ => False) k none (lookup key k desired)) ↔
    desired = [] := by
  constructor
  · intro h
    refine List.eq_nil_iff_forall_not_mem.mpr fun b hb => ?_
    obtain ⟨c, hc⟩ := exists_lookup_of_mem key hb
    simpa [hc, Agree] using h (key b)
  · rintro rfl k
    trivial

theorem agree_nil_right : (∀ k, Agree same (fun _ => False) k (lookup key k current) none) ↔
    current = [] := by
  constructor
  · intro h
    refine List.eq_nil_iff_forall_not_mem.mpr fun a ha => ?_
    obtain ⟨c, hc⟩ := exists_lookup_of_mem key ha
    simpa [hc, Agree] using h (key a)
  · rintro rfl k
    trivial

section Views

variable {β : Type*} (view : α → β) (project : β → κ)

/-- Maps with distinct keys that agree hold the same entries up to order, as far as
`view` shows them. -/
theorem perm_of_agree (hproject : ∀ a, project (view a) = key a)
    (hview : ∀ a b, key a = key b → same a b = true → view a = view b)
    (hc : (current.map key).Nodup) (hd : (desired.map key).Nodup)
    (h : ∀ k, Agree same (fun _ => False) k (lookup key k current) (lookup key k desired)) :
    (current.map view).Perm (desired.map view) := by
  have hkey : ∀ l : List α, (l.map key).Nodup → (l.map view).Nodup := by
    intro l hl
    refine List.Nodup.of_map project ?_
    rwa [List.map_map, show project ∘ view = key from funext hproject]
  refine (List.perm_ext_iff_of_nodup (hkey _ hc) (hkey _ hd)).mpr fun v => ?_
  simp only [List.mem_map]
  constructor
  · rintro ⟨a, ha, rfl⟩
    have hk := h (key a)
    rw [lookup_of_mem hc ha] at hk
    cases hb : lookup key (key a) desired with
    | none => simp [hb, Agree] at hk
    | some b =>
      have hs : same a b = true := by simpa [hb, Agree] using hk
      exact ⟨b, mem_of_lookup hb, (hview a b (key_of_lookup hb).symm hs).symm⟩
  · rintro ⟨b, hb, rfl⟩
    have hk := h (key b)
    rw [lookup_of_mem hd hb] at hk
    cases ha : lookup key (key b) current with
    | none => simp [ha, Agree] at hk
    | some a =>
      have hs : same a b = true := by simpa [ha, Agree] using hk
      exact ⟨a, mem_of_lookup ha, hview a b (key_of_lookup ha) hs⟩

/-- Sides that list the same views agree at every key. -/
theorem agree_of_perm (hproject : ∀ a, project (view a) = key a)
    (hview : ∀ a ∈ current, ∀ b ∈ desired, view a = view b → same a b = true)
    (hc : (current.map key).Nodup) (hd : (desired.map key).Nodup)
    (h : (current.map view).Perm (desired.map view)) (k : κ) :
    Agree same (fun _ => False) k (lookup key k current) (lookup key k desired) := by
  refine (forall_agree_iff hd).mpr ⟨?_, ?_⟩ k
  · intro b hb
    obtain ⟨a, ha, hab⟩ := List.mem_map.mp (h.symm.subset (List.mem_map_of_mem hb))
    have hk : key a = key b := by rw [← hproject, hab, hproject]
    exact ⟨a, hk ▸ lookup_of_mem hc ha, hview a ha b hb hab⟩
  · intro a ha _
    obtain ⟨b, hb, hba⟩ := List.mem_map.mp (h.subset (List.mem_map_of_mem ha))
    exact List.mem_map.mpr ⟨b, hb, by rw [← hproject, hba, hproject]⟩

end Views

end Difference

section Patch

variable {key} {k : κ} {b : α} {l new : List α} {ks : List κ}
  {same : α → α → Bool} {current desired : List α}

/-- A key that is erased is found no more. -/
theorem lookup_erase : lookup key k (erase key ks l) = if k ∈ ks then none else lookup key k l := by
  induction l with
  | nil => simp [erase]
  | cons a l ih =>
    rw [erase, List.filter_cons]
    change lookup key k (if _ then a :: erase key ks l else erase key ks l) = _
    by_cases ha : key a = k
    · subst ha
      by_cases hk : key a ∈ ks <;> simp [hk, ih, lookup_cons]
    · by_cases hk : key a ∈ ks <;> simp [hk, ih, lookup_cons, ha]

/-- What is overwritten is found under its own key only. -/
private theorem lookup_map_overwrite : lookup key k (l.map fun a => if key a = key b then b else a) =
    if key b = k then (lookup key k l).map (fun _ => b) else lookup key k l := by
  induction l with
  | nil => simp
  | cons a l ih =>
    rw [List.map_cons, lookup_cons, ih, lookup_cons]
    by_cases hb : key b = k
    · subst hb
      by_cases ha : key a = key b <;> cases lookup key (key b) l <;> simp [ha]
    · by_cases ha : key a = key b
      · simp [ha, hb]
      · simp [ha, hb]

/-- A value that is put is found under its key, and nothing else changes. -/
theorem lookup_upsert : lookup key k (upsert key l b) =
    if key b = k then some b else lookup key k l := by
  unfold upsert
  split
  · next h =>
    obtain ⟨a, ha, hab⟩ := List.any_eq_true.mp h
    rw [lookup_map_overwrite]
    by_cases hb : key b = k
    · obtain ⟨c, hc⟩ := exists_lookup_of_mem key ha
      rw [decide_eq_true_eq.mp hab, hb] at hc
      simp [hb, hc]
    · simp [hb]
  · next h =>
    rw [lookup_append]
    by_cases hb : key b = k <;> simp [lookup_cons, hb]

/-- Of several values that are put, the last of a key is found. -/
theorem lookup_upsertAll : lookup key k (upsertAll key l new) =
    (lookup key k new).or (lookup key k l) := by
  induction new generalizing l with
  | nil => simp [upsertAll]
  | cons b new ih =>
    change lookup key k (upsertAll key (upsert key l b) new) = _
    rw [ih, lookup_upsert, lookup_cons, Option.or_assoc]
    by_cases hb : key b = k <;> simp [hb]

/-- A patch is seen key by key: what is added or updated, or else what is not removed. -/
theorem lookup_patch {add update : List α} {remove : List κ} :
    lookup key k (patch key add remove update l) =
      ((lookup key k add).or (lookup key k update)).or
        (if k ∈ remove then none else lookup key k l) := by
  rw [patch, lookup_upsertAll, lookup_upsertAll, lookup_erase, Option.or_assoc]

/-- What is added is found where nothing was. -/
theorem lookup_added : lookup key k (added key current desired) =
    if lookup key k current = none then lookup key k desired else none := by
  cases hl : lookup key k (added key current desired) with
  | some b =>
    obtain rfl := key_of_lookup hl
    obtain ⟨hd, hc⟩ := mem_added.mp (mem_of_lookup hl)
    simp [hd, hc]
  | none =>
    split
    · next hc =>
      cases hd : lookup key k desired with
      | none => rfl
      | some b =>
        obtain rfl := key_of_lookup hd
        exact absurd rfl (lookup_eq_none_iff.mp hl b (mem_added.mpr ⟨hd, hc⟩))
    · rfl

/-- What is updated is found where it has changed. -/
theorem lookup_updated : lookup key k (updated key same current desired) =
    changedAt key same current desired k := by
  cases hl : lookup key k (updated key same current desired) with
  | some b =>
    obtain rfl := key_of_lookup hl
    obtain ⟨hd, a, hc, hs⟩ := mem_updated.mp (mem_of_lookup hl)
    exact (changedAt_eq_some.mpr ⟨a, hc, hd, hs⟩).symm
  | none =>
    cases hch : changedAt key same current desired k with
    | none => rfl
    | some b =>
      obtain ⟨a, hc, hd, hs⟩ := changedAt_eq_some.mp hch
      obtain rfl := key_of_lookup hd
      exact absurd rfl (lookup_eq_none_iff.mp hl b (mem_updated.mpr ⟨hd, a, hc, hs⟩))

/-- Erasing repeats no key. -/
theorem nodup_erase (hn : (l.map key).Nodup) : ((erase key ks l).map key).Nodup :=
  hn.sublist (List.filter_sublist.map _)

/-- Putting a value repeats no key. -/
theorem nodup_upsert (hn : (l.map key).Nodup) : ((upsert key l b).map key).Nodup := by
  unfold upsert
  split
  · have hmap : (l.map fun a => if key a = key b then b else a).map key = l.map key := by
      rw [List.map_map]
      refine List.map_congr_left fun a _ => ?_
      by_cases ha : key a = key b <;> simp [ha]
    rwa [hmap]
  · next h =>
    rw [List.map_append, List.nodup_append']
    refine ⟨hn, List.nodup_singleton _, ?_⟩
    rintro _ hk hb
    obtain rfl := List.mem_singleton.mp hb
    obtain ⟨a, ha, hab⟩ := List.mem_map.mp hk
    exact h (List.any_eq_true.mpr ⟨a, ha, decide_eq_true hab⟩)

/-- Putting several values repeats no key. -/
theorem nodup_upsertAll (hn : (l.map key).Nodup) : ((upsertAll key l new).map key).Nodup := by
  induction new generalizing l with
  | nil => exact hn
  | cons b new ih => exact ih (nodup_upsert hn)

/-- A patch repeats no key. -/
theorem nodup_patch {add update : List α} {remove : List κ} (hn : (l.map key).Nodup) :
    ((patch key add remove update l).map key).Nodup :=
  nodup_upsertAll (nodup_upsertAll (nodup_erase hn))

/-- Only the maps that its three parts stand for matter to a patch. -/
theorem lookup_patch_congr {add add' update update' : List α} {remove remove' : List κ}
    (ha : lookup key k add = lookup key k add') (hu : lookup key k update = lookup key k update')
    (hr : k ∈ remove ↔ k ∈ remove') :
    lookup key k (patch key add remove update l) =
      lookup key k (patch key add' remove' update' l) := by
  simp only [lookup_patch, ha, hu, hr]

/-- After a difference is carried out, the new map agrees with the desired one at every
key, whatever removals `remove` leaves out of the computed ones. -/
theorem patch_converges {keep : κ → Prop} [DecidablePred keep]
    (hsame : ∀ b, same b b = true) (k : κ) :
    Agree same keep k
      (lookup key k (patch key (added key current desired)
        ((removed key current desired).filter (fun k => ¬ keep k))
        (updated key same current desired) current))
      (lookup key k desired) := by
  rw [lookup_patch, lookup_added, lookup_updated, changedAt]
  cases hc : lookup key k current with
  | none =>
    cases hd : lookup key k desired with
    | none => simp [Agree]
    | some b => simp [Agree, hsame]
  | some a =>
    cases hd : lookup key k desired with
    | none =>
      by_cases hk : keep k
      · simp [Agree, hk]
      · simp [Agree, mem_removed, hc, hd, hk]
    | some b =>
      by_cases hs : same a b = true
      · simp [Agree, mem_removed, hd, hs]
      · simp [Agree, hsame, hs]

variable (key k l) in
/-- Removing every key that is there leaves nothing. -/
theorem lookup_removed : lookup key k (patch key [] (l.map key) [] l) = none := by
  rw [lookup_patch, lookup_nil, Option.none_or, Option.none_or]
  split
  · rfl
  · next h => exact lookup_eq_none_iff.mpr fun a ha hak => h (hak ▸ List.mem_map_of_mem ha)

/-- What is removed altogether agrees with nothing desired. -/
theorem agree_of_removed {keep : κ → Prop} :
    Agree same keep k (lookup key k (patch key [] (l.map key) [] l)) none := by
  rw [lookup_removed]
  trivial

end Patch

section Rename

/-! ## Other names for the keys -/

variable {β κ' : Type*} [DecidableEq κ'] {key} {key' : β → κ'} {g : α → β} {f : κ → κ'}
  {current desired : List α}

/-- Keys may be renamed, as long as no two become one. -/
theorem lookup_rename (hf : Function.Injective f) (hg : ∀ a, key' (g a) = f (key a)) (k : κ)
    (l : List α) : lookup key' (f k) (l.map g) = (lookup key k l).map g := by
  induction l with
  | nil => rfl
  | cons a l ih =>
    rw [List.map_cons, lookup_cons, lookup_cons, ih, hg]
    by_cases hk : key a = k
    · cases lookup key k l <;> simp [hk]
    · have hfk : f (key a) ≠ f k := fun h => hk (hf h)
      cases lookup key k l <;> simp [hk, hfk]

theorem keys_rename (hf : Function.Injective f) (hg : ∀ a, key' (g a) = f (key a)) (l : List α) :
    keys key' (l.map g) = (keys key l).map f := by
  have hkeys : (l.map g).map key' = (l.map key).map f := by
    rw [List.map_map, List.map_map]
    exact List.map_congr_left fun a _ => hg a
  rw [keys, hkeys, List.dedup_map_of_injective hf, keys]

/-- The removed keys are renamed with the sides. -/
theorem removed_rename (hf : Function.Injective f) (hg : ∀ a, key' (g a) = f (key a)) :
    removed key' (current.map g) (desired.map g) = (removed key current desired).map f := by
  rw [removed, removed, keys_rename hf hg, keys_rename hf hg, List.filter_map]
  congr 1
  apply List.filter_congr
  intro k _
  rw [Function.comp_apply, decide_eq_decide, List.mem_map_of_injective hf]

/-- What is added is renamed with the sides. -/
theorem added_rename (hf : Function.Injective f) (hg : ∀ a, key' (g a) = f (key a)) :
    added key' (current.map g) (desired.map g) = (added key current desired).map g := by
  have hkeys : (keys key' (desired.map g)).filter (· ∉ keys key' (current.map g)) =
      ((keys key desired).filter (· ∉ keys key current)).map f := removed_rename hf hg
  rw [added, hkeys, List.filterMap_map, added, List.map_filterMap]
  exact List.filterMap_congr fun k _ => lookup_rename hf hg k desired

/-- What is updated is renamed with the sides. -/
theorem updated_rename {same : α → α → Bool} {same' : β → β → Bool} (hf : Function.Injective f)
    (hg : ∀ a, key' (g a) = f (key a)) (hsame : ∀ a b, same' (g a) (g b) = same a b) :
    updated key' same' (current.map g) (desired.map g) =
      (updated key same current desired).map g := by
  have hkeys : (keys key' (current.map g)).filter (· ∈ keys key' (desired.map g)) =
      ((keys key current).filter (· ∈ keys key desired)).map f := by
    rw [keys_rename hf hg, keys_rename hf hg, List.filter_map]
    congr 1
    apply List.filter_congr
    intro k _
    simp [hf.eq_iff]
  rw [updated, hkeys, List.filterMap_map, updated, List.map_filterMap]
  apply List.filterMap_congr
  intro k _
  rw [Function.comp_apply, changedAt, changedAt, lookup_rename hf hg, lookup_rename hf hg]
  cases lookup key k current with
  | none => rfl
  | some a =>
    cases lookup key k desired with
    | none => rfl
    | some b =>
      simp only [Option.map_some, hsame]
      split <;> rfl

end Rename

section Rearranged

/-! ## Other orders of the entries -/

/-- The same entries in another order, each in the place of one it is related to. -/
def Rearranged (R : α → α → Prop) (l l' : List α) : Prop := ∃ m, l.Perm m ∧ List.Forall₂ R m l'

variable {key} {R : α → α → Prop} {a b : α} {k : κ} {l l' : List α}
variable {current current' desired desired' : List α}

theorem Rearranged.refl (hR : ∀ a, R a a) (l : List α) : Rearranged R l l :=
  ⟨l, .refl l, List.forall₂_same.mpr fun a _ => hR a⟩

omit [DecidableEq κ] in
/-- A list that is rearranged has the same keys. -/
theorem Rearranged.keys_perm (hkey : ∀ a b, R a b → key a = key b) (h : Rearranged R l l') :
    (l.map key).Perm (l'.map key) := by
  obtain ⟨m, hperm, hrel⟩ := h
  have hsame : m.map key = l'.map key := by
    clear hperm
    induction hrel with
    | nil => rfl
    | cons hab _ ih => rw [List.map_cons, List.map_cons, hkey _ _ hab, ih]
  exact hsame ▸ hperm.map key

/-- With distinct keys, what stands under a key is related to what stood there. -/
theorem Rearranged.lookup_rel (hkey : ∀ a b, R a b → key a = key b) (hn : (l.map key).Nodup)
    (h : Rearranged R l l') (k : κ) : Option.Rel R (lookup key k l) (lookup key k l') := by
  obtain ⟨m, hperm, hrel⟩ := h
  rw [lookup_perm hperm hn]
  clear hperm
  induction hrel with
  | nil => exact .none
  | @cons a b m l' hab _ ih =>
    rw [lookup_cons, lookup_cons, hkey a b hab]
    generalize lookup key k m = old at ih
    generalize lookup key k l' = new at ih
    cases ih with
    | some hrest => exact .some hrest
    | none =>
      by_cases hk : key b = k
      · rw [if_pos hk, if_pos hk]
        exact .some hab
      · rw [if_neg hk, if_neg hk]
        exact .none

/-- Another entry in the place of the one with its key. -/
theorem Rearranged.exists_replace (hR : ∀ a, R a a) (hkey : ∀ a b, R a b → key a = key b)
    (hn : (l.map key).Nodup) (h : a ∈ l) (hab : R a b) :
    ∃ l', Rearranged R l l' ∧ lookup key (key a) l' = some b := by
  have hkeys (c : α) : key (if key c = key b then b else c) = key c := by
    split
    · next heq => exact heq.symm
    · rfl
  refine ⟨l.map fun c => if key c = key b then b else c, ⟨l, .refl l, ?_⟩, ?_⟩
  · rw [List.forall₂_map_right_iff, List.forall₂_same]
    intro c hc
    by_cases heq : key c = key b
    · rw [if_pos heq]
      obtain rfl := List.inj_on_of_nodup_map hn hc h (heq.trans (hkey a b hab).symm)
      exact hab
    · rw [if_neg heq]
      exact hR c
  · rw [lookup_map hkeys, lookup_of_mem hn h, Option.map_some, if_pos (hkey a b hab)]

/-- What can be said of two options that are related. -/
theorem exists_iff_of_rel {β : Type*} {R : α → β → Prop} {old : Option α} {new : Option β}
    {p : α → Prop} {q : β → Prop} (h : Option.Rel R old new)
    (hpq : ∀ a b, old = some a → new = some b → R a b → (p a ↔ q b)) :
    (∃ a, old = some a ∧ p a) ↔ ∃ b, new = some b ∧ q b := by
  cases h with
  | none => simp
  | some hab => simpa using hpq _ _ rfl rfl hab

/-- Related values have the same properties. -/
theorem forall_iff_of_rel {β : Type*} {R : α → β → Prop} {old : Option α} {new : Option β}
    {p : α → Prop} {q : β → Prop} (h : Option.Rel R old new)
    (hpq : ∀ a b, old = some a → new = some b → R a b → (p a ↔ q b)) :
    (∀ a, old = some a → p a) ↔ ∀ b, new = some b → q b := by
  cases h with
  | none => simp
  | some hab => simpa using hpq _ _ rfl rfl hab

/-- The keys that are added are desired and not there. -/
theorem mem_map_added :
    k ∈ (added key current desired).map key ↔ k ∈ desired.map key ∧ k ∉ current.map key := by
  rw [List.mem_map]
  simp only [mem_added]
  rw [← mem_keys_iff, ← mem_keys_iff, not_mem_keys, mem_keys]
  constructor
  · rintro ⟨b, ⟨hb, hnew⟩, rfl⟩
    exact ⟨⟨b, hb⟩, hnew⟩
  · rintro ⟨⟨b, hb⟩, hnew⟩
    obtain rfl := key_of_lookup hb
    exact ⟨b, ⟨hb, hnew⟩, rfl⟩

/-- The keys that are removed are there and not desired. -/
theorem mem_removed_iff : k ∈ removed key current desired ↔
    k ∈ current.map key ∧ k ∉ desired.map key := by
  rw [mem_removed, ← mem_keys_iff, ← mem_keys_iff, not_mem_keys, mem_keys]

/-- The keys that are updated are on both sides, and not the same. -/
theorem mem_map_updated {same : α → α → Bool} : k ∈ (updated key same current desired).map key ↔
    ∃ a b, lookup key k current = some a ∧ lookup key k desired = some b ∧ same a b = false := by
  rw [List.mem_map]
  simp only [mem_updated]
  constructor
  · rintro ⟨b, ⟨hb, a, ha, hsame⟩, rfl⟩
    exact ⟨a, b, ha, hb, hsame⟩
  · rintro ⟨a, b, ha, hb, hsame⟩
    obtain rfl := key_of_lookup hb
    exact ⟨b, ⟨hb, a, ha, hsame⟩, rfl⟩

end Rearranged

end Keyed
