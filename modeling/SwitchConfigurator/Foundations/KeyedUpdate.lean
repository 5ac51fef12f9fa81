import SwitchConfigurator.Foundations.KeyedDiff

/-!
# Updates of a keyed list in place

An entry replaces the first one that has its key, or is appended. Other than `Keyed.upsert`
this leaves later entries with that key alone; on a list whose keys are distinct the two are
the same.
-/

namespace Keyed

variable {α κ : Type*} [DecidableEq κ] (key : α → κ)

/-- Overwrite the first entry that has the key of `b`, or append `b` where there is none. -/
def putFirst (b : α) : List α → List α
  | [] => [b]
  | a :: l => if key a = key b then b :: l else a :: putFirst b l

def putAll (l new : List α) : List α := new.foldl (fun l b => putFirst key b l) l

variable {key} {b : α} {k : κ} {l new : List α}

/-- A value that is put adds at most its own key, at the end. -/
theorem map_key_putFirst : (putFirst key b l).map key =
    if key b ∈ l.map key then l.map key else l.map key ++ [key b] := by
  induction l with
  | nil => simp [putFirst]
  | cons a l ih =>
    by_cases h : key a = key b
    · simp [putFirst, h]
    · have h' : key b ≠ key a := Ne.symm h
      rw [putFirst, if_neg h, List.map_cons, ih, List.map_cons]
      by_cases hmem : key b ∈ l.map key
      · rw [if_pos hmem, if_pos (List.mem_cons_of_mem _ hmem)]
      · rw [if_neg hmem, if_neg (by simpa [h'] using hmem)]
        rfl

/-- Putting a value makes no key repeated, and none unrepeated. -/
theorem nodup_putFirst_iff : ((putFirst key b l).map key).Nodup ↔ (l.map key).Nodup := by
  rw [map_key_putFirst]
  split
  · rfl
  · next h => rw [← List.concat_eq_append, List.nodup_concat, and_iff_right h]

/-- Entries under other keys stay, in their order. -/
theorem filter_putFirst {p : α → Bool} (hb : p b = false) (hp : ∀ a, key a = key b → p a = false) :
    (putFirst key b l).filter p = l.filter p := by
  induction l with
  | nil => simp [putFirst, hb]
  | cons a l ih =>
    by_cases h : key a = key b
    · rw [putFirst, if_pos h, List.filter_cons_of_neg (by simp [hb]),
        List.filter_cons_of_neg (by simp [hp a h])]
    · rw [putFirst, if_neg h, List.filter_cons, List.filter_cons, ih]

/-! ## Several entries -/

theorem putAll_cons : putAll key l (b :: new) = putAll key (putFirst key b l) new := rfl

/-- Nor does putting several. -/
theorem nodup_putAll_iff : ((putAll key l new).map key).Nodup ↔ (l.map key).Nodup := by
  induction new generalizing l with
  | nil => rfl
  | cons b new ih => rw [putAll_cons, ih, nodup_putFirst_iff]

/-- The keys are the old and the new ones. -/
theorem mem_map_putAll : k ∈ (putAll key l new).map key ↔ k ∈ l.map key ∨ k ∈ new.map key := by
  induction new generalizing l with
  | nil => simp [putAll]
  | cons b new ih =>
    rw [putAll_cons, ih, map_key_putFirst, List.map_cons, List.mem_cons]
    by_cases hb : key b ∈ l.map key
    · rw [if_pos hb]
      constructor
      · exact fun h => h.imp_right Or.inr
      · rintro (h | rfl | h)
        · exact .inl h
        · exact .inl hb
        · exact .inr h
    · rw [if_neg hb, List.mem_append, List.mem_singleton, or_assoc]

/-- The keys afterwards: the old ones, and the new ones that were not among them. -/
theorem perm_keys_putAll : ((putAll key l new).map key).Perm
    (l.map key ++ ((new.map key).filter (· ∉ l.map key)).dedup) := by
  induction new generalizing l with
  | nil => simp [putAll]
  | cons b new ih =>
    rw [putAll_cons]
    refine ih.trans ?_
    rw [map_key_putFirst, List.map_cons]
    by_cases hb : key b ∈ l.map key
    · rw [if_pos hb, List.filter_cons_of_neg (by simpa using hb)]
    · rw [if_neg hb, List.filter_cons_of_pos (by simpa using hb), List.append_assoc]
      refine List.Perm.append_left _ ?_
      rw [List.perm_ext_iff_of_nodup ?_ (List.nodup_dedup _)]
      · intro k
        simp only [List.singleton_append, List.mem_cons, List.mem_dedup, List.mem_filter,
          List.mem_append, List.not_mem_nil, or_false, decide_eq_true_eq, not_or]
        by_cases hk : k = key b
        · simp [hk]
        · simp [hk]
      · rw [List.singleton_append, List.nodup_cons]
        refine ⟨?_, List.nodup_dedup _⟩
        rw [List.mem_dedup, List.mem_filter]
        rintro ⟨-, hnot⟩
        simp at hnot

/-! ## Entries that stand for several -/

section

variable {β ι : Type*} {expand : α → List β} (ids : κ → List ι) {key' : β → ι} {i : ι}

omit [DecidableEq κ] in
/-- Where a key says what an item expands to, so do the keys of a list. -/
theorem map_flatMap_keys (hids : ∀ a, (expand a).map key' = ids (key a)) (l : List α) :
    (l.flatMap expand).map key' = (l.map key).flatMap ids := by
  induction l with
  | nil => rfl
  | cons a l ih => rw [List.flatMap_cons, List.map_append, ih, hids, List.map_cons,
      List.flatMap_cons]

variable [DecidableEq ι]

/-- Where no key is repeated, a lookup sees the value that was put, or else the old ones. -/
theorem lookup_flatMap_putFirst (hids : ∀ a, (expand a).map key' = ids (key a))
    (hn : (((putFirst key b l).flatMap expand).map key').Nodup) :
    lookup key' i ((putFirst key b l).flatMap expand) =
      (lookup key' i (expand b)).or (lookup key' i (l.flatMap expand)) := by
  induction l with
  | nil => simp [putFirst]
  | cons a l ih =>
    by_cases h : key a = key b
    · rw [putFirst, if_pos h, List.flatMap_cons, List.map_append] at hn
      rw [putFirst, if_pos h, List.flatMap_cons, List.flatMap_cons, lookup_append, lookup_append]
      have hdisjoint := (List.nodup_append'.mp hn).2.2
      cases hb : lookup key' i (expand b) with
      | some e =>
        -- the new entry stands for `i`, so no later one does
        obtain ⟨hmem, rfl⟩ := lookup_some hb
        have hnone : lookup key' (key' e) (l.flatMap expand) = none := by
          rw [lookup_eq_none_iff]
          intro c hc hkey
          exact hdisjoint (List.mem_map_of_mem hmem) (hkey ▸ List.mem_map_of_mem hc)
        rw [hnone]
        rfl
      | none =>
        have hnone : lookup key' i (expand a) = none := by
          rw [lookup_eq_none_iff] at hb ⊢
          intro c hc hkey
          have hmem : i ∈ (expand b).map key' := by
            rw [hids, ← h, ← hids]
            exact hkey ▸ List.mem_map_of_mem hc
          obtain ⟨e, he, hie⟩ := List.mem_map.mp hmem
          exact hb e he hie
        rw [hnone, Option.or_none, Option.none_or]
    · rw [putFirst, if_neg h, List.flatMap_cons, List.map_append] at hn
      rw [putFirst, if_neg h, List.flatMap_cons, List.flatMap_cons, lookup_append, lookup_append,
        ih (List.nodup_append'.mp hn).2.1, Option.or_assoc]

/-- Where what the entries stand for is distinct afterwards, the new entries count for what
they stand for, and the old ones for the rest. -/
theorem lookup_flatMap_putAll (hids : ∀ a, (expand a).map key' = ids (key a))
    (hn : (((putAll key l new).flatMap expand).map key').Nodup) :
    lookup key' i ((putAll key l new).flatMap expand) =
      (lookup key' i (new.flatMap expand)).or (lookup key' i (l.flatMap expand)) := by
  induction new generalizing l with
  | nil => rfl
  | cons b new ih =>
    have hfirst : (((putFirst key b l).flatMap expand).map key').Nodup := by
      rw [map_flatMap_keys ids hids] at hn ⊢
      have hkeys : ((putAll key (putFirst key b l) new).map key).Perm _ := perm_keys_putAll
      have hperm := hkeys.flatMap_right ids
      rw [List.flatMap_append] at hperm
      exact (List.nodup_append'.mp (hperm.nodup_iff.mp hn)).1
    rw [putAll_cons, ih hn, lookup_flatMap_putFirst ids hids hfirst, List.flatMap_cons, lookup_append,
      Option.or_assoc]

end

/-- The last of the new entries with a key counts, else the old one. -/
theorem lookup_putAll (hn : (l.map key).Nodup) : lookup key k (putAll key l new) =
    (lookup key k new).or (lookup key k l) := by
  have hn' : (((putAll key l new).flatMap fun a => [a]).map key).Nodup := by
    rw [List.flatMap_singleton']
    exact nodup_putAll_iff.mpr hn
  have hsingle := lookup_flatMap_putAll (fun k => [k]) (fun _ => rfl) hn' (i := k)
  simpa only [List.flatMap_singleton'] using hsingle

/-- A filter on the keys drops what stands under the keys that do not pass. -/
theorem lookup_filter {p : κ → Bool} : lookup key k (l.filter fun a => p (key a)) =
    if p k then lookup key k l else none := by
  induction l with
  | nil => simp
  | cons a l ih =>
    rw [List.filter_cons, lookup_cons]
    by_cases hk : key a = k
    · subst hk
      by_cases hp : p (key a) = true
      · rw [if_pos hp, lookup_cons, ih]
        simp [hp]
      · rw [if_neg hp, ih]
        simp [hp]
    · split
      · rw [lookup_cons, ih]
        simp [hk]
      · rw [ih]
        simp

theorem mem_upsert {a : α} (h : a ∈ upsert key l b) : a ∈ l ∨ a = b := by
  unfold upsert at h
  split at h
  · obtain ⟨c, hc, rfl⟩ := List.mem_map.mp h
    by_cases hk : key c = key b
    · exact .inr (if_pos hk)
    · rw [if_neg hk]
      exact .inl hc
  · exact (List.mem_append.mp h).imp_right List.mem_singleton.mp

/-- Nothing else comes into the list. -/
theorem mem_upsertAll {a : α} (h : a ∈ upsertAll key l new) : a ∈ l ∨ a ∈ new := by
  induction new generalizing l with
  | nil => exact .inl h
  | cons b new ih =>
    rcases ih h with h | h
    · rcases mem_upsert h with h | rfl
      · exact .inl h
      · exact .inr List.mem_cons_self
    · exact .inr (List.mem_cons_of_mem _ h)

end Keyed
