import Mathlib.Data.List.Basic
import Mathlib.Data.List.Forall2
import Mathlib.Data.List.Induction
import Mathlib.Data.List.Nodup

/-!
# Lists that are related entry by entry

What a stage that works on each entry of a list does to the list as a whole. The relation of the
entries is arbitrary; `List.Forall₂` carries it to the lists.
-/

namespace RelatedLists

open List

variable {α β : Type*} {R : α → β → Prop}

/-- A list has a related one if each of its entries has. -/
theorem exists_forall₂_iff {l : List α} : (∃ l', Forall₂ R l l') ↔ ∀ a ∈ l, ∃ b, R a b := by
  induction l with
  | nil => exact ⟨fun _ _ h => absurd h not_mem_nil, fun _ => ⟨[], .nil⟩⟩
  | cons a l ih =>
    rw [forall_mem_cons, ← ih]
    constructor
    · rintro ⟨_, h⟩
      cases h with
      | cons hab hrest => exact ⟨⟨_, hab⟩, ⟨_, hrest⟩⟩
    · rintro ⟨⟨b, hab⟩, ⟨l', hrest⟩⟩
      exact ⟨b :: l', .cons hab hrest⟩

/-- What is asked of the entries on the right can be asked of them in the relation. -/
theorem forall₂_and_right_iff {p : β → Prop} {l : List α} {l' : List β} :
    Forall₂ (fun a b => R a b ∧ p b) l l' ↔ Forall₂ R l l' ∧ ∀ b ∈ l', p b := by
  constructor
  · intro h
    induction h with
    | nil => exact ⟨.nil, fun _ h => absurd h not_mem_nil⟩
    | cons hab _ ih => exact ⟨.cons hab.1 ih.1, forall_mem_cons.mpr ⟨hab.2, ih.2⟩⟩
  · rintro ⟨h, hp⟩
    induction h with
    | nil => exact .nil
    | cons hab _ ih =>
      rw [forall_mem_cons] at hp
      exact .cons ⟨hab, hp.1⟩ (ih hp.2)

/-- Each item has its counterpart on the right. -/
theorem exists_of_mem_left {l : List α} {l' : List β} (h : Forall₂ R l l') {a : α} (ha : a ∈ l) :
    ∃ b ∈ l', R a b := by
  induction h with
  | nil => exact absurd ha not_mem_nil
  | cons hab _ ih =>
    rcases mem_cons.mp ha with rfl | hmem
    · exact ⟨_, mem_cons_self, hab⟩
    · obtain ⟨b, hb, hR⟩ := ih hmem
      exact ⟨b, mem_cons_of_mem _ hb, hR⟩

/-- Each item has its counterpart on the left. -/
theorem exists_of_mem_right {l : List α} {l' : List β} (h : Forall₂ R l l') {b : β} (hb : b ∈ l') :
    ∃ a ∈ l, R a b := by
  obtain ⟨a, ha, hR⟩ := exists_of_mem_left h.flip hb
  exact ⟨a, ha, hR⟩

/-- Related entries that are the same make the same lists. -/
theorem eq_of_forall₂ {R : α → α → Prop} {l l' : List α} (h : Forall₂ R l l')
    (heq : ∀ a ∈ l, ∀ b, R a b → b = a) : l' = l := by
  induction h with
  | nil => rfl
  | cons hab _ ih =>
    rw [heq _ List.mem_cons_self _ hab, ih fun a ha => heq a (List.mem_cons_of_mem _ ha)]

/-- Where no entry may be dropped, a list is compared with its image entry by entry. -/
theorem forall₂_filterMap_iff {R : α → α → Prop} {f : α → Option α} {l : List α} :
    Forall₂ R l (l.filterMap f) ↔ ∀ a ∈ l, ∃ b, f a = some b ∧ R a b := by
  induction l with
  | nil => simp
  | cons a l ih =>
    rw [forall_mem_cons]
    cases ha : f a with
    | none =>
      -- an entry less leaves the image too short
      rw [filterMap_cons_none ha]
      constructor
      · intro h
        have hlen := h.length_eq
        have hle := length_filterMap_le f l
        rw [length_cons] at hlen
        omega
      · rintro ⟨⟨b, hb, _⟩, _⟩
        exact absurd hb (by simp)
    | some b => simp [filterMap_cons_some ha, ih]

/-- An order of the entries on the right is one of the entries on the left. -/
theorem pairwise_of_forall₂ {S : α → α → Prop} {T : β → β → Prop} {l : List α} {l' : List β}
    (h : Forall₂ R l l') (hp : l'.Pairwise T)
    (hST : ∀ a a' b b', R a b → R a' b' → T b b' → S a a') : l.Pairwise S := by
  induction h with
  | nil => exact .nil
  | cons hab hrest ih =>
    rw [pairwise_cons] at hp
    refine pairwise_cons.mpr ⟨fun a' ha' => ?_, ih hp.2⟩
    obtain ⟨b', hb', hab'⟩ := exists_of_mem_left hrest ha'
    exact hST _ _ _ _ hab hab' (hp.1 b' hb')

/-- A position that does not matter to what is kept of an entry. -/
theorem filterMap_mapIdx {γ : Type*} {f : ℕ → α → β} {g : β → Option γ} {g' : α → Option γ}
    {l : List α} (h : ∀ a ∈ l, ∀ n, g (f n a) = g' a) :
    (l.mapIdx f).filterMap g = l.filterMap g' := by
  induction l generalizing f with
  | nil => rfl
  | cons a l ih =>
    obtain ⟨ha, hl⟩ := forall_mem_cons.mp h
    rw [mapIdx_cons, filterMap_cons, filterMap_cons, ha, ih fun b hb n => hl b hb (n + 1)]

/-- Two lists related to one another by way of a third. -/
theorem forall₂_comp {γ : Type*} {S : α → γ → Prop} {T : β → γ → Prop}
    (h : ∀ a b c, R a b → S a c → T b c) {l : List α} {l' : List β} {l'' : List γ}
    (hR : Forall₂ R l l') (hS : Forall₂ S l l'') : Forall₂ T l' l'' := by
  induction hR generalizing l'' with
  | nil =>
    cases hS
    exact .nil
  | cons hab _ ih =>
    cases hS with
    | cons hac hrest => exact .cons (h _ _ _ hab hac) (ih hrest)

/-- A list whose entries are computed, where each of them may be. -/
theorem forall₂_map_iff {p : α → Prop} {f : α → β} {l : List α} {l' : List β} :
    Forall₂ (fun a b => p a ∧ b = f a) l l' ↔ (∀ a ∈ l, p a) ∧ l' = l.map f := by
  induction l generalizing l' with
  | nil =>
    rw [forall₂_nil_left_iff, map_nil]
    exact ⟨fun h => ⟨fun _ ha => absurd ha not_mem_nil, h⟩, fun h => h.2⟩
  | cons a l ih =>
    rw [forall₂_cons_left_iff, forall_mem_cons, map_cons]
    constructor
    · rintro ⟨b, rest, ⟨ha, rfl⟩, hrest, rfl⟩
      obtain ⟨hp, rfl⟩ := ih.mp hrest
      exact ⟨⟨ha, hp⟩, rfl⟩
    · rintro ⟨⟨ha, hp⟩, rfl⟩
      exact ⟨_, _, ⟨ha, rfl⟩, ih.mpr ⟨hp, rfl⟩, rfl⟩

/-- A relation of two lists, cut into pieces as the first one is. -/
theorem forall₂_flatten_iff {ls : List (List α)} {l : List β} :
    Forall₂ R ls.flatten l ↔ ∃ ls', Forall₂ (Forall₂ R) ls ls' ∧ ls'.flatten = l := by
  constructor
  · intro h
    induction ls generalizing l with
    | nil => exact ⟨[], .nil, (forall₂_nil_left_iff.mp h).symm⟩
    | cons first rest ih =>
      rw [flatten_cons] at h
      obtain ⟨ls', hrest, hflat⟩ := ih (forall₂_drop_append l first rest.flatten h.flip).flip
      refine ⟨l.take first.length :: ls', .cons ?_ hrest, ?_⟩
      · exact (forall₂_take_append l first rest.flatten h.flip).flip
      · rw [flatten_cons, hflat, take_append_drop]
  · rintro ⟨ls', h, rfl⟩
    exact rel_flatten h

/-- Where the pieces have the same lengths, two lists are the same piece by piece. -/
theorem flatMap_eq_flatMap_iff {f g : α → List β} {l : List α}
    (h : ∀ a ∈ l, (f a).length = (g a).length) :
    l.flatMap f = l.flatMap g ↔ ∀ a ∈ l, f a = g a := by
  induction l with
  | nil => exact ⟨fun _ _ ha => absurd ha not_mem_nil, fun _ => rfl⟩
  | cons a l ih =>
    rw [forall_mem_cons] at h
    have happend : f a ++ l.flatMap f = g a ++ l.flatMap g ↔
        f a = g a ∧ l.flatMap f = l.flatMap g :=
      ⟨fun heq => append_inj heq h.1, fun heq => by rw [heq.1, heq.2]⟩
    rw [flatMap_cons, flatMap_cons, happend, forall_mem_cons, ih h.2]

/-- A list to which one entry alone contributes. -/
theorem flatMap_eq_single [DecidableEq α] {l : List α} {f : α → List β} {a : α} (hn : l.Nodup)
    (h : ∀ b ∈ l, b ≠ a → f b = []) : l.flatMap f = if a ∈ l then f a else [] := by
  induction l with
  | nil => rfl
  | cons b l ih =>
    rw [nodup_cons] at hn
    rw [forall_mem_cons] at h
    rw [flatMap_cons, ih hn.2 h.2]
    by_cases hb : b = a
    · subst hb
      simp [hn.1]
    · have hmem : a ∈ b :: l ↔ a ∈ l := by simp [Ne.symm hb]
      rw [h.1 hb, nil_append, if_congr hmem rfl rfl]

/-- With distinct keys, an entry is the only one with its key. -/
theorem filter_key_eq [DecidableEq β] {key : α → β} {l : List α} {a : α}
    (hn : (l.map key).Nodup) (h : a ∈ l) : l.filter (fun b => key b = key a) = [a] := by
  induction l with
  | nil => exact absurd h not_mem_nil
  | cons b l ih =>
    rw [map_cons, nodup_cons] at hn
    rcases mem_cons.mp h with rfl | hmem
    · have hnone : l.filter (fun b => key b = key a) = [] := by
        refine filter_eq_nil_iff.mpr fun b hb => ?_
        rw [decide_eq_true_eq]
        exact fun hkey => hn.1 (hkey ▸ mem_map_of_mem hb)
      simp [hnone]
    · have hne : key b ≠ key a := fun hkey => hn.1 (hkey ▸ mem_map_of_mem hmem)
      rw [filter_cons_of_neg (by simp [hne]), ih hn.2 hmem]

/-! ## Dropping repetitions -/

section

variable [DecidableEq α]

/-- A repeated item at the end is dropped. -/
theorem eraseDups_concat (l : List α) (a : α) :
    (l ++ [a]).eraseDups = if a ∈ l then l.eraseDups else l.eraseDups ++ [a] := by
  have hsingle : [a].eraseDups = [a] := by rw [eraseDups_cons]; rfl
  rw [eraseDups_append]
  by_cases h : a ∈ l <;> simp [removeAll, h, hsingle]

/-- What is left has no repetitions. -/
theorem nodup_eraseDups (l : List α) : l.eraseDups.Nodup := by
  induction l using reverseRecOn with
  | nil => exact .nil
  | append_singleton l a ih =>
    rw [eraseDups_concat]
    split
    · exact ih
    · next h =>
      refine nodup_append.mpr ⟨ih, nodup_singleton a, fun b hb c hc hbc => h ?_⟩
      rw [← mem_singleton.mp hc, ← hbc]
      exact mem_eraseDups.mp hb

/-- Without repetitions nothing is dropped. -/
theorem eraseDups_of_nodup {l : List α} (h : l.Nodup) : l.eraseDups = l := by
  induction l using reverseRecOn with
  | nil => rfl
  | append_singleton l a ih =>
    have ha : a ∉ l := fun ha => (nodup_append.mp h).2.2 a ha a mem_cons_self rfl
    rw [eraseDups_concat, if_neg ha, ih (nodup_append.mp h).1]

/-- A filter may be applied before or after. -/
theorem filter_eraseDups (p : α → Bool) (l : List α) :
    l.eraseDups.filter p = (l.filter p).eraseDups := by
  induction l using reverseRecOn with
  | nil => rfl
  | append_singleton l a ih =>
    rw [eraseDups_concat, filter_append]
    cases hp : p a with
    | true =>
      have hmem : a ∈ l.filter p ↔ a ∈ l := by simp [hp]
      rw [filter_cons_of_pos hp, filter_nil, eraseDups_concat, if_congr hmem rfl rfl, ← ih]
      split <;> simp [hp]
    | false =>
      rw [filter_cons_of_neg (by simp [hp]), filter_nil, append_nil, ← ih]
      split <;> simp [hp]

/-- Repetitions can be dropped before or after a filter; nothing is dropped where there are none. -/
theorem filter_eraseDups_eq_iff {p : α → Bool} {l : List α} :
    l.eraseDups.filter p = l.filter p ↔ (l.filter p).Nodup := by
  rw [filter_eraseDups]
  exact ⟨fun h => h ▸ nodup_eraseDups _, eraseDups_of_nodup⟩

end

end RelatedLists
