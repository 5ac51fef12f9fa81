import Mathlib.Data.List.Nodup
import Mathlib.Data.List.Sort
import Std.Data.TreeMap.Lemmas

/-!
# Merging prioritised sources

Sources carry a priority, a lower number being the higher one, and are visited in that
order. `firstWins` collects keyed entries into a map that never overwrites; after sorting,
what it holds under a key comes from the highest-priority source that defines the key
(`findSome?_byPriority`), and the order in which the sources were given is forgotten
(`byPriority_perm`).
-/

namespace Keyed

section Pairs

variable {κ β σ : Type*} [BEq κ]

/-- Each source is asked in turn. -/
theorem lookup_flatMap {entries : σ → List (κ × β)} {sources : List σ} {k : κ} :
    (sources.flatMap entries).lookup k = sources.findSome? fun s => (entries s).lookup k := by
  induction sources with
  | nil => rfl
  | cons s sources ih =>
    rw [List.flatMap_cons, List.lookup_append, ih, List.findSome?_cons]
    cases (entries s).lookup k <;> rfl

theorem mem_of_lookup_pairs [LawfulBEq κ] {entries : List (κ × β)} {k : κ} {v : β}
    (h : entries.lookup k = some v) : (k, v) ∈ entries := by
  induction entries with
  | nil => simp at h
  | cons entry entries ih =>
    obtain ⟨k', v'⟩ := entry
    rw [List.lookup_cons] at h
    cases hk : k == k' with
    | true =>
      simp only [hk, Option.some.injEq] at h
      rw [eq_of_beq hk, h]
      exact List.mem_cons_self
    | false =>
      simp only [hk] at h
      exact List.mem_cons_of_mem _ (ih h)

/-- A lookup in tagged values is a search by key. -/
theorem lookup_map_pair {key : β → κ} {l : List β} {k : κ} (value : β → σ) :
    (l.map fun b => (key b, value b)).lookup k = (l.find? fun b => k == key b).map value := by
  induction l with
  | nil => rfl
  | cons b l ih =>
    rw [List.map_cons, List.lookup_cons, List.find?_cons]
    cases k == key b with
    | true => rfl
    | false => exact ih

end Pairs

section FirstWins

variable {κ β : Type*} [Ord κ] [Std.TransOrd κ] [Std.LawfulEqOrd κ] [BEq κ] [LawfulBEq κ]

/-- The map of the first value under each key. -/
def firstWins (entries : List (κ × β)) : Std.TreeMap κ β :=
  entries.foldl (fun m entry => m.insertIfNew entry.1 entry.2) ∅

/-- The values of that map, by increasing key. -/
def mergedValues (entries : List (κ × β)) : List β := (firstWins entries).toList.map Prod.snd

/-- Insertion keeps what is in the map, and of what is new the first. -/
private theorem getElem?_foldl_insertIfNew (entries : List (κ × β)) (m : Std.TreeMap κ β) (k : κ) :
    (entries.foldl (fun m entry => m.insertIfNew entry.1 entry.2) m)[k]? =
      m[k]?.or (entries.lookup k) := by
  induction entries generalizing m with
  | nil => simp
  | cons entry entries ih =>
    obtain ⟨k', v⟩ := entry
    rw [List.foldl_cons, ih, Std.TreeMap.getElem?_insertIfNew, List.lookup_cons]
    cases hk : k == k' with
    | true =>
      obtain rfl := eq_of_beq hk
      by_cases hm : k ∈ m <;> simp [hm]
    | false =>
      have hne : compare k' k ≠ .eq := by
        intro h
        exact ne_of_beq_false hk (Std.LawfulEqOrd.eq_of_compare h).symm
      simp [hne]

/-- The first entry of a key wins. -/
theorem getElem?_firstWins (entries : List (κ × β)) (k : κ) :
    (firstWins entries)[k]? = entries.lookup k := by
  rw [firstWins, getElem?_foldl_insertIfNew, Std.TreeMap.getElem?_emptyc, Option.none_or]

/-- The merged entries are those that a lookup finds. -/
theorem mem_toList_firstWins {entries : List (κ × β)} {k : κ} {v : β} :
    (k, v) ∈ (firstWins entries).toList ↔ entries.lookup k = some v := by
  rw [Std.TreeMap.mem_toList_iff_getElem?_eq_some, getElem?_firstWins]

omit [BEq κ] [LawfulBEq κ] in
/-- No key is left twice. -/
theorem nodup_keys_firstWins (entries : List (κ × β)) :
    ((firstWins entries).toList.map Prod.fst).Nodup := by
  refine List.pairwise_map.mpr (Std.TreeMap.distinct_keys_toList.imp ?_)
  intro a b hab heq
  exact hab (heq ▸ Std.ReflOrd.compare_self)

variable {key : β → κ} {entries : List (κ × β)}

/-- A value is merged exactly if it is the first under its own key. -/
theorem mem_mergedValues (hkey : ∀ entry ∈ entries, key entry.2 = entry.1) {v : β} :
    v ∈ mergedValues entries ↔ entries.lookup (key v) = some v := by
  rw [mergedValues, List.mem_map]
  constructor
  · rintro ⟨⟨k, w⟩, hmem, rfl⟩
    have hlookup := mem_toList_firstWins.mp hmem
    have hk : key w = k := hkey _ (mem_of_lookup_pairs hlookup)
    rwa [hk]
  · intro h
    exact ⟨(key v, v), mem_toList_firstWins.mpr h, rfl⟩

theorem map_key_mergedValues (hkey : ∀ entry ∈ entries, key entry.2 = entry.1) :
    (mergedValues entries).map key = (firstWins entries).toList.map Prod.fst := by
  rw [mergedValues, List.map_map]
  refine List.map_congr_left fun entry hmem => ?_
  exact hkey entry (mem_of_lookup_pairs (mem_toList_firstWins.mp hmem))

end FirstWins

section Priority

variable {σ β : Type*} (priority : σ → ℕ)

/-- Sources in the order of their priorities, earlier ones first among equals. -/
def byPriority (sources : List σ) : List σ :=
  sources.insertionSort fun a b => priority a ≤ priority b

/-- `s` has the highest priority among the sources that satisfy `p`. -/
structure IsHighest (p : σ → Prop) (sources : List σ) (s : σ) : Prop where
  mem : s ∈ sources
  holds : p s
  least : ∀ t ∈ sources, p t → priority s ≤ priority t

variable {priority}

/-- Sorting loses no source. -/
theorem perm_byPriority (sources : List σ) : (byPriority priority sources).Perm sources :=
  List.perm_insertionSort _ _

theorem mem_byPriority {sources : List σ} {s : σ} :
    s ∈ byPriority priority sources ↔ s ∈ sources := (perm_byPriority sources).mem_iff

/-- The sources stand in ascending order of priority. -/
theorem pairwise_byPriority (sources : List σ) :
    (byPriority priority sources).Pairwise fun a b => priority a ≤ priority b := by
  have : Std.Total fun a b : σ => priority a ≤ priority b := ⟨fun a b => le_total _ _⟩
  have : IsTrans σ fun a b : σ => priority a ≤ priority b := ⟨fun _ _ _ => le_trans⟩
  exact List.pairwise_insertionSort _ _

/-- Sorting keeps two lists related whose entries have the same priorities. -/
theorem forall₂_byPriority {τ : Type*} {weight : τ → ℕ} {R : σ → τ → Prop}
    (hR : ∀ s t, R s t → priority s = weight t) {sources : List σ} {targets : List τ}
    (h : List.Forall₂ R sources targets) :
    List.Forall₂ R (byPriority priority sources) (byPriority weight targets) := by
  have hinsert {s : σ} {t : τ} (hst : R s t) {l : List σ} {l' : List τ}
      (hl : List.Forall₂ R l l') :
      List.Forall₂ R (l.orderedInsert (fun a b => priority a ≤ priority b) s)
        (l'.orderedInsert (fun a b => weight a ≤ weight b) t) := by
    induction hl with
    | nil => exact .cons hst .nil
    | cons hab hrest ih =>
      rw [List.orderedInsert_cons, List.orderedInsert_cons, hR _ _ hst, hR _ _ hab]
      split
      · exact .cons hst (.cons hab hrest)
      · exact .cons hab ih
  induction h with
  | nil => exact .nil
  | cons hst _ ih => exact hinsert hst ih

/-- With distinct priorities the order in which sources are given does not matter. -/
theorem byPriority_perm {sources sources' : List σ} (hp : sources.Perm sources')
    (hn : (sources.map priority).Nodup) :
    byPriority priority sources = byPriority priority sources' := by
  have hperm : (byPriority priority sources).Perm (byPriority priority sources') :=
    ((perm_byPriority sources).trans hp).trans (perm_byPriority sources').symm
  refine hperm.eq_of_pairwise ?_ (pairwise_byPriority sources) (pairwise_byPriority sources')
  intro a b ha hb hab hba
  have hb' : b ∈ sources := hp.symm.subset (mem_byPriority.mp hb)
  exact List.inj_on_of_nodup_map hn (mem_byPriority.mp ha) hb' (le_antisymm hab hba)

/-- The first source in the sorted list that satisfies `p` has the highest priority of
those that do. -/
theorem isHighest_of_find? {p : σ → Bool} {sources : List σ} {s : σ}
    (h : (byPriority priority sources).find? p = some s) :
    IsHighest priority (fun s => p s = true) sources s := by
  have hmem := List.mem_of_find?_eq_some h
  refine ⟨mem_byPriority.mp hmem, List.find?_some h, ?_⟩
  intro t ht hpt
  obtain ⟨-, before, after, hsplit, hbefore⟩ := List.find?_eq_some_iff_append.mp h
  have hsorted : (byPriority priority sources).Pairwise fun a b => priority a ≤ priority b :=
    pairwise_byPriority sources
  have htmem : t ∈ before ++ s :: after := hsplit ▸ mem_byPriority.mpr ht
  rw [hsplit] at hsorted
  rcases List.mem_append.mp htmem with htb | hta
  · have hnot := hbefore t htb
    simp [hpt] at hnot
  · rcases List.mem_cons.mp hta with rfl | hta
    · exact le_refl _
    · exact (List.pairwise_cons.mp (List.pairwise_append.mp hsorted).2.1).1 t hta

/-- Where no priority is repeated, the search finds the source of highest priority. -/
theorem find?_byPriority {p : σ → Bool} {sources : List σ} {s : σ}
    (hn : (sources.map priority).Nodup) :
    (byPriority priority sources).find? p = some s ↔
      IsHighest priority (fun s => p s = true) sources s := by
  constructor
  · exact isHighest_of_find?
  · intro h
    cases hf : (byPriority priority sources).find? p with
    | none =>
      exact absurd h.holds (List.find?_eq_none.mp hf s (mem_byPriority.mpr h.mem))
    | some t =>
      have ht := isHighest_of_find? hf
      have hle := h.least t ht.mem ht.holds
      have hge := ht.least s h.mem h.holds
      rw [List.inj_on_of_nodup_map hn ht.mem h.mem (le_antisymm hge hle)]

/-- The first value in the sorted list is the one of the highest-priority source that has
a value. -/
theorem findSome?_byPriority {f : σ → Option β} {sources : List σ} {b : β}
    (hn : (sources.map priority).Nodup) :
    (byPriority priority sources).findSome? f = some b ↔
      ∃ s, IsHighest priority (fun s => (f s).isSome = true) sources s ∧ f s = some b := by
  simp only [← find?_byPriority hn]
  induction byPriority priority sources with
  | nil => simp
  | cons s l ih =>
    rw [List.findSome?_cons, List.find?_cons]
    cases hs : f s with
    | some c => simp [hs]
    | none => simpa using ih

/-- `merged` is the value of the highest-priority source that satisfies `p`, or `default`
when none does. -/
structure TakenFromHighest (priority : σ → ℕ) (p : σ → Prop) (value : σ → β) (default : β)
    (sources : List σ) (merged : β) : Prop where
  taken : ∀ s, IsHighest priority p sources s → merged = value s
  absent : (∀ s ∈ sources, ¬ p s) → merged = default

/-- Taking the first in sorted order takes from the highest priority. -/
theorem takenFromHighest_find? {p : σ → Bool} {value : σ → β} {default : β} {sources : List σ}
    (hn : (sources.map priority).Nodup) :
    TakenFromHighest priority (fun s => p s = true) value default sources
      (((byPriority priority sources).find? p).elim default value) where
  taken := by
    intro s hs
    rw [(find?_byPriority hn).mpr hs]
    rfl
  absent := by
    intro hnone
    have hfind : (byPriority priority sources).find? p = none :=
      List.find?_eq_none.mpr fun s hs => hnone s (mem_byPriority.mp hs)
    rw [hfind]
    rfl

/-- Nothing is found exactly if no source has anything. -/
theorem findSome?_byPriority_eq_none {f : σ → Option β} {sources : List σ} :
    (byPriority priority sources).findSome? f = none ↔ ∀ s ∈ sources, f s = none := by
  simp only [List.findSome?_eq_none_iff, mem_byPriority]

/-- The first value in the sorted list is one of a highest-priority source that has a value. -/
theorem isHighest_of_findSome? {f : σ → Option β} {sources : List σ} {b : β}
    (h : (byPriority priority sources).findSome? f = some b) :
    ∃ s, IsHighest priority (fun s => (f s).isSome = true) sources s ∧ f s = some b := by
  have hfind : ∃ s, (byPriority priority sources).find? (fun s => (f s).isSome) = some s ∧
      f s = some b := by
    generalize byPriority priority sources = l at h
    induction l with
    | nil => simp at h
    | cons s l ih =>
      rw [List.findSome?_cons] at h
      rw [List.find?_cons]
      cases hs : f s with
      | some c => simpa [hs] using h
      | none => exact ih (by simpa [hs] using h)
  obtain ⟨s, hs, hb⟩ := hfind
  exact ⟨s, isHighest_of_find? hs, hb⟩

/-- The order of the sources has no part in which is highest. -/
theorem IsHighest.perm {p : σ → Prop} {sources sources' : List σ} {s : σ}
    (h : IsHighest priority p sources s) (hp : sources.Perm sources') :
    IsHighest priority p sources' s :=
  ⟨hp.mem_iff.mp h.mem, h.holds, fun t ht => h.least t (hp.mem_iff.mpr ht)⟩

/-- A highest-priority source that comes first among its equals is the one that is taken. -/
theorem findSome?_byPriority_cons {f : σ → Option β} {sources : List σ} {s : σ}
    (h : IsHighest priority (fun s => (f s).isSome = true) (s :: sources) s) :
    (byPriority priority (s :: sources)).findSome? f = f s := by
  obtain ⟨b, hb⟩ := Option.isSome_iff_exists.mp h.holds
  have hleast : ∀ t ∈ byPriority priority sources, (f t).isSome = true →
      priority s ≤ priority t :=
    fun t ht => h.least t (List.mem_cons_of_mem _ (mem_byPriority.mp ht))
  have hsort : byPriority priority (s :: sources) =
      (byPriority priority sources).orderedInsert (fun a b => priority a ≤ priority b) s := rfl
  rw [hsort]
  generalize byPriority priority sources = l at hleast
  -- what stands before it has a lower number, and no value
  induction l with
  | nil => simp [hb]
  | cons t l ih =>
    obtain ⟨ht, hl⟩ := List.forall_mem_cons.mp hleast
    by_cases hle : priority s ≤ priority t
    · simp [List.orderedInsert, hle, hb]
    · have hnone : f t = none := by
        by_contra hne
        exact hle (ht (Option.isSome_iff_ne_none.mpr hne))
      rw [List.orderedInsert, if_neg hle, List.findSome?_cons, hnone]
      exact ih hl

/-- The highest-priority sources that have a value agree on it. -/
def Unanimous (priority : σ → ℕ) (f : σ → Option β) (sources : List σ) : Prop :=
  ∀ s t, IsHighest priority (fun s => (f s).isSome = true) sources s →
    IsHighest priority (fun s => (f s).isSome = true) sources t → f s = f t

/-- The order of the sources matters exactly if two of the same priority disagree. -/
theorem findSome?_byPriority_perm_iff [DecidableEq σ] {f : σ → Option β} {sources : List σ} :
    (∀ sources', sources'.Perm sources → (byPriority priority sources').findSome? f =
      (byPriority priority sources).findSome? f) ↔ Unanimous priority f sources := by
  constructor
  · intro hall s t hs ht
    have hfirst {s : σ} (hs : IsHighest priority (fun s => (f s).isSome = true) sources s) :
        (byPriority priority sources).findSome? f = f s := by
      have hperm : sources.Perm (s :: sources.erase s) := List.perm_cons_erase hs.mem
      rw [← hall _ hperm.symm]
      exact findSome?_byPriority_cons (hs.perm hperm)
    rw [← hfirst hs, hfirst ht]
  · intro hun sources' hp
    cases h : (byPriority priority sources').findSome? f with
    | none =>
      rw [findSome?_byPriority_eq_none] at h
      exact (findSome?_byPriority_eq_none.mpr fun s hs => h s (hp.mem_iff.mpr hs)).symm
    | some b =>
      obtain ⟨s, hs, hb⟩ := isHighest_of_findSome? h
      have hmem : (byPriority priority sources).findSome? f ≠ none := fun hnone => by
        have hs' := findSome?_byPriority_eq_none.mp hnone s (hs.perm hp).mem
        rw [hb] at hs'
        cases hs'
      obtain ⟨c, hc⟩ := Option.ne_none_iff_exists'.mp hmem
      obtain ⟨t, ht, htc⟩ := isHighest_of_findSome? hc
      have heq : f s = f t := hun s t (hs.perm hp) ht
      rw [hc, ← htc, ← heq, hb]

/-- `s` is the first of the highest-priority sources that have a value. -/
structure IsFirst (priority : σ → ℕ) (f : σ → Option β) (pre : List σ) (s : σ) (post : List σ) :
    Prop where
  holds : (f s).isSome = true
  before : ∀ t ∈ pre, (f t).isSome = true → priority s < priority t
  after : ∀ t ∈ post, (f t).isSome = true → priority s ≤ priority t

/-- A source that comes too late, or has no value, changes nothing. -/
theorem findSome?_orderedInsert {f : σ → Option β} {l : List σ} {a s : σ}
    (hsorted : l.Pairwise fun a b => priority a ≤ priority b) (hs : s ∈ l)
    (hholds : (f s).isSome = true) (ha : (f a).isSome = true → priority s < priority a) :
    (l.orderedInsert (fun a b => priority a ≤ priority b) a).findSome? f = l.findSome? f := by
  induction l with
  | nil => cases hs
  | cons t l ih =>
    obtain ⟨ht, hl⟩ := List.pairwise_cons.mp hsorted
    by_cases hle : priority a ≤ priority t
    · have hnone : f a = none := by
        by_contra hne
        have hlt := ha (Option.isSome_iff_ne_none.mpr hne)
        rcases List.mem_cons.mp hs with rfl | hs
        · omega
        · have hts := ht s hs
          omega
      simp [List.orderedInsert, hle, hnone]
    · rw [List.orderedInsert, if_neg hle, List.findSome?_cons, List.findSome?_cons]
      cases hft : f t with
      | some b => rfl
      | none =>
        have hmem : s ∈ l := by
          refine (List.mem_cons.mp hs).resolve_left fun heq => ?_
          rw [heq, hft] at hholds
          cases hholds
        exact ih hl hmem

/-- Among equal priorities the first source in the list decides. -/
theorem IsFirst.findSome? {f : σ → Option β} {pre post : List σ} {s : σ}
    (h : IsFirst priority f pre s post) :
    (byPriority priority (pre ++ s :: post)).findSome? f = f s := by
  induction pre with
  | nil =>
    refine findSome?_byPriority_cons ⟨List.mem_cons_self, h.holds, fun t ht hft => ?_⟩
    rcases List.mem_cons.mp ht with rfl | ht
    · exact le_refl _
    · exact h.after t ht hft
  | cons a pre ih =>
    obtain ⟨ha, hpre⟩ := List.forall_mem_cons.mp h.before
    rw [← ih ⟨h.holds, hpre, h.after⟩]
    have hmem : s ∈ byPriority priority (pre ++ s :: post) := mem_byPriority.mpr (by simp)
    exact findSome?_orderedInsert (pairwise_byPriority _) hmem h.holds ha

/-- What is found is found in the first source that has it. -/
theorem exists_isFirst {f : σ → Option β} {sources : List σ} {b : β}
    (h : (byPriority priority sources).findSome? f = some b) :
    ∃ pre s post, sources = pre ++ s :: post ∧ IsFirst priority f pre s post ∧ f s = some b := by
  obtain ⟨s, hs, -⟩ := isHighest_of_findSome? h
  have hfind : (sources.find? fun t => (f t).isSome && priority t == priority s).isSome := by
    rw [List.find?_isSome]
    exact ⟨s, hs.mem, by simpa using hs.holds⟩
  obtain ⟨t, ht⟩ := Option.isSome_iff_exists.mp hfind
  obtain ⟨hholds, pre, post, hsplit, hpre⟩ := List.find?_eq_some_iff_append.mp ht
  simp only [Bool.and_eq_true, beq_iff_eq] at hholds
  have hfirst : IsFirst priority f pre t post := by
    refine ⟨hholds.1, fun u hu hfu => ?_, fun u hu hfu => ?_⟩
    · have hle := hs.least u (hsplit ▸ List.mem_append_left _ hu) hfu
      have hne := hpre u hu
      simp only [hfu, Bool.true_and, Bool.not_eq_true', beq_eq_false_iff_ne] at hne
      omega
    · have hmem : u ∈ pre ++ t :: post := List.mem_append_right _ (List.mem_cons_of_mem _ hu)
      have hle := hs.least u (hsplit ▸ hmem) hfu
      omega
  refine ⟨pre, t, post, hsplit, hfirst, ?_⟩
  rw [← hfirst.findSome?, ← hsplit, h]

/-- Sources that are lists of items of one priority may be asked as a whole. -/
theorem findSome?_byPriority_flatMap {τ : Type*} {weight : τ → ℕ} {items : σ → List τ}
    (hweight : ∀ s, ∀ a ∈ items s, weight a = priority s) {f : τ → Option β} {sources : List σ} :
    (byPriority weight (sources.flatMap items)).findSome? f =
      (byPriority priority sources).findSome? fun s => (items s).findSome? f := by
  cases h : (byPriority priority sources).findSome? fun s => (items s).findSome? f with
  | none =>
    rw [findSome?_byPriority_eq_none] at h ⊢
    intro a ha
    obtain ⟨s, hs, ha⟩ := List.mem_flatMap.mp ha
    exact List.findSome?_eq_none_iff.mp (h s hs) a ha
  | some b =>
    obtain ⟨pre, s, post, rfl, hfirst, hs⟩ := exists_isFirst h
    obtain ⟨before, a, after, hitems, ha, hbefore⟩ := List.findSome?_eq_some_iff.mp hs
    have haw : weight a = priority s := hweight s a (by simp [hitems])
    have hsome {t : σ} {c : τ} (hc : c ∈ items t) (hfc : (f c).isSome = true) :
        ((items t).findSome? f).isSome = true := by
      rw [List.findSome?_isSome_iff]
      exact ⟨c, hc, hfc⟩
    have hflat : (pre ++ s :: post).flatMap items =
        (pre.flatMap items ++ before) ++ a :: (after ++ post.flatMap items) := by
      simp [hitems]
    -- the first item of the first source is the first of all items
    have hfirst' : IsFirst weight f (pre.flatMap items ++ before) a
        (after ++ post.flatMap items) := by
      refine ⟨by simp [ha], fun c hc hfc => ?_, fun c hc hfc => ?_⟩
      · rcases List.mem_append.mp hc with hc | hc
        · obtain ⟨t, ht, hc⟩ := List.mem_flatMap.mp hc
          have hlt := hfirst.before t ht (hsome hc hfc)
          rw [haw, hweight t c hc]
          exact hlt
        · rw [hbefore c hc] at hfc
          cases hfc
      · rcases List.mem_append.mp hc with hc | hc
        · rw [haw, hweight s c (by simp [hitems, hc])]
        · obtain ⟨t, ht, hc⟩ := List.mem_flatMap.mp hc
          have hle := hfirst.after t ht (hsome hc hfc)
          rw [haw, hweight t c hc]
          exact hle
    rw [hflat, hfirst'.findSome?, ha]

end Priority

section Ext

variable {κ β : Type*} [Ord κ] [Std.TransOrd κ] [Std.LawfulEqOrd κ] [BEq κ] [LawfulBEq κ]

/-- Merged values are told apart by what is first under each key. -/
theorem mergedValues_congr {entries entries' : List (κ × β)}
    (h : ∀ k, entries.lookup k = entries'.lookup k) :
    mergedValues entries = mergedValues entries' := by
  have hnodup (entries : List (κ × β)) : (firstWins entries).toList.Nodup :=
    (nodup_keys_firstWins entries).of_map _
  have hperm : (firstWins entries).toList.Perm (firstWins entries').toList := by
    refine (List.perm_ext_iff_of_nodup (hnodup entries) (hnodup entries')).mpr fun ⟨k, b⟩ => ?_
    rw [mem_toList_firstWins, mem_toList_firstWins, h k]
  have hequiv := Std.TreeMap.equiv_iff_toList_perm.mpr hperm
  rw [mergedValues, mergedValues, Std.TreeMap.equiv_iff_toList_eq.mp hequiv]

/-- The merged value under a key. -/
theorem find?_mergedValues [DecidableEq κ] {key : β → κ} {entries : List (κ × β)}
    (hkey : ∀ entry ∈ entries, key entry.2 = entry.1) (k : κ) :
    (mergedValues entries).find? (fun b => key b = k) = entries.lookup k := by
  cases hlookup : entries.lookup k with
  | none =>
    refine List.find?_eq_none.mpr fun b hb => ?_
    have hb' := (mem_mergedValues hkey).mp hb
    intro hk
    have hk : key b = k := by simpa using hk
    rw [hk, hlookup] at hb'
    cases hb'
  | some b =>
    have hk : key b = k := hkey _ (mem_of_lookup_pairs hlookup)
    have hmem : b ∈ mergedValues entries := (mem_mergedValues hkey).mpr (hk ▸ hlookup)
    cases hfind : (mergedValues entries).find? (fun b => key b = k) with
    | none => simpa [hk] using List.find?_eq_none.mp hfind b hmem
    | some c =>
      have hck : key c = k := by simpa using List.find?_some hfind
      have hc := (mem_mergedValues hkey).mp (List.mem_of_find?_eq_some hfind)
      rw [hck, hlookup] at hc
      exact hc.symm

/-- Nothing is dropped where the keys are distinct. -/
theorem mergedValues_perm_iff {key : β → κ} {l : List β} :
    (mergedValues (l.map fun b => (key b, b))).Perm l ↔ (l.map key).Nodup := by
  have hkey : ∀ entry ∈ l.map fun b => (key b, b), key entry.2 = entry.1 := by
    intro entry hentry
    obtain ⟨b, _, rfl⟩ := List.mem_map.mp hentry
    rfl
  have hkeys : ((mergedValues (l.map fun b => (key b, b))).map key).Nodup := by
    rw [map_key_mergedValues hkey]
    exact nodup_keys_firstWins _
  constructor
  · intro hperm
    exact (hperm.map key).nodup_iff.mp hkeys
  · intro hnodup
    refine (List.perm_ext_iff_of_nodup (hkeys.of_map key) (hnodup.of_map key)).mpr fun b => ?_
    rw [mem_mergedValues hkey, lookup_map_pair, Option.map_id']
    constructor
    · exact List.mem_of_find?_eq_some
    · intro hb
      cases hfind : l.find? fun c => key b == key c with
      | none => simpa using List.find?_eq_none.mp hfind b hb
      | some c =>
        have hbeq := List.find?_some hfind
        have hcb : key b = key c := eq_of_beq hbeq
        rw [List.inj_on_of_nodup_map hnodup hb (List.mem_of_find?_eq_some hfind) hcb]

end Ext

end Keyed
