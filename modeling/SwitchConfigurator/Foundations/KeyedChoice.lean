import Mathlib.Data.List.Induction
import SwitchConfigurator.Foundations.KeyedUpdate

/-!
# The preferred entry of each key

Values arrive in an order `r`, each with a key. The first value of a key takes a place in the
list, and gives it up once: to the first good value with that key, where it is not good itself.
-/

namespace Keyed

variable {α β κ : Type*} [DecidableEq κ] (key : α → κ) (good : α → Bool)

/-- Put `a` in the place of the entry with its key if only `a` is good, or append it where there
is no such entry. -/
def prefer (entries : List α) (a : α) : List α :=
  match entries.find? (key · = key a) with
  | some old => if !good old && good a then putFirst key a entries else entries
  | none => entries ++ [a]

def preferAll (value : β → α) (l : List β) : List α :=
  l.foldl (fun entries b => prefer key good entries (value b)) []

variable {key good} {a e : α} {entries : List α}

/-- A value that is put takes the place of the one of its key. -/
theorem mem_putFirst (hn : (entries.map key).Nodup) :
    e ∈ putFirst key a entries ↔ e = a ∨ e ∈ entries ∧ key e ≠ key a := by
  induction entries with
  | nil => simp [putFirst]
  | cons b entries ih =>
    rw [List.map_cons, List.nodup_cons] at hn
    by_cases h : key b = key a
    · rw [putFirst, if_pos h, List.mem_cons, List.mem_cons]
      constructor
      · rintro (rfl | he)
        · exact .inl rfl
        · refine .inr ⟨.inr he, fun hkey => hn.1 ?_⟩
          rw [h, ← hkey]
          exact List.mem_map_of_mem he
      · rintro (rfl | ⟨rfl | he, hkey⟩)
        · exact .inl rfl
        · exact absurd h hkey
        · exact .inr he
    · rw [putFirst, if_neg h, List.mem_cons, ih hn.2, List.mem_cons]
      constructor
      · rintro (rfl | rfl | ⟨he, hkey⟩)
        · exact .inr ⟨.inl rfl, h⟩
        · exact .inl rfl
        · exact .inr ⟨.inr he, hkey⟩
      · rintro (rfl | ⟨rfl | he, hkey⟩)
        · exact .inr (.inl rfl)
        · exact .inl rfl
        · exact .inr (.inr ⟨he, hkey⟩)

/-- The first of its key is taken as it is. -/
theorem prefer_of_new (h : key a ∉ entries.map key) : prefer key good entries a = entries ++ [a] := by
  have hnone : entries.find? (key · = key a) = none := by
    rw [List.find?_eq_none]
    intro b hb
    rw [decide_eq_true_eq]
    intro hkey
    exact h (hkey ▸ List.mem_map_of_mem hb)
  rw [prefer, hnone]

/-- A second of its key only replaces one that is not good, and only if it is good. -/
theorem prefer_of_mem (hn : (entries.map key).Nodup) {old : α} (h : old ∈ entries)
    (hkey : key old = key a) : prefer key good entries a =
      if !good old && good a then putFirst key a entries else entries := by
  have hsome : entries.find? (key · = key a) = some old := by
    obtain ⟨found, hfound⟩ : ∃ found, entries.find? (key · = key a) = some found := by
      rw [← Option.isSome_iff_exists, List.find?_isSome]
      exact ⟨old, h, by simpa using hkey⟩
    have hsame : key found = key a := by simpa using List.find?_some hfound
    have hmem := List.mem_of_find?_eq_some hfound
    rw [hfound, List.inj_on_of_nodup_map hn hmem h (hsame.trans hkey.symm)]
  rw [prefer, hsome]

/-! ## The entries after a sequence of values -/

/-- What stands in the list after the values of `l`. -/
structure Chosen (key : α → κ) (good : α → Bool) (value : β → α) (r : β → β → Prop) (l : List β)
    (entries : List α) : Prop where
  nodup : (entries.map key).Nodup
  mem_keys : ∀ k, k ∈ entries.map key ↔ ∃ b ∈ l, key (value b) = k
  /-- A key that stands earlier has a value before every value of the later one. -/
  ordered : (entries.map key).Pairwise fun k k' =>
    ∃ b ∈ l, key (value b) = k ∧ ∀ c ∈ l, key (value c) = k' → r b c
  first : ∀ e ∈ entries, ∃ b ∈ l, value b = e ∧
    ∀ c ∈ l, key (value c) = key e → good e = false ∨ good (value c) = true → c = b ∨ r b c
  best : ∀ e ∈ entries, good e = false → ∀ c ∈ l, key (value c) = key e → good (value c) = false

variable {value : β → α} {r : β → β → Prop} {l : List β} {b : β}

omit [DecidableEq κ] in
theorem Chosen.nil : Chosen key good value r [] [] where
  nodup := List.nodup_nil
  mem_keys := by simp
  ordered := .nil
  first := by simp
  best := by simp

omit [DecidableEq κ] in
/-- A value under a key that has an entry: the keys stay where they are. -/
theorem Chosen.keep_keys (h : Chosen key good value r l entries) {entries' : List α}
    (hkeys : entries'.map key = entries.map key) (hr : ∀ c ∈ l, r c b)
    (hmem : key (value b) ∈ entries.map key)
    (hfirst : ∀ e ∈ entries', ∃ c ∈ l ++ [b], value c = e ∧ ∀ d ∈ l ++ [b],
      key (value d) = key e → good e = false ∨ good (value d) = true → d = c ∨ r c d)
    (hbest : ∀ e ∈ entries', good e = false → ∀ c ∈ l ++ [b], key (value c) = key e →
      good (value c) = false) :
    Chosen key good value r (l ++ [b]) entries' where
  nodup := hkeys ▸ h.nodup
  mem_keys k := by
    rw [hkeys, h.mem_keys]
    constructor
    · rintro ⟨c, hc, hk⟩
      exact ⟨c, List.mem_append_left _ hc, hk⟩
    · rintro ⟨c, hc, hk⟩
      rcases List.mem_append.mp hc with hc | hc
      · exact ⟨c, hc, hk⟩
      · rw [List.mem_singleton.mp hc] at hk
        exact (h.mem_keys k).mp (hk ▸ hmem)
  ordered := by
    rw [hkeys]
    refine h.ordered.imp fun {k k'} ⟨c, hc, hk, hall⟩ => ⟨c, List.mem_append_left _ hc, hk, ?_⟩
    intro d hd hk'
    rcases List.mem_append.mp hd with hd | hd
    · exact hall d hd hk'
    · rw [List.mem_singleton.mp hd]
      exact hr c hc
  first := hfirst
  best := hbest

/-- One value more, later than all before it. -/
theorem Chosen.prefer (h : Chosen key good value r l entries) (hr : ∀ c ∈ l, r c b) :
    Chosen key good value r (l ++ [b]) (prefer key good entries (value b)) := by
  have hlast {e : α} (he : e ∈ entries) (hold : good e = true ∨ key e ≠ key (value b) ∨
      good (value b) = false) : ∃ c ∈ l ++ [b], value c = e ∧ ∀ d ∈ l ++ [b],
        key (value d) = key e → good e = false ∨ good (value d) = true → d = c ∨ r c d := by
    obtain ⟨c, hc, rfl, hall⟩ := h.first e he
    refine ⟨c, List.mem_append_left _ hc, rfl, fun d hd => ?_⟩
    rcases List.mem_append.mp hd with hd | hd
    · exact hall d hd
    · rw [List.mem_singleton.mp hd]
      exact fun _ _ => .inr (hr c hc)
  by_cases hmem : key (value b) ∈ entries.map key
  · obtain ⟨old, hold, hkey⟩ := List.mem_map.mp hmem
    have hother {e : α} (he : e ∈ entries) (hne : e ≠ old) : key e ≠ key (value b) :=
      fun hsame => hne (List.inj_on_of_nodup_map h.nodup he hold (hsame.trans hkey.symm))
    rw [prefer_of_mem h.nodup hold hkey]
    split
    · next hreplace =>
      rw [Bool.and_eq_true, Bool.not_eq_true'] at hreplace
      obtain ⟨hbad, hgood⟩ := hreplace
      have hkeys : (putFirst key (value b) entries).map key = entries.map key := by
        rw [map_key_putFirst, if_pos hmem]
      refine h.keep_keys hkeys hr hmem (fun e he => ?_) fun e he => ?_
      · rcases (mem_putFirst h.nodup).mp he with rfl | ⟨he, hne⟩
        · refine ⟨b, List.mem_append_right _ List.mem_cons_self, rfl, fun d hd hk hd' => .inl ?_⟩
          rcases List.mem_append.mp hd with hd | hd
          · -- an earlier good value would be in the place of `old`
            have hnot := h.best old hold hbad d hd (hk.trans hkey.symm)
            rcases hd' with hd' | hd'
            · rw [hgood] at hd'
              cases hd'
            · rw [hnot] at hd'
              cases hd'
          · exact List.mem_singleton.mp hd
        · exact hlast he (.inr (.inl hne))
      · rcases (mem_putFirst h.nodup).mp he with rfl | ⟨he, hne⟩
        · intro hnot
          rw [hgood] at hnot
          cases hnot
        · intro hnot c hc hk
          rcases List.mem_append.mp hc with hc | hc
          · exact h.best e he hnot c hc hk
          · rw [List.mem_singleton.mp hc] at hk
            exact absurd hk.symm hne
    · next hkeep =>
      have hkeep' : good old = true ∨ good (value b) = false := by
        by_cases hbad : good old = true
        · exact .inl hbad
        · simpa [Bool.eq_false_iff.mpr hbad] using hkeep
      refine h.keep_keys rfl hr hmem (fun e he => hlast he ?_) fun e he hnot c hc hk => ?_
      · by_cases heq : e = old
        · rw [heq]
          exact hkeep'.imp_right .inr
        · exact .inr (.inl (hother he heq))
      · rcases List.mem_append.mp hc with hc | hc
        · exact h.best e he hnot c hc hk
        · rw [List.mem_singleton.mp hc] at hk ⊢
          have heq : e = old := by
            by_contra hne
            exact hother he hne hk.symm
          rcases hkeep' with hgood | hbad
          · rw [heq, hgood] at hnot
            cases hnot
          · exact hbad
  · rw [prefer_of_new hmem]
    have hnew {c : β} (hc : c ∈ l) : key (value c) ≠ key (value b) :=
      fun hk => hmem ((h.mem_keys _).mpr ⟨c, hc, hk⟩)
    refine ⟨?_, fun k => ?_, ?_, fun e he => ?_, fun e he hnot c hc hk => ?_⟩
    · rw [List.map_append, List.map_singleton, ← List.concat_eq_append, List.nodup_concat]
      exact ⟨hmem, h.nodup⟩
    · rw [List.map_append, List.mem_append, h.mem_keys]
      simp only [List.map_singleton, List.mem_singleton, List.mem_append, or_and_right, exists_or,
        exists_eq_left, eq_comm (a := k)]
    · rw [List.map_append, List.map_singleton, List.pairwise_append]
      refine ⟨?_, List.pairwise_singleton _ _, ?_⟩
      · refine h.ordered.imp fun {k k'} hbefore => ?_
        obtain ⟨c, hc, hk, hall⟩ := hbefore
        refine ⟨c, List.mem_append_left _ hc, hk, fun d hd hk' => ?_⟩
        rcases List.mem_append.mp hd with hd | hd
        · exact hall d hd hk'
        · rw [List.mem_singleton.mp hd]
          exact hr c hc
      · intro k hk k' hk'
        obtain ⟨c, hc, hkey⟩ := (h.mem_keys k).mp hk
        refine ⟨c, List.mem_append_left _ hc, hkey, fun d hd hdk => ?_⟩
        rw [List.mem_singleton.mp hk'] at hdk
        rcases List.mem_append.mp hd with hd | hd
        · exact absurd hdk (hnew hd)
        · rw [List.mem_singleton.mp hd]
          exact hr c hc
    · rcases List.mem_append.mp he with he | he
      · refine hlast he (.inr (.inl fun hk => hmem ?_))
        exact hk ▸ List.mem_map_of_mem he
      · rw [List.mem_singleton.mp he]
        refine ⟨b, List.mem_append_right _ List.mem_cons_self, rfl, fun d hd hk _ => .inl ?_⟩
        rcases List.mem_append.mp hd with hd | hd
        · exact absurd hk (hnew hd)
        · exact List.mem_singleton.mp hd
    · rcases List.mem_append.mp he with he | he <;> rcases List.mem_append.mp hc with hc | hc
      · exact h.best e he hnot c hc hk
      · rw [List.mem_singleton.mp hc] at hk
        exact absurd (hk ▸ List.mem_map_of_mem he) hmem
      · rw [List.mem_singleton.mp he] at hk
        exact absurd hk (hnew hc)
      · rw [List.mem_singleton.mp hc]
        rwa [List.mem_singleton.mp he] at hnot

/-- After any sequence of values. -/
theorem chosen_preferAll (hl : l.Pairwise r) :
    Chosen key good value r l (preferAll key good value l) := by
  induction l using List.reverseRecOn with
  | nil => exact .nil
  | append_singleton l b ih =>
    rw [List.pairwise_append] at hl
    rw [preferAll, List.foldl_append]
    exact (ih hl.1).prefer fun c hc => hl.2.2 c hc b List.mem_cons_self

end Keyed
