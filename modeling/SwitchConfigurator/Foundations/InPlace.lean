import Mathlib.Data.List.Forall2

/-!
# Fallible changes in place

An `InPlace ε σ` changes a value of type `σ` and may stop part way with an error. The
value it leaves behind is kept in both cases, since a caller that owns the value can
still read it after a failure. The rules say what is known after a success.
-/

/-- A fallible computation on a mutable value. -/
def InPlace (ε σ : Type*) := σ → σ × Except ε Unit

namespace InPlace

variable {ε σ τ : Type*}

/-- A check that changes nothing. -/
def check (c : σ → Except ε Unit) : InPlace ε σ := fun s => (s, c s)

/-- Replace the value when `f` succeeds, leave it alone when it does not. -/
def assign (f : σ → Except ε σ) : InPlace ε σ := fun s =>
  match f s with
  | .ok s' => (s', .ok ())
  | .error e => (s, .error e)

/-- Run `g` where `f` succeeded. -/
def andThen (f g : InPlace ε σ) : InPlace ε σ := fun s =>
  match f s with
  | (s', .ok _) => g s'
  | (s', .error e) => (s', .error e)

/-- Rewrite the error, which may name the value as it stands by then. -/
def mapError (f : InPlace ε σ) (context : σ → ε → ε) : InPlace ε σ := fun s =>
  match f s with
  | (s', .ok _) => (s', .ok ())
  | (s', .error e) => (s', .error (context s' e))

/-- Work on one part of the value. -/
def within (get : σ → τ) (set : τ → σ → σ) (f : InPlace ε τ) : InPlace ε σ := fun s =>
  (set (f (get s)).1 s, (f (get s)).2)

/-- Visit the entries of a list from the front, each with its index, up to the first
failure. -/
def forEach (f : ℕ → InPlace ε σ) (i : ℕ) : InPlace ε (List σ)
  | [] => ([], .ok ())
  | a :: l =>
    match f i a with
    | (a', .ok _) => (a' :: (forEach f (i + 1) l).1, (forEach f (i + 1) l).2)
    | (a', .error e) => (a' :: l, .error e)

/-- Started on `s`, the computation succeeds and leaves `s'`. -/
def Succeeds (f : InPlace ε σ) (s s' : σ) : Prop := f s = (s', .ok ())

variable {f g : InPlace ε σ} {s s' : σ}

/-- A check changes nothing. -/
@[simp] theorem check_succeeds {c : σ → Except ε Unit} :
    (check c).Succeeds s s' ↔ s' = s ∧ c s = .ok () := by
  unfold Succeeds check
  rw [Prod.mk.injEq, eq_comm]

@[simp] theorem assign_succeeds {f : σ → Except ε σ} :
    (assign f).Succeeds s s' ↔ f s = .ok s' := by
  unfold Succeeds assign
  cases f s with
  | ok a => simp
  | error e => simp

/-- Both parts succeed, the second on what the first has left. -/
@[simp] theorem andThen_succeeds :
    (f.andThen g).Succeeds s s' ↔ ∃ m, f.Succeeds s m ∧ g.Succeeds m s' := by
  unfold Succeeds andThen
  rcases hf : f s with ⟨m, r⟩
  cases r with
  | ok _ => simp
  | error e => simp

/-- What an error says has no part in a success. -/
@[simp] theorem mapError_succeeds {context : σ → ε → ε} :
    (f.mapError context).Succeeds s s' ↔ f.Succeeds s s' := by
  unfold Succeeds mapError
  rcases hf : f s with ⟨m, r⟩
  cases r with
  | ok _ => simp
  | error e => simp

/-- A step on a part succeeds where it does on the part alone. -/
@[simp] theorem within_succeeds {get : σ → τ} {set : τ → σ → σ} {f : InPlace ε τ} :
    (f.within get set).Succeeds s s' ↔ ∃ t, f.Succeeds (get s) t ∧ set t s = s' := by
  unfold Succeeds within
  rcases hf : f (get s) with ⟨m, r⟩
  constructor
  · intro h
    cases h
    exact ⟨m, rfl, rfl⟩
  · rintro ⟨t, h, rfl⟩
    cases h
    rfl

/-- How steps are bracketed makes no difference. -/
theorem andThen_assoc {h : InPlace ε σ} : (f.andThen g).andThen h = f.andThen (g.andThen h) := by
  funext s
  rw [andThen, andThen, andThen]
  rcases f s with ⟨s', r⟩
  cases r with
  | ok _ => rfl
  | error e => rfl

/-! ## What a computation leaves alone -/

/-- Whether it succeeds or not, the computation does not change the view. -/
def Keeps {ω : Type*} (f : InPlace ε σ) (view : σ → ω) : Prop := ∀ s, view (f s).1 = view s

section Keeps

variable {ω : Type*} {view : σ → ω}

/-- A success keeps what every run keeps. -/
theorem Keeps.of_succeeds (hf : f.Keeps view) (h : f.Succeeds s s') : view s' = view s := by
  have hview := hf s
  rw [h] at hview
  exact hview

/-- What is seen of a view that is kept is kept. -/
theorem Keeps.comp {ω' : Type*} (hf : f.Keeps view) (g : ω → ω') : f.Keeps fun s => g (view s) :=
  fun s => congrArg g (hf s)

theorem keeps_check (c : σ → Except ε Unit) : (check c).Keeps view := fun _ => rfl

/-- An assignment keeps what its own successes keep. -/
theorem keeps_assign {f : σ → Except ε σ} (h : ∀ s s', f s = .ok s' → view s' = view s) :
    (assign f).Keeps view := by
  intro s
  unfold assign
  cases hs : f s with
  | ok s' => exact h s s' hs
  | error e => rfl

/-- Two steps keep what each of them keeps. -/
theorem Keeps.andThen (hf : f.Keeps view) (hg : g.Keeps view) : (f.andThen g).Keeps view := by
  intro s
  have hfirst := hf s
  unfold InPlace.andThen
  rcases hs : f s with ⟨m, r⟩
  rw [hs] at hfirst
  cases r with
  | ok _ => exact (hg m).trans hfirst
  | error e => exact hfirst

theorem Keeps.mapError {context : σ → ε → ε} (hf : f.Keeps view) :
    (f.mapError context).Keeps view := by
  intro s
  have hfirst := hf s
  unfold InPlace.mapError
  rcases hs : f s with ⟨m, r⟩
  rw [hs] at hfirst
  cases r with
  | ok _ => exact hfirst
  | error e => exact hfirst

/-- A step for each item keeps the items' views. -/
theorem keeps_forEach {f : ℕ → InPlace ε σ} (h : ∀ i, (f i).Keeps view) (i : ℕ) :
    (forEach f i).Keeps (List.map view) := by
  intro l
  induction l generalizing i with
  | nil => rfl
  | cons a l ih =>
    have hfirst := h i a
    unfold forEach
    rcases hf : f i a with ⟨a', r⟩
    rw [hf] at hfirst
    cases r with
    | ok _ => exact congrArg₂ List.cons hfirst (ih (i + 1))
    | error e => exact congrArg₂ List.cons hfirst rfl

end Keeps

/-- A loop that succeeds has succeeded on every entry. -/
theorem forEach_succeeds {f : ℕ → InPlace ε σ} {i : ℕ} {l l' : List σ}
    (h : (forEach f i).Succeeds l l') :
    List.Forall₂ (fun a b => ∃ j, (f j).Succeeds a b) l l' := by
  induction l generalizing i l' with
  | nil =>
    cases h
    exact .nil
  | cons a l ih =>
    unfold Succeeds forEach at h
    rcases hf : f i a with ⟨a', r⟩
    cases r with
    | error e => simp [hf] at h
    | ok _ =>
      simp only [hf, Prod.mk.injEq] at h
      obtain ⟨rfl, hr⟩ := h
      exact .cons ⟨i, hf⟩ (ih (Prod.ext rfl hr))

/-- A loop leaves a list alone that it leaves alone entry by entry. -/
theorem forEach_succeeds_self {f : ℕ → InPlace ε σ} {i : ℕ} {l : List σ}
    (h : ∀ j (hj : j < l.length), (f (i + j)).Succeeds l[j] l[j]) :
    (forEach f i).Succeeds l l := by
  induction l generalizing i with
  | nil => rfl
  | cons a l ih =>
    have hfirst : f i a = (a, .ok ()) := h 0 (Nat.zero_lt_succ _)
    have hrest : (forEach f (i + 1)).Succeeds l l := by
      refine ih fun j hj => ?_
      have hnext := h (j + 1) (Nat.succ_lt_succ hj)
      rwa [show i + 1 + j = i + (j + 1) by omega]
    unfold Succeeds at hrest ⊢
    rw [forEach, hfirst]
    dsimp only
    rw [hrest]

/-- Entries that a loop leaves alone may come to it in another form, if each is brought back. -/
theorem forEach_succeeds_map {f : ℕ → InPlace ε σ} {form : σ → σ}
    (hform : ∀ i a, (f i).Succeeds a a → (f i).Succeeds (form a) a) {i : ℕ} {l : List σ}
    (h : (forEach f i).Succeeds l l) : (forEach f i).Succeeds (l.map form) l := by
  induction l generalizing i with
  | nil => rfl
  | cons a l ih =>
    unfold Succeeds forEach at h
    rcases hf : f i a with ⟨a', r⟩
    cases r with
    | error e => simp [hf] at h
    | ok _ =>
      simp only [hf, Prod.mk.injEq, List.cons.injEq] at h
      obtain ⟨⟨rfl, hl⟩, hr⟩ := h
      have hfirst : f i (form a') = (a', .ok ()) := hform i a' hf
      have hrest : (forEach f (i + 1)).Succeeds (l.map form) l := ih (Prod.ext hl hr)
      unfold Succeeds at hrest ⊢
      rw [List.map_cons, forEach, hfirst]
      dsimp only
      rw [hrest]

/-- A loop that treats its entries alike succeeds where each of them does, and changes them one
by one. -/
theorem forEach_const_succeeds {f : InPlace ε σ} {i : ℕ} {l l' : List σ} :
    (forEach (fun _ => f) i).Succeeds l l' ↔
      (∀ a ∈ l, (f a).2 = .ok ()) ∧ l' = l.map fun a => (f a).1 := by
  induction l generalizing i l' with
  | nil =>
    constructor
    · intro h
      cases h
      exact ⟨fun _ h => absurd h List.not_mem_nil, rfl⟩
    · rintro ⟨-, rfl⟩
      rfl
  | cons a l ih =>
    rw [List.forall_mem_cons, List.map_cons]
    unfold Succeeds forEach
    rcases hf : f a with ⟨a', r⟩
    cases r with
    | error e => simp
    | ok _ =>
      constructor
      · intro h
        obtain ⟨rfl, hrest⟩ := Prod.mk.inj h
        obtain ⟨hall, hmap⟩ := ih.mp (Prod.ext rfl hrest)
        exact ⟨⟨rfl, hall⟩, congrArg _ hmap⟩
      · rintro ⟨⟨-, hall⟩, rfl⟩
        have hrest : (forEach (fun _ => f) (i + 1)).Succeeds l _ := ih.mpr ⟨hall, rfl⟩
        unfold Succeeds at hrest
        simp only [hrest]

/-- What a success leaves is left alone by the next one. -/
def Idempotent (f : InPlace ε σ) : Prop := ∀ ⦃s s'⦄, f.Succeeds s s' → f.Succeeds s' s'

/-- An assignment that gives itself back what it gave may be repeated. -/
theorem idempotent_assign {f : σ → Except ε σ} (h : ∀ s s', f s = .ok s' → f s' = .ok s') :
    (assign f).Idempotent := fun s s' hs =>
  assign_succeeds.mpr (h s s' (assign_succeeds.mp hs))

/-- Steps that may be repeated on each item may be repeated on the list. -/
theorem idempotent_forEach {f : ℕ → InPlace ε σ} (h : ∀ i, (f i).Idempotent) (i : ℕ) :
    (forEach f i).Idempotent := by
  intro l l' hl
  induction l generalizing i l' with
  | nil =>
    cases hl
    rfl
  | cons a l ih =>
    unfold Succeeds forEach at hl
    rcases hf : f i a with ⟨a', r⟩
    cases r with
    | error e => simp [hf] at hl
    | ok _ =>
      simp only [hf, Prod.mk.injEq] at hl
      obtain ⟨rfl, hr⟩ := hl
      have hfirst : f i a' = (a', .ok ()) := h i hf
      have hrest : (forEach f (i + 1)).Succeeds _ _ := ih (i + 1) (Prod.ext rfl hr)
      unfold Succeeds at hrest ⊢
      rw [forEach, hfirst]
      dsimp only
      rw [hrest]

/-- To succeed is to end in `ok`. -/
theorem succeeds_iff : f.Succeeds s s' ↔ (f s).2 = .ok () ∧ s' = (f s).1 := by
  unfold Succeeds
  constructor
  · intro h
    rw [h]
    exact ⟨rfl, rfl⟩
  · rintro ⟨hok, rfl⟩
    exact Prod.ext rfl hok

/-! ## What a computation spares -/

/-- Started on `s`, the computation leaves `s` as it is, whether it succeeds or not. -/
def Spares (f : InPlace ε σ) (s : σ) : Prop := (f s).1 = s

theorem spares_check (c : σ → Except ε Unit) : (check c).Spares s := rfl

/-- What an error says has no part in what is spared. -/
theorem mapError_spares_iff {context : σ → ε → ε} : (f.mapError context).Spares s ↔ f.Spares s := by
  rw [Spares, Spares, mapError]
  rcases f s with ⟨s', r⟩
  cases r <;> exact Iff.rfl

theorem mapError_ok_iff {context : σ → ε → ε} :
    (f.mapError context s).2 = .ok () ↔ (f s).2 = .ok () := by
  rw [mapError]
  rcases f s with ⟨s', r⟩
  cases r with
  | ok _ => exact Iff.rfl
  | error e => exact ⟨(fun h => nomatch h), (fun h => nomatch h)⟩

/-- A second computation cannot take back what the first one changes of its view. -/
theorem andThen_spares_iff {ω : Type*} {view : σ → ω} (hg : g.Keeps view)
    (hf : view (f s).1 = view s → f.Spares s) :
    (f.andThen g).Spares s ↔ f.Spares s ∧ ((f s).2 = .ok () → g.Spares s) := by
  have hkept := hg (f s).1
  rw [Spares] at hf ⊢
  rw [Spares, Spares, andThen]
  rcases hfs : f s with ⟨s', r⟩
  rw [hfs] at hf hkept
  cases r with
  | error e => simp
  | ok _ =>
    dsimp only at hf hkept ⊢
    constructor
    · intro h
      obtain rfl := hf (by rw [← hkept, h])
      exact ⟨rfl, fun _ => h⟩
    · rintro ⟨rfl, h⟩
      exact h rfl

/-- Behind a step that spares the state, the next one is as if it came first. -/
theorem andThen_ok_iff_of_spares (h : f.Spares s) :
    (f.andThen g s).2 = .ok () ↔ (f s).2 = .ok () ∧ (g s).2 = .ok () := by
  rw [Spares] at h
  rw [andThen]
  rcases hfs : f s with ⟨s', r⟩
  rw [hfs] at h
  obtain rfl : s' = s := h
  cases r with
  | ok _ => simp
  | error e => simp

/-- Where a failing visit changes nothing, a loop spares a list that its successful visits spare. -/
theorem forEach_spares_iff {f : ℕ → InPlace ε σ} {i : ℕ} {l : List σ}
    (hfail : ∀ j a e, (f j a).2 = .error e → (f j).Spares a) :
    (forEach f i).Spares l ↔
      ∀ entry ∈ (l.zipIdx i).takeWhile (fun entry => (f entry.2 entry.1).2.isOk),
        (f entry.2).Spares entry.1 := by
  induction l generalizing i with
  | nil => simp [Spares, forEach]
  | cons a l ih =>
    have hrest := @ih (i + 1)
    rw [Spares] at hrest ⊢
    rw [List.zipIdx_cons, forEach]
    rcases hf : f i a with ⟨a', r⟩
    cases r with
    | error e =>
      have hspares : (f i).Spares a := hfail i a e (by rw [hf])
      rw [Spares, hf] at hspares
      rw [List.takeWhile_cons_of_neg (by simp [hf, Except.isOk, Except.toBool])]
      simpa using hspares
    | ok _ =>
      have hfirst : (f i).Spares a ↔ a' = a := by rw [Spares, hf]
      rw [List.takeWhile_cons_of_pos (by simp [hf, Except.isOk, Except.toBool]),
        List.forall_mem_cons, ← hrest, hfirst]
      exact List.cons.injEq .. ▸ Iff.rfl

/-- A loop that fails has failed at an entry, and left those behind it alone. -/
theorem forEach_failed {f : ℕ → InPlace ε σ} {i : ℕ} {l : List σ} {e : ε}
    (h : (forEach f i l).2 = .error e) : ∃ before a after visited, l = before ++ a :: after ∧
      (f (i + before.length) a).2 = .error e ∧ visited.length = before.length ∧
        (forEach f i l).1 = visited ++ (f (i + before.length) a).1 :: after := by
  induction l generalizing i with
  | nil => cases h
  | cons a l ih =>
    rw [forEach] at h ⊢
    rcases hf : f i a with ⟨a', r⟩
    rw [hf] at h
    cases r with
    | error e' =>
      have hvisit : f (i + ([] : List σ).length) a = (a', .error e') := hf
      refine ⟨[], a, l, [], rfl, ?_, rfl, ?_⟩
      · rw [hvisit]
        exact h
      · rw [hvisit]
        rfl
    | ok _ =>
      obtain ⟨before, b, after, visited, rfl, hfailed, hlength, hleft⟩ := @ih (i + 1) h
      have hindex : i + 1 + before.length = i + (a :: before).length := by
        rw [List.length_cons]
        omega
      rw [hindex] at hfailed hleft
      refine ⟨a :: before, b, after, a' :: visited, rfl, hfailed, ?_, ?_⟩
      · rw [List.length_cons, List.length_cons, hlength]
      · dsimp only
        rw [hleft]
        rfl

/-- An assignment that fails has changed nothing. -/
theorem assign_spares_of_error {f : σ → Except ε σ} {e : ε} (h : (assign f s).2 = .error e) :
    (assign f).Spares s := by
  rw [assign] at h
  rw [Spares, assign]
  cases hs : f s with
  | ok s' =>
    rw [hs] at h
    cases h
  | error e => rfl

/-- A step on a part spares the whole exactly if it spares the part. -/
theorem within_spares_iff {get : σ → τ} {set : τ → σ → σ} {f : InPlace ε τ}
    (hget : ∀ t, get (set t s) = t) (hset : set (get s) s = s) :
    (f.within get set).Spares s ↔ f.Spares (get s) := by
  rw [Spares, Spares, within]
  constructor
  · exact fun h => (hget _).symm.trans (congrArg get h)
  · intro h
    rw [h]
    exact hset

/-- Behind a computation that spares the value, the next one is started on the same value. -/
theorem Spares.andThen_iff (h : f.Spares s) :
    (f.andThen g).Spares s ↔ ((f s).2 = .ok () → g.Spares s) := by
  rw [Spares] at h
  rw [Spares, Spares, andThen]
  rcases hfs : f s with ⟨s', r⟩
  rw [hfs] at h
  obtain rfl : s' = s := h
  cases r with
  | ok _ => simp
  | error e => simp

/-- Whether a loop succeeds is decided by its visits alone. -/
theorem forEach_ok_iff {f : ℕ → InPlace ε σ} {i : ℕ} {l : List σ} :
    (forEach f i l).2 = .ok () ↔ ∀ entry ∈ l.zipIdx i, (f entry.2 entry.1).2 = .ok () := by
  induction l generalizing i with
  | nil => simp [forEach]
  | cons a l ih =>
    have hrest := @ih (i + 1)
    rw [List.zipIdx_cons, List.forall_mem_cons, ← hrest, forEach]
    rcases f i a with ⟨a', r⟩
    cases r with
    | ok _ => simp
    | error e => simp

end InPlace
