import Mathlib.Data.List.Basic

/-!
# Labelled transition systems

A step is an executable function, so that a concrete run can be replayed. Runs keep the
state before each step and the step's label, which lets a theorem assume something of every
step that was taken.
-/

/-- A start state and a step function; `none` where the label is not enabled. -/
structure TransitionSystem (σ ι : Type*) where
  init : σ
  step : σ → ι → Option σ

namespace TransitionSystem

variable {σ ι σ' ι' : Type*} {S : TransitionSystem σ ι} {T : TransitionSystem σ' ι'}
variable {s s' s'' : σ} {tr tr' : List (σ × ι)}

/-- A run from `s`, with the state and the label of every step. -/
inductive Run (S : TransitionSystem σ ι) (s : σ) : List (σ × ι) → σ → Prop
  | nil : Run S s [] s
  | snoc {tr m i s'} : Run S s tr m → S.step m i = some s' → Run S s (tr ++ [(m, i)]) s'

/-- Every step of the trace meets `C`. -/
def Along (C : σ → ι → Prop) (tr : List (σ × ι)) : Prop := ∀ p ∈ tr, C p.1 p.2

instance {C : σ → ι → Prop} [∀ s i, Decidable (C s i)] : Decidable (Along C tr) :=
  inferInstanceAs (Decidable (∀ p ∈ tr, C p.1 p.2))

/-- What holds along a run holds along both halves. -/
@[simp] theorem along_append {C : σ → ι → Prop} :
    Along C (tr ++ tr') ↔ Along C tr ∧ Along C tr' := List.forall_mem_append

@[simp] theorem along_singleton {C : σ → ι → Prop} {p : σ × ι} :
    Along C [p] ↔ C p.1 p.2 := List.forall_mem_singleton

/-- A run goes on where another ended. -/
theorem Run.append (h : S.Run s tr s') (h' : S.Run s' tr' s'') : S.Run s (tr ++ tr') s'' := by
  induction h' with
  | nil => simpa using h
  | snoc _ hstep ih =>
    rw [← List.append_assoc]
    exact ih.snoc hstep

/-- What holds at the start and is kept by every step that meets `C` holds at the end of a
run whose steps all meet `C`. The step may use that its state was reached. -/
theorem Run.invariant {C : σ → ι → Prop} {P : σ → Prop} (hrun : S.Run s tr s')
    (hC : Along C tr) (h0 : P s)
    (hstep : ∀ tr m i m', S.Run s tr m → Along C tr → C m i → S.step m i = some m' → P m →
      P m') : P s' := by
  induction hrun with
  | nil => exact h0
  | snoc hr hs ih =>
    obtain ⟨hC, hc⟩ := along_append.mp hC
    exact hstep _ _ _ _ hr hC (along_singleton.mp hc) hs (ih hC)

/-- `P` holds in every state of the run, the one it ends in included. -/
def Always (P : σ → Prop) (tr : List (σ × ι)) (s : σ) : Prop := (∀ p ∈ tr, P p.1) ∧ P s

/-- What each point of a run implies holds at all of them. -/
theorem Run.always {C : σ → ι → Prop} {P : σ → Prop} (hrun : S.Run s tr s') (hC : Along C tr)
    (h : ∀ tr m, S.Run s tr m → Along C tr → P m) : Always P tr s' := by
  refine ⟨?_, h tr s' hrun hC⟩
  induction hrun with
  | nil => exact nofun
  | @snoc tr m i m' hr hs ih =>
    have hprefix : Along C tr := (along_append.mp hC).1
    intro p hp
    rcases List.mem_append.mp hp with hp | hp
    · exact ih hprefix p hp
    · obtain rfl := List.mem_singleton.mp hp
      exact h tr m hr hprefix

/-- The state after a step of the run is a state of the run too. -/
theorem Run.always_next {P : σ → Prop} {p : σ × ι} (hrun : S.Run s tr s')
    (hP : Always P tr s') (hp : p ∈ tr) : ∃ m, S.step p.1 p.2 = some m ∧ P m := by
  induction hrun with
  | nil => simp at hp
  | @snoc tr m i m' hr hs ih =>
    have hm : P m := hP.1 (m, i) (by simp)
    rcases List.mem_append.mp hp with hp | hp
    · exact ih ⟨fun q hq => hP.1 q (List.mem_append_left _ hq), hm⟩ hp
    · obtain rfl := List.mem_singleton.mp hp
      exact ⟨m', hs, hP.2⟩

/-- A run passes through the step: what came before it and what came after. -/
theorem Run.split {p : σ × ι} (hrun : S.Run s tr s') (hp : p ∈ tr) :
    ∃ tr₁ m tr₂, S.Run s tr₁ p.1 ∧ S.step p.1 p.2 = some m ∧ S.Run m tr₂ s' ∧
      tr = tr₁ ++ p :: tr₂ := by
  induction hrun with
  | nil => simp at hp
  | @snoc tr m i m' hr hs ih =>
    rcases List.mem_append.mp hp with hp | hp
    · obtain ⟨tr₁, a, tr₂, h₁, ha, h₂, rfl⟩ := ih hp
      exact ⟨tr₁, a, tr₂ ++ [(m, i)], h₁, ha, h₂.snoc hs, by simp⟩
    · obtain rfl := List.mem_singleton.mp hp
      exact ⟨tr, m', [], hr, hs, .nil, rfl⟩

/-- Each step of `S` is matched by a run of `T` between related states. -/
def Simulates (S : TransitionSystem σ ι) (T : TransitionSystem σ' ι') (R : σ → σ' → Prop) :
    Prop :=
  ∀ s i s' a, S.step s i = some s' → R s a → ∃ tr a', T.Run a tr a' ∧ R s' a'

/-- Then so is each run. -/
theorem Run.simulate {R : σ → σ' → Prop} {a : σ'} (hrun : S.Run s tr s')
    (hsim : S.Simulates T R) (ha : R s a) : ∃ tr' a', T.Run a tr' a' ∧ R s' a' := by
  induction hrun with
  | nil => exact ⟨[], a, .nil, ha⟩
  | snoc _ hs ih =>
    obtain ⟨tr₁, b, hb, hR⟩ := ih
    obtain ⟨tr₂, c, hc, hR'⟩ := hsim _ _ _ _ hs hR
    exact ⟨tr₁ ++ tr₂, c, hb.append hc, hR'⟩

/-- The states a replay of the labels passes through, each with the label taken there,
and the state it ends in. -/
def replay (S : TransitionSystem σ ι) : σ → List ι → Option (List (σ × ι) × σ)
  | s, [] => some ([], s)
  | s, i :: l =>
    match S.step s i with
    | some m => (replay S m l).map fun r => ((s, i) :: r.1, r.2)
    | none => none

/-- What can be replayed is a run. -/
theorem run_of_replay {l : List ι} (h : S.replay s l = some (tr, s')) : S.Run s tr s' := by
  induction l generalizing s tr with
  | nil =>
    cases h
    exact .nil
  | cons i l ih =>
    unfold replay at h
    cases hs : S.step s i with
    | none => simp [hs] at h
    | some m =>
      simp only [hs, Option.map_eq_some_iff, Prod.mk.injEq] at h
      obtain ⟨⟨tr', m'⟩, hr, rfl, rfl⟩ := h
      have hfirst : S.Run s [(s, i)] m := Run.nil.snoc hs
      exact hfirst.append (ih hr)

end TransitionSystem
