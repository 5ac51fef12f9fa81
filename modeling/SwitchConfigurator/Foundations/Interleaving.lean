import SwitchConfigurator.Foundations.Transition
import Mathlib.Data.List.Perm.Basic

/-!
# Tasks over a shared state

Tasks take turns in any order, one atomic step at a time. A step reads and writes the
shared state and says what is left of its task: usually the task further on, nothing once
it is over, more than one task where it has started others.
-/

/-- Tasks over a shared state `σ`. New tasks are made from requests `ρ`; the steps of a
task are told apart by events `ε`. -/
structure TaskSystem (σ τ ρ ε : Type*) where
  init : σ
  admits : σ → List τ → ρ → Bool
  start : σ → ρ → τ
  advance : σ → τ → ε → Option (σ × List τ)

structure TaskState (σ τ : Type*) where
  shared : σ
  tasks : List τ

/-- Either a request arrives, or the task at position `i` takes a step. -/
inductive TaskLabel (ρ ε : Type*) where
  | arrive (r : ρ)
  | go (i : ℕ) (e : ε)

namespace TaskSystem

variable {σ τ ρ ε : Type*} {S : TaskSystem σ τ ρ ε}

/-- Put `new` in the place of the task at position `i`. -/
def replaceAt (tasks : List τ) (i : ℕ) (new : List τ) : List τ :=
  tasks.take i ++ new ++ tasks.drop (i + 1)

/-- All interleavings of the tasks. -/
def system (S : TaskSystem σ τ ρ ε) : TransitionSystem (TaskState σ τ) (TaskLabel ρ ε) where
  init := ⟨S.init, []⟩
  step s
    | .arrive r =>
      if S.admits s.shared s.tasks r then some ⟨s.shared, S.start s.shared r :: s.tasks⟩
      else none
    | .go i e =>
      match s.tasks[i]? with
      | some t =>
        (S.advance s.shared t e).map fun next => ⟨next.1, replaceAt s.tasks i next.2⟩
      | none => none

/-- Runs of the tasks from the start. -/
abbrev Run (S : TaskSystem σ τ ρ ε) (tr : List (TaskState σ τ × TaskLabel ρ ε))
    (s : TaskState σ τ) : Prop := S.system.Run S.system.init tr s

/-- A task is replaced where it stands. -/
theorem replaceAt_append {pre post new : List τ} {t : τ} :
    replaceAt (pre ++ t :: post) pre.length new = pre ++ new ++ post := by
  unfold replaceAt
  simp

/-- A task stands between those before and those behind it. -/
theorem split_at {tasks : List τ} {i : ℕ} {t : τ} (h : tasks[i]? = some t) :
    ∃ pre post, tasks = pre ++ t :: post ∧ pre.length = i := by
  obtain ⟨hi, rfl⟩ := List.getElem?_eq_some_iff.mp h
  refine ⟨tasks.take i, tasks.drop (i + 1), ?_, List.length_take_of_le (Nat.le_of_lt hi)⟩
  rw [List.getElem_cons_drop, List.take_append_drop]

/-- What a step can be: an arrival, or one task moved on in place. -/
theorem step_cases {s s' : TaskState σ τ} {l : TaskLabel ρ ε}
    (h : S.system.step s l = some s') :
    (∃ r, l = .arrive r ∧ S.admits s.shared s.tasks r = true ∧
      s' = ⟨s.shared, S.start s.shared r :: s.tasks⟩) ∨
    (∃ e pre t post shared new, l = .go pre.length e ∧ s.tasks = pre ++ t :: post ∧
      S.advance s.shared t e = some (shared, new) ∧ s' = ⟨shared, pre ++ new ++ post⟩) := by
  cases l with
  | arrive r =>
    left
    simp only [system, Option.ite_none_right_eq_some, Option.some.injEq] at h
    exact ⟨r, rfl, h.1, h.2.symm⟩
  | go i e =>
    right
    cases ht : s.tasks[i]? with
    | none => simp [system, ht] at h
    | some t =>
      simp only [system, ht, Option.map_eq_some_iff] at h
      obtain ⟨⟨shared, new⟩, hadv, rfl⟩ := h
      obtain ⟨pre, post, htasks, rfl⟩ := split_at ht
      refine ⟨e, pre, t, post, shared, new, rfl, htasks, hadv, ?_⟩
      rw [htasks, replaceAt_append]

/-- A step of one task leaves the others as they are. -/
theorem step_go {shared shared' : σ} {pre post new : List τ} {t : τ} {e : ε}
    (h : S.advance shared t e = some (shared', new)) :
    S.system.step ⟨shared, pre ++ t :: post⟩ (.go pre.length e) =
      some ⟨shared', pre ++ new ++ post⟩ := by
  simp [system, h, replaceAt_append]

/-- The invariant rule: what holds at the start is kept by arrivals and by the steps of
tasks holds throughout. -/
theorem run_invariant {C : TaskState σ τ → TaskLabel ρ ε → Prop} {P : TaskState σ τ → Prop}
    {tr : List (TaskState σ τ × TaskLabel ρ ε)} {s : TaskState σ τ} (hrun : S.Run tr s)
    (hC : TransitionSystem.Along C tr) (h0 : P ⟨S.init, []⟩)
    (harrive : ∀ tr shared tasks r, S.Run tr ⟨shared, tasks⟩ → TransitionSystem.Along C tr →
      C ⟨shared, tasks⟩ (.arrive r) → S.admits shared tasks r = true → P ⟨shared, tasks⟩ →
      P ⟨shared, S.start shared r :: tasks⟩)
    (hgo : ∀ tr shared pre t post e shared' new, S.Run tr ⟨shared, pre ++ t :: post⟩ →
      TransitionSystem.Along C tr → C ⟨shared, pre ++ t :: post⟩ (.go pre.length e) →
      S.advance shared t e = some (shared', new) →
      P ⟨shared, pre ++ t :: post⟩ → P ⟨shared', pre ++ new ++ post⟩) : P s := by
  refine hrun.invariant hC h0 fun tr m l m' hr hCtr hc hs hm => ?_
  obtain ⟨shared, tasks⟩ := m
  obtain ⟨r, rfl, hadmits, rfl⟩ | ⟨e, pre, t, post, shared', new, rfl, rfl, hadv, rfl⟩ :=
    step_cases hs
  · exact harrive tr shared tasks r hr hCtr hc hadmits hm
  · exact hgo tr shared pre t post e shared' new hr hCtr hc hadv hm

/-- Where a task stands among the others makes no difference. -/
theorem perm_front {pre new post : List τ} : (pre ++ new ++ post).Perm (new ++ (pre ++ post)) := by
  rw [← List.append_assoc]
  exact List.perm_append_comm.append_right post

/-- The system can do the step of any task it has, wherever the task stands. -/
theorem exists_step {a : TaskState σ τ} {t : τ} {rest new : List τ} {shared' : σ} {e : ε}
    (hp : a.tasks.Perm (t :: rest)) (h : S.advance a.shared t e = some (shared', new)) :
    ∃ i a', S.system.step a (.go i e) = some a' ∧ a'.shared = shared' ∧
      a'.tasks.Perm (new ++ rest) := by
  obtain ⟨shared, tasks⟩ := a
  have ht : t ∈ tasks := hp.mem_iff.mpr List.mem_cons_self
  obtain ⟨pre, post, rfl⟩ := List.append_of_mem ht
  refine ⟨pre.length, _, step_go h, rfl, ?_⟩
  have hrest : (pre ++ post).Perm rest := List.Perm.cons_inv (List.perm_middle.symm.trans hp)
  exact perm_front.trans (hrest.append_left new)

end TaskSystem
