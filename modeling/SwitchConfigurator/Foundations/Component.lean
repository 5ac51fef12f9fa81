import SwitchConfigurator.Foundations.Interleaving

/-!
# Components of a task system

The tasks of a system often share a smaller component that is a task system itself, such as
a lock. Each task then has calls on the component in progress. If every step of a task is to
the component some arrivals and steps of that task's own calls, the runs of the system are
runs of the component.
-/

namespace TaskSystem

variable {σ τ ρ ε σ' τ' ρ' ε' : Type*}

/-- What the component may do between the calls before and the calls after. -/
inductive Effect (T : TaskSystem σ' τ' ρ' ε') : σ' → List τ' → σ' → List τ' → Prop
  | perm {s : σ'} {calls calls' : List τ'} : calls.Perm calls' → Effect T s calls s calls'
  | arrive {s : σ'} {calls : List τ'} (r : ρ') : (∀ tasks, T.admits s tasks r = true) →
      Effect T s calls s (T.start s r :: calls)
  | go {s s' : σ'} {c : τ'} {calls new rest : List τ'} {e : ε'} : calls.Perm (c :: rest) →
      T.advance s c e = some (s', new) → Effect T s calls s' (new ++ rest)
  | trans {s₁ s₂ s₃ : σ'} {calls₁ calls₂ calls₃ : List τ'} : Effect T s₁ calls₁ s₂ calls₂ →
      Effect T s₂ calls₂ s₃ calls₃ → Effect T s₁ calls₁ s₃ calls₃

variable {S : TaskSystem σ τ ρ ε} {T : TaskSystem σ' τ' ρ' ε'}

/-- The component runs from the calls before to the calls after, whatever other calls there
are. -/
theorem Effect.run {s s' : σ'} {calls calls' : List τ'} (h : Effect T s calls s' calls')
    {rest : List τ'} {a : TaskState σ' τ'} (hs : a.shared = s)
    (ha : a.tasks.Perm (calls ++ rest)) :
    ∃ tr a', T.system.Run a tr a' ∧ a'.shared = s' ∧ a'.tasks.Perm (calls' ++ rest) := by
  induction h generalizing a with
  | perm hp => exact ⟨[], a, .nil, hs, ha.trans (hp.append_right rest)⟩
  | arrive r hadmits =>
    subst hs
    refine ⟨_, ⟨a.shared, T.start a.shared r :: a.tasks⟩, .snoc (i := .arrive r) .nil ?_, rfl, ?_⟩
    · simp [system, hadmits]
    · exact ha.cons _
  | @go s s' c calls new others e hp hadv =>
    subst hs
    have hc : a.tasks.Perm (c :: (others ++ rest)) := ha.trans (hp.append_right rest)
    obtain ⟨i, a', hstep, hshared, htasks⟩ := exists_step hc hadv
    refine ⟨_, a', .snoc .nil hstep, hshared, ?_⟩
    rwa [List.append_assoc]
  | trans _ _ ih₁ ih₂ =>
    obtain ⟨tr₁, b, hb, hbs, hbt⟩ := ih₁ hs ha
    obtain ⟨tr₂, c, hc, hcs, hct⟩ := ih₂ hbs hbt
    exact ⟨tr₁ ++ tr₂, c, hb.append hc, hcs, hct⟩

/-- The state of the component in a state of the system. -/
structure Contains (proj : σ → σ') (calls : τ → List τ') (P : τ → Prop) (s : TaskState σ τ)
    (a : TaskState σ' τ') : Prop where
  shared : a.shared = proj s.shared
  tasks : a.tasks.Perm (s.tasks.flatMap calls)
  wf : ∀ t ∈ s.tasks, P t

/-- A system whose steps are effects on the component simulates it. `P` is what is known of
every task. -/
theorem simulates_component {proj : σ → σ'} {calls : τ → List τ'} {P : τ → Prop}
    (hstart : ∀ s r, calls (S.start s r) = [] ∧ P (S.start s r))
    (hgo : ∀ s t e s' new, P t → S.advance s t e = some (s', new) → (∀ t' ∈ new, P t') ∧
      Effect T (proj s) (calls t) (proj s') (new.flatMap calls)) :
    S.system.Simulates T.system (Contains proj calls P) := by
  intro s l s' a hstep ha
  obtain ⟨r, rfl, _, rfl⟩ | ⟨e, pre, t, post, shared, new, rfl, htasks, hadv, rfl⟩ :=
    step_cases hstep
  · obtain ⟨hcalls, hP⟩ := hstart s.shared r
    refine ⟨[], a, .nil, ha.shared, ?_, List.forall_mem_cons.mpr ⟨hP, ha.wf⟩⟩
    rw [List.flatMap_cons, hcalls]
    exact ha.tasks
  · have hwf := ha.wf
    have hperm := ha.tasks
    rw [htasks] at hwf hperm
    obtain ⟨hpre, hpost⟩ := List.forall_mem_append.mp hwf
    obtain ⟨ht, hpost⟩ := List.forall_mem_cons.mp hpost
    obtain ⟨hnew, heffect⟩ := hgo _ t e _ new ht hadv
    -- the calls of the other tasks stay as they are
    have hbefore : a.tasks.Perm (calls t ++ (pre.flatMap calls ++ post.flatMap calls)) := by
      rw [List.flatMap_append, List.flatMap_cons] at hperm
      exact hperm.trans (List.perm_append_comm_assoc _ _ _)
    obtain ⟨tr, a', hrun, hshared, hafter⟩ := heffect.run ha.shared hbefore
    refine ⟨tr, a', hrun, hshared, ?_, ?_⟩
    · rw [List.flatMap_append, List.flatMap_append, List.append_assoc]
      exact hafter.trans (List.perm_append_comm_assoc _ _ _)
    · exact List.forall_mem_append.mpr ⟨List.forall_mem_append.mpr ⟨hpre, hnew⟩, hpost⟩

end TaskSystem
