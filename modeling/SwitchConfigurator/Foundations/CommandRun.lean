import Mathlib.Data.List.Basic

/-!
# Runs of commands

A device that takes every command in every state: where a sequence of commands leads, and what
holds each time a command is taken.
-/

namespace Cli

section Run

variable {σ κ ω : Type*} {step : κ → σ → σ} {ok : κ → σ → Prop} {s : σ} {command : κ}
variable {commands commands' : List κ}

def run (step : κ → σ → σ) (s : σ) (commands : List κ) : σ :=
  commands.foldl (fun s command => step command s) s

/-- Each command is taken in a state that allows it. -/
def Guarded (step : κ → σ → σ) (ok : κ → σ → Prop) : σ → List κ → Prop
  | _, [] => True
  | s, command :: commands => ok command s ∧ Guarded step ok (step command s) commands

@[simp] theorem run_nil : run step s [] = s := rfl

@[simp] theorem run_cons : run step s (command :: commands) = run step (step command s) commands :=
  rfl

/-- The second half runs on what the first half has left. -/
@[simp] theorem run_append :
    run step s (commands ++ commands') = run step (run step s commands) commands' :=
  List.foldl_append

/-- A run of pieces is a run of the pieces' runs. -/
theorem run_flatMap {α : Type*} {f : α → List κ} {l : List α} :
    run step s (l.flatMap f) = run (fun a s => run step s (f a)) s l := by
  induction l generalizing s with
  | nil => rfl
  | cons a l ih => rw [List.flatMap_cons, run_append, ih, run_cons]

@[simp] theorem guarded_nil : Guarded step ok s [] := trivial

@[simp] theorem guarded_cons : Guarded step ok s (command :: commands) ↔
    ok command s ∧ Guarded step ok (step command s) commands := Iff.rfl

/-- The second half is guarded in the state that the first half has left. -/
@[simp] theorem guarded_append : Guarded step ok s (commands ++ commands') ↔
    Guarded step ok s commands ∧ Guarded step ok (run step s commands) commands' := by
  induction commands generalizing s with
  | nil => simp
  | cons command commands ih => rw [List.cons_append, guarded_cons, guarded_cons, ih, and_assoc,
      run_cons]

/-- Commands that every state allows. -/
theorem guarded_of_forall (h : ∀ command ∈ commands, ∀ s, ok command s) :
    Guarded step ok s commands := by
  induction commands generalizing s with
  | nil => trivial
  | cons command commands ih =>
    obtain ⟨hcommand, hcommands⟩ := List.forall_mem_cons.mp h
    exact ⟨hcommand s, ih hcommands⟩

/-- Commands that keep what they are judged by are judged where the run starts. -/
theorem guarded_iff_of_view {view : σ → ω} {p : κ → ω → Prop}
    (hview : ∀ command ∈ commands, ∀ s, view (step command s) = view s)
    (hok : ∀ command ∈ commands, ∀ s, ok command s ↔ p command (view s)) :
    Guarded step ok s commands ↔ ∀ command ∈ commands, p command (view s) := by
  induction commands generalizing s with
  | nil => simp
  | cons command commands ih =>
    obtain ⟨hfirst, hrest⟩ := List.forall_mem_cons.mp hview
    obtain ⟨hok, hoks⟩ := List.forall_mem_cons.mp hok
    rw [guarded_cons, ih hrest hoks, hok, hfirst, List.forall_mem_cons]

/-- Commands that do nothing leave the state as it was. -/
theorem run_eq_self (h : ∀ command ∈ commands, ∀ s, step command s = s) :
    run step s commands = s := by
  induction commands generalizing s with
  | nil => rfl
  | cons command commands ih =>
    obtain ⟨hfirst, hrest⟩ := List.forall_mem_cons.mp h
    rw [run_cons, hfirst, ih hrest]

/-- Of commands that are each there once, only one does anything. -/
theorem run_eq_step (hnodup : commands.Nodup) (hmem : command ∈ commands)
    (h : ∀ other ∈ commands, other ≠ command → ∀ s, step other s = s) :
    run step s commands = step command s := by
  induction commands generalizing s with
  | nil => cases hmem
  | cons first commands ih =>
    obtain ⟨hfirst, hnodup⟩ := List.nodup_cons.mp hnodup
    obtain ⟨hother, hothers⟩ := List.forall_mem_cons.mp h
    rw [run_cons]
    by_cases heq : command = first
    · subst heq
      -- none of those that follow is the one
      exact run_eq_self fun other hmem => hothers other hmem fun heq => hfirst (heq ▸ hmem)
    · rw [hother (Ne.symm heq)]
      exact ih hnodup ((List.mem_cons.mp hmem).resolve_left heq) hothers

/-- What every command preserves, the run preserves. -/
theorem run_invariant {inv : σ → Prop}
    (hstep : ∀ command ∈ commands, ∀ s, inv s → inv (step command s)) (h : inv s) :
    inv (run step s commands) := by
  induction commands generalizing s with
  | nil => exact h
  | cons command commands ih =>
    obtain ⟨hfirst, hrest⟩ := List.forall_mem_cons.mp hstep
    exact ih hrest (hfirst s h)

end Run

end Cli
