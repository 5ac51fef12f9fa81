import Mathlib.Data.List.Basic

/-!
# Walks over a table of nested blocks

A table starts at its header and ends where its own block is closed; blocks inside are counted by
their depth. A line of the table's own level changes the state of the walk, and a line anywhere
deeper does not.
-/

namespace TableWalk

variable {α σ ρ : Type*}

/-- What a walk over lines `α` looks for, and what it does to its state `σ`. -/
structure Walker (α σ ρ : Type*) where
  header : α → Bool
  opens : α → Bool
  closes : α → Bool
  /-- What a line of the table's own level does. -/
  line : σ → α → σ
  /-- What the end of the table does. An error is the result of a walk that stops there. -/
  close : σ → Except ρ σ

/-- Where a walk stands. -/
structure Reader (σ : Type*) where
  state : σ
  inBlock : Bool := false
  depth : ℕ := 0

namespace Walker

variable (w : Walker α σ ρ)

def step (reader : Reader σ) (a : α) : Except ρ (Reader σ) :=
  if w.header a then .ok { reader with inBlock := true, depth := 1 }
  else if !reader.inBlock then .ok reader
  else if w.opens a then .ok { reader with depth := reader.depth + 1 }
  else if w.closes a then
    if reader.depth - 1 = 0 then (w.close reader.state).map fun state => { state }
    else .ok { reader with depth := reader.depth - 1 }
  else if reader.depth ≠ 1 then .ok reader
  else .ok { reader with state := w.line reader.state a }

def run (reader : Reader σ) (lines : List α) : Except ρ (Reader σ) := lines.foldlM w.step reader

/-- Lines that leave every block they open, and those of them that stand in none. -/
inductive Level : List α → List α → Prop
  | nil : Level [] []
  | line {a : α} {lines own : List α} : w.header a = false → w.opens a = false →
      w.closes a = false → Level lines own → Level (a :: lines) (a :: own)
  | block {a b : α} {inner innerOwn lines own : List α} : w.header a = false → w.opens a = true →
      w.header b = false → w.opens b = false → w.closes b = true → Level inner innerOwn →
      Level lines own → Level (a :: (inner ++ b :: lines)) own

variable {w} {reader : Reader σ} {a b : α} {lines lines' own own' : List α}

theorem run_cons : w.run reader (a :: lines) =
    (w.step reader a).bind fun reader => w.run reader lines := List.foldlM_cons

/-- The second half is read on from where the first half has left the reader. -/
theorem run_append : w.run reader (lines ++ lines') =
    (w.run reader lines).bind fun reader => w.run reader lines' := List.foldlM_append

/-- Lines at the reader's own level, one after another, give their own lines in order. -/
theorem Level.append (h : w.Level lines own) (h' : w.Level lines' own') :
    w.Level (lines ++ lines') (own ++ own') := by
  induction h with
  | nil => exact h'
  | line hheader hopens hcloses _ ih => exact .line hheader hopens hcloses ih
  | block hheader hopens hheader' hopens' hcloses hinner _ _ ih =>
    rw [List.cons_append, List.append_assoc, List.cons_append]
    exact .block hheader hopens hheader' hopens' hcloses hinner ih

/-- So do lines that are given item by item. -/
theorem Level.flatMap {β : Type*} {l : List β} {f g : β → List α}
    (h : ∀ x ∈ l, w.Level (f x) (g x)) : w.Level (l.flatMap f) (l.flatMap g) := by
  induction l with
  | nil => exact .nil
  | cons x l ih =>
    obtain ⟨hx, hl⟩ := List.forall_mem_cons.mp h
    exact hx.append (ih hl)

section Step

variable (hin : reader.inBlock = true) (hheader : w.header a = false)
include hin hheader

theorem step_opens (hopens : w.opens a = true) :
    w.step reader a = .ok { reader with depth := reader.depth + 1 } := by
  simp [step, hin, hheader, hopens]

theorem step_closes (hopens : w.opens a = false) (hcloses : w.closes a = true)
    (hdepth : 2 ≤ reader.depth) :
    w.step reader a = .ok { reader with depth := reader.depth - 1 } := by
  have hlevel : reader.depth - 1 ≠ 0 := by omega
  simp [step, hin, hheader, hopens, hcloses, hlevel]

theorem step_close (hopens : w.opens a = false) (hcloses : w.closes a = true)
    (hdepth : reader.depth = 1) :
    w.step reader a = (w.close reader.state).map fun state => { state } := by
  simp [step, hin, hheader, hopens, hcloses, hdepth]

/-- Lines of a deeper block are passed over. -/
theorem step_deep (hopens : w.opens a = false) (hcloses : w.closes a = false)
    (hdepth : 2 ≤ reader.depth) : w.step reader a = .ok reader := by
  have hlevel : reader.depth ≠ 1 := by omega
  simp [step, hin, hheader, hopens, hcloses, hlevel]

/-- A line at the reader's own level is read. -/
theorem step_line (hopens : w.opens a = false) (hcloses : w.closes a = false)
    (hdepth : reader.depth = 1) :
    w.step reader a = .ok { reader with state := w.line reader.state a } := by
  simp [step, hin, hheader, hopens, hcloses, hdepth]

end Step

/-- Inside of a nested block nothing is read. -/
theorem Level.run_deep (h : w.Level lines own) (hin : reader.inBlock = true)
    (hdepth : 2 ≤ reader.depth) : w.run reader lines = .ok reader := by
  induction h generalizing reader with
  | nil => rfl
  | line hheader hopens hcloses _ ih =>
    rw [run_cons, step_deep hin hheader hopens hcloses hdepth]
    exact ih hin hdepth
  | block hheader hopens hheader' hopens' hcloses _ _ ihInner ih =>
    have hdeep : 2 ≤ reader.depth + 1 := by omega
    have hinside := @ihInner { reader with depth := reader.depth + 1 } hin hdeep
    have hback : w.step { reader with depth := reader.depth + 1 } _ = .ok reader :=
      step_closes hin hheader' hopens' hcloses hdeep
    rw [run_cons, step_opens hin hheader hopens, Except.bind, run_append, hinside, Except.bind,
      run_cons, hback]
    exact ih hin hdepth

/-- On the table's own level the lines that stand in no nested block are read. -/
theorem Level.run_own (h : w.Level lines own) (hin : reader.inBlock = true)
    (hdepth : reader.depth = 1) :
    w.run reader lines = .ok { reader with state := own.foldl w.line reader.state } := by
  induction h generalizing reader with
  | nil => rfl
  | line hheader hopens hcloses _ ih =>
    rw [run_cons, step_line hin hheader hopens hcloses hdepth]
    exact ih hin hdepth
  | block hheader hopens hheader' hopens' hcloses hinner _ _ ih =>
    have hdeep : 2 ≤ reader.depth + 1 := by omega
    have hinside : w.run { reader with depth := reader.depth + 1 } _ = .ok _ :=
      hinner.run_deep hin hdeep
    have hback : w.step { reader with depth := reader.depth + 1 } _ = .ok reader :=
      step_closes hin hheader' hopens' hcloses hdeep
    rw [run_cons, step_opens hin hheader hopens, Except.bind, run_append, hinside, Except.bind,
      run_cons, hback]
    exact ih hin hdepth

/-- A table from its header to its end. -/
theorem Level.run_table (h : w.Level lines own) (hheader : w.header a = true)
    (hheader' : w.header b = false) (hopens : w.opens b = false) (hcloses : w.closes b = true) :
    w.run reader (a :: (lines ++ [b])) =
      (w.close (own.foldl w.line reader.state)).map fun state => { state } := by
  have hstart : w.step reader a = .ok { reader with inBlock := true, depth := 1 } := by
    rw [step, if_pos hheader]
  rw [run_cons, hstart, Except.bind, run_append, h.run_own rfl rfl, Except.bind, run_cons,
    step_close rfl hheader' hopens hcloses rfl]
  cases w.close (own.foldl w.line reader.state) <;> rfl

end Walker

end TableWalk
