import Mathlib.Data.List.Basic

/-!
# Lists of items in a text

A text of items with separators between them, and lists of numbers where a run of consecutive
numbers counts as one item.
-/

namespace ItemLists

open List

/-! ## Items between separators -/

section Separators

variable {α : Type*} (p : α → Bool)

/-- The parts between separators, as far as there is something in them. -/
def parts (text : List α) : List (List α) := (text.splitOnP p).filter (!·.isEmpty)

/-- A text spells a list of items: separators come first, last and between the items, as many as
there may be, but between two items there is one. -/
inductive Spells : List (List α) → List α → Prop
  | nil : Spells [] []
  | separator {items : List (List α)} {text : List α} (c : α) (hc : p c = true)
    (rest : Spells items text) : Spells items (c :: text)
  | last (item : List α) (hne : item ≠ []) (hitem : ∀ c ∈ item, p c = false) : Spells [item] item
  | item {items : List (List α)} {text : List α} (item : List α) (hne : item ≠ [])
    (hitem : ∀ c ∈ item, p c = false) (c : α) (hc : p c = true) (rest : Spells items text) :
    Spells (item :: items) (item ++ c :: text)

variable {p} {items : List (List α)} {text : List α}

/-- A text that spells items is taken apart into them. -/
theorem Spells.parts_eq (h : Spells p items text) : parts p text = items := by
  induction h with
  | nil => rfl
  | separator c hc _ ih =>
    rw [parts, splitOnP_cons_eq_if_modifyHead, if_pos hc, filter_cons_of_neg (by simp)]
    exact ih
  | last item hne hitem =>
    rw [parts, splitOnP_eq_singleton hitem, filter_cons_of_pos (by simpa using hne)]
    rfl
  | item item hne hitem c hc _ ih =>
    rw [parts, splitOnP_append_cons_of_forall_mem hitem c hc,
      filter_cons_of_pos (by simpa using hne)]
    exact congrArg (item :: ·) ih

/-- Items with one separator between each two of them. -/
theorem spells_intercalate {c : α} (hc : p c = true)
    (h : ∀ item ∈ items, item ≠ [] ∧ ∀ c ∈ item, p c = false) :
    Spells p items ([c].intercalate items) := by
  induction items with
  | nil => exact .nil
  | cons item items ih =>
    obtain ⟨⟨hne, hitem⟩, hitems⟩ := forall_mem_cons.mp h
    cases items with
    | nil =>
      rw [intercalate_singleton]
      exact .last item hne hitem
    | cons next items =>
      rw [intercalate_cons_cons, append_assoc, singleton_append]
      exact .item item hne hitem c hc (ih hitems)

end Separators

/-! ## Runs of numbers -/

/-- A number, and how many follow it without a gap. -/
structure Run where
  first : ℕ
  more : ℕ
  deriving DecidableEq, Repr

namespace Run

def last (run : Run) : ℕ := run.first + run.more

def members (run : Run) : List ℕ := range' run.first (run.more + 1)

/-- The members of a run are a range. -/
theorem members_eq (run : Run) : run.members = range' run.first (run.last + 1 - run.first) := by
  have hlength : run.last + 1 - run.first = run.more + 1 := by
    rw [last]
    omega
  rw [members, hlength]

theorem first_le_last (run : Run) : run.first ≤ run.last := Nat.le_add_right _ _

/-- The members of a run lie between its ends. -/
theorem mem_members {run : Run} {n : ℕ} : n ∈ run.members ↔ run.first ≤ n ∧ n ≤ run.last := by
  rw [members, mem_range'_1, last]
  omega

end Run

/-- A number in front of runs: it joins the first of them, or stands on its own. -/
def prepend (n : ℕ) : List Run → List Run
  | [] => [⟨n, 0⟩]
  | run :: runs => if run.first = n + 1 then ⟨n, run.more + 1⟩ :: runs else ⟨n, 0⟩ :: run :: runs

/-- The runs of a list of numbers, each as long as possible. -/
def compress (ns : List ℕ) : List Run := ns.foldr prepend []

/-- A number in front of the runs is in front of their members. -/
theorem flatMap_prepend (n : ℕ) (runs : List Run) :
    (prepend n runs).flatMap Run.members = n :: runs.flatMap Run.members := by
  cases runs with
  | nil => rfl
  | cons run runs =>
    rw [prepend]
    split
    · next hjoin =>
      rw [flatMap_cons, flatMap_cons, ← cons_append, Run.members, Run.members, hjoin,
        range'_succ]
    · rfl

/-- Compression loses no number, and keeps the order. -/
theorem flatMap_compress (ns : List ℕ) : (compress ns).flatMap Run.members = ns := by
  induction ns with
  | nil => rfl
  | cons n ns ih =>
    change (prepend n (compress ns)).flatMap Run.members = n :: ns
    rw [flatMap_prepend, ih]

example : compress [42, 101, 102, 103, 104, 501] = [⟨42, 0⟩, ⟨101, 3⟩, ⟨501, 0⟩] := by decide

end ItemLists
