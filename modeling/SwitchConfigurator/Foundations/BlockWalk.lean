import Mathlib.Data.List.Basic
import Mathlib.Data.Option.Basic
import Mathlib.Tactic.Push

/-!
# Walks over a text of blocks

A walk goes through lines. A line may open a block, which then takes the lines up to the first one
that ends it; that line goes with the block, and the walk goes on after it. A text is written as
blocks of which each may or may not end in a line of its own, and the walk reads the blocks as they
were written only under a condition on what follows the blocks that have no such line.
-/

namespace BlockWalk

variable {α β : Type*}

/-- What a walk over lines `α` looks for, and what it makes of it. -/
structure Walker (α β : Type*) where
  /-- The block that a line opens. -/
  opens : α → Option β
  /-- What a line inside of a block adds to it. -/
  line : β → α → β
  ends : α → Bool
  /-- The lines that are written to end a block. -/
  exits : α → Bool
  /-- What a line outside of blocks says. -/
  glance : α → List β
  ends_of_exits : ∀ {line}, exits line = true → ends line = true
  opens_of_exits : ∀ {line}, exits line = true → opens line = none

/-- What a walk finds: a line by itself, or a block with the line that ended it. -/
inductive Piece (α β : Type*) where
  | line (line : α)
  | block (block : β) (stop : Option α)
  deriving DecidableEq, Repr

/-- The line that a piece was ended by. -/
def Piece.stop : Piece α β → Option α
  | .line _ => none
  | .block _ stop => stop

namespace Walker

variable (w : Walker α β)

/-- The walk, with the block that is open. -/
@[grind =] def walk : Option β → List α → List (Piece α β)
  | none, [] => []
  | some block, [] => [.block block none]
  | none, line :: rest =>
    match w.opens line with
    | some block => walk (some block) rest
    | none => .line line :: walk none rest
  | some block, line :: rest =>
    if w.ends line then .block block (some line) :: walk none rest
    else walk (some (w.line block line)) rest

def found : Piece α β → List β
  | .line line => w.glance line
  | .block block _ => [block]

/-- What a walk reads, in order. -/
def readings (lines : List α) : List β := (w.walk none lines).flatMap w.found

end Walker

/-- A block as it is written. -/
structure Block (w : Walker α β) where
  header : α
  body : List α := []
  /-- The line that ends it, if there is one. -/
  closing : Option α := none
  header_exits : w.exits header = false
  body_ends : ∀ line ∈ body, w.ends line = false
  body_opens : ∀ line ∈ body, w.opens line = none
  closing_exits : ∀ line ∈ closing, w.exits line = true

variable {w : Walker α β}

namespace Block

def inner (b : Block w) : List α := b.header :: b.body

def lines (b : Block w) : List α := b.inner ++ b.closing.toList

/-- What the walk makes of a header that opens a block and of the lines inside. -/
def taken (b : Block w) : Option β := (w.opens b.header).map (b.body.foldl w.line)

/-- What the block says when it is all there is. -/
def own (b : Block w) : List β := w.readings b.lines

end Block

/-- A text of blocks. -/
def text (blocks : List (Block w)) : List α := blocks.flatMap Block.lines

/-- The blocks up to the first line that is written to end one, that line's block included. -/
def upToExit : List (Block w) → List (Block w)
  | [] => []
  | b :: rest => b :: if b.closing.isSome then [] else upToExit rest

/-- The blocks after them. -/
def afterExit : List (Block w) → List (Block w)
  | [] => []
  | b :: rest => if b.closing.isSome then rest else afterExit rest

/-- No header ends another block, and what the blocks say is read from the text. -/
structure Lossless (blocks : List (Block w)) : Prop where
  stops : ∀ piece ∈ w.walk none (text blocks), ∀ stop ∈ piece.stop, w.exits stop = true
  readings : w.readings (text blocks) = blocks.flatMap Block.own

/-- A block that takes the lines of the blocks after it, up to an exit, loses nothing by it. -/
structure Harmless (b : Block w) (after : List (Block w)) : Prop where
  header : ∀ other ∈ upToExit after, w.ends other.header = false
  silent : ∀ other ∈ upToExit after, other.own = []
  unchanged : ∀ block ∈ b.taken,
    ((upToExit after).flatMap Block.inner).foldl w.line block = block

/-- Every block that has no end of its own is harmless. -/
def Intact (blocks : List (Block w)) : Prop :=
  ∀ before b after, blocks = before ++ b :: after → b.taken.isSome = true → b.closing = none →
    Harmless b after

/-! ## The walk over blocks -/

section Walk

variable {block : β} {lines rest : List α} {b : Block w} {blocks after : List (Block w)}

/-- A walk in a block finds that block, whatever its lines add to it. -/
theorem exists_block_of_open {P : β → Prop} (hline : ∀ block line, P block → P (w.line block line))
    (h : P block) : ∃ found stop, .block found stop ∈ w.walk (some block) lines ∧ P found := by
  induction lines generalizing block with
  | nil => exact ⟨block, none, List.mem_cons_self, h⟩
  | cons line lines ih =>
    rw [Walker.walk]
    split
    · exact ⟨block, some line, List.mem_cons_self, h⟩
    · exact ih (hline block line h)

/-- Where a line opens a block, something is read that a block was made of. -/
theorem exists_reading_of_opens {P : β → Prop}
    (hopens : ∀ line, ∀ block ∈ w.opens line, P block)
    (hline : ∀ block line, P block → P (w.line block line))
    (h : ∃ line ∈ lines, (w.opens line).isSome = true) :
    ∃ found ∈ w.readings lines, P found := by
  have hfound : ∃ found stop, .block found stop ∈ w.walk none lines ∧ P found := by
    induction lines with
    | nil =>
      obtain ⟨line, hmem, -⟩ := h
      cases hmem
    | cons line lines ih =>
      rw [Walker.walk]
      cases hopen : w.opens line with
      | some block => exact exists_block_of_open hline (hopens line block hopen)
      | none =>
        obtain ⟨found, stop, hmem, hP⟩ := ih (by simpa [hopen] using h)
        exact ⟨found, stop, List.mem_cons_of_mem _ hmem, hP⟩
  obtain ⟨found, stop, hmem, hP⟩ := hfound
  exact ⟨found, List.mem_flatMap_of_mem hmem List.mem_cons_self, hP⟩

/-- Lines between blocks are passed over. -/
theorem walk_append_of_opens (h : ∀ line ∈ lines, w.opens line = none) :
    w.walk none (lines ++ rest) = lines.map .line ++ w.walk none rest := by
  induction lines with
  | nil => rfl
  | cons line lines ih =>
    obtain ⟨hline, hlines⟩ := List.forall_mem_cons.mp h
    rw [List.cons_append, Walker.walk, hline]
    exact congrArg (Piece.line line :: ·) (ih hlines)

/-- Lines of an open block are taken into it. -/
theorem walk_append_of_ends (h : ∀ line ∈ lines, w.ends line = false) :
    w.walk (some block) (lines ++ rest) = w.walk (some (lines.foldl w.line block)) rest := by
  induction lines generalizing block with
  | nil => rfl
  | cons line lines ih =>
    obtain ⟨hline, hlines⟩ := List.forall_mem_cons.mp h
    rw [List.cons_append, Walker.walk, hline, if_neg Bool.false_ne_true, ih hlines, List.foldl_cons]

/-- A walk goes on after a line that ends the open block. -/
theorem walk_ends {line : α} (h : w.ends line = true) :
    w.walk (some block) (line :: rest) = .block block (some line) :: w.walk none rest := by
  rw [Walker.walk, h, if_pos rfl]

/-- A block that is taken is walked up to its closing line, if it has one. -/
theorem walk_lines_of_taken (h : b.taken = some block) :
    w.walk none (b.lines ++ rest) = w.walk (some block) (b.closing.toList ++ rest) := by
  obtain ⟨start, hstart, rfl⟩ := Option.map_eq_some_iff.mp h
  rw [Block.lines, Block.inner, List.append_assoc, List.cons_append, Walker.walk, hstart]
  exact walk_append_of_ends b.body_ends

/-- A block with a closing line gives its reading and leaves none open. -/
theorem walk_lines_of_closing {line : α} (h : b.taken = some block) (hline :
    b.closing = some line) :
    w.walk none (b.lines ++ rest) = .block block (some line) :: w.walk none rest := by
  rw [walk_lines_of_taken h, hline]
  exact walk_ends (w.ends_of_exits (b.closing_exits line hline))

/-- A block that is not taken gives its lines only. -/
theorem walk_lines_of_not_taken (h : b.taken = none) :
    w.walk none (b.lines ++ rest) = b.lines.map .line ++ w.walk none rest := by
  refine walk_append_of_opens fun line hline => ?_
  rcases List.mem_append.mp hline with hinner | hclosing
  · rcases List.mem_cons.mp hinner with rfl | hbody
    · exact Option.map_eq_none_iff.mp h
    · exact b.body_opens line hbody
  · exact w.opens_of_exits (b.closing_exits line (Option.mem_toList.mp hclosing))

/-- The pieces of a block that is all there is. -/
theorem walk_lines : w.walk none b.lines =
    match b.taken with
    | some block => [.block block b.closing]
    | none => b.lines.map .line := by
  rw [← List.append_nil b.lines]
  cases h : b.taken with
  | none =>
    rw [walk_lines_of_not_taken h, List.append_nil]
    exact List.append_nil _
  | some block =>
    cases hclosing : b.closing with
    | none => rw [walk_lines_of_taken h, hclosing]; rfl
    | some line => rw [walk_lines_of_closing h hclosing]; rfl

/-- A block that is closed, or that does not take its lines together, is walked by itself. -/
theorem walk_lines_append (h : b.taken.isSome = true → b.closing ≠ none) :
    w.walk none (b.lines ++ rest) = w.walk none b.lines ++ w.walk none rest := by
  rw [walk_lines]
  cases htaken : b.taken with
  | none => rw [walk_lines_of_not_taken htaken]
  | some block =>
    rw [htaken] at h
    obtain ⟨line, hline⟩ := Option.ne_none_iff_exists'.mp (h rfl)
    rw [hline, walk_lines_of_closing htaken hline]
    rfl

/-- A block that is taken reads as itself. -/
theorem own_of_taken (h : b.taken = some block) : b.own = [block] := by
  rw [Block.own, Walker.readings, walk_lines, h]
  rfl

/-- Only a line that was written to end a block ends one that is all there is. -/
theorem exits_of_mem_walk_lines {piece : Piece α β} (h : piece ∈ w.walk none b.lines) {stop : α}
    (hstop : stop ∈ piece.stop) : w.exits stop = true := by
  rw [walk_lines] at h
  split at h
  · rw [List.mem_singleton] at h
    subst h
    exact b.closing_exits stop hstop
  · obtain ⟨line, -, rfl⟩ := List.mem_map.mp h
    cases hstop

/-- An open block takes the lines of the blocks up to an exit, if none of their headers ends it. -/
theorem walk_upToExit (h : ∀ other ∈ upToExit after, w.ends other.header = false) (block : β) :
    ∃ stop : Option α, (∀ line ∈ stop, w.exits line = true) ∧
      w.walk (some block) (text after) =
        .block (((upToExit after).flatMap Block.inner).foldl w.line block) stop ::
          w.walk none (text (afterExit after)) := by
  induction after generalizing block with
  | nil => exact ⟨none, nofun, rfl⟩
  | cons b after ih =>
    obtain ⟨hb, hafter⟩ := List.forall_mem_cons.mp h
    have hinner : ∀ line ∈ b.inner, w.ends line = false := by
      rw [Block.inner, List.forall_mem_cons]
      exact ⟨hb, b.body_ends⟩
    have htext : text (b :: after) = b.inner ++ (b.closing.toList ++ text after) := by
      rw [text, List.flatMap_cons, Block.lines, List.append_assoc]
      rfl
    rw [htext, walk_append_of_ends hinner, upToExit, afterExit, List.flatMap_cons,
      List.foldl_append]
    cases hclosing : b.closing with
    | some line =>
      have hline := b.closing_exits line hclosing
      refine ⟨some line, by simpa using hline, ?_⟩
      rw [Option.toList_some, List.singleton_append, walk_ends (w.ends_of_exits hline)]
      rfl
    | none =>
      rw [hclosing] at hafter
      exact ih hafter _

/-- An open block is ended by a header, where one comes before the next exit. -/
theorem exists_stop_of_header (h : ∃ other ∈ upToExit after, w.ends other.header = true)
    (block : β) : ∃ piece ∈ w.walk (some block) (text after), ∃ stop ∈ piece.stop,
      w.exits stop = false := by
  induction after generalizing block with
  | nil =>
    obtain ⟨other, hmem, -⟩ := h
    cases hmem
  | cons b after ih =>
    have htext : text (b :: after) = b.header :: (b.body ++ (b.closing.toList ++ text after)) := by
      rw [text, List.flatMap_cons, Block.lines, Block.inner, List.append_assoc]
      rfl
    rw [htext]
    by_cases hb : w.ends b.header = true
    · rw [walk_ends hb]
      exact ⟨_, List.mem_cons_self, b.header, rfl, b.header_exits⟩
    · obtain ⟨other, hmem, hother⟩ := h
      rw [upToExit, List.mem_cons] at hmem
      rcases hmem with rfl | hmem
      · exact absurd hother hb
      · -- the block is not closed, since its lines are not the last that are taken
        cases hclosing : b.closing with
        | some line => simp [hclosing] at hmem
        | none =>
          rw [hclosing] at hmem
          rw [Walker.walk, if_neg hb, walk_append_of_ends b.body_ends]
          exact ih ⟨other, hmem, hother⟩ _

end Walk

/-! ## What is lost -/

section Lossless

variable {block : β} {b : Block w} {blocks after : List (Block w)}

/-- The text is cut in two at the first exit. -/
theorem upToExit_append_afterExit : upToExit after ++ afterExit after = after := by
  induction after with
  | nil => rfl
  | cons b after ih =>
    rw [upToExit, afterExit]
    cases b.closing.isSome with
    | true => rfl
    | false => exact congrArg (b :: ·) ih

theorem length_afterExit_le : (afterExit after).length ≤ after.length := by
  have h := congrArg List.length (@upToExit_append_afterExit _ _ _ after)
  rw [List.length_append] at h
  omega

/-- Texts of blocks, by the block that the walk takes next. -/
theorem text_induction {P : List (Block w) → Prop} (nil : P [])
    (apart : ∀ b after, (b.taken.isSome = true → b.closing ≠ none) → P after → P (b :: after))
    (taking : ∀ b block after, b.taken = some block → b.closing = none → P (afterExit after) →
      P (b :: after)) (blocks : List (Block w)) : P blocks := by
  induction hn : blocks.length using Nat.strongRecOn generalizing blocks with
  | ind n ih =>
    cases blocks with
    | nil => exact nil
    | cons b after =>
      rw [List.length_cons] at hn
      by_cases h : b.taken.isSome = true → b.closing ≠ none
      · exact apart b after h (ih _ (by omega) after rfl)
      · rw [Classical.not_imp, not_not] at h
        obtain ⟨block, hblock⟩ := Option.isSome_iff_exists.mp h.1
        have hle := @length_afterExit_le _ _ _ after
        exact taking b block after hblock h.2 (ih _ (by omega) _ rfl)

/-- A block that does not stay open is walked alone. -/
theorem walk_text_cons (h : b.taken.isSome = true → b.closing ≠ none) :
    w.walk none (text (b :: after)) = w.walk none b.lines ++ w.walk none (text after) := by
  rw [text, List.flatMap_cons]
  exact walk_lines_append h

/-- A block that stays open takes in what comes behind it. -/
theorem walk_text_taking (h : b.taken = some block) (hclosing : b.closing = none) :
    w.walk none (text (b :: after)) = w.walk (some block) (text after) := by
  rw [text, List.flatMap_cons, walk_lines_of_taken h, hclosing]
  rfl

/-- The readings behind a block that does not stay open are those without it. -/
theorem readings_text_cons (h : b.taken.isSome = true → b.closing ≠ none) :
    w.readings (text (b :: after)) = b.own ++ w.readings (text after) := by
  rw [Walker.readings, walk_text_cons h, List.flatMap_append]
  rfl

/-- Nothing is read twice. -/
theorem length_readings_le (blocks : List (Block w))
    (h : ∀ piece ∈ w.walk none (text blocks), ∀ stop ∈ piece.stop, w.exits stop = true) :
    (w.readings (text blocks)).length ≤ (blocks.flatMap Block.own).length := by
  induction blocks using text_induction with
  | nil => exact Nat.le_refl 0
  | apart b after happart ih =>
    rw [walk_text_cons happart, List.forall_mem_append] at h
    rw [readings_text_cons happart, List.flatMap_cons, List.length_append, List.length_append]
    exact Nat.add_le_add_left (ih h.2) _
  | taking b block after htaken hclosing ih =>
    have hwalk := @walk_text_taking _ _ _ _ _ after htaken hclosing
    by_cases hheader : ∃ other ∈ upToExit after, w.ends other.header = true
    · obtain ⟨piece, hpiece, stop, hstop, hexits⟩ := exists_stop_of_header hheader block
      rw [← hwalk] at hpiece
      exact absurd ((h piece hpiece stop hstop).symm.trans hexits) nofun
    · push Not at hheader
      simp only [ne_eq, Bool.not_eq_true] at hheader
      obtain ⟨stop, -, hrest⟩ := walk_upToExit hheader block
      rw [hwalk, hrest, List.forall_mem_cons] at h
      have hle := ih h.2
      have hsplit := congrArg (fun l => (l.flatMap Block.own).length)
        (@upToExit_append_afterExit _ _ _ after)
      simp only [List.flatMap_append, List.length_append] at hsplit
      rw [Walker.readings, hwalk, hrest, List.flatMap_cons, List.flatMap_cons,
        List.length_append, List.length_append, own_of_taken htaken]
      show 1 + (w.readings (text (afterExit after))).length ≤ _
      rw [List.length_singleton]
      omega

/-- A text is intact if its first block does no harm where it stays open, and the rest is. -/
theorem intact_cons : Intact (b :: after) ↔
    (b.taken.isSome = true → b.closing = none → Harmless b after) ∧ Intact after := by
  constructor
  · intro h
    refine ⟨h [] b after rfl, fun before other rest heq => h (b :: before) other rest ?_⟩
    rw [heq, List.cons_append]
  · rintro ⟨hb, hafter⟩ before other rest heq
    cases before with
    | nil =>
      obtain ⟨rfl, rfl⟩ := List.cons_eq_cons.mp heq
      exact hb
    | cons first before =>
      obtain ⟨-, rfl⟩ := List.cons_eq_cons.mp heq
      exact hafter before other rest rfl

/-- Blocks that are not taken make no difference. -/
theorem intact_append (h : ∀ b ∈ blocks, b.taken = none) :
    Intact (blocks ++ after) ↔ Intact after := by
  induction blocks with
  | nil => rfl
  | cons b blocks ih =>
    obtain ⟨hb, hblocks⟩ := List.forall_mem_cons.mp h
    rw [List.cons_append, intact_cons, ih hblocks]
    simp [hb]

/-- A block that reads as nothing is not taken. -/
theorem taken_of_own (h : b.own = []) : b.taken = none := by
  cases htaken : b.taken with
  | none => rfl
  | some block =>
    rw [own_of_taken htaken] at h
    cases h

/-- A block that does not stay open loses nothing. -/
theorem lossless_cons (h : b.taken.isSome = true → b.closing ≠ none) :
    Lossless (b :: after) ↔ Lossless after := by
  constructor
  · rintro ⟨hstops, hreadings⟩
    rw [walk_text_cons h, List.forall_mem_append] at hstops
    rw [readings_text_cons h, List.flatMap_cons, List.append_right_inj] at hreadings
    exact ⟨hstops.2, hreadings⟩
  · rintro ⟨hstops, hreadings⟩
    refine ⟨?_, ?_⟩
    · rw [walk_text_cons h, List.forall_mem_append]
      exact ⟨fun piece hpiece stop hstop => exits_of_mem_walk_lines hpiece hstop, hstops⟩
    · rw [readings_text_cons h, List.flatMap_cons, hreadings]

/-- A block that takes the lines of others costs them nothing only if it is harmless: what it costs
is not made up for later. -/
theorem lossless_taking (htaken : b.taken = some block) (hclosing : b.closing = none) :
    Lossless (b :: after) ↔ Harmless b after ∧ Lossless (afterExit after) := by
  have hwalk := @walk_text_taking _ _ _ _ _ after htaken hclosing
  have hown : (b :: after).flatMap Block.own = block ::
      ((upToExit after).flatMap Block.own ++ (afterExit after).flatMap Block.own) := by
    rw [List.flatMap_cons, own_of_taken htaken, ← List.flatMap_append, upToExit_append_afterExit]
    rfl
  by_cases hheader : ∃ other ∈ upToExit after, w.ends other.header = true
  · constructor
    · rintro ⟨hstops, -⟩
      obtain ⟨piece, hpiece, stop, hstop, hexits⟩ := exists_stop_of_header hheader block
      rw [← hwalk] at hpiece
      exact absurd ((hstops piece hpiece stop hstop).symm.trans hexits) nofun
    · rintro ⟨hharmless, -⟩
      obtain ⟨other, hmem, hends⟩ := hheader
      exact absurd ((hharmless.header other hmem).symm.trans hends) nofun
  · push Not at hheader
    simp only [ne_eq, Bool.not_eq_true] at hheader
    obtain ⟨stop, hstop, hrest⟩ := walk_upToExit hheader block
    have hreadings : w.readings (text (b :: after)) =
        ((upToExit after).flatMap Block.inner).foldl w.line block ::
          w.readings (text (afterExit after)) := by
      rw [Walker.readings, hwalk, hrest]
      rfl
    constructor
    · rintro ⟨hstops, hsame⟩
      rw [hwalk, hrest, List.forall_mem_cons] at hstops
      rw [hreadings, hown, List.cons.injEq] at hsame
      -- the rest says no more than its own blocks do, so those that were taken say nothing
      have hlength := congrArg List.length hsame.2
      have hle := length_readings_le (afterExit after) hstops.2
      rw [List.length_append] at hlength
      have hsilent : (upToExit after).flatMap Block.own = [] :=
        List.eq_nil_of_length_eq_zero (by omega)
      refine ⟨⟨hheader, List.flatMap_eq_nil_iff.mp hsilent, ?_⟩, hstops.2, ?_⟩
      · rw [htaken]
        rintro _ ⟨⟩
        exact hsame.1
      · rw [hsame.2, hsilent, List.nil_append]
    · rintro ⟨hharmless, hlossless⟩
      refine ⟨?_, ?_⟩
      · rw [hwalk, hrest, List.forall_mem_cons]
        exact ⟨hstop, hlossless.stops⟩
      · rw [hreadings, hown, hharmless.unchanged block htaken,
          List.flatMap_eq_nil_iff.mpr hharmless.silent, hlossless.readings, List.nil_append]

/-- Nothing is lost exactly if each block that has no end of its own is harmless. -/
theorem lossless_iff (blocks : List (Block w)) : Lossless blocks ↔ Intact blocks := by
  induction blocks using text_induction with
  | nil =>
    refine ⟨fun _ before b after heq => ?_, fun _ => ⟨fun piece hpiece => ?_, rfl⟩⟩
    · exact absurd heq (by simp)
    · cases hpiece
  | apart b after happart ih =>
    rw [lossless_cons happart, intact_cons, ih, iff_and_self]
    exact fun _ htaken hclosing => absurd hclosing (happart htaken)
  | taking b block after htaken hclosing ih =>
    have hblocks := @upToExit_append_afterExit _ _ _ after
    rw [lossless_taking htaken hclosing, intact_cons, ih]
    constructor
    · rintro ⟨hharmless, hintact⟩
      refine ⟨fun _ _ => hharmless, ?_⟩
      rw [← hblocks]
      exact (intact_append fun other hmem => taken_of_own (hharmless.silent other hmem)).mpr
        hintact
    · rintro ⟨hharmless, hintact⟩
      have hb := hharmless (Option.isSome_iff_exists.mpr ⟨block, htaken⟩) hclosing
      rw [← hblocks] at hintact
      exact ⟨hb, (intact_append fun other hmem =>
        taken_of_own (hb.silent other hmem)).mp hintact⟩

end Lossless

end BlockWalk
