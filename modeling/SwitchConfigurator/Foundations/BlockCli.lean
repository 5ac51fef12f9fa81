import Mathlib.Data.List.Infix
import SwitchConfigurator.Foundations.CliText

/-!
# Block-structured command lines

A command language of nested tables: `config` opens a table, `edit` an entry of it, `set`, `unset`
and `delete` act where the lines before them lead, and `next` and `end` lead back. Where a line
acts does not depend on what is stored, so a run is a list of effects that are applied in order.
-/

namespace Cli

inductive Line where
  | config (table : String)
  | edit (key : Arg)
  | set (field : String) (args : List Arg)
  | unset (field : String)
  | delete (key : String)
  | next
  /-- Written `end`. -/
  | close
  deriving DecidableEq, Repr

def Line.words : Line → List Arg
  | config table => [.bare "config", .bare table]
  | edit key => [.bare "edit", key]
  | set field args => .bare "set" :: .bare field :: args
  | unset field => [.bare "unset", .bare field]
  | delete key => [.bare "delete", .bare key]
  | next => [.bare "next"]
  | close => [.bare "end"]

def Line.text (line : Line) : String := render line.words

/-- A table that is opened, worked in and closed. -/
def block (table : String) (body : List Line) : List Line :=
  .config table :: (body ++ [.close])

/-- An entry that is opened, worked in and left. -/
def entry (key : Arg) (body : List Line) : List Line := .edit key :: (body ++ [.next])

/-! ## Where lines act -/

/-- A table that is open, and the entry of it that is. -/
structure Frame where
  table : String
  entry : Option String
  deriving DecidableEq, Repr

/-- The tables and keys that lead to an entry, the innermost one first. -/
abbrev Location := List (String × String)

/-- Where the open entries lead; none where a table is open and no entry of it. -/
def location : List Frame → Option Location
  | [] => some []
  | ⟨table, some key⟩ :: frames => (location frames).map ((table, key) :: ·)
  | ⟨_, none⟩ :: _ => none

/-- The tables that are open after a line. -/
def Line.enter : Line → List Frame → List Frame
  | config table, frames => ⟨table, none⟩ :: frames
  | edit key, ⟨table, _⟩ :: frames => ⟨table, some key.value⟩ :: frames
  | next, ⟨table, _⟩ :: frames => ⟨table, none⟩ :: frames
  | close, _ :: frames => frames
  | _, frames => frames

def enter (frames : List Frame) (lines : List Line) : List Frame :=
  lines.foldl (fun frames line => line.enter frames) frames

/-- What a line does to what is stored. -/
inductive Effect where
  | create (loc : Location)
  | assign (loc : Location) (field : String) (args : List Arg)
  | clear (loc : Location) (field : String)
  | remove (loc : Location)
  deriving DecidableEq, Repr

def Effect.loc : Effect → Location
  | create loc => loc
  | assign loc _ _ => loc
  | clear loc _ => loc
  | remove loc => loc

/-- The effect of a line; it has none where it does not fit what is open. -/
def Line.effect : Line → List Frame → List Effect
  | edit key, ⟨table, _⟩ :: frames =>
    (location frames).toList.map fun loc => .create ((table, key.value) :: loc)
  | set field args, frames => (location frames).toList.map fun loc => .assign loc field args
  | unset field, frames => (location frames).toList.map fun loc => .clear loc field
  | delete key, ⟨table, none⟩ :: frames =>
    (location frames).toList.map fun loc => .remove ((table, key) :: loc)
  | _, _ => []

def effects : List Frame → List Line → List Effect
  | _, [] => []
  | frames, line :: lines => line.effect frames ++ effects (line.enter frames) lines

section Effects

variable {frames : List Frame} {line : Line} {lines lines' : List Line}

@[simp] theorem enter_nil : enter frames [] = frames := rfl

@[simp] theorem enter_cons : enter frames (line :: lines) = enter (line.enter frames) lines := rfl

@[simp] theorem enter_append :
    enter frames (lines ++ lines') = enter (enter frames lines) lines' := by
  rw [enter, List.foldl_append]
  rfl

@[simp] theorem effects_nil : effects frames [] = [] := rfl

theorem effects_cons :
    effects frames (line :: lines) = line.effect frames ++ effects (line.enter frames) lines := rfl

/-- The second half acts in the frames that the first one has left open. -/
@[simp] theorem effects_append : effects frames (lines ++ lines') =
    effects frames lines ++ effects (enter frames lines) lines' := by
  induction lines generalizing frames with
  | nil => rfl
  | cons line lines ih =>
    rw [List.cons_append, effects_cons, effects_cons, ih, List.append_assoc]
    rfl

/-- Pieces that each lead back to where they start act one by one. -/
theorem effects_flatMap {α : Type*} {f : α → List Line} {l : List α}
    (h : ∀ a ∈ l, enter frames (f a) = frames) :
    effects frames (l.flatMap f) = l.flatMap fun a => effects frames (f a) := by
  induction l with
  | nil => rfl
  | cons a l ih =>
    obtain ⟨ha, hl⟩ := List.forall_mem_cons.mp h
    rw [List.flatMap_cons, effects_append, ha, ih hl, List.flatMap_cons]

/-- Parts that each lead back to where they started do so one after another. -/
theorem enter_flatMap {α : Type*} {f : α → List Line} {l : List α}
    (h : ∀ a ∈ l, enter frames (f a) = frames) : enter frames (l.flatMap f) = frames := by
  induction l with
  | nil => rfl
  | cons a l ih =>
    obtain ⟨ha, hl⟩ := List.forall_mem_cons.mp h
    rw [List.flatMap_cons, enter_append, ha, ih hl]

/-- A line has one effect at most. -/
theorem Line.effect_eq_singleton {effect : Effect} (h : effect ∈ line.effect frames) :
    line.effect frames = [effect] := by
  have hone {o : Option Location} {f : Location → Effect} (h : effect ∈ o.toList.map f) :
      o.toList.map f = [effect] := by
    cases o with
    | none => cases h
    | some loc => rw [Option.toList_some, List.map_singleton, List.mem_singleton.mp h]
  cases frames with
  | nil =>
    cases line with
    | set _ _ => exact hone h
    | unset _ => exact hone h
    | _ => cases h
  | cons frame frames =>
    obtain ⟨table, entry⟩ := frame
    cases line with
    | edit _ => exact hone h
    | set _ _ => exact hone h
    | unset _ => exact hone h
    | delete _ => cases entry with
      | some _ => cases h
      | none => exact hone h
    | _ => cases h

/-- A run can be cut off right after one of its effects. -/
theorem exists_take_of_mem_effects {effect : Effect} (h : effect ∈ effects frames lines) :
    ∃ n before, effects frames (lines.take n) = before ++ [effect] := by
  induction lines generalizing frames with
  | nil => cases h
  | cons line lines ih =>
    rw [effects_cons, List.mem_append] at h
    rcases h with h | h
    · refine ⟨1, [], ?_⟩
      rw [List.take_succ_cons, effects_cons, Line.effect_eq_singleton h]
      rfl
    · obtain ⟨n, before, hcut⟩ := ih h
      refine ⟨n + 1, line.effect frames ++ before, ?_⟩
      rw [List.take_succ_cons, effects_cons, hcut, List.append_assoc]

/-- What a cut-off text does, the whole text does too. -/
theorem mem_effects_of_mem_take {effect : Effect} {n : ℕ}
    (h : effect ∈ effects frames (lines.take n)) : effect ∈ effects frames lines := by
  rw [← List.take_append_drop n lines, effects_append]
  exact List.mem_append_left _ h

/-- Lines that open and leave nothing act one by one where the run is. -/
theorem effects_of_stays (h : ∀ line ∈ lines, line.enter frames = frames) :
    effects frames lines = lines.flatMap fun line => line.effect frames := by
  induction lines with
  | nil => rfl
  | cons line lines ih =>
    obtain ⟨hline, hlines⟩ := List.forall_mem_cons.mp h
    rw [effects_cons, hline, ih hlines, List.flatMap_cons]

/-- Lines that open and close nothing leave the frames as they are. -/
theorem enter_of_stays (h : ∀ line ∈ lines, line.enter frames = frames) :
    enter frames lines = frames := by
  induction lines with
  | nil => rfl
  | cons line lines ih =>
    obtain ⟨hline, hlines⟩ := List.forall_mem_cons.mp h
    rw [enter_cons, hline, ih hlines]

/-- The settings of one entry of a table, sent from the top. -/
theorem effects_block_entry {table : String} {key : Arg} {body : List Line}
    (h : ∀ line ∈ body, ∀ frames, line.enter frames = frames) :
    effects [] (block table (entry key body)) = .create [(table, key.value)] ::
      body.flatMap fun line => line.effect [⟨table, some key.value⟩] := by
  have hbody (frames : List Frame) : ∀ line ∈ body, line.enter frames = frames :=
    fun line hline => h line hline frames
  rw [block, entry, List.cons_append, List.append_assoc, effects_cons, effects_cons,
    effects_append, Line.enter, Line.enter, effects_of_stays (hbody _), enter_of_stays (hbody _)]
  exact congrArg (Effect.create [(table, key.value)] :: ·) (List.append_nil _)

/-- A table whose pieces each leave no entry open. -/
theorem effects_block_flatMap {α : Type*} {table : String} {f : α → List Line} {l : List α}
    (h : ∀ a ∈ l, enter [⟨table, none⟩] (f a) = [⟨table, none⟩]) :
    effects [] (block table (l.flatMap f)) = l.flatMap fun a => effects [⟨table, none⟩] (f a) := by
  rw [block, effects_cons, effects_append, Line.enter, effects_flatMap h, enter_flatMap h]
  exact List.append_nil _

/-- A block of deletions removes the entry of each key, in order. -/
theorem effects_block_deletes {table : String} {keys : List String} :
    effects [] (block table (keys.map .delete)) = keys.map fun key => .remove [(table, key)] := by
  rw [List.map_eq_flatMap, effects_block_flatMap fun _ _ => rfl]
  exact List.map_eq_flatMap.symm

/-- A block of bare entries creates each of them, in order. -/
theorem effects_block_entries {table : String} {keys : List Arg} :
    effects [] (block table (keys.flatMap fun key => entry key [])) =
      keys.map fun key => .create [(table, key.value)] := by
  rw [effects_block_flatMap fun _ _ => rfl]
  exact List.map_eq_flatMap.symm

/-- Settings of one entry write its fields and nothing else. -/
theorem mem_effects_settings {table : String} {key : Arg} {body : List Line} {effect : Effect}
    (h : ∀ line ∈ body, ∃ field args, line = .set field args) :
    effect ∈ effects [] (block table (entry key body)) ↔ effect = .create [(table, key.value)] ∨
      ∃ field args, .set field args ∈ body ∧ effect = .assign [(table, key.value)] field args := by
  rw [effects_block_entry, List.mem_cons, List.mem_flatMap]
  · apply or_congr_right
    constructor
    · rintro ⟨line, hline, heffect⟩
      obtain ⟨field, args, rfl⟩ := h line hline
      exact ⟨field, args, hline, List.mem_singleton.mp heffect⟩
    · rintro ⟨field, args, hline, rfl⟩
      exact ⟨_, hline, List.mem_singleton_self _⟩
  · intro line hline frames
    obtain ⟨field, args, rfl⟩ := h line hline
    cases frames <;> rfl

end Effects

/-! ## Balanced lines -/

/-- Does a line neither open nor close a table? -/
def Line.IsPlain : Line → Prop
  | config _ | close => False
  | _ => True

/-- Every table that is opened is closed, and none besides. -/
inductive Balanced : List Line → Prop
  | nil : Balanced []
  | plain {line : Line} {lines : List Line} :
    line.IsPlain → Balanced lines → Balanced (line :: lines)
  | block {table : String} {body lines : List Line} :
    Balanced body → Balanced lines → Balanced (block table body ++ lines)

namespace Balanced

variable {lines lines' : List Line}

theorem append (h : Balanced lines) (h' : Balanced lines') : Balanced (lines ++ lines') := by
  induction h with
  | nil => exact h'
  | plain hline _ ih => exact plain hline ih
  | block hbody _ _ ih =>
    rw [List.append_assoc]
    exact block hbody ih

/-- A block around balanced lines is balanced. -/
theorem of_block {table : String} (h : Balanced lines) : Balanced (Cli.block table lines) := by
  rw [← List.append_nil (Cli.block table lines)]
  exact block h nil

theorem of_plain (h : ∀ line ∈ lines, line.IsPlain) : Balanced lines := by
  induction lines with
  | nil => exact nil
  | cons line lines ih =>
    obtain ⟨hline, hlines⟩ := List.forall_mem_cons.mp h
    exact plain hline (ih hlines)

/-- An entry around balanced lines is balanced. -/
theorem of_entry {key : Arg} (h : Balanced lines) : Balanced (entry key lines) :=
  plain trivial (h.append (plain trivial nil))

theorem flatMap {α : Type*} {f : α → List Line} {l : List α} (h : ∀ a ∈ l, Balanced (f a)) :
    Balanced (l.flatMap f) := by
  induction l with
  | nil => exact nil
  | cons a l ih =>
    obtain ⟨ha, hl⟩ := List.forall_mem_cons.mp h
    rw [List.flatMap_cons]
    exact ha.append (ih hl)

/-- What is balanced leaves the table it starts in open, at whatever entry. -/
theorem enter_cons (h : Balanced lines) (frame : Frame) (frames : List Frame) :
    ∃ entry, enter (frame :: frames) lines = ⟨frame.table, entry⟩ :: frames := by
  induction h generalizing frame frames with
  | nil => exact ⟨frame.entry, rfl⟩
  | @plain line lines hline _ ih =>
    have hstep : ∃ entry, line.enter (frame :: frames) = ⟨frame.table, entry⟩ :: frames := by
      cases line with
      | config _ => exact hline.elim
      | close => exact hline.elim
      | edit key => exact ⟨some key.value, rfl⟩
      | next => exact ⟨none, rfl⟩
      | set _ _ => exact ⟨frame.entry, rfl⟩
      | unset _ => exact ⟨frame.entry, rfl⟩
      | delete _ => exact ⟨frame.entry, rfl⟩
    obtain ⟨entry, hentry⟩ := hstep
    rw [Cli.enter_cons, hentry]
    exact ih ⟨frame.table, entry⟩ frames
  | @block table body lines _ _ ihbody ihlines =>
    obtain ⟨entry, hentry⟩ := ihbody ⟨table, none⟩ (frame :: frames)
    rw [enter_append, Cli.block, Cli.enter_cons, enter_append, Line.enter, hentry]
    exact ihlines frame frames

/-- A table that is closed again leaves what was open as it was. -/
@[simp] theorem enter_block (h : Balanced lines) (table : String) (frames : List Frame) :
    enter frames (Cli.block table lines) = frames := by
  obtain ⟨entry, hentry⟩ := h.enter_cons ⟨table, none⟩ frames
  rw [Cli.block, Cli.enter_cons, enter_append, Line.enter, hentry]
  rfl

/-- An entry that was worked in is left again. -/
theorem enter_entry (h : Balanced lines) (table : String) (opened : Option String) (key : Arg)
    (frames : List Frame) :
    enter (⟨table, opened⟩ :: frames) (Cli.entry key lines) = ⟨table, none⟩ :: frames := by
  obtain ⟨last, hlast⟩ := h.enter_cons ⟨table, some key.value⟩ frames
  rw [Cli.entry, Cli.enter_cons, enter_append, Line.enter, hlast]
  rfl

end Balanced

/-- Lines that lead from the top back to it. -/
def Closed (lines : List Line) : Prop := enter [] lines = []

namespace Closed

variable {lines lines' : List Line}

theorem nil : Closed [] := rfl

theorem append (h : Closed lines) (h' : Closed lines') : Closed (lines ++ lines') := by
  rw [Closed, enter_append, h, h']

/-- A block is closed: whatever comes behind it starts at the top. -/
theorem of_block {table : String} (h : Balanced lines) : Closed (block table lines) :=
  h.enter_block table []

theorem flatMap {α : Type*} {f : α → List Line} {l : List α} (h : ∀ a ∈ l, Closed (f a)) :
    Closed (l.flatMap f) :=
  enter_flatMap h

/-- Closed texts act one after the other, each from the top. -/
theorem effects_append (h : Closed lines) :
    effects [] (lines ++ lines') = effects [] lines ++ effects [] lines' := by
  rw [Cli.effects_append, h]

end Closed

/-- The table that an effect is in, at the top. -/
def Effect.root (effect : Effect) : Option String := effect.loc.getLast?.map Prod.fst

/-- The location of a line begins at the table of its outermost frame. -/
theorem location_eq_some {frames : List Frame} {loc : Location} (h : location frames = some loc) :
    loc.getLast?.map Prod.fst = frames.getLast?.map Frame.table := by
  induction frames generalizing loc with
  | nil =>
    obtain rfl := Option.some.inj h
    rfl
  | cons frame frames ih =>
    obtain ⟨table, entry⟩ := frame
    cases entry with
    | none => cases h
    | some key =>
      obtain ⟨rest, hrest, rfl⟩ := Option.map_eq_some_iff.mp h
      have hlast := ih hrest
      cases frames with
      | nil =>
        obtain rfl := Option.some.inj hrest
        rfl
      | cons frame' frames' =>
        cases rest with
        | nil =>
          rw [List.getLast?_eq_some_getLast (List.cons_ne_nil frame' frames')] at hlast
          cases hlast
        | cons pair rest' => rw [List.getLast?_cons_cons, List.getLast?_cons_cons, hlast]

theorem getLast?_table {table : String} {entry entry' : Option String} {frames : List Frame} :
    ((⟨table, entry⟩ : Frame) :: frames).getLast?.map Frame.table =
      ((⟨table, entry'⟩ : Frame) :: frames).getLast?.map Frame.table := by
  cases frames with
  | nil => rfl
  | cons frame' frames' => rw [List.getLast?_cons_cons, List.getLast?_cons_cons]

/-- A line acts in the outermost table that is open. -/
theorem Line.root_of_mem_effect {line : Line} {frame : Frame} {frames : List Frame}
    {effect : Effect} (h : effect ∈ line.effect (frame :: frames)) :
    effect.root = (frame :: frames).getLast?.map Frame.table := by
  have hbelow {table key : String} {loc : Location} (hloc : location frames = some loc) :
      (((table, key) :: loc).getLast?).map Prod.fst =
        ((⟨table, some key⟩ : Frame) :: frames).getLast?.map Frame.table :=
    location_eq_some (by rw [location, hloc, Option.map_some])
  obtain ⟨table, entry⟩ := frame
  cases line with
  | config _ => cases h
  | next => cases h
  | close => cases h
  | edit key =>
    obtain ⟨loc, hloc, rfl⟩ := List.mem_map.mp h
    exact (hbelow (Option.mem_toList.mp hloc)).trans getLast?_table
  | set field args =>
    obtain ⟨loc, hloc, rfl⟩ := List.mem_map.mp h
    exact location_eq_some (Option.mem_toList.mp hloc)
  | unset field =>
    obtain ⟨loc, hloc, rfl⟩ := List.mem_map.mp h
    exact location_eq_some (Option.mem_toList.mp hloc)
  | delete key =>
    cases entry with
    | some _ => cases h
    | none =>
      obtain ⟨loc, hloc, rfl⟩ := List.mem_map.mp h
      exact (hbelow (Option.mem_toList.mp hloc)).trans getLast?_table

/-- What is balanced acts in the outermost table that was open. -/
theorem Balanced.root_of_mem_effects {lines : List Line} (h : Balanced lines) {frame : Frame}
    {frames : List Frame} {effect : Effect} (heffect : effect ∈ effects (frame :: frames) lines) :
    effect.root = (frame :: frames).getLast?.map Frame.table := by
  induction h generalizing frame frames with
  | nil => cases heffect
  | @plain line lines hline hlines ih =>
    obtain ⟨entry, hentry⟩ := (plain hline .nil).enter_cons frame frames
    rw [Cli.enter_cons, enter_nil] at hentry
    rw [effects_cons, List.mem_append] at heffect
    rcases heffect with heffect | heffect
    · exact Line.root_of_mem_effect heffect
    · rw [hentry] at heffect
      rw [ih heffect]
      exact getLast?_table
  | @block table body lines hbody hlines ihbody ihlines =>
    rw [effects_append, hbody.enter_block, List.mem_append] at heffect
    rcases heffect with heffect | heffect
    · -- the effects of the body are those of the table inside the one that was open
      rw [Cli.block, effects_cons, effects_append, List.mem_append, List.mem_append] at heffect
      rcases heffect with heffect | heffect | heffect
      · cases heffect
      · rw [ihbody heffect, List.getLast?_cons_cons]
      · obtain ⟨entry, hentry⟩ := hbody.enter_cons ⟨table, none⟩ (frame :: frames)
        rw [Line.enter, hentry] at heffect
        cases heffect
    · exact ihlines heffect

/-- All that the lines of a block do, they do in the block's table. -/
theorem Balanced.root_of_mem_block {lines : List Line} (h : Balanced lines) {table : String}
    {effect : Effect} (heffect : effect ∈ effects [] (Cli.block table lines)) :
    effect.root = some table := by
  rw [Cli.block, effects_cons, effects_append, List.mem_append, List.mem_append] at heffect
  obtain ⟨entry, hentry⟩ := h.enter_cons ⟨table, none⟩ []
  rcases heffect with heffect | heffect | heffect
  · cases heffect
  · exact h.root_of_mem_effects heffect
  · rw [Line.enter, hentry] at heffect
    cases heffect

/-- Lines that lead back to the top and act in these of its tables alone. -/
structure ActsIn (tables : List String) (lines : List Line) : Prop where
  closed : Closed lines
  root : ∀ effect ∈ effects [] lines, ∃ table ∈ tables, effect.root = some table

namespace ActsIn

variable {tables tables' : List String} {lines lines' : List Line}

theorem nil : ActsIn tables [] := ⟨.nil, by simp⟩

theorem append (h : ActsIn tables lines) (h' : ActsIn tables lines') :
    ActsIn tables (lines ++ lines') := by
  refine ⟨h.closed.append h'.closed, ?_⟩
  rw [h.closed.effects_append, List.forall_mem_append]
  exact ⟨h.root, h'.root⟩

/-- More tables are allowed. -/
theorem mono (h : ActsIn tables lines) (hsub : tables ⊆ tables') : ActsIn tables' lines := by
  refine ⟨h.closed, fun effect heffect => ?_⟩
  obtain ⟨table, htable, hroot⟩ := h.root effect heffect
  exact ⟨table, hsub htable, hroot⟩

/-- A block of an allowed table acts in the allowed tables. -/
theorem of_block {table : String} (h : Balanced lines) (hmem : table ∈ tables) :
    ActsIn tables (block table lines) :=
  ⟨.of_block h, fun _ heffect => ⟨table, hmem, h.root_of_mem_block heffect⟩⟩

theorem flatMap {α : Type*} {f : α → List Line} {l : List α} (h : ∀ a ∈ l, ActsIn tables (f a)) :
    ActsIn tables (l.flatMap f) := by
  induction l with
  | nil => exact nil
  | cons a l ih =>
    obtain ⟨ha, hl⟩ := List.forall_mem_cons.mp h
    rw [List.flatMap_cons]
    exact ha.append (ih hl)

end ActsIn

/-! ## What is stored -/

section Put

variable {κ β : Type*} [BEq κ]

/-- Store a value under a key, in the place of the one that is there. -/
def put (key : κ) (value : β) : List (κ × β) → List (κ × β)
  | [] => [(key, value)]
  | entry :: entries =>
    if key == entry.1 then (key, value) :: entries else entry :: put key value entries

variable [LawfulBEq κ] {key other : κ} {value : β} {entries : List (κ × β)}

@[simp] theorem lookup_put_self : (put key value entries).lookup key = some value := by
  induction entries with
  | nil => exact List.lookup_cons_self
  | cons entry entries ih =>
    rw [put]
    split
    · exact List.lookup_cons_self
    · next h =>
      rw [List.lookup_cons, Bool.eq_false_iff.mpr h]
      exact ih

/-- A value that is put is seen under its own key only. -/
theorem lookup_put_ne (h : other ≠ key) :
    (put key value entries).lookup other = entries.lookup other := by
  have hne : (other == key) = false := beq_false_of_ne h
  induction entries with
  | nil => rw [put, List.lookup_cons, hne]
  | cons entry entries ih =>
    rw [put]
    split
    · next heq =>
      rw [List.lookup_cons, List.lookup_cons, hne, ← eq_of_beq heq, hne]
    · rw [List.lookup_cons, List.lookup_cons, ih]

/-- A new key goes to the end. -/
theorem put_of_not_mem (h : key ∉ entries.map Prod.fst) :
    put key value entries = entries ++ [(key, value)] := by
  induction entries with
  | nil => rfl
  | cons entry entries ih =>
    rw [List.map_cons, List.mem_cons, not_or] at h
    rw [put, if_neg (by simpa using h.1), ih h.2]
    rfl

theorem mem_keys_put : other ∈ (put key value entries).map Prod.fst ↔
    other = key ∨ other ∈ entries.map Prod.fst := by
  induction entries with
  | nil => simp [put]
  | cons entry entries ih =>
    rw [put]
    split
    · next heq => simp [← eq_of_beq heq]
    · rw [List.map_cons, List.mem_cons, ih, List.map_cons, List.mem_cons]
      exact or_left_comm

/-- Where keys are not repeated, the lookup finds the pair that is listed. -/
theorem lookup_of_pair_mem (hnodup : (entries.map Prod.fst).Nodup) (h : (key, value) ∈ entries) :
    entries.lookup key = some value := by
  obtain ⟨before, after, rfl⟩ := List.append_of_mem h
  rw [List.map_append, List.map_cons] at hnodup
  refine List.lookup_eq_some_iff.mpr ⟨before, after, rfl, fun entry hentry => ?_⟩
  rw [bne_iff_ne]
  rintro rfl
  exact (List.nodup_append.mp hnodup).2.2 _ (List.mem_map_of_mem hentry) _ List.mem_cons_self rfl

/-- A filter on the keys keeps what stands under a key that passes it. -/
theorem lookup_filter {p : κ → Bool} (h : p key = true) :
    (entries.filter fun entry => p entry.1).lookup key = entries.lookup key := by
  induction entries with
  | nil => rfl
  | cons entry entries ih =>
    rw [List.lookup_cons, List.filter_cons]
    by_cases heq : key = entry.1
    · rw [← heq, if_pos h, List.lookup_cons, ← heq]
      simp
    · rw [beq_false_of_ne heq, ← ih]
      split
      · rw [List.lookup_cons, beq_false_of_ne heq]
      · rfl

end Put

abbrev Fields := List (String × List Arg)

/-- Entries with their fields; the locations are distinct in what commands build. -/
abbrev Store := List (Location × Fields)

namespace Store

def fields (store : Store) (loc : Location) : Fields := (store.lookup loc).getD []

def get (store : Store) (loc : Location) (field : String) : Option (List Arg) :=
  (store.fields loc).lookup field

end Store

def Effect.apply : Effect → Store → Store
  | create loc, store => put loc (store.fields loc) store
  | assign loc field args, store => put loc (put field args (store.fields loc)) store
  | clear loc field, store =>
    put loc ((store.fields loc).filter fun entry => entry.1 ≠ field) store
  -- entries below a removed one go with it
  | remove loc, store => store.filter fun entry => ¬loc <:+ entry.1

def applyAll (effects : List Effect) (store : Store) : Store :=
  effects.foldl (fun store effect => effect.apply store) store

/-- Send lines to a device that has no table open. -/
def execute (lines : List Line) (store : Store) : Store := applyAll (effects [] lines) store

section Apply

variable {store : Store} {loc other : Location} {field : String}

@[simp] theorem applyAll_nil : applyAll [] store = store := rfl

@[simp] theorem applyAll_cons {effect : Effect} {effects : List Effect} :
    applyAll (effect :: effects) store = applyAll effects (effect.apply store) := rfl

/-- Effects are applied in order. -/
@[simp] theorem applyAll_append {effects effects' : List Effect} :
    applyAll (effects ++ effects') store = applyAll effects' (applyAll effects store) := by
  rw [applyAll, List.foldl_append]
  rfl

/-- A field is what was last set. -/
theorem get_assign_self {args : List Arg} :
    ((Effect.assign loc field args).apply store).get loc field = some args := by
  rw [Effect.apply, Store.get, Store.fields, lookup_put_self, Option.getD_some, lookup_put_self]

/-- Does an effect leave the field of an entry as it is? -/
def Effect.Spares (loc : Location) (field : String) : Effect → Prop
  | create _ => True
  | assign loc' field' _ => loc' ≠ loc ∨ field' ≠ field
  | clear loc' field' => loc' ≠ loc ∨ field' ≠ field
  | remove loc' => ¬loc' <:+ loc

/-- What acts in another table of the top leaves an entry alone. -/
theorem Effect.spares_of_root {effect : Effect} {table other key : String}
    (hroot : effect.root = some other) (h : other ≠ table) :
    effect.Spares [(table, key)] field := by
  have hsuffix : ¬effect.loc <:+ [(table, key)] := by
    intro hsuffix
    rw [Effect.root] at hroot
    rcases List.suffix_cons_iff.mp hsuffix with heq | hnil
    · rw [heq] at hroot
      exact h (Option.some.inj hroot).symm
    · rw [List.suffix_nil.mp hnil] at hroot
      cases hroot
  have hne : effect.loc ≠ [(table, key)] := fun heq => hsuffix (heq ▸ List.suffix_rfl)
  cases effect with
  | create _ => trivial
  | assign loc' field' args => exact .inl hne
  | clear loc' field' => exact .inl hne
  | remove loc' => exact hsuffix

/-- An effect that spares a field leaves it as it was. -/
theorem Effect.Spares.get {effect : Effect} (h : effect.Spares loc field) :
    (effect.apply store).get loc field = store.get loc field := by
  have hput {loc' : Location} {fields : Fields}
      (hsame : loc' = loc → fields.lookup field = (store.fields loc).lookup field) :
      Store.get (put loc' fields store) loc field = store.get loc field := by
    by_cases heq : loc = loc'
    · subst heq
      rw [Store.get, Store.fields, lookup_put_self, Option.getD_some, hsame rfl, Store.get]
    · rw [Store.get, Store.fields, lookup_put_ne heq, Store.get, Store.fields]
  cases effect with
  | create loc' =>
    apply hput
    rintro rfl
    rfl
  | assign loc' field' args =>
    apply hput
    rintro rfl
    exact lookup_put_ne (h.resolve_left fun hne => hne rfl).symm
  | clear loc' field' =>
    apply hput
    rintro rfl
    have hne : field ≠ field' := (h.resolve_left fun hne => hne rfl).symm
    exact lookup_filter (p := fun key => decide (key ≠ field')) (decide_eq_true hne)
  | remove loc' =>
    have hkept : (store.filter fun entry => decide (¬loc' <:+ entry.1)).lookup loc =
        store.lookup loc :=
      lookup_filter (p := fun key => decide (¬loc' <:+ key)) (decide_eq_true h)
    rw [Effect.apply, Store.get, Store.fields, hkept, Store.get, Store.fields]

/-- A run keeps what each of its effects keeps. -/
theorem applyAll_invariant {inv : Store → Prop} {effects : List Effect}
    (hstep : ∀ effect ∈ effects, ∀ store, inv store → inv (effect.apply store))
    (h : inv store) : inv (applyAll effects store) := by
  induction effects generalizing store with
  | nil => exact h
  | cons effect effects ih =>
    obtain ⟨hfirst, hrest⟩ := List.forall_mem_cons.mp hstep
    exact ih hrest (hfirst store h)

/-- A field that all effects spare is left as it was by all of them. -/
theorem get_applyAll {effects : List Effect} (h : ∀ effect ∈ effects, effect.Spares loc field) :
    (applyAll effects store).get loc field = store.get loc field := by
  have hstep : ∀ effect ∈ effects, ∀ s, Store.get s loc field = store.get loc field →
      (effect.apply s).get loc field = store.get loc field := fun effect heffect s hs =>
    (h effect heffect).get.trans hs
  exact applyAll_invariant hstep rfl

end Apply

end Cli
