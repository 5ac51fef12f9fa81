import Mathlib.Algebra.Group.Int.Defs
import Mathlib.Algebra.Group.Nat.Defs
import Mathlib.Data.Int.Basic
import Mathlib.Data.List.Basic

/-!
# Documents

Trees of values, as JSON and YAML have them, and records that are read from them and written to
them field by field. What a type keeps of a value that is written and read back is a function of
the value, the identity where nothing is lost.
-/

namespace Document

inductive Value where
  | null
  | bool (b : Bool)
  | integer (n : ℤ)
  /-- A number that is not an integer, as it is printed. -/
  | float (text : String)
  | string (s : String)
  | sequence (items : List Value)
  | mapping (entries : List (String × Value))

abbrev Entries := List (String × Value)

/-- The value of an entry, if it is there. -/
def entry (name : String) : Entries → Option Value
  | [] => none
  | (other, value) :: entries => if name = other then some value else entry name entries

/-! ## Parts of a document -/

namespace Value

def get (name : String) : Value → Option Value
  | mapping entries => entry name entries
  | _ => none

def asU64 : Value → Option ℕ
  | integer n => if 0 ≤ n ∧ n < 2 ^ 64 then some n.toNat else none
  | _ => none

def asStr : Value → Option String
  | string s => some s
  | _ => none

def asSequence : Value → Option (List Value)
  | sequence items => some items
  | _ => none

/-- Put another value in place of one that is there. -/
def modify (name : String) (f : Value → Value) : Value → Value
  | mapping entries => mapping (entries.map fun entry =>
      if entry.1 = name then (entry.1, f entry.2) else entry)
  | value => value

end Value

/-! ## Reading -/

variable {α β : Type*}

def string : Value → Option String
  | .string s => some s
  | _ => none

def bool : Value → Option Bool
  | .bool b => some b
  | _ => none

/-- An unsigned integer below a bound. -/
def below (bound : ℕ) : Value → Option ℕ
  | .integer n => if 0 ≤ n ∧ n < bound then some n.toNat else none
  | _ => none

def u16 : Value → Option ℕ := below (2 ^ 16)
def u32 : Value → Option ℕ := below (2 ^ 32)
def u64 : Value → Option ℕ := below (2 ^ 64)

/-- Finitely many variants that their names tell apart. -/
class Variants (α : Type*) where
  name : α → String
  all : List α
  find_name : ∀ a, all.find? (fun b => name b = name a) = some a

def variant [Variants α] : Value → Option α
  | .string s => Variants.all.find? fun a => Variants.name a = s
  | _ => none

def optional (read : Value → Option α) : Value → Option (Option α)
  | .null => some none
  | value => (read value).map some

def sequence (read : Value → Option α) : Value → Option (List α)
  | .sequence items => items.mapM read
  | _ => none

def record (read : Entries → Option α) : Value → Option α
  | .mapping entries => read entries
  | _ => none

/-- A field that has to be there. -/
def field (name : String) (read : Value → Option α) (entries : Entries) : Option α :=
  (entry name entries).bind read

/-- A field with a default. -/
def fieldOr (name : String) (default : α) (read : Value → Option α) (entries : Entries) :
    Option α :=
  match entry name entries with
  | some value => read value
  | none => some default

/-- A field with a default that has two names, of which one may be used. -/
def fieldEither (name other : String) (default : α) (read : Value → Option α)
    (entries : Entries) : Option α :=
  match entry other entries with
  | none => fieldOr name default read entries
  | some value =>
    match entry name entries with
    | none => read value
    | some _ => none

/-! ## Writing -/

def ofNat (n : ℕ) : Value := .integer n

def ofVariant [Variants α] (a : α) : Value := .string (Variants.name a)

def ofOption (write : α → Value) : Option α → Value
  | some a => write a
  | none => .null

def ofList (write : α → Value) (l : List α) : Value := .sequence (l.map write)

/-- An entry that is skipped where there is no value, before other entries. -/
def entryIfSome (name : String) (write : α → Value) (a : Option α) (entries : Entries) : Entries :=
  match a with
  | some a => (name, write a) :: entries
  | none => entries

/-! ## Writing and reading back -/

/-- What is read can be written, and what is read back of it. -/
def ReadsBack (read : Value → Option α) (write : α → Value) (kept : α → α) : Prop :=
  ∀ value a, read value = some a → read (write a) = some (kept a)

section

variable {read : Value → Option α} {write : α → Value} {kept : α → α}

@[simp] theorem string_string (s : String) : string (.string s) = some s := rfl

@[simp] theorem bool_bool (b : Bool) : bool (.bool b) = some b := rfl

/-- A number below the bound is read back. -/
theorem below_ofNat {bound n : ℕ} (h : n < bound) : below bound (ofNat n) = some n := by
  rw [ofNat, below, if_pos (by omega), Int.toNat_natCast]

/-- What is read is below the bound. -/
theorem lt_of_below {bound n : ℕ} {value : Value} (h : below bound value = some n) : n < bound := by
  cases value with
  | integer m =>
    rw [below] at h
    split at h
    · next hrange =>
      have hm : m.toNat = n := Option.some.inj h
      omega
    · cases h
  | _ => cases h

theorem readsBack_below (bound : ℕ) : ReadsBack (below bound) ofNat id :=
  fun _ _ h => below_ofNat (lt_of_below h)

/-- A variant is read back from its name. -/
@[simp] theorem variant_ofVariant {γ : Type*} [Variants γ] (c : γ) :
    variant (ofVariant c) = some c :=
  Variants.find_name c

/-- An optional value is read back if what it holds is, and never looks like none. -/
theorem optional_write {a : Option α} (hnull : ∀ a, write a ≠ .null)
    (h : ∀ b ∈ a, read (write b) = some (kept b)) :
    optional read (ofOption write a) = some (a.map kept) := by
  cases a with
  | none => rfl
  | some b =>
    have hread := h b rfl
    rw [ofOption]
    cases hw : write b with
    | null => exact absurd hw (hnull b)
    | _ =>
      rw [hw] at hread
      show (read _).map some = some (some (kept b))
      rw [hread]
      rfl

/-- Where a value reads back, so does an optional one. -/
theorem ReadsBack.optional (h : ReadsBack read write kept) (hnull : ∀ a, write a ≠ .null) :
    ReadsBack (optional read) (ofOption write) (Option.map kept) := by
  intro value a ha
  refine optional_write hnull fun b hb => ?_
  obtain rfl : a = some b := hb
  have hvalue : (read value).map some = some (some b) := by
    cases value with
    | null => cases ha
    | _ => exact ha
  obtain ⟨c, hc, hcb⟩ := Option.map_eq_some_iff.mp hvalue
  exact h value b (hc.trans hcb)

theorem optional_ofNat {bound n : ℕ} (h : n < bound) :
    optional (below bound) (ofNat n) = some (some n) := by
  have hread := below_ofNat h
  rw [ofNat] at hread ⊢
  rw [optional, hread, Option.map_some]
  exact fun h => nomatch h

/-- A list reads back item by item. -/
theorem sequence_write {l : List α} (h : ∀ a ∈ l, read (write a) = some (kept a)) :
    sequence read (ofList write l) = some (l.map kept) := by
  show (l.map write).mapM read = some (l.map kept)
  induction l with
  | nil => rfl
  | cons a l ih =>
    rw [List.forall_mem_cons] at h
    rw [List.map_cons, List.mapM_cons, h.1, ih h.2]
    rfl

/-- A list of items that read back as they are reads back as it is. -/
theorem sequence_of_forall {l : List α} (h : ∀ a ∈ l, read (write a) = some a) :
    sequence read (ofList write l) = some l := by
  have hid : ∀ a ∈ l, read (write a) = some (id a) := h
  rw [sequence_write hid, List.map_id]

@[simp] theorem optional_string_string (s : String) :
    optional string (.string s) = some (some s) := rfl

@[simp] theorem optional_string (s : Option String) :
    optional string (ofOption .string s) = some s := by
  cases s <;> rfl

@[simp] theorem sequence_string (l : List String) :
    sequence string (ofList .string l) = some l :=
  sequence_of_forall fun s _ => string_string s

/-- Each item that was read was read of some value. -/
theorem exists_of_mem_mapM {items : List Value} {l : List α} (h : items.mapM read = some l) {a : α}
    (ha : a ∈ l) : ∃ value ∈ items, read value = some a := by
  induction items generalizing l with
  | nil =>
    obtain rfl : [] = l := Option.some.inj h
    exact absurd ha List.not_mem_nil
  | cons value items ih =>
    rw [List.mapM_cons] at h
    obtain ⟨b, hb, h⟩ := Option.bind_eq_some_iff.mp h
    obtain ⟨rest, hrest, h⟩ := Option.bind_eq_some_iff.mp h
    obtain rfl : b :: rest = l := Option.some.inj h
    rcases List.mem_cons.mp ha with rfl | ha
    · exact ⟨value, List.mem_cons_self, hb⟩
    · obtain ⟨v, hv, hva⟩ := ih hrest ha
      exact ⟨v, List.mem_cons_of_mem _ hv, hva⟩

/-- The entries of a list that is read are read one by one. -/
theorem exists_of_mem_sequence {value : Value} {l : List α} (h : sequence read value = some l)
    {a : α} (ha : a ∈ l) : ∃ item, read item = some a := by
  cases value with
  | sequence items =>
    obtain ⟨item, -, hitem⟩ := exists_of_mem_mapM h ha
    exact ⟨item, hitem⟩
  | _ => cases h

/-- Where an item reads back, so does a list of them. -/
theorem ReadsBack.sequence (h : ReadsBack read write kept) :
    ReadsBack (sequence read) (ofList write) (List.map kept) := by
  intro value l hl
  refine sequence_write fun a ha => ?_
  obtain ⟨item, hitem⟩ := exists_of_mem_sequence hl ha
  exact h item a hitem

/-- What has to be there can be read where it may be left out. -/
theorem fieldOr_of_field {name : String} {entries : Entries} {a : α} (hnull : read .null = none)
    (h : field name read entries = some a) :
    fieldOr name none (Document.optional read) entries = some (some a) := by
  obtain ⟨value, hvalue, hread⟩ := Option.bind_eq_some_iff.mp h
  rw [Document.fieldOr, hvalue]
  cases value with
  | null =>
    rw [hnull] at hread
    cases hread
  | _ => exact congrArg (Option.map some) hread

/-- Only a mapping is read as a record. -/
theorem exists_of_record {read : Entries → Option α} {value : Value} {a : α}
    (h : record read value = some a) : ∃ entries, read entries = some a := by
  cases value with
  | mapping entries => exact ⟨entries, h⟩
  | _ => cases h

/-- The entries of a list are read one by one, also where the list may be left out. -/
theorem exists_of_mem_fieldOr {name : String} {entries : Entries} {l : List α}
    (h : fieldOr name [] (sequence read) entries = some l) {a : α} (ha : a ∈ l) :
    ∃ item, read item = some a := by
  rw [fieldOr] at h
  split at h
  · exact exists_of_mem_sequence h ha
  · obtain rfl := Option.some.inj h
    exact absurd ha List.not_mem_nil

/-- A value in an optional field was read of some value in the document. -/
theorem exists_of_fieldOr_optional {name : String} {entries : Entries} {a : α}
    (h : fieldOr name none (optional read) entries = some (some a)) :
    ∃ item, read item = some a := by
  rw [fieldOr] at h
  split at h
  · next value _ =>
    refine ⟨value, ?_⟩
    cases value with
    | null => cases h
    | _ =>
      obtain ⟨b, hread, heq⟩ := Option.map_eq_some_iff.mp h
      obtain rfl := Option.some.inj heq
      exact hread
  · cases h

/-- What was read of a required field is read back as its type says. -/
theorem ReadsBack.field (h : ReadsBack read write kept) {name : String} {entries : Entries} {a : α}
    (ha : field name read entries = some a) : read (write a) = some (kept a) := by
  obtain ⟨value, -, hvalue⟩ := Option.bind_eq_some_iff.mp ha
  exact h value a hvalue

/-- So is what was read of a field that may be missing. -/
theorem ReadsBack.fieldOr (h : ReadsBack read write kept) {name : String} {default : α}
    (hdefault : read (write default) = some (kept default)) {entries : Entries} {a : α}
    (ha : fieldOr name default read entries = some a) : read (write a) = some (kept a) := by
  rw [Document.fieldOr] at ha
  cases hentry : entry name entries with
  | none =>
    rw [hentry] at ha
    rw [← Option.some.inj ha]
    exact hdefault
  | some value =>
    rw [hentry] at ha
    exact h value a ha

end

/-! ## Fields of what is written -/

section

variable {name other : String} {entries : Entries} {value : Value} {read : Value → Option α}
  {write : β → Value} {b : Option β} {default : α}

@[simp] theorem entryIfSome_none : entryIfSome other write none entries = entries := by
  rw [entryIfSome]

@[simp] theorem entryIfSome_some {c : β} :
    entryIfSome other write (some c) entries = (other, write c) :: entries := by
  rw [entryIfSome]

-- Proved by rewriting, so that names are not compared by evaluation.
@[simp] theorem entry_nil : entry name [] = none := by
  rw [entry]

@[simp] theorem entry_cons_self : entry name ((name, value) :: entries) = some value := by
  rw [entry, if_pos rfl]

@[simp] theorem entry_cons_ne (h : name ≠ other) :
    entry name ((other, value) :: entries) = entry name entries := by
  rw [entry, if_neg h]

/-- An entry of another name is not in the way. -/
@[simp] theorem entry_entryIfSome_ne (h : name ≠ other) :
    entry name (entryIfSome other write b entries) = entry name entries := by
  cases b with
  | none => rfl
  | some b => exact entry_cons_ne h

@[simp] theorem get_mapping : (Value.mapping entries).get name = entry name entries := by
  rw [Value.get]

/-- A number of 64 bits is seen as one. -/
theorem asU64_ofNat {n : ℕ} (h : n < 2 ^ 64) : (ofNat n).asU64 = some n := by
  rw [ofNat, Value.asU64, if_pos (by omega), Int.toNat_natCast]

@[simp] theorem asStr_string {s : String} : (Value.string s).asStr = some s := by
  rw [Value.asStr]

@[simp] theorem asSequence_ofList {l : List β} :
    (ofList write l).asSequence = some (l.map write) := by
  rw [ofList, Value.asSequence]

@[simp] theorem record_mapping {read : Entries → Option α} :
    record read (.mapping entries) = read entries := by
  rw [record]

@[simp] theorem field_cons_self : field name read ((name, value) :: entries) = read value := by
  rw [field, entry_cons_self, Option.bind_some]

@[simp] theorem field_cons_ne (h : name ≠ other) :
    field name read ((other, value) :: entries) = field name read entries := by
  rw [field, field, entry_cons_ne h]

@[simp] theorem fieldOr_nil : fieldOr name default read [] = some default := by
  rw [fieldOr, entry_nil]

@[simp] theorem fieldOr_cons_self :
    fieldOr name default read ((name, value) :: entries) = read value := by
  rw [fieldOr, entry_cons_self]

@[simp] theorem fieldOr_cons_ne (h : name ≠ other) :
    fieldOr name default read ((other, value) :: entries) = fieldOr name default read entries := by
  rw [fieldOr, fieldOr, entry_cons_ne h]

/-- A field of another name is not in the way. -/
@[simp] theorem fieldOr_entryIfSome_ne (h : name ≠ other) :
    fieldOr name default read (entryIfSome other write b entries) =
      fieldOr name default read entries := by
  rw [fieldOr, fieldOr, entry_entryIfSome_ne h]

/-- Without the other name, the field is read under its own. -/
@[simp] theorem fieldEither_eq (h : entry other entries = none) :
    fieldEither name other default read entries = fieldOr name default read entries := by
  rw [fieldEither, h]

theorem modify_mapping {f : Value → Value} : (Value.mapping entries).modify other f =
    .mapping (entries.map fun e => if e.1 = other then (e.1, f e.2) else e) := by
  rw [Value.modify]

/-- Another value in one place changes what is there, and nothing else. -/
theorem entry_replaced {f : Value → Value} :
    entry name (entries.map fun e => if e.1 = other then (e.1, f e.2) else e) =
      if name = other then (entry name entries).map f else entry name entries := by
  induction entries with
  | nil => simp
  | cons first rest ih =>
    obtain ⟨key, value⟩ := first
    rw [List.map_cons]
    by_cases hkey : key = other
    · subst hkey
      rw [if_pos rfl]
      by_cases hname : name = key
      · subst hname
        simp
      · rw [entry_cons_ne hname, entry_cons_ne hname, ih]
    · rw [if_neg hkey]
      by_cases hname : name = key
      · subst hname
        rw [if_neg hkey, entry_cons_self, entry_cons_self]
      · rw [entry_cons_ne hname, entry_cons_ne hname, ih]

/-- A skipped entry is read as no value. -/
@[simp] theorem fieldOr_entryIfSome (h : entry name entries = none) :
    fieldOr name none (optional read) (entryIfSome name write b entries) =
      optional read (ofOption write b) := by
  cases b with
  | none =>
    show fieldOr name none (optional read) entries = some none
    rw [fieldOr, h]
  | some b => exact fieldOr_cons_self

end

end Document
