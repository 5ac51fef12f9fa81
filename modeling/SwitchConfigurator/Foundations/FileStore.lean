import Mathlib.Data.List.Infix
import SwitchConfigurator.Foundations.KeyedDiff

/-!
# Files under paths

A disk is a list of files at different paths. What is at a path after a write or a removal, and
which files lie directly in a directory.
-/

namespace FileStore

open Keyed

structure File (α : Type*) where
  path : String
  content : α
  deriving DecidableEq, Repr

/-- The order is the one in which a directory lists its files. -/
@[ext]
structure Disk (α : Type*) where
  files : List (File α)
  distinct : (files.map File.path).Nodup

/-- The name of a file that lies directly in a directory, which is given with its separator. -/
def nameIn (dir path : String) : Option String :=
  let name := path.toList.drop dir.toList.length
  if dir.toList <+: path.toList ∧ name ≠ [] ∧ '/' ∉ name then some (String.ofList name) else none

namespace Disk

variable {α : Type*} (disk : Disk α)

def contentAt (path : String) : Option α := (lookup File.path path disk.files).map File.content

def write (path : String) (content : α) : Disk α where
  files := upsert File.path disk.files ⟨path, content⟩
  distinct := nodup_upsert disk.distinct

def remove (path : String) : Disk α where
  files := erase File.path [path] disk.files
  distinct := nodup_erase disk.distinct

/-- The names of the files in a directory. -/
def names (dir : String) : List String := disk.files.filterMap fun file => nameIn dir file.path

variable {disk} {path path' dir name : String} {content : α}

/-- A write is seen at its own path and at no other. -/
theorem contentAt_write : (disk.write path content).contentAt path' =
    if path = path' then some content else disk.contentAt path' := by
  rw [contentAt, write, lookup_upsert]
  by_cases h : path = path'
  · rw [if_pos h, if_pos h]
    rfl
  · rw [if_neg h, if_neg h]
    rfl

@[simp] theorem contentAt_write_self : (disk.write path content).contentAt path = some content := by
  rw [contentAt_write, if_pos rfl]

theorem contentAt_write_of_ne (h : path ≠ path') :
    (disk.write path content).contentAt path' = disk.contentAt path' := by
  rw [contentAt_write, if_neg h]

/-- A file that is removed is gone, and no other is. -/
theorem contentAt_remove : (disk.remove path).contentAt path' =
    if path = path' then none else disk.contentAt path' := by
  rw [contentAt, remove, lookup_erase]
  by_cases h : path = path'
  · rw [if_pos h, if_pos (List.mem_singleton.mpr h.symm)]
    rfl
  · rw [if_neg h, if_neg (mt List.mem_singleton.mp (Ne.symm h))]
    rfl

@[simp] theorem contentAt_remove_self : (disk.remove path).contentAt path = none := by
  rw [contentAt_remove, if_pos rfl]

theorem contentAt_remove_of_ne (h : path ≠ path') :
    (disk.remove path).contentAt path' = disk.contentAt path' := by
  rw [contentAt_remove, if_neg h]

/-- There is nothing at a path exactly if no file has it. -/
theorem contentAt_eq_none_iff :
    disk.contentAt path = none ↔ ∀ file ∈ disk.files, file.path ≠ path := by
  rw [contentAt, Option.map_eq_none_iff, lookup_eq_none_iff]

/-- A path shows the one file that has it. -/
theorem contentAt_eq_some_iff :
    disk.contentAt path = some content ↔ ⟨path, content⟩ ∈ disk.files := by
  rw [contentAt, Option.map_eq_some_iff]
  constructor
  · rintro ⟨file, hfile, rfl⟩
    obtain ⟨hmem, rfl⟩ := lookup_some hfile
    exact hmem
  · intro hmem
    exact ⟨_, lookup_of_mem disk.distinct hmem, rfl⟩

/-- A file that was not there is gone without a trace once it is removed. -/
theorem remove_write (h : disk.contentAt path = none) :
    (disk.write path content).remove path = disk := by
  rw [contentAt_eq_none_iff] at h
  ext1
  show erase File.path [path] (upsert File.path disk.files ⟨path, content⟩) = disk.files
  have hany : ¬disk.files.any (fun file => file.path = path) = true := by
    simpa using h
  have hkeep : disk.files.filter (fun file => file.path ∉ [path]) = disk.files :=
    List.filter_eq_self.mpr fun file hfile => by simpa using h file hfile
  rw [upsert, if_neg hany, erase, List.filter_append, hkeep, List.filter_cons_of_neg (by simp),
    List.filter_nil, List.append_nil]

/-- A file in a directory has a name there, without a slash. -/
theorem nameIn_eq_some_iff : nameIn dir path = some name ↔
    path = dir ++ name ∧ name ≠ "" ∧ '/' ∉ name.toList := by
  have hname : name ≠ "" ↔ name.toList ≠ [] := by
    rw [Ne, Ne, String.toList_eq_nil_iff]
  rw [nameIn, hname]
  constructor
  · intro h
    split at h
    · next hin =>
      obtain ⟨⟨rest, hrest⟩, hne, hslash⟩ := hin
      rw [← hrest, List.drop_left] at h hne hslash
      obtain rfl := Option.some.inj h
      rw [String.toList_ofList]
      refine ⟨?_, hne, hslash⟩
      apply String.toList_injective
      rw [String.toList_append, String.toList_ofList, hrest]
    · cases h
  · rintro ⟨rfl, hne, hslash⟩
    rw [String.toList_append]
    rw [List.drop_left, if_pos ⟨List.prefix_append _ _, hne, hslash⟩, String.ofList_toList]

/-- The listing of a directory is the names of the files in it. -/
theorem mem_names : name ∈ disk.names dir ↔
    (disk.contentAt (dir ++ name) ≠ none) ∧ name ≠ "" ∧ '/' ∉ name.toList := by
  rw [names, List.mem_filterMap]
  constructor
  · rintro ⟨⟨path, content⟩, hmem, hname⟩
    obtain ⟨rfl, hne, hslash⟩ := nameIn_eq_some_iff.mp hname
    rw [contentAt_eq_some_iff.mpr hmem]
    exact ⟨Option.some_ne_none _, hne, hslash⟩
  · rintro ⟨hcontent, hne, hslash⟩
    obtain ⟨content, hcontent⟩ := Option.ne_none_iff_exists'.mp hcontent
    exact ⟨_, contentAt_eq_some_iff.mp hcontent, nameIn_eq_some_iff.mpr ⟨rfl, hne, hslash⟩⟩

/-- No name is listed twice. -/
theorem nodup_names : (disk.names dir).Nodup := by
  have hpaths : disk.names dir = (disk.files.map File.path).filterMap (nameIn dir) := by
    rw [names, List.filterMap_map]
    rfl
  rw [hpaths]
  refine disk.distinct.filterMap ?_
  intro path path' name hname hname'
  rw [Option.mem_def, nameIn_eq_some_iff] at hname hname'
  rw [hname.1, hname'.1]

end Disk

end FileStore
