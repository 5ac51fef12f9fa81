import SwitchConfigurator.Config.Resolve
import Mathlib.Data.List.AList

/-!
# Ambiguous VLAN names

The search for a VLAN name with two ids, over the map that the loop of `config.rs` keeps: every
VLAN overwrites the entry of its name, so an entry speaks of the last VLAN only.
-/

namespace SwitchConfigurator

open Keyed

/-! ## The loop over the map -/

/-- The map of `find_ambiguous_vlan_name` from names to ids. -/
abbrev NameToId := AList fun _ : String => ℕ

/-- `find_ambiguous_vlan_name` with the map as it is: the insertion overwrites, and gives back
what it has overwritten. -/
def findAmbiguousInMap (nameToId : NameToId) : List Vlan → Option (String × ℕ × ℕ)
  | [] => none
  | vlan :: rest =>
    match nameToId.lookup vlan.name with
    | some existingId =>
      if existingId ≠ vlan.id then some (vlan.name, existingId, vlan.id)
      else findAmbiguousInMap (nameToId.insert vlan.name vlan.id) rest
    | none => findAmbiguousInMap (nameToId.insert vlan.name vlan.id) rest

/-- The map says what the last VLAN of each name says. -/
def Overwritten (nameToId : NameToId) (seen : List Vlan) : Prop :=
  ∀ name, nameToId.lookup name = (lookup Vlan.name name seen).map Vlan.id

theorem overwritten_empty : Overwritten ∅ [] := fun _ => AList.lookup_empty _

/-- The step of the loop. -/
theorem Overwritten.insert {nameToId : NameToId} {seen : List Vlan}
    (h : Overwritten nameToId seen) (vlan : Vlan) :
    Overwritten (nameToId.insert vlan.name vlan.id) (seen ++ [vlan]) := by
  intro name
  rw [lookup_append]
  by_cases hname : name = vlan.name
  · subst hname
    have hlast : lookup Vlan.name vlan.name [vlan] = some vlan := by simp [lookup_cons]
    rw [AList.lookup_insert, hlast, Option.some_or, Option.map_some]
  · have hother : lookup Vlan.name name [vlan] = none := by
      simp [lookup_cons, Ne.symm hname]
    rw [AList.lookup_insert_ne hname, h name, hother, Option.none_or]

/-- The map and the list of the VLANs before lead to the same result. -/
theorem findAmbiguousInMap_eq {nameToId : NameToId} {seen : List Vlan} (vlans : List Vlan)
    (h : Overwritten nameToId seen) :
    findAmbiguousInMap nameToId vlans = findAmbiguousFrom seen vlans := by
  induction vlans generalizing nameToId seen with
  | nil => rfl
  | cons vlan rest ih =>
    have hrest := ih (h.insert vlan)
    rw [findAmbiguousInMap, findAmbiguousFrom, h vlan.name, hrest]
    cases lookup Vlan.name vlan.name seen with
    | none => rfl
    | some existing => rfl

/-! ## What is found -/

/-- A collision is between the VLAN of the step and one before it. -/
theorem findAmbiguousFrom_eq_some {seen vlans : List Vlan} {name : String} {a b : ℕ}
    (h : findAmbiguousFrom seen vlans = some (name, a, b)) :
    a ≠ b ∧ (∃ v ∈ seen ++ vlans, v.name = name ∧ v.id = a) ∧
      ∃ w ∈ vlans, w.name = name ∧ w.id = b := by
  induction vlans generalizing seen with
  | nil => cases h
  | cons vlan rest ih =>
    -- what the rest of the loop finds is a collision of the whole list
    have hrest (h : findAmbiguousFrom (seen ++ [vlan]) rest = some (name, a, b)) :
        a ≠ b ∧ (∃ v ∈ seen ++ vlan :: rest, v.name = name ∧ v.id = a) ∧
          ∃ w ∈ vlan :: rest, w.name = name ∧ w.id = b := by
      obtain ⟨hne, ⟨v, hv, hv'⟩, w, hw, hw'⟩ := ih h
      rw [List.append_assoc] at hv
      exact ⟨hne, ⟨v, hv, hv'⟩, w, List.mem_cons_of_mem _ hw, hw'⟩
    rw [findAmbiguousFrom] at h
    cases hlookup : lookup Vlan.name vlan.name seen with
    | none =>
      rw [hlookup] at h
      exact hrest h
    | some existing =>
      rw [hlookup] at h
      dsimp only at h
      by_cases hid : existing.id = vlan.id
      · rw [if_neg (not_not.mpr hid)] at h
        exact hrest h
      · rw [if_pos hid] at h
        cases h
        obtain ⟨hmem, hname⟩ := lookup_some hlookup
        refine ⟨hid, ⟨existing, ?_, hname, rfl⟩, vlan, ?_, rfl, rfl⟩
        · exact List.mem_append_left _ hmem
        · exact List.mem_cons_self

/-- The search finds a name with two ids exactly where there is one, and what it reports are two
entries of the list. -/
theorem ambiguous_names_found (vlans : List Vlan) :
    findAmbiguousInMap ∅ vlans = findAmbiguousVlanName vlans ∧
    ((findAmbiguousVlanName vlans).isSome ↔
      ∃ v ∈ vlans, ∃ w ∈ vlans, v.name = w.name ∧ v.id ≠ w.id) ∧
    ∀ name a b, findAmbiguousVlanName vlans = some (name, a, b) →
      a ≠ b ∧ (∃ v ∈ vlans, v.name = name ∧ v.id = a) ∧
        ∃ w ∈ vlans, w.name = name ∧ w.id = b := by
  refine ⟨findAmbiguousInMap_eq vlans overwritten_empty, ?_, ?_⟩
  · rw [← Option.ne_none_iff_isSome, Ne, findAmbiguousVlanName_eq_none_iff, NamesAgree]
    push Not
    rfl
  · intro name a b h
    have hfrom : findAmbiguousFrom [] vlans = some (name, a, b) := h
    simpa only [List.nil_append] using findAmbiguousFrom_eq_some hfrom

end SwitchConfigurator
