import SwitchConfigurator.Models

/-!
# What the vendors share

`vendors/traits.rs`: the errors, the check against an empty state, and the order in which an
`apply_diff` sends its commands. A connection that fails is left out: every step reaches the device.
-/

namespace SwitchConfigurator

inductive VendorError where
  | validationError (message : String)
  | parseError (message : String)
  deriving DecidableEq, Repr

/-- Refuse to apply where nothing at all was parsed but something is desired. -/
def checkEmptyStateSafety (current : SwitchState) (desiredVlans desiredPorts : ℕ)
    (hostname : String) : Except VendorError Unit :=
  if current.vlans.isEmpty && current.ports.isEmpty && (desiredVlans > 0 || desiredPorts > 0) then
    .error (.parseError s!"Parsed state for '{hostname}' is completely empty (0 VLANs, 0 ports) but desired config has {desiredVlans} VLANs and {desiredPorts} ports. This likely indicates a failed 'show running-config' — refusing to apply to avoid overwriting the switch from scratch.")
  else .ok ()

/-! ## Steps of an apply -/

/-- The steps of an `apply_diff`, each with the commands it sends unless it fails before. -/
abbrev Steps (α : Type) := List (Except VendorError (List α))

namespace Steps

variable {α β : Type}

/-- A step that is left out where there is nothing to do. -/
def ifAny (l : List β) (commands : List β → List α) : Steps α :=
  if l.isEmpty then [] else [.ok (commands l)]

/-- The granular diff of SNMP where there is one, else the full replacement. -/
def snmp (granular : SnmpStateDiff → Except VendorError (List α))
    (full : SnmpConfig → Except VendorError (List α)) (diff : StateDiff) : Steps α :=
  match diff.snmpDiff with
  | some snmpDiff => if snmpDiff.hasChanges then [granular snmpDiff] else []
  | none => if diff.snmpConfigChanged then (diff.snmpConfig.map full).toList else []

def managementVlan (configure : ℕ → Except VendorError (List α)) (remove : List α)
    (diff : StateDiff) : Steps α :=
  if diff.managementVlanChanged then
    match diff.managementVlan with
    | some vlanId => [configure vlanId]
    | none => [.ok remove]
  else []

/-- The commands that reach the device: a step that fails is the last one. -/
def sent : Steps α → List α
  | [] => []
  | .ok commands :: steps => commands ++ sent steps
  | .error _ :: _ => []

@[simp] theorem sent_nil : sent ([] : Steps α) = [] := rfl

@[simp] theorem sent_ok {commands : List α} {steps : Steps α} :
    sent (.ok commands :: steps) = commands ++ sent steps := rfl

@[simp] theorem sent_error {e : VendorError} {steps : Steps α} : sent (.error e :: steps) = [] := rfl

theorem sent_ifAny_append {l : List β} {commands : List β → List α} {steps : Steps α} :
    sent (ifAny l commands ++ steps) = (if l.isEmpty then [] else commands l) ++ sent steps := by
  rw [ifAny]
  split <;> rfl

/-- What holds of every step's commands, and of two lists together when of each, holds of what is
sent. -/
theorem sent_induction {P : List α → Prop} (hnil : P [])
    (happend : ∀ {l l'}, P l → P l' → P (l ++ l')) {steps : Steps α}
    (h : ∀ commands, .ok commands ∈ steps → P commands) : P (sent steps) := by
  induction steps with
  | nil => exact hnil
  | cons step steps ih =>
    cases step with
    | error e => exact hnil
    | ok commands =>
      refine happend (h commands List.mem_cons_self) (ih ?_)
      intro commands hcommands
      exact h commands (List.mem_cons_of_mem _ hcommands)

/-- What is sent belongs to a step. -/
theorem exists_of_mem_sent {steps : Steps α} {a : α} (h : a ∈ sent steps) :
    ∃ commands, .ok commands ∈ steps ∧ a ∈ commands := by
  induction steps with
  | nil => cases h
  | cons step steps ih =>
    cases step with
    | error e => cases h
    | ok commands =>
      rcases List.mem_append.mp h with h | h
      · exact ⟨commands, List.mem_cons_self, h⟩
      · obtain ⟨others, hothers, h⟩ := ih h
        exact ⟨others, List.mem_cons_of_mem _ hothers, h⟩

theorem ok_mem_ifAny {l : List β} {commands : List β → List α} {c : List α} :
    .ok c ∈ ifAny l commands ↔ l ≠ [] ∧ c = commands l := by
  cases l with
  | nil => simp [ifAny]
  | cons a l => simp [ifAny]

section Members

variable {diff : StateDiff} {step : Except VendorError (List α)}

/-- Of SNMP, the changes are sent, or the whole where no difference was computed. -/
theorem mem_snmp {granular : SnmpStateDiff → Except VendorError (List α)}
    {full : SnmpConfig → Except VendorError (List α)} : step ∈ snmp granular full diff ↔
      (∃ snmpDiff, diff.snmpDiff = some snmpDiff ∧ snmpDiff.hasChanges = true ∧
        step = granular snmpDiff) ∨
      (diff.snmpDiff = none ∧ diff.snmpConfigChanged = true ∧
        ∃ config, diff.snmpConfig = some config ∧ step = full config) := by
  rw [snmp]
  cases hdiff : diff.snmpDiff with
  | some snmpDiff => by_cases hchanges : snmpDiff.hasChanges = true <;> simp [hchanges]
  | none =>
    by_cases hchanged : diff.snmpConfigChanged = true
    · rw [if_pos hchanged, Option.mem_toList, Option.map_eq_some_iff]
      simp only [hchanged, reduceCtorEq, false_and, exists_false, false_or, true_and]
      exact exists_congr fun config => and_congr_right fun _ => eq_comm
    · simp [hchanged]

/-- The management VLAN is set or removed where it has changed. -/
theorem mem_managementVlan {configure : ℕ → Except VendorError (List α)} {remove : List α} :
    step ∈ managementVlan configure remove diff ↔ diff.managementVlanChanged = true ∧
      ((∃ vlanId, diff.managementVlan = some vlanId ∧ step = configure vlanId) ∨
        diff.managementVlan = none ∧ step = .ok remove) := by
  rw [managementVlan]
  cases diff.managementVlan <;> by_cases hchanged : diff.managementVlanChanged = true <;>
    simp [hchanged]

end Members

end Steps

end SwitchConfigurator
