import Mathlib.Data.List.Infix
import SwitchConfigurator.Foundations.CommandRun
import SwitchConfigurator.Vendors.Aruba.Commands
import SwitchConfigurator.Vendors.Cisco.Commands

/-!
# Traps

Which traps a switch sends after `apply_snmp_diff`. The diff compares the types as they are written,
where `All` overlaps the others; a switch has only traps, which a list of types stands for.
-/

namespace SwitchConfigurator

open Cli Keyed

/-! ## Types and the traps that they stand for -/

/-- The traps of a switch, and which of them a type stands for. -/
structure TrapTable (κ : Type) where
  covers : TrapType → κ → Bool
  all : ∀ k, covers .all k = true
  apart : ∀ k, covers .macNotify k = true → covers .linkChange k = false
  macNotify : ∃ k, covers .macNotify k = true
  linkChange : ∃ k, covers .linkChange k = true

namespace TrapTable

variable {κ : Type} (table : TrapTable κ)

/-- The traps that a list of types stands for. -/
def denoted (types : List TrapType) (k : κ) : Bool := types.any (table.covers · k)

def enable (types : List TrapType) (on : κ → Bool) : κ → Bool := fun k =>
  on k || table.denoted types k

def disable (types : List TrapType) (on : κ → Bool) : κ → Bool := fun k =>
  on k && !table.denoted types k

end TrapTable

/-- Types that go away are switched off after those that are new have been switched on. -/
def TrapsCompatible (current desired : List TrapType) : Prop :=
  (.all ∈ desired → current ⊆ desired) ∧ (.all ∈ current → .all ∉ desired → desired = [])

section

variable {κ : Type} {table : TrapTable κ} {types types' current desired : List TrapType} {k : κ}

/-- A trap is denoted exactly if some type covers it. -/
theorem denoted_iff : table.denoted types k = true ↔
    ∃ trap ∈ types, table.covers trap k = true := List.any_eq_true

theorem denoted_of_all (h : .all ∈ types) : table.denoted types k = true :=
  denoted_iff.mpr ⟨.all, h, table.all k⟩

/-- The order of types makes no difference. -/
theorem denoted_congr (h : ∀ trap, trap ∈ types ↔ trap ∈ types') :
    table.denoted types = table.denoted types' := by
  funext k
  rw [Bool.eq_iff_iff, denoted_iff, denoted_iff]
  simp only [h]

/-- Every type covers some trap. -/
theorem exists_covers (trap : TrapType) : ∃ k, table.covers trap k = true := by
  cases trap with
  | macNotify => exact table.macNotify
  | linkChange => exact table.linkChange
  | all =>
    obtain ⟨k, -⟩ := table.macNotify
    exact ⟨k, table.all k⟩

/-- Only `All` overlaps another type. -/
theorem covers_unique {trap other : TrapType} (htrap : trap ≠ .all) (hother : other ≠ .all)
    (h : table.covers trap k = true) (h' : table.covers other k = true) : other = trap := by
  cases trap with
  | all => exact absurd rfl htrap
  | macNotify =>
    cases other with
    | macNotify => rfl
    | all => exact absurd rfl hother
    | linkChange => cases (table.apart k h).symm.trans h'
  | linkChange =>
    cases other with
    | linkChange => rfl
    | all => exact absurd rfl hother
    | macNotify => cases (table.apart k h').symm.trans h

theorem mem_added_types {trap : TrapType} :
    trap ∈ added id current desired ↔ trap ∈ desired ∧ trap ∉ current := by
  rw [mem_added, id, lookup_id, lookup_id]
  simp

theorem mem_removed_types {trap : TrapType} :
    trap ∈ removed id current desired ↔ trap ∈ current ∧ trap ∉ desired := by
  rw [mem_removed_iff, List.map_id, List.map_id]

/-- The traps after the types that are new are switched on and those that go are switched off. -/
def TrapTable.settled (table : TrapTable κ) (current desired : List TrapType) : κ → Bool :=
  table.disable (removed id current desired)
    (table.enable (added id current desired) (table.denoted current))

/-- A trap is on if it was or is switched on, and is not switched off. -/
theorem settled_iff : table.settled current desired k = true ↔
    (table.denoted current k = true ∨ table.denoted (added id current desired) k = true) ∧
      table.denoted (removed id current desired) k = false := by
  simp [TrapTable.settled, TrapTable.disable, TrapTable.enable]

/-- A type that is dropped while `All` is wanted is switched off for good. -/
theorem settled_of_all (h : .all ∈ desired) :
    table.settled current desired = table.denoted desired ↔ current ⊆ desired := by
  constructor
  · intro hsettled trap htrap
    by_contra hdropped
    obtain ⟨k, hk⟩ := @exists_covers _ table trap
    have hon := (congrFun hsettled k).trans (denoted_of_all h)
    have hoff := (settled_iff.mp hon).2
    rw [denoted_iff.mpr ⟨trap, mem_removed_types.mpr ⟨htrap, hdropped⟩, hk⟩] at hoff
    cases hoff
  · intro hsub
    funext k
    rw [denoted_of_all h, settled_iff]
    constructor
    · by_cases hcurrent : TrapType.all ∈ current
      · exact Or.inl (denoted_of_all hcurrent)
      · exact Or.inr (denoted_of_all (mem_added_types.mpr ⟨h, hcurrent⟩))
    · rw [Bool.eq_false_iff, Ne, denoted_iff]
      rintro ⟨trap, htrap, -⟩
      obtain ⟨hcurrent, hdropped⟩ := mem_removed_types.mp htrap
      exact hdropped (hsub hcurrent)

/-- When `All` is dropped everything is off in the end. -/
theorem settled_of_all_dropped (hcurrent : .all ∈ current) (hdesired : .all ∉ desired) :
    table.settled current desired = table.denoted desired ↔ desired = [] := by
  have hoff : ∀ k, table.settled current desired k = false := by
    intro k
    rw [Bool.eq_false_iff, Ne, settled_iff,
      denoted_of_all (mem_removed_types.mpr ⟨hcurrent, hdesired⟩)]
    rintro ⟨-, hcontra⟩
    cases hcontra
  constructor
  · intro hsettled
    refine List.eq_nil_iff_forall_not_mem.mpr fun trap htrap => ?_
    obtain ⟨k, hk⟩ := @exists_covers _ table trap
    have hon : table.denoted desired k = true := denoted_iff.mpr ⟨trap, htrap, hk⟩
    rw [← hsettled, hoff k] at hon
    cases hon
  · rintro rfl
    funext k
    exact hoff k

/-- Without `All` the types are as apart as their traps. -/
theorem settled_of_not_all (hcurrent : .all ∉ current) (hdesired : .all ∉ desired) :
    table.settled current desired = table.denoted desired := by
  funext k
  rw [Bool.eq_iff_iff, settled_iff, Bool.eq_false_iff, Ne, denoted_iff, denoted_iff, denoted_iff,
    denoted_iff]
  constructor
  · rintro ⟨⟨trap, htrap, hk⟩ | ⟨trap, htrap, hk⟩, hkept⟩
    · by_cases hstays : trap ∈ desired
      · exact ⟨trap, hstays, hk⟩
      · exact absurd ⟨trap, mem_removed_types.mpr ⟨htrap, hstays⟩, hk⟩ hkept
    · exact ⟨trap, (mem_added_types.mp htrap).1, hk⟩
  · rintro ⟨trap, htrap, hk⟩
    constructor
    · by_cases hold : trap ∈ current
      · exact Or.inl ⟨trap, hold, hk⟩
      · exact Or.inr ⟨trap, mem_added_types.mpr ⟨htrap, hold⟩, hk⟩
    · rintro ⟨other, hother, hk'⟩
      obtain ⟨hold, hdropped⟩ := mem_removed_types.mp hother
      have hsame : other = trap :=
        covers_unique (fun heq => hdesired (heq ▸ htrap)) (fun heq => hcurrent (heq ▸ hold)) hk hk'
      exact hdropped (hsame ▸ htrap)

/-- The traps settle exactly if the lists are compatible. -/
theorem settled_eq_iff :
    table.settled current desired = table.denoted desired ↔ TrapsCompatible current desired := by
  unfold TrapsCompatible
  by_cases hdesired : TrapType.all ∈ desired
  · rw [settled_of_all hdesired]
    simp [hdesired]
  · by_cases hcurrent : TrapType.all ∈ current
    · rw [settled_of_all_dropped hcurrent hdesired]
      simp [hdesired, hcurrent]
    · simp [settled_of_not_all hcurrent hdesired, hdesired, hcurrent]

end

/-! ## Runs -/

section

variable {κ γ : Type} {step : γ → (κ → Bool) → κ → Bool} {table : TrapTable κ}
variable {enabling disabling : TrapType → List γ} {on : κ → Bool}

/-- Commands of which each list switches the traps of one type on. -/
theorem run_enabling (h : ∀ trap on, run step on (enabling trap) = table.enable [trap] on)
    (types : List TrapType) : run step on (types.flatMap enabling) = table.enable types on := by
  induction types generalizing on with
  | nil =>
    funext k
    simp [TrapTable.enable, TrapTable.denoted]
  | cons trap types ih =>
    rw [List.flatMap_cons, run_append, h, ih]
    funext k
    simp [TrapTable.enable, TrapTable.denoted, Bool.or_assoc]

/-- Types are switched off one after another. -/
theorem run_disabling (h : ∀ trap on, run step on (disabling trap) = table.disable [trap] on)
    (types : List TrapType) : run step on (types.flatMap disabling) = table.disable types on := by
  induction types generalizing on with
  | nil =>
    funext k
    simp [TrapTable.disable, TrapTable.denoted]
  | cons trap types ih =>
    rw [List.flatMap_cons, run_append, h, ih]
    funext k
    simp [TrapTable.disable, TrapTable.denoted, Bool.and_assoc]

/-- The traps after commands that switch on, in any order, and then off, in any order. -/
theorem run_settled (henabling : ∀ trap on, run step on (enabling trap) = table.enable [trap] on)
    (hdisabling : ∀ trap on, run step on (disabling trap) = table.disable [trap] on)
    {current desired enabled disabled : List TrapType}
    (henabled : enabled.Perm (added id current desired))
    (hdisabled : disabled.Perm (removed id current desired)) :
    run step (table.denoted current) (enabled.flatMap enabling ++ disabled.flatMap disabling) =
      table.settled current desired := by
  rw [run_append, run_enabling henabling, run_disabling hdisabling, TrapTable.settled]
  unfold TrapTable.enable TrapTable.disable
  rw [denoted_congr fun _ => henabled.mem_iff, denoted_congr fun _ => hdisabled.mem_iff]

/-- Commands that have nothing to do with traps leave them alone. -/
theorem run_around {first last : γ} {others enabled disabled : List γ}
    (hfirst : ∀ on, step first on = on) (hothers : ∀ command ∈ others, ∀ on, step command on = on)
    (hlast : ∀ on, step last on = on) :
    run step on (first :: (others ++ enabled ++ disabled ++ [last])) =
      run step on (enabled ++ disabled) := by
  rw [run_cons, hfirst, run_append, run_append, run_append, run_eq_self hothers, run_append, run_cons,
    hlast, run_nil]

/-- The traps that are on after the changes, in any order that the sets are gone through, are those
that are wanted. -/
def TrapsSettle (table : TrapTable κ) (step : γ → (κ → Bool) → κ → Bool)
    (applySnmpDiff : SnmpStateDiff → List γ) (current desired : SnmpConfig) : Prop :=
  ∀ diff : SnmpStateDiff,
    diff.trapsToEnable.Perm (Diff.computeSnmpDiff current desired).trapsToEnable →
    diff.trapsToDisable.Perm (Diff.computeSnmpDiff current desired).trapsToDisable →
    run step (table.denoted current.enabledTraps) (applySnmpDiff diff) =
      table.denoted desired.enabledTraps

/-- Where types are switched as the table says, traps settle exactly if they are compatible. -/
theorem trapsSettle_iff_compatible {applySnmpDiff : SnmpStateDiff → List γ}
    {current desired : SnmpConfig}
    (henabling : ∀ trap on, run step on (enabling trap) = table.enable [trap] on)
    (hdisabling : ∀ trap on, run step on (disabling trap) = table.disable [trap] on)
    (happly : ∀ diff on, run step on (applySnmpDiff diff) = run step on
      (diff.trapsToEnable.flatMap enabling ++ diff.trapsToDisable.flatMap disabling)) :
    TrapsSettle table step applySnmpDiff current desired ↔
      TrapsCompatible current.enabledTraps desired.enabledTraps := by
  have hrun (diff : SnmpStateDiff)
      (henable : diff.trapsToEnable.Perm (Diff.computeSnmpDiff current desired).trapsToEnable)
      (hdisable : diff.trapsToDisable.Perm (Diff.computeSnmpDiff current desired).trapsToDisable) :
      run step (table.denoted current.enabledTraps) (applySnmpDiff diff) =
        table.settled current.enabledTraps desired.enabledTraps := by
    rw [happly]
    exact run_settled henabling hdisabling henable hdisable
  rw [← @settled_eq_iff _ table]
  constructor
  · intro h
    rw [← hrun _ (List.Perm.refl _) (List.Perm.refl _)]
    exact h _ (List.Perm.refl _) (List.Perm.refl _)
  · intro h diff henable hdisable
    rw [hrun diff henable hdisable, h]

end

/-- Without changes there are no traps to switch. -/
theorem SnmpStateDiff.traps_of_no_changes {diff : SnmpStateDiff} (h : diff.hasChanges = false) :
    diff.trapsToEnable = [] ∧ diff.trapsToDisable = [] := by
  simp only [SnmpStateDiff.hasChanges, Bool.or_eq_false_iff, Bool.not_eq_false',
    List.isEmpty_iff] at h
  exact ⟨h.1.2, h.2⟩

/-! ## Aruba -/

namespace Aruba

inductive Trap where
  | macNotify
  | linkChange
  deriving DecidableEq, Repr

/-- The traps that a command names. -/
def trapsNamed : String → List Trap
  | "mac-notify" => [.macNotify]
  | "link-change" | "link-change all" => [.linkChange]
  | "all" => [.macNotify, .linkChange]
  | _ => []

def Command.switchTraps : Command → (Trap → Bool) → Trap → Bool
  | enableTraps trap, on => fun k => on k || k ∈ trapsNamed trap
  | noEnableTraps trap, on => fun k => on k && k ∉ trapsNamed trap
  | _, on => on

def trapTable : TrapTable Trap where
  covers
    | .all, _ => true
    | .macNotify, k => k == .macNotify
    | .linkChange, k => k == .linkChange
  all _ := rfl
  apart k hk := by
    obtain rfl := eq_of_beq hk
    rfl
  macNotify := ⟨.macNotify, rfl⟩
  linkChange := ⟨.linkChange, rfl⟩

/-- A type is switched on with all it covers. -/
theorem run_enableTrapCommands (trap : TrapType) (on : Trap → Bool) :
    run Command.switchTraps on (enableTrapCommands trap) = trapTable.enable [trap] on := by
  funext k
  cases trap <;> cases k <;>
    simp [enableTrapCommands, Command.switchTraps, trapsNamed, TrapTable.enable, TrapTable.denoted,
      trapTable]

/-- It is switched off with all it covers. -/
theorem run_disableTrapCommands (trap : TrapType) (on : Trap → Bool) :
    run Command.switchTraps on (disableTrapCommands trap) = trapTable.disable [trap] on := by
  funext k
  cases trap <;> cases k <;>
    simp [disableTrapCommands, Command.switchTraps, trapsNamed, TrapTable.disable,
      TrapTable.denoted, trapTable]

/-- Only the commands on traps matter for the traps. -/
theorem run_applySnmpDiff (diff : SnmpStateDiff) (on : Trap → Bool) :
    run Command.switchTraps on (applySnmpDiff diff) = run Command.switchTraps on
      (diff.trapsToEnable.flatMap enableTrapCommands ++
        diff.trapsToDisable.flatMap disableTrapCommands) := by
  rw [applySnmpDiff]
  cases hchanges : diff.hasChanges with
  | false =>
    obtain ⟨henable, hdisable⟩ := SnmpStateDiff.traps_of_no_changes hchanges
    rw [henable, hdisable]
    rfl
  | true =>
    refine run_around (fun _ => rfl) ?_ fun _ => rfl
    simp only [List.forall_mem_append, List.forall_mem_map, List.forall_mem_flatMap]
    refine ⟨⟨⟨⟨fun _ _ _ => rfl, fun community _ => ?_⟩, fun _ _ _ => rfl⟩, fun _ _ _ => rfl⟩,
      fun _ _ _ => rfl⟩
    exact List.forall_mem_cons.mpr ⟨fun _ => rfl, List.forall_mem_singleton.mpr fun _ => rfl⟩

/-- A line of `show snmp-server traps`: are link-change and MAC traps on, by what was read so far? -/
def readTrapStatus (status : Bool × Bool) (line : List Char) : Bool × Bool :=
  (if "Link-Change Traps Enabled on Ports".toList <:+: line then
      if ": None".toList <:+: line then false
      else if ": All".toList <:+: line ∨ ":".toList <:+: line then true
      else status.1
    else status.1,
    if "MAC address table changes".toList <:+: line then
      if "Enabled".toList <:+: line then true
      else if "Disabled".toList <:+: line then false
      else status.2
    else status.2)

def parseSnmpTrapStatus (lines : List (List Char)) : Bool × Bool :=
  lines.foldl (fun status line => readTrapStatus status (trim line)) (false, false)

/-- The traps of `parse_snmp_config`. -/
def enabledTraps (status : Bool × Bool) : List TrapType :=
  (if status.1 then [.linkChange] else []) ++ if status.2 then [.macNotify] else []

/-- What the switch shows of its traps. -/
def shownTraps (on : Trap → Bool) : List (List Char) :=
  ["Link-Change Traps Enabled on Ports [All] : ".toList ++
      (if on .linkChange then "All" else "None").toList,
    "MAC address table changes             : ".toList ++
      (if on .macNotify then "Enabled" else "Disabled").toList]

/-- The types that are read of a switch stand for the traps that it has on. -/
theorem denoted_shownTraps (on : Trap → Bool) :
    trapTable.denoted (enabledTraps (parseSnmpTrapStatus (shownTraps on))) = on := by
  have hread : parseSnmpTrapStatus (shownTraps on) = (on .linkChange, on .macNotify) := by
    unfold shownTraps
    cases on .linkChange <;> cases on .macNotify <;> decide +kernel
  rw [hread]
  funext k
  cases k
  · show trapTable.denoted (enabledTraps (on .linkChange, on .macNotify)) .macNotify = on .macNotify
    cases on .linkChange <;> cases on .macNotify <;> rfl
  · show trapTable.denoted (enabledTraps (on .linkChange, on .macNotify)) .linkChange =
      on .linkChange
    cases on .linkChange <;> cases on .macNotify <;> rfl

/-- On Aruba traps settle exactly if the lists are compatible. -/
theorem trapsSettle_iff {current desired : SnmpConfig} :
    TrapsSettle trapTable Command.switchTraps applySnmpDiff current desired ↔
      TrapsCompatible current.enabledTraps desired.enabledTraps :=
  trapsSettle_iff_compatible run_enableTrapCommands run_disableTrapCommands run_applySnmpDiff

end Aruba

/-! ## Cisco -/

namespace Cisco

inductive Trap where
  | macNotification
  | link
  | other (name : String)
  deriving DecidableEq, Repr

/-- `enable traps` without a name stands for every trap. -/
def trapTable : TrapTable Trap where
  covers
    | .all, _ => true
    | .macNotify, k => k == .macNotification
    | .linkChange, k => k == .link
  all _ := rfl
  apart k hk := by
    obtain rfl := eq_of_beq hk
    rfl
  macNotify := ⟨.macNotification, rfl⟩
  linkChange := ⟨.link, rfl⟩

def Command.switchTraps : Command → (Trap → Bool) → Trap → Bool
  | enableTraps trap, on => fun k => on k || trapTable.covers trap k
  | noEnableTraps trap, on => fun k => on k && !trapTable.covers trap k
  | _, on => on

theorem run_enableTraps (trap : TrapType) (on : Trap → Bool) :
    run Command.switchTraps on [.enableTraps trap] = trapTable.enable [trap] on := by
  funext k
  simp [Command.switchTraps, TrapTable.enable, TrapTable.denoted]

theorem run_noEnableTraps (trap : TrapType) (on : Trap → Bool) :
    run Command.switchTraps on [.noEnableTraps trap] = trapTable.disable [trap] on := by
  funext k
  simp [Command.switchTraps, TrapTable.disable, TrapTable.denoted]

/-- Of a change of SNMP only the traps count here. -/
theorem run_applySnmpDiff (diff : SnmpStateDiff) (on : Trap → Bool) :
    run Command.switchTraps on (applySnmpDiff diff) = run Command.switchTraps on
      (diff.trapsToEnable.flatMap (fun trap => [.enableTraps trap]) ++
        diff.trapsToDisable.flatMap fun trap => [.noEnableTraps trap]) := by
  rw [applySnmpDiff, ← List.map_eq_flatMap, ← List.map_eq_flatMap]
  cases hchanges : diff.hasChanges with
  | false =>
    obtain ⟨henable, hdisable⟩ := SnmpStateDiff.traps_of_no_changes hchanges
    rw [henable, hdisable]
    rfl
  | true =>
    refine run_around (fun _ => rfl) ?_ fun _ => rfl
    simp only [List.forall_mem_append, List.forall_mem_map, List.forall_mem_flatMap]
    refine ⟨⟨⟨⟨fun _ _ _ => rfl, fun community _ => ?_⟩, fun _ _ _ => rfl⟩, fun _ _ _ => rfl⟩,
      fun _ _ _ => rfl⟩
    exact List.forall_mem_cons.mpr ⟨fun _ => rfl, List.forall_mem_singleton.mpr fun _ => rfl⟩

/-- On Cisco traps settle exactly if the lists are compatible. -/
theorem trapsSettle_iff {current desired : SnmpConfig} :
    TrapsSettle trapTable Command.switchTraps applySnmpDiff current desired ↔
      TrapsCompatible current.enabledTraps desired.enabledTraps :=
  trapsSettle_iff_compatible run_enableTraps run_noEnableTraps run_applySnmpDiff

end Cisco

/-- On both kinds of switch the traps that are wanted are on in the end exactly where `All` does not
get in the way of the others. -/
theorem traps_settle_iff (current desired : SnmpConfig) :
    (TrapsSettle Aruba.trapTable Aruba.Command.switchTraps Aruba.applySnmpDiff current desired ↔
      TrapsCompatible current.enabledTraps desired.enabledTraps) ∧
    (TrapsSettle Cisco.trapTable Cisco.Command.switchTraps Cisco.applySnmpDiff current desired ↔
      TrapsCompatible current.enabledTraps desired.enabledTraps) :=
  ⟨Aruba.trapsSettle_iff, Cisco.trapsSettle_iff⟩

/-- Both traps are on one by one, and `All` is wanted: they are off in the end. -/
theorem all_switched_off :
    let current : SnmpConfig := { enabledTraps := [.linkChange, .macNotify] }
    let desired : SnmpConfig := { enabledTraps := [.all] }
    ¬TrapsSettle Aruba.trapTable Aruba.Command.switchTraps Aruba.applySnmpDiff current desired ∧
      ∀ k, run Aruba.Command.switchTraps (Aruba.trapTable.denoted current.enabledTraps)
        (Aruba.applySnmpDiff (Diff.computeSnmpDiff current desired)) k = false := by
  intro current desired
  have hoff : ∀ k, run Aruba.Command.switchTraps (Aruba.trapTable.denoted current.enabledTraps)
      (Aruba.applySnmpDiff (Diff.computeSnmpDiff current desired)) k = false := by
    intro k
    cases k <;> decide
  refine ⟨fun h => ?_, hoff⟩
  have hon := congrFun (h _ (List.Perm.refl _) (List.Perm.refl _)) .macNotify
  rw [hoff] at hon
  cases hon

end SwitchConfigurator
