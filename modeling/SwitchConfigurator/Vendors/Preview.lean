import SwitchConfigurator.Vendors.Aruba.Commands
import SwitchConfigurator.Vendors.Cisco.Commands
import SwitchConfigurator.Vendors.Fortiswitch.Commands

/-!
# Previews

`generate_commands_for_diff` of the three vendors, beside the steps that `apply_diff` takes for the
same diff, cut into the sections that a preview has.
-/

namespace SwitchConfigurator

/-- The commands for a diff, by section. -/
@[ext] structure CommandPreview (α : Type) where
  vlanCommands : List α := []
  portCommands : List α := []
  mirrorCommands : List α := []
  snmpCommands : List α := []
  resetCommands : List α := []
  otherCommands : List α := []
  deriving DecidableEq, Repr

namespace Steps

variable {α β : Type}

/-- What the steps send behind others, which may have failed. -/
def sentAfter (before steps : Steps α) : List α :=
  (sent (before ++ steps)).drop (sent before).length

/-- No step of these fails. -/
def Sound (steps : Steps α) : Prop := ∀ step ∈ steps, ∃ commands, step = .ok commands

/-- Behind steps that cannot fail the rest is sent. -/
theorem sent_append_of_sound {before steps : Steps α} (h : before.Sound) :
    sent (before ++ steps) = sent before ++ sent steps := by
  induction before with
  | nil => rfl
  | cons step before ih =>
    obtain ⟨⟨commands, rfl⟩, hbefore⟩ := List.forall_mem_cons.mp h
    rw [List.cons_append, sent_ok, sent_ok, ih hbefore, List.append_assoc]

/-- Behind a failure nothing is sent. -/
theorem sent_append_of_error {before steps : Steps α} {e : VendorError} (h : .error e ∈ before) :
    sent (before ++ steps) = sent before := by
  induction before with
  | nil => cases h
  | cons step before ih =>
    cases step with
    | error e' => rfl
    | ok commands =>
      rw [List.cons_append, sent_ok, sent_ok, ih ((List.mem_cons.mp h).resolve_left nofun)]

/-- Steps are sound, or one of them fails. -/
theorem sound_or_error (steps : Steps α) : steps.Sound ∨ ∃ e, .error e ∈ steps := by
  by_cases h : ∃ e, .error e ∈ steps
  · exact .inr h
  · refine .inl fun step hstep => ?_
    cases step with
    | ok commands => exact ⟨commands, rfl⟩
    | error e => exact absurd ⟨e, hstep⟩ h

theorem sentAfter_of_sound {before steps : Steps α} (h : before.Sound) :
    sentAfter before steps = sent steps := by
  rw [sentAfter, sent_append_of_sound h, List.drop_left]

/-- The commands of some steps and those behind them. -/
theorem sent_append (before steps : Steps α) :
    sent (before ++ steps) = sent before ++ sentAfter before steps := by
  rcases sound_or_error before with h | ⟨e, h⟩
  · rw [sentAfter_of_sound h, sent_append_of_sound h]
  · rw [sentAfter, sent_append_of_error h, List.drop_length, List.append_nil]

/-- Sound steps are sound together. -/
theorem Sound.append {before steps : Steps α} (h : before.Sound) (h' : steps.Sound) :
    Sound (before ++ steps) :=
  List.forall_mem_append.mpr ⟨h, h'⟩

end Steps

/-- The steps of an `apply_diff`, in order, by the section of the preview that they belong to. The
management VLAN belongs to no section that is filled. -/
structure Sections (α : Type) where
  vlans : Steps α
  ports : Steps α
  resets : Steps α
  mirrors : Steps α
  snmp : Steps α
  other : Steps α

namespace Sections

variable {α : Type} (sections : Sections α)

def steps : Steps α :=
  sections.vlans ++ sections.ports ++ sections.resets ++ sections.mirrors ++ sections.snmp ++
    sections.other

/-- What is sent, by section. -/
def sent : CommandPreview α where
  vlanCommands := Steps.sent sections.vlans
  portCommands := Steps.sentAfter sections.vlans sections.ports
  resetCommands := Steps.sentAfter (sections.vlans ++ sections.ports) sections.resets
  mirrorCommands :=
    Steps.sentAfter (sections.vlans ++ sections.ports ++ sections.resets) sections.mirrors
  snmpCommands := Steps.sentAfter
    (sections.vlans ++ sections.ports ++ sections.resets ++ sections.mirrors) sections.snmp
  otherCommands := Steps.sentAfter (sections.vlans ++ sections.ports ++ sections.resets ++
    sections.mirrors ++ sections.snmp) sections.other

/-- The sections, one behind another, are the whole run. -/
theorem sent_steps : Steps.sent sections.steps =
    sections.sent.vlanCommands ++ sections.sent.portCommands ++ sections.sent.resetCommands ++
      sections.sent.mirrorCommands ++ sections.sent.snmpCommands ++
      sections.sent.otherCommands := by
  rw [steps, Steps.sent_append, Steps.sent_append, Steps.sent_append, Steps.sent_append,
    Steps.sent_append]
  rfl

/-- Only SNMP and what follows on it may fail. -/
structure Sound : Prop where
  vlans : sections.vlans.Sound
  ports : sections.ports.Sound
  resets : sections.resets.Sound
  mirrors : sections.mirrors.Sound

end Sections

/-! ## Aruba -/

namespace Aruba

def sections (switch : ArubaSwitch) (diff : StateDiff) : Sections Command where
  vlans := removeVlans switch diff.vlansToRemove ++
    Steps.ifAny diff.vlansToAdd generateVlanCommands ++
    Steps.ifAny diff.vlansToUpdate generateVlanCommands
  ports := Steps.ifAny diff.portsToConfigure fun ports =>
    generatePortCommands switch ports switch.config.portMirrors
  resets := Steps.ifAny diff.portsToReset (resetPorts switch)
  mirrors := Steps.ifAny diff.mirrorDestPortsToConfigure configureMirrorDestPorts ++
    Steps.ifAny diff.mirrorsToRemove generateRemoveMirrorCommands ++
    Steps.ifAny diff.mirrorsToAdd (generateMirrorCommands switch) ++
    Steps.ifAny diff.mirrorsToUpdate (generateMirrorCommands switch)
  snmp := snmpSteps switch diff
  other := managementVlanSteps diff

end Aruba

/-! ## Cisco -/

namespace Cisco

def sections (switch : CiscoSwitch) (diff : StateDiff) : Sections Command where
  vlans := removeVlans switch diff.vlansToRemove ++
    Steps.ifAny diff.vlansToAdd generateVlanCommands ++
    Steps.ifAny diff.vlansToUpdate generateVlanCommands
  ports := Steps.ifAny diff.portsToConfigure generatePortCommands
  resets := Steps.ifAny diff.portsToReset resetPorts
  mirrors := Steps.ifAny diff.mirrorDestPortsToConfigure configureMirrorDestPorts ++
    Steps.ifAny diff.mirrorsToRemove generateRemoveMirrorCommands ++
    Steps.ifAny diff.mirrorsToAdd generateMirrorCommands ++
    Steps.ifAny diff.mirrorsToUpdate generateMirrorCommands
  snmp := snmpSteps diff
  other := managementVlanSteps switch diff

end Cisco

/-! ## FortiSwitch -/

namespace Fortiswitch

open Cli

def sections (switch : FortiswitchSwitch) (diff : StateDiff) : Sections Line where
  vlans := vlanSteps diff
  ports := Steps.ifAny diff.portsToConfigure generatePortCommands
  resets := Steps.ifAny diff.portsToReset resetPorts
  mirrors := Steps.ifAny diff.mirrorDestPortsToConfigure configureMirrorDestPorts ++
    Steps.ifAny diff.mirrorsToRemove generateRemoveMirrorCommands ++
    Steps.ifAny diff.mirrorsToAdd generateMirrorCommands ++
    Steps.ifAny diff.mirrorsToUpdate generateMirrorCommands
  snmp := snmpSteps switch diff
  other := managementVlanSteps switch diff

end Fortiswitch

end SwitchConfigurator
