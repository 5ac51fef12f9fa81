import SwitchConfigurator.Config.Validate
import SwitchConfigurator.Vendors.Aruba.Commands
import SwitchConfigurator.Vendors.Cisco.Commands
import SwitchConfigurator.Vendors.Fortiswitch.Commands

/-!
# Commands that stay on their line

Which configured texts the generators of the three vendors write into commands, and that a command
is one line exactly when the texts in it are.
-/

namespace SwitchConfigurator

open Cli

/-- Nothing that ends a line or is no text at all. -/
def CleanText (text : String) : Prop := ∀ c ∈ text.toList, isControl c = false

instance {text : String} : Decidable (CleanText text) :=
  inferInstanceAs (Decidable (∀ c ∈ text.toList, isControl c = false))

/-- A word that stays on its line and, in quotes, inside them. -/
abbrev CleanArg (arg : Arg) : Prop := arg.Clean fun c => isControl c = false

@[simp] theorem cleanArg_bare {text : String} : CleanArg (.bare text) ↔ CleanText text := Iff.rfl

@[simp] theorem cleanArg_quoted {text : String} :
    CleanArg (.quoted text) ↔ CleanText text ∧ '"' ∉ text.toList := Iff.rfl

/-- A number is clean. -/
@[simp] theorem cleanText_repr {n : ℕ} : CleanText n.repr := by
  intro c hc
  have hdigit := isDigit_of_mem_toString (n := n) hc
  have hval : c.val.toNat = c.toNat := rfl
  simp only [Char.isDigit, Bool.and_eq_true, decide_eq_true_eq, ge_iff_le,
    UInt32.le_iff_toNat_le, hval] at hdigit
  have hbounds : 48 ≤ c.toNat ∧ c.toNat ≤ 57 := hdigit
  simp only [isControl, Bool.or_eq_false_iff, Bool.and_eq_false_iff, decide_eq_false_iff_not]
  omega

@[simp] theorem cleanArg_number {n : ℕ} : CleanArg (.number n) := cleanText_repr

/-- Two texts are clean together if each is. -/
theorem cleanText_append {text text' : String} :
    CleanText (text ++ text') ↔ CleanText text ∧ CleanText text' := by
  rw [CleanText, String.toList_append, List.forall_mem_append]
  rfl

@[simp] theorem cleanText_intercalate {texts : List String} :
    CleanText (",".intercalate texts) ↔ ∀ text ∈ texts, CleanText text := by
  rw [CleanText, String.toList_intercalate, forall_mem_intercalate (by simp [isControl]),
    List.forall_mem_map]
  rfl

def CleanTexts (texts : List Arg) : Prop := ∀ text ∈ texts, CleanArg text

section CleanTexts

variable {α : Type} {texts texts' : List Arg} {l : List α}

@[simp] theorem cleanTexts_nil : CleanTexts [] := by simp [CleanTexts]

@[simp] theorem cleanTexts_cons {text : Arg} :
    CleanTexts (text :: texts) ↔ CleanArg text ∧ CleanTexts texts := List.forall_mem_cons

@[simp] theorem cleanTexts_append :
    CleanTexts (texts ++ texts') ↔ CleanTexts texts ∧ CleanTexts texts' := List.forall_mem_append

@[simp] theorem cleanTexts_map {f : α → Arg} : CleanTexts (l.map f) ↔ ∀ a ∈ l, CleanArg (f a) :=
  List.forall_mem_map

@[simp] theorem cleanTexts_flatMap {f : α → List Arg} :
    CleanTexts (l.flatMap f) ↔ ∀ a ∈ l, CleanTexts (f a) := List.forall_mem_flatMap

end CleanTexts

/-- What a generator is asked to write commands for. -/
inductive Request where
  | vlans (vlans : List Vlan)
  | removeVlans (vlanIds : List ℕ)
  | migrations (migrations : List PortMigration)
  | ports (ports : List Port) (mirrors : List PortMirror)
  | resetPorts (portIds : List String)
  | mirrorDestPorts (portIds : List String)
  | mirrors (mirrors : List PortMirror)
  | removeMirrors (sessionIds : List String)
  | snmp (snmp : SnmpConfig) (currentTraps : List TrapType)
  /-- The full replacement, with what comes before it. -/
  | configureSnmp (snmp : SnmpConfig)
  | snmpDiff (diff : SnmpStateDiff)
  | managementVlan (vlanId : ℕ)
  | removeManagementVlan
  | poe (portId : String) (on : Bool)

def addressTexts : VlanIpConfig → List Arg
  | .static address netmask => [.bare address, .bare netmask]
  | .dhcp | .none => []

/-! ## Aruba -/

namespace Aruba

/-- The words of a command that are neither keywords nor numbers. -/
@[grind =] def Command.values : Command → List Arg
  | interface port => [.bare port]
  | name arg => [arg]
  | ipAddress address netmask => [.bare address, .bare netmask]
  | noUntagged ports => ports.map .bare
  | noTagged ports => ports.map .bare
  | monitorAll _ session => [.bare session]
  | mirrorPort destination => [.bare destination]
  | mirror session destination => [.bare session, .bare destination]
  | noMirror session => [.bare session]
  | snmpCommunity community _ => [.quoted community]
  | noSnmpCommunity community => [.quoted community]
  | snmpHost host community => [.bare host, .quoted community]
  | noSnmpHost host => [.bare host]
  | noSnmpHostCommunity host community => [.bare host, .quoted community]
  | enableTraps trap => [.bare trap]
  | noEnableTraps trap => [.bare trap]
  | _ => []

/-- The words of a command are clean exactly if its values are. -/
theorem clean_words_iff {command : Command} :
    CleanTexts command.words ↔ CleanTexts command.values := by
  cases command with
  | speedDuplex speed => cases speed <;> simp +decide [Command.words, Command.values, speedText]
  | macNotify trap => cases trap <;> simp +decide [Command.words, Command.values, macTrapText]
  | noMacNotify trap => cases trap <;> simp +decide [Command.words, Command.values, macTrapText]
  | monitorAll direction _ =>
    cases direction <;> simp +decide [Command.words, Command.values, directionText]
  | snmpCommunity _ access =>
    cases access <;> simp +decide [Command.words, Command.values, accessText]
  | _ => simp +decide [Command.words, Command.values, commaSeparated]

/-- All texts in the commands are clean. -/
def CleanValues (commands : List Command) : Prop :=
  ∀ command ∈ commands, CleanTexts command.values

section CleanValues

variable {α : Type} {commands commands' : List Command} {l : List α}

@[simp] theorem cleanValues_nil : CleanValues [] := by simp [CleanValues]

@[simp] theorem cleanValues_cons {command : Command} : CleanValues (command :: commands) ↔
    CleanTexts command.values ∧ CleanValues commands := List.forall_mem_cons

@[simp] theorem cleanValues_append : CleanValues (commands ++ commands') ↔
    CleanValues commands ∧ CleanValues commands' := List.forall_mem_append

@[simp] theorem cleanValues_map {f : α → Command} :
    CleanValues (l.map f) ↔ ∀ a ∈ l, CleanTexts (f a).values := List.forall_mem_map

@[simp] theorem cleanValues_flatMap {f : α → List Command} :
    CleanValues (l.flatMap f) ↔ ∀ a ∈ l, CleanValues (f a) := List.forall_mem_flatMap

@[simp] theorem cleanValues_configured : CleanValues (configured commands) ↔
    CleanValues commands := by
  simp [configured, Command.values]

end CleanValues

def generate (switch : ArubaSwitch) : Request → List Command
  | .vlans vlans => generateVlanCommands vlans
  | .removeVlans vlanIds => generateRemoveVlanCommands vlanIds
  | .migrations migrations => migratePortsBeforeVlanDeletion migrations
  | .ports ports mirrors => generatePortCommands switch ports mirrors
  | .resetPorts portIds => resetPorts switch portIds
  | .mirrorDestPorts portIds => configureMirrorDestPorts portIds
  | .mirrors mirrors => generateMirrorCommands switch mirrors
  | .removeMirrors sessionIds => generateRemoveMirrorCommands sessionIds
  | .snmp snmp currentTraps => generateSnmpCommands snmp currentTraps
  | .configureSnmp snmp => configureSnmp switch snmp
  | .snmpDiff diff => applySnmpDiff diff
  | .managementVlan vlanId => configureManagementVlan vlanId
  | .removeManagementVlan => removeManagementVlan
  | .poe portId on => if on then poeEnableCommands portId else poeDisableCommands portId

def receiverTexts (receiver : SnmpTrapReceiver) : List Arg :=
  [.bare receiver.host, .quoted receiver.community]

def snmpTexts (snmp : SnmpConfig) : List Arg :=
  snmp.communities.map (.quoted ·.name) ++ snmp.trapReceivers.flatMap receiverTexts

/-- The texts that the commands of a request carry. -/
def carried (switch : ArubaSwitch) : Request → List Arg
  | .vlans vlans => vlans.flatMap fun vlan => nameArg vlan.name :: addressTexts vlan.ipConfig
  | .migrations migrations => migrations.map (.bare ·.portId)
  | .ports ports mirrors => ports.flatMap fun port =>
    [.bare (normalizePortId port.portId)] ++ port.description.toList.map .quoted ++
      if switch.usesLegacyMirrorSyntax then []
      else (mirrorSources mirrors (normalizePortId port.portId)).map (.bare ·.1)
  | .resetPorts portIds | .mirrorDestPorts portIds => portIds.map (.bare <| normalizePortId ·)
  | .mirrors mirrors => mirrors.flatMap fun mirror =>
    (if switch.usesLegacyMirrorSyntax then [] else [.bare mirror.sessionId]) ++
      [.bare (normalizePortId mirror.destinationPort)]
  | .removeMirrors sessionIds => sessionIds.map .bare
  | .snmp snmp _ => snmpTexts snmp
  | .configureSnmp snmp => (switch.shownSnmp.receivers.flatMap fun receiver =>
      .bare receiver.1 :: receiver.2.toList.map .quoted) ++ snmpTexts snmp
  | .snmpDiff diff => diff.communitiesToRemove.map .quoted ++
      (diff.communitiesToUpdate ++ diff.communitiesToAdd).map (.quoted ·.name) ++
      diff.trapReceiversToRemove.map .bare ++ diff.trapReceiversToAdd.flatMap receiverTexts
  | .poe portId _ => [.bare (normalizePortId portId)]
  | .removeVlans _ | .managementVlan _ | .removeManagementVlan => []

section Generators

variable {switch : ArubaSwitch} {mirrors : List PortMirror} {port : Port} {snmp : SnmpConfig}

/-- A VLAN carries its name and addresses. -/
theorem clean_vlanCommands_iff {vlan : Vlan} : CleanValues (vlanCommands vlan) ↔
    CleanArg (nameArg vlan.name) ∧ CleanTexts (addressTexts vlan.ipConfig) := by
  rw [vlanCommands]
  cases vlan.ipConfig <;> simp [ipCommand, addressTexts, Command.values]

theorem clean_vlanMembershipCommands : CleanValues (vlanMembershipCommands switch port) := by
  rw [vlanMembershipCommands]
  cases port.inferredMode with
  | access => simp [Command.values]
  | trunk =>
    dsimp only
    split <;> simp [Command.values]

/-- A port carries its description. -/
theorem clean_descriptionCommands_iff : CleanValues (descriptionCommands switch port) ↔
    ∀ desc, port.description = some desc → CleanArg (.quoted desc) := by
  rw [descriptionCommands]
  cases port.description with
  | none =>
    dsimp only
    split <;> simp [Command.values]
  | some desc => simp [Command.values]

theorem clean_poeCommands : CleanValues (poeCommands switch port) := by
  rw [poeCommands]
  split
  · split <;> simp [Command.values]
  · simp

theorem clean_macNotifyCommands : CleanValues (macNotifyCommands port) := by
  rw [macNotifyCommands]
  split <;> simp [Command.values]

/-- A mirrored port carries the names of sessions. -/
theorem clean_monitorCommands_iff {interface : String} :
    CleanValues (monitorCommands switch mirrors interface) ↔
      CleanTexts (if switch.usesLegacyMirrorSyntax then []
        else (mirrorSources mirrors interface).map (.bare ·.1)) := by
  rw [monitorCommands]
  cases switch.usesLegacyMirrorSyntax with
  | true =>
    simp only [if_true, cleanTexts_nil, iff_true]
    split <;> simp [Command.values]
  | false => simp [Command.values]

/-- A port carries what its request does. -/
theorem clean_portCommands_iff : CleanValues (portCommands switch mirrors port) ↔
    CleanTexts (carried switch (.ports [port] mirrors)) := by
  rw [portCommands, carried]
  cases port.enabled <;>
    simp [clean_descriptionCommands_iff, clean_vlanMembershipCommands, clean_poeCommands,
      clean_macNotifyCommands, clean_monitorCommands_iff, Command.values]

theorem clean_resetPort_iff {portId : String} : CleanValues (resetPort switch portId) ↔
    CleanText (normalizePortId portId) := by
  rw [resetPort]
  cases switch.supportsPoe <;> simp [Command.values]

/-- A mirror carries what its request does. -/
theorem clean_mirrorCommand_iff {mirror : PortMirror} :
    CleanTexts (mirrorCommand switch mirror).values ↔
      CleanTexts (carried switch (.mirrors [mirror])) := by
  rw [mirrorCommand, carried]
  cases switch.usesLegacyMirrorSyntax <;> simp [Command.values]

/-- A group of ports carries their names. -/
theorem clean_cleanVlan_iff {group : ℕ × VlanMembers} : CleanValues (cleanVlan group) ↔
    (∀ port ∈ group.2.1, CleanText port) ∧ ∀ port ∈ group.2.2, CleanText port := by
  obtain ⟨id, untagged, tagged⟩ := group
  cases untagged <;> cases tagged <;> simp [cleanVlan, Command.values]

/-- The groups have the ports of all migrations between them. -/
theorem clean_migrate_iff {migrations : List PortMigration} :
    CleanValues (migratePortsBeforeVlanDeletion migrations) ↔
      ∀ migration ∈ migrations, CleanText migration.portId := by
  rw [migratePortsBeforeVlanDeletion, cleanValues_configured, cleanValues_flatMap, groupMigrations,
    List.forall_mem_map]
  simp only [clean_cleanVlan_iff, portsLeaving, List.forall_mem_map, List.mem_filter,
    List.mem_dedup]
  constructor
  · intro h migration hmigration
    obtain ⟨huntagged, htagged⟩ := h migration hmigration
    by_cases haction : migration.action = .moveAccessToVlan1
    · exact huntagged migration ⟨hmigration, by simp [haction]⟩
    · exact htagged migration ⟨hmigration, by simp [haction]⟩
  · intro h first _
    exact ⟨fun migration hmigration => h migration hmigration.1,
      fun migration hmigration => h migration hmigration.1⟩

/-- A receiver that is removed carries its host and community. -/
theorem clean_removeReceiver_iff {receiver : String × Option String} :
    CleanTexts (removeReceiver receiver).values ↔
      CleanTexts (.bare receiver.1 :: receiver.2.toList.map .quoted) := by
  obtain ⟨host, community⟩ := receiver
  cases community <;> simp [removeReceiver, Command.values]

/-- The whole of SNMP carries its texts. -/
theorem clean_generateSnmpCommands_iff {currentTraps : List TrapType} :
    CleanValues (generateSnmpCommands snmp currentTraps) ↔ CleanTexts (snmpTexts snmp) := by
  have htrap (trap : TrapType) : CleanText (trapText trap) := by cases trap <;> decide
  simp +decide [generateSnmpCommands, snmpTexts, receiverTexts, communityCommand, receiverCommand,
    Command.values, htrap]

/-- A change of SNMP carries what its request does. -/
theorem clean_applySnmpDiff_iff {diff : SnmpStateDiff} : CleanValues (applySnmpDiff diff) ↔
    CleanTexts (carried switch (.snmpDiff diff)) := by
  have henable (trap : TrapType) : CleanValues (enableTrapCommands trap) := by
    cases trap <;> simp +decide [enableTrapCommands, Command.values]
  have hdisable (trap : TrapType) : CleanValues (disableTrapCommands trap) := by
    cases trap <;> simp +decide [disableTrapCommands, Command.values]
  rw [applySnmpDiff, carried]
  cases hchanges : diff.hasChanges with
  | false =>
    -- without changes there is no text to carry either
    simp [SnmpStateDiff.hasChanges] at hchanges
    simp [hchanges]
  | true =>
    simp [communityCommand, receiverCommand, receiverTexts, Command.values, henable, hdisable]

/-- Every command is one line exactly when the texts that it carries are. -/
theorem clean_generate_iff {request : Request} : CleanValues (generate switch request) ↔
    CleanTexts (carried switch request) := by
  cases request with
  | vlans vlans => simp [generate, carried, generateVlanCommands, clean_vlanCommands_iff]
  | removeVlans vlanIds => simp [generate, carried, generateRemoveVlanCommands, Command.values]
  | migrations migrations => simp [generate, carried, clean_migrate_iff]
  | ports ports mirrors =>
    simp [generate, carried, generatePortCommands, clean_portCommands_iff]
  | resetPorts portIds => simp [generate, carried, resetPorts, clean_resetPort_iff]
  | mirrorDestPorts portIds =>
    simp [generate, carried, configureMirrorDestPorts, Command.values]
  | mirrors mirrors =>
    simp [generate, carried, generateMirrorCommands, clean_mirrorCommand_iff]
  | removeMirrors sessionIds =>
    simp [generate, carried, generateRemoveMirrorCommands, Command.values]
  | snmp snmp currentTraps => exact clean_generateSnmpCommands_iff
  | configureSnmp snmp =>
    rw [generate, carried, configureSnmp]
    cases switch.shownSnmp.receivers <;>
      simp [clean_generateSnmpCommands_iff, clean_removeReceiver_iff, and_assoc]
  | snmpDiff diff => exact clean_applySnmpDiff_iff
  | managementVlan vlanId => simp [generate, carried, configureManagementVlan, Command.values]
  | removeManagementVlan => simp [generate, carried, removeManagementVlan, Command.values]
  | poe portId on =>
    cases on <;> simp [generate, carried, poeEnableCommands, poeDisableCommands, Command.values]

/-- Whatever an apply sends answers a request. -/
theorem exists_request {diff : StateDiff} {command : Command}
    (h : command ∈ (applyDiff switch diff).sent) : ∃ request, command ∈ generate switch request := by
  obtain ⟨commands, hcommands, hmem⟩ := Steps.exists_of_mem_sent h
  have hrequest : ∃ request, commands = generate switch request := by
    simp only [applyDiff, removeVlans, laterSteps, List.mem_append, Steps.ok_mem_ifAny]
      at hcommands
    -- one request for each step, in the order of the apply
    rcases hcommands with hremove | ((((((((⟨-, rfl⟩ | ⟨-, rfl⟩) | ⟨-, rfl⟩) | ⟨-, rfl⟩) |
      ⟨-, rfl⟩) | ⟨-, rfl⟩) | ⟨-, rfl⟩) | ⟨-, rfl⟩) | hsnmp) | hmanagement
    · split at hremove
      · cases hremove
      · rw [List.mem_append, List.mem_singleton] at hremove
        rcases hremove with hmigrate | hdelete
        · split at hmigrate
          · exact ⟨.migrations _, (Steps.ok_mem_ifAny.mp hmigrate).2⟩
          · cases hmigrate
        · exact ⟨.removeVlans _, Except.ok.inj hdelete⟩
    · exact ⟨.vlans _, rfl⟩
    · exact ⟨.vlans _, rfl⟩
    · exact ⟨.ports _ _, rfl⟩
    · exact ⟨.resetPorts _, rfl⟩
    · exact ⟨.mirrorDestPorts _, rfl⟩
    · exact ⟨.removeMirrors _, rfl⟩
    · exact ⟨.mirrors _, rfl⟩
    · exact ⟨.mirrors _, rfl⟩
    · rcases Steps.mem_snmp.mp hsnmp with ⟨snmpDiff, -, -, h⟩ | ⟨-, -, snmp, -, h⟩
      · exact ⟨.snmpDiff snmpDiff, Except.ok.inj h⟩
      · exact ⟨.configureSnmp snmp, Except.ok.inj h⟩
    · obtain ⟨-, ⟨vlanId, -, h⟩ | ⟨-, h⟩⟩ := Steps.mem_managementVlan.mp hmanagement
      · exact ⟨.managementVlan vlanId, Except.ok.inj h⟩
      · exact ⟨.removeManagementVlan, Except.ok.inj h⟩
  obtain ⟨request, rfl⟩ := hrequest
  exact ⟨request, hmem⟩

end Generators

end Aruba

/-! ## Cisco -/

namespace Cisco

/-- The words of a command that are neither keywords nor numbers. -/
@[grind =] def Command.values : Command → List Arg
  | name text => [.bare text]
  | description text => [.bare text]
  | interface port => [.bare port]
  | powerInline mode => [.bare mode]
  | noMonitorSession session => [.bare session]
  | monitorSession session => [.bare session]
  | monitorSource session port _ => [.bare session, .bare port]
  | monitorDestination session port => [.bare session, .bare port]
  | snmpCommunity community _ => [.bare community]
  | noSnmpCommunity community => [.bare community]
  | snmpHost host version community => [.bare host, .bare version, .bare community]
  | noSnmpHost host => [.bare host]
  | ipAddress address netmask => [.bare address, .bare netmask]
  | _ => []

theorem clean_words_iff {command : Command} :
    CleanTexts command.words ↔ CleanTexts command.values := by
  cases command with
  | switchportMode mode => cases mode <;> simp +decide [Command.words, Command.values, modeText]
  | allowedVlan allowed =>
    cases allowed <;> simp +decide [Command.words, Command.values, AllowedVlans.text]
  | macNotification trap =>
    cases trap <;> simp +decide [Command.words, Command.values, macTrapText]
  | noMacNotification trap =>
    cases trap <;> simp +decide [Command.words, Command.values, macTrapText]
  | speed speed => cases speed <;> simp +decide [Command.words, Command.values, speedText]
  | duplex speed => cases speed <;> simp +decide [Command.words, Command.values, duplexText]
  | monitorSource _ _ direction =>
    cases direction <;> simp +decide [Command.words, Command.values, directionText]
  | snmpCommunity _ access =>
    cases access <;> simp +decide [Command.words, Command.values, accessText]
  | enableTraps trap => cases trap <;> simp +decide [Command.words, Command.values, trapWords]
  | noEnableTraps trap => cases trap <;> simp +decide [Command.words, Command.values, trapWords]
  | _ => simp +decide [Command.words, Command.values]

/-- All texts in the commands are clean. -/
def CleanValues (commands : List Command) : Prop :=
  ∀ command ∈ commands, CleanTexts command.values

section CleanValues

variable {α : Type} {commands commands' : List Command} {l : List α}

@[simp] theorem cleanValues_nil : CleanValues [] := by simp [CleanValues]

@[simp] theorem cleanValues_cons {command : Command} : CleanValues (command :: commands) ↔
    CleanTexts command.values ∧ CleanValues commands := List.forall_mem_cons

@[simp] theorem cleanValues_append : CleanValues (commands ++ commands') ↔
    CleanValues commands ∧ CleanValues commands' := List.forall_mem_append

@[simp] theorem cleanValues_map {f : α → Command} :
    CleanValues (l.map f) ↔ ∀ a ∈ l, CleanTexts (f a).values := List.forall_mem_map

@[simp] theorem cleanValues_flatMap {f : α → List Command} :
    CleanValues (l.flatMap f) ↔ ∀ a ∈ l, CleanValues (f a) := List.forall_mem_flatMap

@[simp] theorem cleanValues_configured : CleanValues (configured commands) ↔
    CleanValues commands := by
  simp [configured, Command.values]

end CleanValues

def generate (switch : CiscoSwitch) : Request → List Command
  | .vlans vlans => generateVlanCommands vlans
  | .removeVlans vlanIds => generateRemoveVlanCommands vlanIds
  | .migrations migrations => migratePortsBeforeVlanDeletion migrations
  | .ports ports _ => generatePortCommands ports
  | .resetPorts portIds => resetPorts portIds
  | .mirrorDestPorts portIds => configureMirrorDestPorts portIds
  | .mirrors mirrors => generateMirrorCommands mirrors
  | .removeMirrors sessionIds => generateRemoveMirrorCommands sessionIds
  | .snmp snmp _ | .configureSnmp snmp => generateSnmpCommands snmp
  | .snmpDiff diff => applySnmpDiff diff
  | .managementVlan vlanId => ((configureManagementVlan switch vlanId).toOption).getD []
  | .removeManagementVlan => removeManagementVlan
  -- power is not switched by hand on this vendor
  | .poe _ _ => []

def receiverTexts (receiver : SnmpTrapReceiver) : List Arg :=
  [.bare receiver.host, .bare (receiver.version.getD "2c"), .bare receiver.community]

/-- The texts that the commands of a request carry. -/
def carried (switch : CiscoSwitch) : Request → List Arg
  | .vlans vlans => vlans.flatMap fun vlan =>
    .bare vlan.name :: vlan.description.toList.map .bare
  | .migrations migrations => migrations.map (.bare ·.portId)
  | .ports ports _ => ports.flatMap fun port =>
    .bare (normalizePortId port.portId) :: port.description.toList.map .bare
  | .resetPorts portIds | .mirrorDestPorts portIds => portIds.map (.bare <| normalizePortId ·)
  | .mirrors mirrors => mirrors.flatMap fun mirror =>
    [.bare mirror.sessionId, .bare (normalizePortId mirror.destinationPort)] ++
      mirror.sourcePorts.map (.bare <| normalizePortId ·)
  | .removeMirrors sessionIds => sessionIds.map .bare
  | .snmp snmp _ | .configureSnmp snmp =>
    snmp.communities.map (.bare ·.name) ++ snmp.trapReceivers.flatMap receiverTexts
  | .snmpDiff diff => diff.communitiesToRemove.map .bare ++
      (diff.communitiesToUpdate ++ diff.communitiesToAdd).map (.bare ·.name) ++
      diff.trapReceiversToRemove.map .bare ++ diff.trapReceiversToAdd.flatMap receiverTexts
  | .managementVlan vlanId =>
    (switch.config.vlans.find? (·.id == vlanId)).elim [] fun vlan => addressTexts vlan.ipConfig
  | .removeVlans _ | .removeManagementVlan | .poe _ _ => []

section Generators

variable {switch : CiscoSwitch} {port : Port}

theorem clean_vlanSettings : CleanValues (vlanSettings port) := by
  rw [vlanSettings]
  cases port.inferredMode <;> simp [Command.values]

/-- A port carries its name and description. -/
theorem clean_portCommands_iff : CleanValues (portCommands port) ↔
    CleanText (normalizePortId port.portId) ∧
      ∀ desc, port.description = some desc → CleanText desc := by
  rw [portCommands, macNotifyCommands]
  cases port.enabled <;> cases port.poeEnabled <;> cases port.macNotify <;>
    simp +decide [clean_vlanSettings, Command.values]

/-- A migration carries the name of its port. -/
theorem clean_migrationCommands_iff {migration : PortMigration} :
    CleanValues (migrationCommands migration) ↔ CleanText migration.portId := by
  rw [migrationCommands]
  cases migration.action with
  | moveAccessToVlan1 => simp [Command.values]
  | removeVlanFromTrunk remainingVlans => cases remainingVlans <;> simp [Command.values]

/-- A mirror carries its session and ports. -/
theorem clean_mirrorCommands_iff {mirror : PortMirror} : CleanValues (mirrorCommands mirror) ↔
    CleanText mirror.sessionId ∧ CleanText (normalizePortId mirror.destinationPort) ∧
      ∀ source ∈ mirror.sourcePorts, CleanText (normalizePortId source) := by
  simp only [mirrorCommands, Command.values, cleanValues_append, cleanValues_cons, cleanValues_map,
    cleanValues_nil, cleanTexts_cons, cleanTexts_nil, cleanArg_bare, and_true]
  constructor
  · rintro ⟨⟨⟨hsession, -⟩, hsources⟩, -, hdestination⟩
    exact ⟨hsession, hdestination, fun source hsource => (hsources source hsource).2⟩
  · rintro ⟨hsession, hdestination, hsources⟩
    exact ⟨⟨⟨hsession, hsession⟩, fun source hsource => ⟨hsession, hsources source hsource⟩⟩,
      hsession, hdestination⟩

/-- A change of SNMP carries what its request does. -/
theorem clean_applySnmpDiff_iff {diff : SnmpStateDiff} : CleanValues (applySnmpDiff diff) ↔
    CleanTexts (carried switch (.snmpDiff diff)) := by
  rw [applySnmpDiff, carried]
  cases hchanges : diff.hasChanges with
  | false =>
    -- without changes there is no text to carry either
    simp [SnmpStateDiff.hasChanges] at hchanges
    simp [hchanges]
  | true => simp [communityCommand, receiverCommand, receiverTexts, Command.values]

/-- The management VLAN carries its addresses. -/
theorem clean_configureManagementVlan_iff {vlanId : ℕ} :
    CleanValues (((configureManagementVlan switch vlanId).toOption).getD []) ↔
      CleanTexts (carried switch (.managementVlan vlanId)) := by
  rw [configureManagementVlan, carried]
  cases switch.config.vlans.find? (·.id == vlanId) with
  | none => simp [Except.toOption]
  | some vlan =>
    cases hip : vlan.ipConfig <;>
      simp [Except.toOption, managementIpCommands, addressTexts, hip, Command.values]

/-- Every command is one line exactly when the texts that it carries are. -/
theorem clean_generate_iff {request : Request} : CleanValues (generate switch request) ↔
    CleanTexts (carried switch request) := by
  have hsnmp (snmp : SnmpConfig) : CleanValues (generateSnmpCommands snmp) ↔ CleanTexts
      (snmp.communities.map (.bare ·.name) ++ snmp.trapReceivers.flatMap receiverTexts) := by
    simp [generateSnmpCommands, communityCommand, receiverCommand, receiverTexts, Command.values]
  cases request with
  | vlans vlans => simp [generate, carried, generateVlanCommands, vlanCommands, Command.values]
  | removeVlans vlanIds => simp [generate, carried, generateRemoveVlanCommands, Command.values]
  | migrations migrations =>
    simp [generate, carried, migratePortsBeforeVlanDeletion, clean_migrationCommands_iff]
  | ports ports mirrors =>
    simp [generate, carried, generatePortCommands, clean_portCommands_iff]
  | resetPorts portIds =>
    simp +decide [generate, carried, resetPorts, resetPort, Command.values]
  | mirrorDestPorts portIds =>
    simp [generate, carried, configureMirrorDestPorts, Command.values]
  | mirrors mirrors =>
    simp [generate, carried, generateMirrorCommands, clean_mirrorCommands_iff]
  | removeMirrors sessionIds =>
    simp [generate, carried, generateRemoveMirrorCommands, Command.values]
  | snmp snmp currentTraps => exact hsnmp snmp
  | configureSnmp snmp => exact hsnmp snmp
  | snmpDiff diff => exact clean_applySnmpDiff_iff
  | managementVlan vlanId => exact clean_configureManagementVlan_iff
  | removeManagementVlan => simp [generate, carried, removeManagementVlan]
  | poe portId on => simp [generate, carried]

/-- Whatever an apply sends answers a request. -/
theorem exists_request {diff : StateDiff} {command : Command}
    (h : command ∈ (applyDiff switch diff).sent) : ∃ request, command ∈ generate switch request := by
  obtain ⟨commands, hcommands, hmem⟩ := Steps.exists_of_mem_sent h
  have hrequest : ∃ request, commands = generate switch request := by
    simp only [applyDiff, removeVlans, laterSteps, List.mem_append, Steps.ok_mem_ifAny]
      at hcommands
    -- one request for each step, in the order of the apply
    rcases hcommands with hremove | ((((((((⟨-, rfl⟩ | ⟨-, rfl⟩) | ⟨-, rfl⟩) | ⟨-, rfl⟩) |
      ⟨-, rfl⟩) | ⟨-, rfl⟩) | ⟨-, rfl⟩) | ⟨-, rfl⟩) | hsnmp) | hmanagement
    · split at hremove
      · cases hremove
      · rw [List.mem_append, List.mem_singleton] at hremove
        rcases hremove with hmigrate | hdelete
        · split at hmigrate
          · exact ⟨.migrations _, (Steps.ok_mem_ifAny.mp hmigrate).2⟩
          · cases hmigrate
        · exact ⟨.removeVlans _, Except.ok.inj hdelete⟩
    · exact ⟨.vlans _, rfl⟩
    · exact ⟨.vlans _, rfl⟩
    · exact ⟨.ports _ [], rfl⟩
    · exact ⟨.resetPorts _, rfl⟩
    · exact ⟨.mirrorDestPorts _, rfl⟩
    · exact ⟨.removeMirrors _, rfl⟩
    · exact ⟨.mirrors _, rfl⟩
    · exact ⟨.mirrors _, rfl⟩
    · rcases Steps.mem_snmp.mp hsnmp with ⟨snmpDiff, -, -, h⟩ | ⟨-, -, snmp, -, h⟩
      · exact ⟨.snmpDiff snmpDiff, Except.ok.inj h⟩
      · exact ⟨.configureSnmp snmp, Except.ok.inj h⟩
    · obtain ⟨-, ⟨vlanId, -, h⟩ | ⟨-, h⟩⟩ := Steps.mem_managementVlan.mp hmanagement
      · exact ⟨.managementVlan vlanId, by rw [generate, ← h]; rfl⟩
      · exact ⟨.removeManagementVlan, Except.ok.inj h⟩
  obtain ⟨request, rfl⟩ := hrequest
  exact ⟨request, hmem⟩

end Generators

end Cisco

/-! ## FortiSwitch -/

namespace Fortiswitch

def CleanLine (line : Line) : Prop := CleanTexts line.words

def CleanLines (lines : List Line) : Prop := ∀ line ∈ lines, CleanLine line

section CleanLines

variable {α : Type} {lines lines' : List Line} {l : List α} {table key field : String}

@[simp] theorem cleanLine_config : CleanLine (.config table) ↔ CleanText table := by
  simp +decide [CleanLine, Line.words]

@[simp] theorem cleanLine_edit {key : Arg} : CleanLine (.edit key) ↔ CleanArg key := by
  simp +decide [CleanLine, Line.words]

@[simp] theorem cleanLine_set {args : List Arg} :
    CleanLine (.set field args) ↔ CleanText field ∧ CleanTexts args := by
  simp +decide [CleanLine, Line.words]

@[simp] theorem cleanLine_unset : CleanLine (.unset field) ↔ CleanText field := by
  simp +decide [CleanLine, Line.words]

@[simp] theorem cleanLine_delete : CleanLine (.delete key) ↔ CleanText key := by
  simp +decide [CleanLine, Line.words]

@[simp] theorem cleanLine_next : CleanLine .next := by
  simp +decide [CleanLine, Line.words]

@[simp] theorem cleanLine_close : CleanLine .close := by
  simp +decide [CleanLine, Line.words]

@[simp] theorem cleanLines_nil : CleanLines [] := by simp [CleanLines]

@[simp] theorem cleanLines_cons {line : Line} :
    CleanLines (line :: lines) ↔ CleanLine line ∧ CleanLines lines := List.forall_mem_cons

@[simp] theorem cleanLines_append :
    CleanLines (lines ++ lines') ↔ CleanLines lines ∧ CleanLines lines' := List.forall_mem_append

@[simp] theorem cleanLines_map {f : α → Line} :
    CleanLines (l.map f) ↔ ∀ a ∈ l, CleanLine (f a) := List.forall_mem_map

@[simp] theorem cleanLines_flatMap {f : α → List Line} :
    CleanLines (l.flatMap f) ↔ ∀ a ∈ l, CleanLines (f a) := List.forall_mem_flatMap

/-- A block is clean if its table and lines are. -/
@[simp] theorem cleanLines_block :
    CleanLines (block table lines) ↔ CleanText table ∧ CleanLines lines := by
  simp [block]

@[simp] theorem cleanLines_entry {key : Arg} :
    CleanLines (entry key lines) ↔ CleanArg key ∧ CleanLines lines := by
  simp [entry]

/-- Entries that are numbered in order. -/
theorem cleanLines_mapIdx {f : ℕ → α → List Line} {p : α → Prop}
    (h : ∀ i a, CleanLines (f i a) ↔ p a) :
    CleanLines (l.mapIdx f).flatten ↔ ∀ a ∈ l, p a := by
  induction l generalizing f with
  | nil => simp
  | cons a l ih =>
    rw [List.mapIdx_cons, List.flatten_cons, cleanLines_append, h, List.forall_mem_cons,
      ih fun i a => h (i + 1) a]

end CleanLines

/-- A failed request writes nothing. -/
def generate (switch : FortiswitchSwitch) : Request → List Line
  | .vlans vlans => generateVlanCommands vlans
  | .removeVlans vlanIds => generateRemoveVlanCommands vlanIds
  -- ports are not moved before VLANs go
  | .migrations _ => []
  | .ports ports _ => generatePortCommands ports
  | .resetPorts portIds => resetPorts portIds
  | .mirrorDestPorts portIds => configureMirrorDestPorts portIds
  | .mirrors mirrors => generateMirrorCommands mirrors
  | .removeMirrors sessionIds => generateRemoveMirrorCommands sessionIds
  | .snmp snmp _ => generateSnmpCommands snmp
  | .configureSnmp snmp => (configureSnmp switch snmp).toOption.getD []
  | .snmpDiff diff => (applySnmpDiff switch diff).toOption.getD []
  | .managementVlan vlanId => (configureManagementVlan switch vlanId).toOption.getD []
  | .removeManagementVlan => removeManagementVlan
  | .poe portId on => if on then poeEnableCommands portId else poeDisableCommands portId

/-- What is written of the interface that lets queries in. -/
def prerequisiteTexts (switch : FortiswitchSwitch) : List Arg :=
  switch.mgmtAccess.toList.flatMap fun access =>
    if "snmp" ∈ access.allowaccess then []
    else .quoted access.interface :: access.allowaccess.map .bare

def snmpTexts (snmp : SnmpConfig) : List Arg :=
  snmp.communities.map (.quoted ·.name) ++
    if snmp.communities.isEmpty then [] else snmp.trapReceivers.map (.bare ·.host)

/-- Does a granular change get as far as any command? -/
def diffFits (switch : FortiswitchSwitch) (diff : SnmpStateDiff) : Bool :=
  (checkDesiredLimits switch.config).isOk &&
    (diff.communitiesToUpdate ++ diff.communitiesToAdd).all hostsFit

def diffTexts (switch : FortiswitchSwitch) (diff : SnmpStateDiff) : List Arg :=
  (if diff.communitiesToAdd.isEmpty && diff.communitiesToUpdate.isEmpty then []
    else prerequisiteTexts switch) ++
  -- a community without a recorded index goes by its name
  (diff.communitiesToRemove.filter fun name =>
    (switch.snmpCommunityIndices.lookup name).isNone).map .bare ++
  (diff.communitiesToUpdate ++ diff.communitiesToAdd).map (.quoted ·.name) ++
  diff.trapReceiversToAdd.map (.bare ·.host) ++ diff.trapReceiversToRemove.map .bare

/-- The texts that the commands of a request carry. -/
def carried (switch : FortiswitchSwitch) : Request → List Arg
  | .vlans vlans => (vlans.filter needsSvi).flatMap fun vlan =>
    vlan.description.toList.map .quoted ++ addressTexts vlan.ipConfig
  | .ports ports _ => ports.flatMap fun port =>
    .bare (normalizePortId port.portId) :: port.description.toList.map .quoted
  | .resetPorts portIds | .mirrorDestPorts portIds => portIds.map (.bare <| normalizePortId ·)
  | .mirrors mirrors => mirrors.flatMap fun mirror =>
    [.bare mirror.sessionId, .bare (normalizePortId mirror.destinationPort)] ++
      mirror.sourcePorts.map (.bare <| normalizePortId ·)
  | .removeMirrors sessionIds => sessionIds.map .bare
  | .snmp snmp _ => snmpTexts snmp
  | .configureSnmp snmp => if (checkSnmpLimits snmp).isOk then
      (if snmp.communities.isEmpty then [] else prerequisiteTexts switch) ++ snmpTexts snmp
    else []
  | .snmpDiff diff => if diffFits switch diff then diffTexts switch diff else []
  | .managementVlan vlanId =>
    (switch.config.vlans.find? (·.id == vlanId)).elim [] fun vlan => addressTexts vlan.ipConfig
  | .poe portId _ => [.bare (normalizePortId portId)]
  | .migrations _ | .removeVlans _ | .removeManagementVlan => []

section Generators

variable {switch : FortiswitchSwitch} {port : Port} {community : SnmpCommunity} {snmp : SnmpConfig}

theorem cleanText_dotted {n : ℕ} : CleanText (dotted n) := by
  simp +decide [dotted, cleanText_append]

/-- An address that was read has no other characters than those of an address. -/
theorem cleanText_hostToFortios {host : AllowedHost} {pair : String × String}
    (h : hostToFortios host = .ok pair) : CleanText pair.1 ∧ CleanText pair.2 := by
  cases host with
  | auto => cases h
  | network network =>
    rw [hostToFortios] at h
    dsimp only at h
    split at h
    · cases h
    · cases h
    · next haddr =>
      split at h
      · cases h
      · split at h
        · cases h
        · rw [← Except.ok.inj h]
          refine ⟨fun c hc => ?_, cleanText_dotted⟩
          rw [String.toList_ofList] at hc
          have hrange := isAddrChar_toNat (parseIpAddr_chars haddr c hc)
          simp only [isControl, Bool.or_eq_false_iff, Bool.and_eq_false_iff,
            decide_eq_false_iff_not]
          omega

/-- Hosts that fit are clean. -/
theorem cleanLines_hosts {hosts : List (String × String)}
    (h : community.allowedHosts.mapM hostToFortios = .ok hosts) :
    CleanLines (hosts.mapIdx hostCommands).flatten := by
  have hclean : ∀ host ∈ hosts, CleanText host.1 ∧ CleanText host.2 := by
    intro host hhost
    obtain ⟨allowed, -, hallowed⟩ := RelatedLists.exists_of_mem_left (mapM_ok_iff.mp h).flip hhost
    exact cleanText_hostToFortios hallowed
  have hlines : CleanLines (hosts.mapIdx hostCommands).flatten ↔
      ∀ host ∈ hosts, CleanText host.1 ∧ CleanText host.2 :=
    cleanLines_mapIdx fun i host => by simp +decide [hostCommands]
  exact hlines.mpr hclean

/-- A community carries its name only, as its hosts fit. -/
theorem clean_communityEntry_iff {index : ℕ} {hosts : List (String × String)}
    (h : community.allowedHosts.mapM hostToFortios = .ok hosts) :
    CleanLines (communityEntry index community.name hosts) ↔ CleanArg (.quoted community.name) := by
  have hhosts := cleanLines_hosts h
  cases hosts with
  | nil => simp +decide [communityEntry]
  | cons host hosts => simp +decide [communityEntry, hhosts, -List.mapIdx_cons]

theorem clean_snmpAllowedHostsCommands : CleanLines (snmpAllowedHostsCommands community) := by
  cases hhosts : community.allowedHosts.mapM hostToFortios with
  | error e =>
    have hblock : snmpCommunityBlock 0 community = .error (.validationError e) := by
      rw [snmpCommunityBlock, hhosts]
      rfl
    rw [snmpAllowedHostsCommands, hblock]
    split <;> exact cleanLines_nil
  | ok hosts =>
    rw [snmpAllowedHostsCommands_eq hhosts]
    cases hosts with
    | nil => exact cleanLines_nil
    | cons host hosts => simp +decide [cleanLines_hosts hhosts, -List.mapIdx_cons]

/-- A plain community carries its name. -/
theorem clean_plainCommunity_iff {index : ℕ} :
    CleanLines (plainCommunity index community) ↔ CleanArg (.quoted community.name) := by
  simp +decide [plainCommunity, queryCommands, clean_snmpAllowedHostsCommands]

/-- The whole of SNMP carries its texts. -/
theorem clean_generateSnmpCommands_iff :
    CleanLines (generateSnmpCommands snmp) ↔ CleanTexts (snmpTexts snmp) := by
  have hplain (n : ℕ) (l : List SnmpCommunity) : CleanLines (l.mapIdx fun i community =>
      plainCommunity (i + n) community).flatten ↔ ∀ community ∈ l, CleanArg (.quoted community.name) :=
    cleanLines_mapIdx fun i community => clean_plainCommunity_iff
  have hreceivers : CleanLines (snmp.trapReceivers.mapIdx fun i receiver =>
      receiverCommands (i + 1) receiver).flatten ↔
      ∀ receiver ∈ snmp.trapReceivers, CleanText receiver.host :=
    cleanLines_mapIdx fun i receiver => by simp +decide [receiverCommands]
  have htraps : CleanLines (if snmp.enabledTraps.isEmpty then []
      else [.set "events" (snmp.enabledTraps.map fun trap => .bare (convertTrapType trap))]) := by
    split
    · exact cleanLines_nil
    · have htrap (trap : TrapType) : CleanText (convertTrapType trap) := by cases trap <;> decide
      simp +decide [htrap]
  rw [generateSnmpCommands, cleanLines_block, snmpTexts, cleanTexts_append, cleanTexts_map]
  cases hcommunities : snmp.communities with
  | nil => cases snmp.trapReceivers <;> simp +decide
  | cons community rest =>
    cases hlist : snmp.trapReceivers with
    | nil => simp +decide [hplain, -List.mapIdx_cons]
    | cons receiver receivers =>
      rw [hlist] at hreceivers
      simp only [cleanLines_append, cleanLines_entry, cleanLines_block, hplain, hreceivers, htraps]
      simp +decide [queryCommands]
      exact and_right_comm

/-- What SNMP needs carries the interface and its list. -/
theorem clean_prerequisites_iff :
    CleanLines (snmpPrerequisiteCommands switch.snmpSysinfoEnabled switch.mgmtAccess) ↔
      CleanTexts (prerequisiteTexts switch) := by
  have hsysinfo : CleanLines (if switch.snmpSysinfoEnabled != some true then
      block "system snmp sysinfo" [.set "status" [.bare "enable"]] else []) := by
    split <;> simp +decide
  rw [prerequisiteTexts]
  cases switch.mgmtAccess with
  | none =>
    rw [snmpPrerequisiteCommands, cleanLines_append, and_iff_right hsysinfo]
    simp
  | some access =>
    rw [snmpPrerequisiteCommands, cleanLines_append, and_iff_right hsysinfo]
    by_cases hsnmp : "snmp" ∈ access.allowaccess
    · simp [hsnmp]
    · cases hindex : access.secondaryIndex <;> simp +decide [hsnmp, allowSnmp, hindex]

theorem clean_snmpCommunityBlock_iff {index : ℕ} {lines : List Line}
    (h : snmpCommunityBlock index community = .ok lines) :
    CleanLines lines ↔ CleanArg (.quoted community.name) := by
  obtain ⟨hosts, hhosts, rfl⟩ := snmpCommunityBlock_ok_iff.mp h
  exact clean_communityEntry_iff hhosts

/-- A community without an index is removed by its name. -/
theorem clean_removeCommunities_iff {indices : List (String × ℕ)} {names : List String}
    {occupied : List ℕ} : CleanLines (removeCommunities indices names occupied).1 ↔
      ∀ name ∈ names, indices.lookup name = none → CleanText name := by
  induction names generalizing occupied with
  | nil => simp [removeCommunities]
  | cons name names ih =>
    rw [removeCommunities, List.forall_mem_cons]
    cases hindex : indices.lookup name <;> simp [ih]

/-- Communities that are updated carry their names. -/
theorem clean_updateCommunities_iff {indices : List (String × ℕ)} {communities : List SnmpCommunity}
    {occupied : List ℕ} {result : List Line × List ℕ}
    (h : updateCommunities indices communities occupied = .ok result) :
    CleanLines result.1 ↔ ∀ community ∈ communities, CleanArg (.quoted community.name) := by
  induction communities generalizing occupied result with
  | nil =>
    rw [← Except.ok.inj h]
    simp
  | cons community rest ih =>
    rw [updateCommunities] at h
    rw [List.forall_mem_cons]
    split at h
    · obtain ⟨commands, hcommands, h⟩ := bind_ok_iff.mp h
      obtain ⟨others, hothers, h⟩ := bind_ok_iff.mp h
      rw [← Except.ok.inj h]
      simp [clean_snmpCommunityBlock_iff hcommands, ih hothers]
    · obtain ⟨commands, hcommands, h⟩ := bind_ok_iff.mp h
      obtain ⟨others, hothers, h⟩ := bind_ok_iff.mp h
      rw [← Except.ok.inj h]
      simp [clean_snmpCommunityBlock_iff hcommands, ih hothers]

/-- So do those that are added. -/
theorem clean_addCommunities_iff {communities : List SnmpCommunity} {occupied : List ℕ}
    {lines : List Line} (h : addCommunities communities occupied = .ok lines) :
    CleanLines lines ↔ ∀ community ∈ communities, CleanArg (.quoted community.name) := by
  induction communities generalizing occupied lines with
  | nil =>
    rw [← Except.ok.inj h]
    simp
  | cons community rest ih =>
    obtain ⟨commands, hcommands, h⟩ := bind_ok_iff.mp h
    obtain ⟨others, hothers, h⟩ := bind_ok_iff.mp h
    rw [← Except.ok.inj h, List.forall_mem_cons]
    simp [clean_snmpCommunityBlock_iff hcommands, ih hothers]

/-- Receivers carry their hosts. -/
theorem clean_receiverChanges_iff {diff : SnmpStateDiff} : CleanLines (receiverChanges diff) ↔
    CleanTexts (diff.trapReceiversToAdd.map (.bare ·.host) ++
      diff.trapReceiversToRemove.map .bare) := by
  have hreceivers : CleanLines (diff.trapReceiversToAdd.mapIdx fun i receiver =>
      receiverCommands (100 + i) receiver).flatten ↔
      ∀ receiver ∈ diff.trapReceiversToAdd, CleanText receiver.host :=
    cleanLines_mapIdx fun i receiver => by simp +decide [receiverCommands]
  rw [receiverChanges]
  cases hadd : diff.trapReceiversToAdd with
  | nil => simp +decide [inFirstHosts]
  | cons receiver receivers =>
    rw [hadd] at hreceivers
    simp +decide [inFirstHosts, hreceivers, -List.mapIdx_cons, and_assoc]

/-- Changes of communities carry names, of those removed only where there is no index. -/
theorem clean_communityCommands_iff {indices : List (String × ℕ)} {diff : SnmpStateDiff}
    {lines : List Line} (h : communityCommands indices diff = .ok lines) : CleanLines lines ↔
      CleanTexts ((diff.communitiesToRemove.filter fun name => (indices.lookup name).isNone).map
        .bare ++ (diff.communitiesToUpdate ++ diff.communitiesToAdd).map (.quoted ·.name)) := by
  obtain ⟨⟨updates, occupied⟩, hupdates, h⟩ := bind_ok_iff.mp h
  obtain ⟨adds, hadds, h⟩ := bind_ok_iff.mp h
  rw [← Except.ok.inj h]
  have hupdated := clean_updateCommunities_iff hupdates
  have hadded := clean_addCommunities_iff hadds
  simp only at hupdated
  simp +decide [clean_removeCommunities_iff, hupdated, hadded, forall_and, and_assoc]

/-- A change of SNMP carries what its request does. -/
theorem clean_applySnmpDiff_iff {diff : SnmpStateDiff} :
    CleanLines ((applySnmpDiff switch diff).toOption.getD []) ↔
      CleanTexts (carried switch (.snmpDiff diff)) := by
  rw [applySnmpDiff, carried]
  cases hchanges : diff.hasChanges with
  | false =>
    -- without changes there is no text to carry either
    simp [SnmpStateDiff.hasChanges] at hchanges
    simp [hchanges, Except.toOption, diffTexts]
  | true =>
    rw [Bool.not_true, if_neg Bool.false_ne_true, diffFits]
    cases hlimits : checkDesiredLimits switch.config with
    | error e => simp [Except.toOption, Except.isOk, Except.toBool, bind, Except.bind]
    | ok u =>
      rw [show (Except.ok u : Except VendorError Unit).isOk = true from rfl, Bool.true_and]
      cases hcommunities : communityCommands switch.snmpCommunityIndices diff with
      | error e =>
        have hfit : (diff.communitiesToUpdate ++ diff.communitiesToAdd).all hostsFit = false := by
          by_contra hfit
          rw [Bool.not_eq_false, List.all_eq_true] at hfit
          obtain ⟨lines, hlines⟩ := exists_communityCommands_iff.mpr hfit
          rw [hlines] at hcommunities
          cases hcommunities
        rw [hfit]
        simp [Except.toOption, bind, Except.bind]
      | ok lines =>
        have hfit : (diff.communitiesToUpdate ++ diff.communitiesToAdd).all hostsFit = true :=
          List.all_eq_true.mpr (exists_communityCommands_iff.mp ⟨lines, hcommunities⟩)
        rw [hfit, if_pos rfl, diffTexts]
        have hprerequisites : CleanLines (if diff.communitiesToAdd.isEmpty &&
            diff.communitiesToUpdate.isEmpty then []
            else snmpPrerequisiteCommands switch.snmpSysinfoEnabled switch.mgmtAccess) ↔
            CleanTexts (if diff.communitiesToAdd.isEmpty && diff.communitiesToUpdate.isEmpty then []
              else prerequisiteTexts switch) := by
          split
          · simp
          · exact clean_prerequisites_iff
        have hlines := clean_communityCommands_iff hcommunities
        simp only [bind, Except.bind, pure, Except.pure, Except.toOption, Option.getD_some,
          cleanLines_append, hprerequisites, hlines, clean_receiverChanges_iff, cleanTexts_append,
          and_assoc]

/-- Every command is one line exactly when the texts that it carries are. -/
theorem clean_generate_iff {request : Request} : CleanLines (generate switch request) ↔
    CleanTexts (carried switch request) := by
  cases request with
  | vlans vlans =>
    -- the description and the address are the only texts of a VLAN interface
    have hsvi (vlan : Vlan) : CleanLines (sviCommands vlan) ↔
        CleanTexts (vlan.description.toList.map .quoted ++ addressTexts vlan.ipConfig) := by
      rw [sviCommands, sviSettings]
      cases vlan.ipConfig <;>
        simp +decide [ipCommands, addressTexts, vlanInterface, cleanText_append]
    simp +decide [generate, carried, generateVlanCommands, hsvi]
  | removeVlans vlanIds => simp +decide [generate, carried, generateRemoveVlanCommands]
  | migrations migrations => simp [generate, carried]
  | ports ports mirrors =>
    have hvlans (port : Port) : CleanLines (vlanSettings port) := by
      rw [vlanSettings]
      cases port.inferredMode with
      | access => simp +decide
      | trunk => cases port.taggedVlans <;> simp +decide
    have hphysical (port : Port) : CleanLines (physicalPortCommands port) ↔
        CleanText (normalizePortId port.portId) := by
      rw [physicalPortCommands]
      cases port.enabled <;> cases port.poeEnabled <;> cases port.speedDuplex <;>
        simp +decide [convertSpeed]
    simp +decide [generate, carried, generatePortCommands, portInterfaceCommands, hvlans, hphysical]
    intro h port hport
    -- the port name stands in both sections; one of them is enough
    exact (h port hport).1
  | resetPorts portIds =>
    simp +decide [generate, carried, resetPorts, resetPort]
  | mirrorDestPorts portIds =>
    simp +decide [generate, carried, configureMirrorDestPorts]
  | mirrors mirrors =>
    have hmirror (mirror : PortMirror) : CleanLines (mirrorCommands mirror) ↔
        CleanText mirror.sessionId ∧ CleanText (normalizePortId mirror.destinationPort) ∧
          ∀ source ∈ mirror.sourcePorts, CleanText (normalizePortId source) := by
      rw [mirrorCommands, sourceArgs]
      cases mirror.sourcePorts <;> cases mirror.direction <;> simp +decide [sourceCommands]
    simp +decide [generate, carried, generateMirrorCommands, hmirror]
  | removeMirrors sessionIds =>
    simp +decide [generate, carried, generateRemoveMirrorCommands]
  | snmp snmp currentTraps => exact clean_generateSnmpCommands_iff
  | configureSnmp snmp =>
    rw [generate, carried, configureSnmp]
    -- a configuration over the limits sends nothing at all
    cases hlimits : checkSnmpLimits snmp with
    | error e => simp [Except.toOption, Except.isOk, Except.toBool, bind, Except.bind]
    | ok u =>
      rw [show (Except.ok u : Except VendorError Unit).isOk = true from rfl, if_pos rfl]
      simp only [bind, Except.bind, pure, Except.pure, Except.toOption, Option.getD_some,
        cleanLines_append, clean_generateSnmpCommands_iff, cleanTexts_append]
      split
      · simp
      · rw [clean_prerequisites_iff]
  | snmpDiff diff => exact clean_applySnmpDiff_iff
  | managementVlan vlanId =>
    rw [generate, carried, configureManagementVlan]
    cases switch.config.vlans.find? (·.id == vlanId) with
    | none => simp [Except.toOption]
    | some vlan =>
      cases hip : vlan.ipConfig <;> simp +decide [Except.toOption, managementSettings,
        managementIpCommands, addressTexts, vlanInterface, cleanText_append, hip]
  | removeManagementVlan => simp [generate, carried, removeManagementVlan]
  | poe portId on =>
    cases on <;> simp +decide [generate, carried, poeEnableCommands, poeDisableCommands]

/-- Whatever an apply sends answers a request. -/
theorem exists_request {diff : StateDiff} {line : Line}
    (h : line ∈ (applyDiff switch diff).sent) : ∃ request, line ∈ generate switch request := by
  obtain ⟨lines, hlines, hmem⟩ := Steps.exists_of_mem_sent h
  have hrequest : ∃ request, lines = generate switch request := by
    simp only [applyDiff, vlanSteps, laterSteps, List.mem_append, Steps.ok_mem_ifAny] at hlines
    rcases hlines with ((⟨-, rfl⟩ | ⟨-, rfl⟩) | ⟨-, rfl⟩) | ((((((⟨-, rfl⟩ | ⟨-, rfl⟩) |
      ⟨-, rfl⟩) | ⟨-, rfl⟩) | ⟨-, rfl⟩) | ⟨-, rfl⟩) | hsnmp) | hmanagement
    · exact ⟨.removeVlans _, rfl⟩
    · exact ⟨.vlans _, rfl⟩
    · exact ⟨.vlans _, rfl⟩
    · exact ⟨.ports _ [], rfl⟩
    · exact ⟨.resetPorts _, rfl⟩
    · exact ⟨.mirrorDestPorts _, rfl⟩
    · exact ⟨.removeMirrors _, rfl⟩
    · exact ⟨.mirrors _, rfl⟩
    · exact ⟨.mirrors _, rfl⟩
    · rcases Steps.mem_snmp.mp hsnmp with ⟨snmpDiff, -, -, h⟩ | ⟨-, -, snmp, -, h⟩
      · exact ⟨.snmpDiff snmpDiff, by rw [generate, ← h]; rfl⟩
      · exact ⟨.configureSnmp snmp, by rw [generate, ← h]; rfl⟩
    · obtain ⟨-, ⟨vlanId, -, h⟩ | ⟨-, h⟩⟩ := Steps.mem_managementVlan.mp hmanagement
      · exact ⟨.managementVlan vlanId, by rw [generate, ← h]; rfl⟩
      · exact ⟨.removeManagementVlan, Except.ok.inj h⟩
  obtain ⟨request, rfl⟩ := hrequest
  exact ⟨request, hmem⟩

end Generators

end Fortiswitch

/-! ## Any vendor -/

inductive VendorSwitch where
  | aruba (switch : Aruba.ArubaSwitch)
  | cisco (switch : Cisco.CiscoSwitch)
  | fortiswitch (switch : Fortiswitch.FortiswitchSwitch)

namespace VendorSwitch

/-- The commands that a request is answered with, each as its words. -/
def commands : VendorSwitch → Request → List (List Arg)
  | aruba switch, request => (Aruba.generate switch request).map Aruba.Command.words
  | cisco switch, request => (Cisco.generate switch request).map Cisco.Command.words
  | fortiswitch switch, request => (Fortiswitch.generate switch request).map Line.words

/-- The texts of a request, and of the switch, that go into the commands, and how. -/
def carried : VendorSwitch → Request → List Arg
  | aruba switch, request => Aruba.carried switch request
  | cisco switch, request => Cisco.carried switch request
  | fortiswitch switch, request => Fortiswitch.carried switch request

/-- The lines of a request are clean exactly if what it carries is. -/
theorem cleanTexts_commands_iff {switch : VendorSwitch} {request : Request} :
    (∀ words ∈ switch.commands request, CleanTexts words) ↔
      CleanTexts (switch.carried request) := by
  cases switch with
  | aruba switch =>
    rw [commands, carried, ← Aruba.clean_generate_iff, List.forall_mem_map]
    exact forall₂_congr fun command _ => Aruba.clean_words_iff
  | cisco switch =>
    rw [commands, carried, ← Cisco.clean_generate_iff, List.forall_mem_map]
    exact forall₂_congr fun command _ => Cisco.clean_words_iff
  | fortiswitch switch =>
    rw [commands, carried, ← Fortiswitch.clean_generate_iff, List.forall_mem_map]
    rfl

/-- Every command that a request is answered with is one line, and ends its quotes where they are
meant to end, exactly when the texts that are carried into the commands are free of control
characters and those in quotes of quotes. -/
theorem oneLine_commands_iff (switch : VendorSwitch) (request : Request) :
    (∀ words ∈ switch.commands request, OneLine (isControl · = false) words) ↔
      ∀ text ∈ switch.carried request, text.Clean (isControl · = false) := by
  have hwords : (∀ words ∈ switch.commands request, OneLine (isControl · = false) words) ↔
      ∀ words ∈ switch.commands request, CleanTexts words :=
    forall₂_congr fun words _ => oneLine_iff (by decide) (by decide)
  exact hwords.trans cleanTexts_commands_iff

/-- A switch with a line break in the description of a port. -/
def injected : SwitchConfig where
  id := "sw1"
  hostname := some "sw1"
  model := some .aruba2930F
  managementIp := some "192.0.2.1"
  credentials := some { username := "admin" }
  vlans := [{ id := 10, name := "Office" }]
  ports := [{ portId := "1", vlan := 10, description := some "desk\"\nno snmp-server enable\nname \"x" }]

theorem injected_accepted : Accepted injected := ⟨plainEnvironment, injected, rfl⟩

/-- The configuration is accepted, and its description is sent as three commands. -/
theorem oneLine_commands_fails : Accepted injected ∧
    ∃ words ∈ (aruba { config := injected }).commands
        (.ports (Diff.computeDiff {} injected false).portsToConfigure injected.portMirrors),
      ¬OneLine (isControl · = false) words := by
  refine ⟨injected_accepted, [.bare "name", .quoted "desk\"\nno snmp-server enable\nname \"x"],
    by decide +kernel, fun h => ?_⟩
  have hquotes := h.quotes "desk\"\nno snmp-server enable\nname \"x" (by decide +kernel)
  exact absurd hquotes (by decide +kernel)

end VendorSwitch

end SwitchConfigurator
