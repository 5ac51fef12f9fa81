import SwitchConfigurator.Ssh.Gate
import SwitchConfigurator.Vendors.Fortiswitch.Vocabulary

/-!
# Dry runs of the vendors

Which commands the operations of a vendor object emit, what the two gates make of them, and what
the commands that get through do to a switch. The exchange that logs in is left out: the serial
client sends all of it.
-/

namespace SwitchConfigurator

open Cli Ssh

/-! ## A reference switch -/

/-- Where a switch takes a command: at its prompt, in the settings of the console, or elsewhere in
its configuration. -/
inductive PromptMode where
  | exec
  | console
  | configure
  deriving DecidableEq, Repr

structure ReferenceSwitch (κ : Type) where
  mode : PromptMode := .exec
  paging : Bool := true
  config : κ

namespace ReferenceSwitch

variable {κ : Type}

/-- What a line does. Reading, paging and the way in and out of the console's settings are as
documented; `other` is what any other line does. -/
def step (other : String → ReferenceSwitch κ → ReferenceSwitch κ) (line : String)
    (s : ReferenceSwitch κ) : ReferenceSwitch κ :=
  match s.mode with
  | .exec =>
    if trimmedStartsWith "show " line || trimmedStartsWith "get " line || trimmedIs "enable" line
        || trimmedIs "end" line then s
    else if trimmedIs "no page" line || trimmedIs "terminal length 0" line
        || trimmedIs "terminal pager 0" line then { s with paging := false }
    else if trimmedIs "config system console" line then { s with mode := .console }
    else other line s
  | .console =>
    if trimmedIs "set output standard" line then { s with paging := false }
    else if trimmedIs "end" line then { s with mode := .exec }
    else other line s
  | .configure => other line s

end ReferenceSwitch

/-- Whatever other lines do: the commands that are sent lead a switch that stands at its prompt
back there, with the configuration it had. -/
def Harmless (sends : String → Bool) (commands : List String) : Prop :=
  ∀ (κ : Type) (other : String → ReferenceSwitch κ → ReferenceSwitch κ) (s : ReferenceSwitch κ),
    s.mode = .exec →
      (run (ReferenceSwitch.step other) s (commands.filter sends)).mode = .exec ∧
        (run (ReferenceSwitch.step other) s (commands.filter sends)).config = s.config

/-! ## What the operations emit -/

inductive ReadOperation where
  | currentState
  | hardwareModel
  | portStatus
  | macTable
  | runningConfig
  /-- What the full replacement of SNMP reads before and after it writes. -/
  | receivers
  deriving DecidableEq, Repr

inductive VendorOperation where
  | connect
  | resume
  | read (operation : ReadOperation)
  | write (request : Request)
  | apply (diff : StateDiff)
  | save
  | rollback (method : RollbackMethod)

/-- The blocks of the configuration that `parse_current_state` asks a FortiSwitch for, and what it
detects the hardware with. -/
def fortiswitchBlocks : List String :=
  ["show system interface", "show switch vlan", "show switch interface",
    "show switch physical-port", "show switch mirror", "show system snmp community",
    "show system snmp sysinfo", "get system interface", "get system status"]

namespace VendorSwitch

def connectCommands : VendorSwitch → List String
  | aruba _ => ["no page"]
  | cisco _ => ["terminal length 0"]
  | fortiswitch _ => ["end", "end", "config system console", "set output standard", "end"]

/-- Only FortiSwitch sessions are kept and resumed. -/
def resumeCommands : VendorSwitch → List String
  | aruba _ | cisco _ => []
  | fortiswitch _ => ["end"]

/-- The hardware of the other two is part of the configuration that was read, and they have no
status of ports. -/
def readCommands : VendorSwitch → ReadOperation → List String
  | aruba _, .currentState | aruba _, .receivers =>
    ["show running-config", "show snmp-server traps"]
  | aruba _, .macTable => ["show mac-address"]
  | aruba _, .runningConfig => ["show running-config"]
  | aruba _, .hardwareModel | aruba _, .portStatus => []
  | cisco _, .currentState | cisco _, .runningConfig => ["show running-config"]
  | cisco _, .macTable => ["show mac address-table"]
  | cisco _, .hardwareModel | cisco _, .portStatus | cisco _, .receivers => []
  | fortiswitch _, .currentState => fortiswitchBlocks
  | fortiswitch _, .hardwareModel => ["get system status"]
  | fortiswitch _, .portStatus => ["get switch physical-port"]
  | fortiswitch _, .macTable => ["diagnose switch mac-address list"]
  | fortiswitch _, .runningConfig => ["show system interface"]
  | fortiswitch _, .receivers => []

/-- The commands of an apply, each as its words. -/
def applyCommands : VendorSwitch → StateDiff → List (List Arg)
  | aruba switch, diff => (Aruba.applyDiff switch diff).sent.map Aruba.Command.words
  | cisco switch, diff => (Cisco.applyDiff switch diff).sent.map Cisco.Command.words
  | fortiswitch switch, diff => (Fortiswitch.applyDiff switch diff).sent.map Line.words

def saveCommands : VendorSwitch → List String
  | aruba _ | cisco _ => ["write memory"]
  | fortiswitch _ => ["execute backup config flash default-config"]

def rollbackCommands : VendorSwitch → RollbackMethod → List String
  | aruba _, .reload | cisco _, .reload => ["reload"]
  | aruba _, _ => ["copy startup-config running-config"]
  | cisco _, _ => ["configure replace nvram:startup-config"]
  | fortiswitch _, .reload => ["execute reboot"]
  | fortiswitch _, _ => ["execute restore config"]

def emitted (switch : VendorSwitch) : VendorOperation → List String
  | .connect => switch.connectCommands
  | .resume => switch.resumeCommands
  | .read operation => switch.readCommands operation
  | .write request => (switch.commands request).map render
  | .apply diff => (switch.applyCommands diff).map render
  | .save => switch.saveCommands
  | .rollback method => switch.rollbackCommands method

end VendorSwitch

/-! ## Transparency -/

def sshSends (command : String) : Bool := SshClient.sends true command

def serialSends (command : String) : Bool := SerialClient.sends true false command

/-- A dry run of these operations sends the same on both connections, changes nothing, and reads
what a real run reads. -/
structure Transparent (switch : VendorSwitch) (operations : List VendorOperation) : Prop where
  agree : ∀ command ∈ operations.flatMap switch.emitted, sshSends command = serialSends command
  harmlessSsh : Harmless sshSends (operations.flatMap switch.emitted)
  harmlessSerial : Harmless serialSends (operations.flatMap switch.emitted)
  reads : ∀ operation, .read operation ∈ operations → ∀ command ∈ switch.readCommands operation,
    sshSends command = true ∧ serialSends command = true

/-- The operations that a dry run is right about: those of a FortiSwitch but for its reads other
than the raw configuration, and those of an Aruba switch that switch no port on. -/
def VendorOperation.Fits : VendorSwitch → VendorOperation → Prop
  | .aruba _, write (.ports ports _) => ∀ port ∈ ports, port.enabled = false
  | .aruba _, write (.mirrorDestPorts portIds) => portIds = []
  | .aruba _, apply diff =>
    (∀ port ∈ diff.portsToConfigure, port.enabled = false) ∧ diff.mirrorDestPortsToConfigure = []
  | .fortiswitch _, read operation => operation = .runningConfig ∨ operation = .receivers
  | _, _ => True

/-! ## Harmless commands -/

/-- Two harmless parts are harmless together. -/
theorem Harmless.append {sends : String → Bool} {commands commands' : List String}
    (h : Harmless sends commands) (h' : Harmless sends commands') :
    Harmless sends (commands ++ commands') := by
  intro κ other s hmode
  obtain ⟨hfirst, hconfig⟩ := h κ other s hmode
  obtain ⟨hrest, hconfig'⟩ := h' κ other _ hfirst
  rw [List.filter_append, run_append]
  exact ⟨hrest, hconfig'.trans hconfig⟩

/-- A command that does nothing, or turns paging off, wherever a prompt is shown. -/
def Neutral (command : String) : Prop :=
  trimmedStartsWith "show " command = true ∨ trimmedStartsWith "get " command = true ∨
    trimmedIs "enable" command = true ∨ trimmedIs "end" command = true ∨
    trimmedIs "no page" command = true ∨ trimmedIs "terminal length 0" command = true

instance {command : String} : Decidable (Neutral command) :=
  inferInstanceAs (Decidable (_ ∨ _))

/-- A neutral command keeps mode and configuration. -/
theorem Neutral.step {κ : Type} {other : String → ReferenceSwitch κ → ReferenceSwitch κ}
    {s : ReferenceSwitch κ} {command : String} (h : Neutral command) (hmode : s.mode = .exec) :
    (s.step other command).mode = .exec ∧ (s.step other command).config = s.config := by
  simp only [Neutral] at h
  rw [ReferenceSwitch.step, hmode]
  dsimp only
  split
  · exact ⟨hmode, rfl⟩
  · next hidle =>
    split
    · exact ⟨rfl, rfl⟩
    · next hpaging =>
      simp only [Bool.or_eq_true, not_or] at hidle hpaging
      grind

/-- Commands that are neutral wherever they are sent do no harm. -/
theorem harmless_of_neutral {sends : String → Bool} {commands : List String}
    (h : ∀ command ∈ commands, sends command = true → Neutral command) :
    Harmless sends commands := by
  induction commands with
  | nil =>
    intro κ other s hmode
    exact ⟨hmode, rfl⟩
  | cons command commands ih =>
    obtain ⟨hcommand, hcommands⟩ := List.forall_mem_cons.mp h
    have hfirst : Harmless sends [command] := by
      intro κ other s hmode
      cases hsends : sends command with
      | false => simpa [hsends] using hmode
      | true => simpa [hsends] using (hcommand hsends).step hmode
    exact hfirst.append (ih hcommands)

/-! ## What is held back -/

/-- A distinctive keyword holds a command back. -/
theorem heldBack_cons {keyword : String} (words : List Arg) (h : Distinctive [keyword]) :
    HeldBack (.bare keyword :: words) := heldBack_of_distinctive h words

theorem heldBack_cons_cons {keyword second : String} (words : List Arg)
    (h : Distinctive [keyword, second]) : HeldBack (.bare keyword :: .bare second :: words) :=
  heldBack_of_distinctive h words

/-- On an Aruba switch `enable` alone gets through, on the serial connection. -/
theorem Aruba.heldBack_words {command : Aruba.Command} (h : command ≠ .enable) :
    HeldBack command.words := by
  cases command with
  | enable => exact absurd rfl h
  | _ => first
    | exact heldBack_cons _ (by decide)
    | exact heldBack_cons_cons _ (by decide)

/-- Every Cisco command but the last is held back. -/
theorem Cisco.heldBack_words {command : Cisco.Command} (h : command ≠ .close) :
    HeldBack command.words := by
  cases command with
  | close => exact absurd rfl h
  | _ => first
    | exact heldBack_cons _ (by decide)
    | exact heldBack_cons_cons _ (by decide)

/-- Lines that the generators know are not those of the console's settings. -/
theorem Fortiswitch.heldBack_words {line : Line} (h : Fortiswitch.KnownLine line)
    (hne : line ≠ .close) : HeldBack line.words := by
  cases line with
  | close => exact absurd rfl hne
  | config table =>
    have htables : ∀ table ∈ Fortiswitch.tables,
        ¬["system".toList, "console".toList] <+: splitWhitespace table.toList := by decide
    refine heldBack_of_sends fun hsends => ?_
    obtain ⟨words, hwords, hprefix⟩ := exists_passWords hsends
    rw [Line.words, splitWhitespace_render_cons ⟨by decide, by decide⟩] at hprefix
    have htable : splitWhitespace (render [.bare table]).toList = splitWhitespace table.toList := by
      simp [render, Arg.text]
    rw [htable] at hprefix
    simp only [passWords, List.mem_cons, List.not_mem_nil, or_false] at hwords
    rcases hwords with rfl | rfl | rfl | rfl | rfl | rfl | rfl | rfl
    case inr.inr.inr.inr.inr.inr.inl =>
      exact htables table h (List.cons_prefix_cons.mp hprefix).2
    all_goals exact absurd (List.cons_prefix_cons.mp hprefix).1 (by decide)
  | set field args =>
    have hfields : ∀ field ∈ Fortiswitch.fields, Distinctive ["set", field] := by decide
    exact heldBack_cons_cons _ (hfields field h)
  | _ => exact heldBack_cons _ (by decide)

/-! ## Written commands -/

/-- A written command is held back, or is the `end` that both gates let through, or the `enable`
that one of them does. -/
def Written (words : List Arg) : Prop :=
  HeldBack words ∨ words = [.bare "end"] ∨ words = [.bare "enable"]

theorem ne_enable_of_heldBack {words : List Arg} (h : HeldBack words) :
    words ≠ [.bare "enable"] := by
  rintro rfl
  exact absurd h.2 (by decide)

/-- Both gates agree on all that is written but `enable`. -/
theorem Written.agree_iff {words : List Arg} (h : Written words) :
    sshSends (render words) = serialSends (render words) ↔ words ≠ [.bare "enable"] := by
  rcases h with hheld | rfl | rfl
  · constructor
    · rintro - rfl
      exact absurd hheld.2 (by decide)
    · intro _
      exact hheld.1.trans hheld.2.symm
  · decide
  · decide

/-- What is written and still sent is neutral. -/
theorem Written.neutral {words : List Arg} (h : Written words)
    (hsends : serialSends (render words) = true) : Neutral (render words) := by
  rcases h with hheld | rfl | rfl
  · rw [serialSends, hheld.2] at hsends
    cases hsends
  · decide
  · decide

theorem Aruba.written (command : Aruba.Command) : Written command.words := by
  by_cases h : command = .enable
  · exact .inr (.inr (by rw [h]; rfl))
  · exact .inl (Aruba.heldBack_words h)

theorem Cisco.written (command : Cisco.Command) : Written command.words := by
  by_cases h : command = .close
  · exact .inr (.inl (by rw [h]; rfl))
  · exact .inl (Cisco.heldBack_words h)

theorem Fortiswitch.written {line : Line} (h : Fortiswitch.KnownLine line) :
    Written line.words := by
  by_cases hclose : line = .close
  · exact .inr (.inl (by rw [hclose]; rfl))
  · exact .inl (Fortiswitch.heldBack_words h hclose)

namespace VendorSwitch

/-- All that a request writes is written. -/
theorem written_commands (switch : VendorSwitch) (request : Request) :
    ∀ words ∈ switch.commands request, Written words := by
  cases switch with
  | aruba switch => exact List.forall_mem_map.mpr fun command _ => Aruba.written command
  | cisco switch => exact List.forall_mem_map.mpr fun command _ => Cisco.written command
  | fortiswitch switch =>
    exact List.forall_mem_map.mpr fun line hline =>
      Fortiswitch.written (Fortiswitch.known_generate request line hline)

/-- So is all that an apply writes. -/
theorem written_applyCommands (switch : VendorSwitch) (diff : StateDiff) :
    ∀ words ∈ switch.applyCommands diff, Written words := by
  cases switch with
  | aruba switch => exact List.forall_mem_map.mpr fun command _ => Aruba.written command
  | cisco switch => exact List.forall_mem_map.mpr fun command _ => Cisco.written command
  | fortiswitch switch =>
    refine List.forall_mem_map.mpr fun line hline => ?_
    obtain ⟨request, hrequest⟩ := Fortiswitch.exists_request hline
    exact Fortiswitch.written (Fortiswitch.known_generate request line hrequest)

end VendorSwitch

/-! ## Ports that are switched on -/

namespace Aruba

variable {switch : ArubaSwitch}

theorem words_eq_enable_iff {command : Command} :
    command.words = [.bare "enable"] ↔ command = .enable := by
  constructor
  · intro hwords
    by_contra hne
    exact ne_enable_of_heldBack (heldBack_words hne) hwords
  · rintro rfl
    rfl

/-- A port is enabled exactly if it is to be. -/
theorem enable_mem_portCommands_iff {mirrors : List PortMirror} {port : Port} :
    .enable ∈ portCommands switch mirrors port ↔ port.enabled = true := by
  have hdescription : .enable ∉ descriptionCommands switch port := by
    rw [descriptionCommands]
    split <;> simp
  have hvlans : .enable ∉ vlanMembershipCommands switch port := by
    rw [vlanMembershipCommands]
    split <;> simp
  have hpoe : .enable ∉ poeCommands switch port := by
    rw [poeCommands]
    split <;> simp
    split <;> simp
  have hmac : .enable ∉ macNotifyCommands port := by
    rw [macNotifyCommands]
    split <;> simp
  have hmonitor : ∀ interface, .enable ∉ monitorCommands switch mirrors interface := by
    intro interface
    rw [monitorCommands]
    split
    · split <;> simp
    · simp
  cases henabled : port.enabled <;>
    simp [portCommands, hdescription, hvlans, hpoe, hmac, hmonitor, henabled]

theorem enable_mem_configured_iff {body : List Command} :
    .enable ∈ configured body ↔ .enable ∈ body := by
  simp [configured]

/-- SNMP enables no port. -/
theorem enable_notMem_generateSnmpCommands {snmp : SnmpConfig} {traps : List TrapType} :
    .enable ∉ generateSnmpCommands snmp traps := by
  simp [generateSnmpCommands, enable_mem_configured_iff, communityCommand, receiverCommand]

theorem enable_notMem_configureSnmp {snmp : SnmpConfig} : .enable ∉ configureSnmp switch snmp := by
  have hremove (receiver : String × Option String) : removeReceiver receiver ≠ .enable := by
    obtain ⟨host, community⟩ := receiver
    cases community <;> simp [removeReceiver]
  rw [configureSnmp, List.mem_append, not_or]
  refine ⟨?_, enable_notMem_generateSnmpCommands⟩
  split
  · simp
  · simp [enable_mem_configured_iff, hremove]

theorem enable_notMem_applySnmpDiff {diff : SnmpStateDiff} : .enable ∉ applySnmpDiff diff := by
  have htrap (trap : TrapType) : .enable ∉ enableTrapCommands trap ∧
      .enable ∉ disableTrapCommands trap := by
    cases trap <;> simp [enableTrapCommands, disableTrapCommands]
  rw [applySnmpDiff]
  split
  · simp
  · simp [enable_mem_configured_iff, communityCommand, receiverCommand, htrap]

theorem enable_notMem_vlans {vlans : List Vlan} : .enable ∉ generateVlanCommands vlans := by
  have hip (vlan : Vlan) : .enable ≠ ipCommand vlan.ipConfig := by
    cases vlan.ipConfig <;> simp [ipCommand]
  simp [generateVlanCommands, enable_mem_configured_iff, vlanCommands, hip]

theorem enable_notMem_migrations {migrations : List PortMigration} :
    .enable ∉ migratePortsBeforeVlanDeletion migrations := by
  have hgroup (group : ℕ × VlanMembers) : .enable ∉ cleanVlan group := by
    obtain ⟨id, untagged, tagged⟩ := group
    cases untagged <;> cases tagged <;> simp [cleanVlan]
  simp [migratePortsBeforeVlanDeletion, enable_mem_configured_iff, hgroup]

theorem enable_notMem_mirrors {mirrors : List PortMirror} :
    .enable ∉ generateMirrorCommands switch mirrors := by
  have hmirror (mirror : PortMirror) : .enable ≠ mirrorCommand switch mirror := by
    rw [mirrorCommand]
    split <;> simp
  simp only [generateMirrorCommands, enable_mem_configured_iff, List.mem_map, not_exists, not_and]
  exact fun mirror _ h => hmirror mirror h.symm

theorem enable_notMem_resetPorts {portIds : List String} : .enable ∉ resetPorts switch portIds := by
  simp [resetPorts, enable_mem_configured_iff, resetPort]

/-- Ports are enabled exactly if one of them is to be. -/
theorem enable_mem_ports_iff {ports : List Port} {mirrors : List PortMirror} :
    .enable ∈ generatePortCommands switch ports mirrors ↔ ∃ port ∈ ports, port.enabled = true := by
  simp [generatePortCommands, enable_mem_configured_iff, enable_mem_portCommands_iff]

/-- Every mirror destination is enabled. -/
theorem enable_mem_mirrorDestPorts_iff {portIds : List String} :
    .enable ∈ configureMirrorDestPorts portIds ↔ portIds ≠ [] := by
  rw [configureMirrorDestPorts, enable_mem_configured_iff]
  cases portIds <;> simp

/-- Only ports that are configured or mirrored to are switched on. -/
theorem enable_notMem_generate_iff {request : Request} : .enable ∉ generate switch request ↔
    (VendorOperation.write request).Fits (.aruba switch) := by
  cases request with
  | vlans vlans => exact iff_of_true enable_notMem_vlans trivial
  | removeVlans vlanIds =>
    refine iff_of_true ?_ trivial
    simp [generate, generateRemoveVlanCommands, enable_mem_configured_iff]
  | migrations migrations => exact iff_of_true enable_notMem_migrations trivial
  -- these two requests enable ports; the others never send `enable`
  | ports ports mirrors =>
    rw [generate, enable_mem_ports_iff]
    simp [VendorOperation.Fits]
  | resetPorts portIds => exact iff_of_true enable_notMem_resetPorts trivial
  | mirrorDestPorts portIds =>
    rw [generate, enable_mem_mirrorDestPorts_iff, not_not]
    rfl
  | mirrors mirrors => exact iff_of_true enable_notMem_mirrors trivial
  | removeMirrors sessionIds =>
    refine iff_of_true ?_ trivial
    simp [generate, generateRemoveMirrorCommands, enable_mem_configured_iff]
  | snmp snmp traps => exact iff_of_true enable_notMem_generateSnmpCommands trivial
  | configureSnmp snmp => exact iff_of_true enable_notMem_configureSnmp trivial
  | snmpDiff diff => exact iff_of_true enable_notMem_applySnmpDiff trivial
  | managementVlan vlanId =>
    refine iff_of_true ?_ trivial
    simp [generate, configureManagementVlan, enable_mem_configured_iff]
  | removeManagementVlan =>
    refine iff_of_true ?_ trivial
    simp [generate, removeManagementVlan, enable_mem_configured_iff]
  | poe portId on =>
    refine iff_of_true ?_ trivial
    cases on <;> simp [generate, poeEnableCommands, poeDisableCommands, enable_mem_configured_iff]

/-- In an apply only ports and mirror destinations are enabled. -/
theorem exists_of_mem_applyDiff {diff : StateDiff} {step : Except VendorError (List Command)}
    (h : step ∈ applyDiff switch diff) : ∃ commands, step = .ok commands ∧
      (.enable ∈ commands → commands = generatePortCommands switch diff.portsToConfigure
          switch.config.portMirrors ∨
        commands = configureMirrorDestPorts diff.mirrorDestPortsToConfigure) := by
  -- a step that is guarded by a non-empty list
  have hany {β : Type} {l : List β} {f : List β → List Command}
      (h : step ∈ Steps.ifAny l f) : step = .ok (f l) := by
    rw [Steps.ifAny] at h
    split at h
    · cases h
    · exact List.mem_singleton.mp h
  simp only [applyDiff, removeVlans, laterSteps, List.mem_append] at h
  -- by the step of the apply; only those that configure ports may enable one
  rcases h with hremove | ((((((((h | h) | h) | h) | h) | h) | h) | h) | hsnmp) | hmanagement
  · split at hremove
    · cases hremove
    · rw [List.mem_append, List.mem_singleton] at hremove
      rcases hremove with hmigrate | hdelete
      · split at hmigrate
        · exact ⟨_, hany hmigrate, fun h => absurd h enable_notMem_migrations⟩
        · cases hmigrate
      · refine ⟨_, hdelete, fun h => absurd h ?_⟩
        simp [generateRemoveVlanCommands, enable_mem_configured_iff]
  · exact ⟨_, hany h, fun h => absurd h enable_notMem_vlans⟩
  · exact ⟨_, hany h, fun h => absurd h enable_notMem_vlans⟩
  · exact ⟨_, hany h, fun _ => .inl rfl⟩
  · exact ⟨_, hany h, fun h => absurd h enable_notMem_resetPorts⟩
  · exact ⟨_, hany h, fun _ => .inr rfl⟩
  · refine ⟨_, hany h, fun h => absurd h ?_⟩
    simp [generateRemoveMirrorCommands, enable_mem_configured_iff]
  · exact ⟨_, hany h, fun h => absurd h enable_notMem_mirrors⟩
  · exact ⟨_, hany h, fun h => absurd h enable_notMem_mirrors⟩
  · rcases Steps.mem_snmp.mp hsnmp with ⟨snmpDiff, -, -, h⟩ | ⟨-, -, snmp, -, h⟩
    · exact ⟨_, h, fun h => absurd h enable_notMem_applySnmpDiff⟩
    · exact ⟨_, h, fun h => absurd h enable_notMem_configureSnmp⟩
  · obtain ⟨-, ⟨vlanId, -, h⟩ | ⟨-, h⟩⟩ := Steps.mem_managementVlan.mp hmanagement
    · refine ⟨_, h, fun h => absurd h ?_⟩
      simp [configureManagementVlan, enable_mem_configured_iff]
    · refine ⟨_, h, fun h => absurd h ?_⟩
      simp [removeManagementVlan, enable_mem_configured_iff]

/-- No step fails, so the commands of every step are sent. -/
theorem mem_sent_applyDiff {diff : StateDiff} {commands : List Command} {command : Command}
    (h : .ok commands ∈ applyDiff switch diff) (hmem : command ∈ commands) :
    command ∈ (applyDiff switch diff).sent := by
  have hok : ∀ step ∈ applyDiff switch diff, ∃ commands, step = .ok commands := by
    intro step hstep
    obtain ⟨commands, hcommands, _⟩ := exists_of_mem_applyDiff hstep
    exact ⟨commands, hcommands⟩
  generalize applyDiff switch diff = steps at h hok
  induction steps with
  | nil => cases h
  | cons step steps ih =>
    obtain ⟨⟨first, rfl⟩, hrest⟩ := List.forall_mem_cons.mp hok
    rw [Steps.sent_ok, List.mem_append]
    rcases List.mem_cons.mp h with heq | hlater
    · exact .inl (Except.ok.inj heq ▸ hmem)
    · exact .inr (ih hlater hrest)

/-- An apply enables nothing exactly if it fits. -/
theorem enable_notMem_applyDiff_iff {diff : StateDiff} : .enable ∉ (applyDiff switch diff).sent ↔
    (VendorOperation.apply diff).Fits (.aruba switch) := by
  constructor
  · intro h
    constructor
    · intro port hport
      by_contra henabled
      rw [Bool.not_eq_false] at henabled
      have hany :
        .ok (generatePortCommands switch diff.portsToConfigure switch.config.portMirrors) ∈
          Steps.ifAny diff.portsToConfigure
            (fun ports => generatePortCommands switch ports switch.config.portMirrors) :=
        Steps.ok_mem_ifAny.mpr ⟨List.ne_nil_of_mem hport, rfl⟩
      have hstep : .ok (generatePortCommands switch diff.portsToConfigure
          switch.config.portMirrors) ∈ applyDiff switch diff := by
        simp only [applyDiff, laterSteps, List.mem_append, hany, true_or, or_true]
      exact h (mem_sent_applyDiff hstep (enable_mem_ports_iff.mpr ⟨port, hport, henabled⟩))
    · by_contra hne
      have hany : .ok (configureMirrorDestPorts diff.mirrorDestPortsToConfigure) ∈
          Steps.ifAny diff.mirrorDestPortsToConfigure configureMirrorDestPorts :=
        Steps.ok_mem_ifAny.mpr ⟨hne, rfl⟩
      have hstep : .ok (configureMirrorDestPorts diff.mirrorDestPortsToConfigure) ∈
          applyDiff switch diff := by
        simp only [applyDiff, laterSteps, List.mem_append, hany, true_or, or_true]
      exact h (mem_sent_applyDiff hstep (enable_mem_mirrorDestPorts_iff.mpr hne))
  · rintro ⟨hports, hmirrorDests⟩ henable
    obtain ⟨commands, hcommands, hmem⟩ := Steps.exists_of_mem_sent henable
    obtain ⟨_, heq, hcases⟩ := exists_of_mem_applyDiff hcommands
    cases heq
    -- an `enable` comes from a configured port or a mirror destination
    rcases hcases hmem with rfl | rfl
    · obtain ⟨port, hport, henabled⟩ := enable_mem_ports_iff.mp hmem
      rw [hports port hport] at henabled
      cases henabled
    · exact enable_mem_mirrorDestPorts_iff.mp hmem hmirrorDests

end Aruba

/-! ## Dry runs -/

/-- What is asked of one operation. -/
def VendorOperation.Agrees (switch : VendorSwitch) (operation : VendorOperation) : Prop :=
  (∀ command ∈ switch.emitted operation, sshSends command = serialSends command) ∧
    ∀ readOperation, operation = .read readOperation →
      ∀ command ∈ switch.readCommands readOperation,
        sshSends command = true ∧ serialSends command = true

/-- The gates agree on written commands exactly if none is `enable`. -/
theorem agree_map_render_iff {commands : List (List Arg)}
    (h : ∀ words ∈ commands, Written words) :
    (∀ command ∈ commands.map render, sshSends command = serialSends command) ↔
      ∀ words ∈ commands, words ≠ [.bare "enable"] := by
  rw [List.forall_mem_map]
  exact forall₂_congr fun words hwords => (h words hwords).agree_iff

theorem Cisco.words_ne_enable (command : Cisco.Command) : command.words ≠ [.bare "enable"] := by
  by_cases h : command = .close
  · rw [h]
    decide
  · exact ne_enable_of_heldBack (Cisco.heldBack_words h)

theorem Fortiswitch.words_ne_enable {line : Line} (h : Fortiswitch.KnownLine line) :
    line.words ≠ [.bare "enable"] := by
  by_cases hclose : line = .close
  · rw [hclose]
    decide
  · exact ne_enable_of_heldBack (Fortiswitch.heldBack_words h hclose)

namespace VendorSwitch

/-- A request has no `enable` exactly if it fits. -/
theorem ne_enable_commands_iff {switch : VendorSwitch} {request : Request} :
    (∀ words ∈ switch.commands request, words ≠ [.bare "enable"]) ↔
      (VendorOperation.write request).Fits switch := by
  cases switch with
  | aruba switch =>
    rw [← Aruba.enable_notMem_generate_iff, commands, List.forall_mem_map]
    simp only [ne_eq, Aruba.words_eq_enable_iff]
    exact ⟨fun h hmem => h _ hmem rfl, fun h command hmem heq => h (heq ▸ hmem)⟩
  | cisco switch =>
    exact iff_of_true (List.forall_mem_map.mpr fun command _ =>
      Cisco.words_ne_enable command) trivial
  | fortiswitch switch =>
    refine iff_of_true (List.forall_mem_map.mpr fun line hline => ?_) trivial
    exact Fortiswitch.words_ne_enable (Fortiswitch.known_generate request line hline)

/-- Nor has an apply. -/
theorem ne_enable_applyCommands_iff {switch : VendorSwitch} {diff : StateDiff} :
    (∀ words ∈ switch.applyCommands diff, words ≠ [.bare "enable"]) ↔
      (VendorOperation.apply diff).Fits switch := by
  cases switch with
  | aruba switch =>
    rw [← Aruba.enable_notMem_applyDiff_iff, applyCommands, List.forall_mem_map]
    simp only [ne_eq, Aruba.words_eq_enable_iff]
    exact ⟨fun h hmem => h _ hmem rfl, fun h command hmem heq => h (heq ▸ hmem)⟩
  | cisco switch =>
    exact iff_of_true (List.forall_mem_map.mpr fun command _ =>
      Cisco.words_ne_enable command) trivial
  | fortiswitch switch =>
    refine iff_of_true (List.forall_mem_map.mpr fun line hline => ?_) trivial
    obtain ⟨request, hrequest⟩ := Fortiswitch.exists_request hline
    exact Fortiswitch.words_ne_enable (Fortiswitch.known_generate request line hrequest)

end VendorSwitch

/-- What is sent to open, resume or save, and to roll back, is the same on both connections. -/
theorem agree_session (switch : VendorSwitch) :
    (∀ command ∈ switch.connectCommands, sshSends command = serialSends command) ∧
      (∀ command ∈ switch.resumeCommands, sshSends command = serialSends command) ∧
      (∀ command ∈ switch.saveCommands, sshSends command = serialSends command) ∧
      ∀ method, ∀ command ∈ switch.rollbackCommands method,
        sshSends command = serialSends command := by
  refine ⟨?_, ?_, ?_, fun method => ?_⟩
  · cases switch <;> rw [VendorSwitch.connectCommands] <;> decide
  · cases switch <;> rw [VendorSwitch.resumeCommands] <;> decide
  · cases switch <;> rw [VendorSwitch.saveCommands] <;> decide
  · cases switch <;> cases method <;> rw [VendorSwitch.rollbackCommands] <;> decide

/-- Is all that a read operation asks sent on both connections? -/
theorem reads_iff {switch : VendorSwitch} {operation : ReadOperation} :
    (∀ command ∈ switch.readCommands operation,
        sshSends command = true ∧ serialSends command = true) ↔
      (VendorOperation.read operation).Fits switch := by
  -- some reads of a FortiSwitch start with a word that one of the two gates takes for a change
  have hblocks : ¬∀ command ∈ fortiswitchBlocks,
      sshSends command = true ∧ serialSends command = true := by decide
  cases switch with
  | aruba switch =>
    refine iff_of_true ?_ trivial
    cases operation <;> rw [VendorSwitch.readCommands] <;> decide
  | cisco switch =>
    refine iff_of_true ?_ trivial
    cases operation <;> rw [VendorSwitch.readCommands] <;> decide
  | fortiswitch switch =>
    cases operation with
    | currentState => exact iff_of_false hblocks (by rintro (h | h) <;> cases h)
    | hardwareModel =>
      refine iff_of_false ?_ (by rintro (h | h) <;> cases h)
      rw [VendorSwitch.readCommands]
      decide
    | portStatus =>
      refine iff_of_false ?_ (by rintro (h | h) <;> cases h)
      rw [VendorSwitch.readCommands]
      decide
    | macTable =>
      refine iff_of_false ?_ (by rintro (h | h) <;> cases h)
      rw [VendorSwitch.readCommands]
      decide
    | runningConfig =>
      refine iff_of_true ?_ (.inl rfl)
      rw [VendorSwitch.readCommands]
      decide
    | receivers =>
      refine iff_of_true ?_ (.inr rfl)
      rw [VendorSwitch.readCommands]
      decide

/-- The gates agree on an operation exactly if it fits. -/
theorem VendorOperation.agrees_iff {switch : VendorSwitch} {operation : VendorOperation} :
    operation.Agrees switch ↔ operation.Fits switch := by
  obtain ⟨hconnect, hresume, hsave, hrollback⟩ := agree_session switch
  cases operation with
  | connect => exact iff_of_true ⟨hconnect, fun _ h => by cases h⟩ (by cases switch <;> trivial)
  | resume => exact iff_of_true ⟨hresume, fun _ h => by cases h⟩ (by cases switch <;> trivial)
  | read operation =>
    rw [← reads_iff]
    constructor
    · intro h
      exact h.2 operation rfl
    · intro h
      refine ⟨fun command hcommand => ?_, fun _ heq => by cases heq; exact h⟩
      rw [(h command hcommand).1, (h command hcommand).2]
  | write request =>
    have hrender := agree_map_render_iff (switch.written_commands request)
    rw [← VendorSwitch.ne_enable_commands_iff, ← hrender]
    exact and_iff_left fun _ h => by cases h
  | apply diff =>
    have hrender := agree_map_render_iff (switch.written_applyCommands diff)
    rw [← VendorSwitch.ne_enable_applyCommands_iff, ← hrender]
    exact and_iff_left fun _ h => by cases h
  | save => exact iff_of_true ⟨hsave, fun _ h => by cases h⟩ (by cases switch <;> trivial)
  | rollback method =>
    exact iff_of_true ⟨hrollback method, fun _ h => by cases h⟩ (by cases switch <;> trivial)

/-! ## Nothing is changed -/

/-- A gate that lets through no more than the serial one. -/
def Strict (sends : String → Bool) : Prop :=
    ∀ command, sends command = true → serialSends command = true

/-- The gate of the one client is strict. -/
theorem strict_sshSends : Strict sshSends := fun _ => SshClient.sends_imp

/-- So is that of the other. -/
theorem strict_serialSends : Strict serialSends := fun _ h => h

/-- The settings of the console are entered and left again. -/
theorem harmless_console {sends : String → Bool}
    (h : ∀ command ∈ ["config system console", "set output standard", "end"],
      sends command = true) :
    Harmless sends ["config system console", "set output standard", "end"] := by
  intro κ other s hmode
  have henter : (s.step other "config system console") = { s with mode := .console } := by
    rw [ReferenceSwitch.step, hmode]
    rfl
  rw [List.filter_eq_self.mpr h, run_cons, henter]
  exact ⟨rfl, rfl⟩

/-- Reads that are sent are neutral. -/
theorem neutral_readCommands (switch : VendorSwitch) (operation : ReadOperation) :
    ∀ command ∈ switch.readCommands operation, serialSends command = true → Neutral command := by
  cases switch <;> cases operation <;> rw [VendorSwitch.readCommands] <;> decide

section Harmless

variable {sends : String → Bool} {switch : VendorSwitch}

/-- To connect does no harm if the commands of the console are sent together. -/
theorem harmless_connect
    (hconsole : ∀ command ∈ ["config system console", "set output standard", "end"],
      sends command = true) : Harmless sends switch.connectCommands := by
  cases switch with
  | aruba switch =>
    refine harmless_of_neutral fun command hcommand _ => ?_
    rw [List.mem_singleton.mp hcommand]
    decide
  | cisco switch =>
    refine harmless_of_neutral fun command hcommand _ => ?_
    rw [List.mem_singleton.mp hcommand]
    decide
  | fortiswitch switch =>
    have hends : Harmless sends ["end", "end"] :=
      harmless_of_neutral fun command hcommand _ => by
        have hend : command = "end" := by simpa using hcommand
        rw [hend]
        decide
    exact hends.append (harmless_console hconsole)

/-- What is written does no harm. -/
theorem harmless_of_written {commands : List (List Arg)} (h : Strict sends)
    (hwritten : ∀ words ∈ commands, Written words) : Harmless sends (commands.map render) := by
  refine harmless_of_neutral (List.forall_mem_map.mpr fun words hwords hsends => ?_)
  exact (hwritten words hwords).neutral (h _ hsends)

/-- None of these commands is sent. -/
theorem harmless_of_held {commands : List String} (h : Strict sends)
    (hheld : ∀ command ∈ commands, serialSends command = false) : Harmless sends commands := by
  refine harmless_of_neutral fun command hcommand hsends => ?_
  have hserial := h command hsends
  rw [hheld command hcommand] at hserial
  cases hserial

/-- No operation does any harm. -/
theorem harmless_emitted (h : Strict sends)
    (hconsole : ∀ command ∈ ["config system console", "set output standard", "end"],
      sends command = true) (operation : VendorOperation) :
    Harmless sends (switch.emitted operation) := by
  cases operation with
  | connect => exact harmless_connect hconsole
  | resume =>
    refine harmless_of_neutral ?_
    cases switch <;> simp +decide [VendorSwitch.emitted, VendorSwitch.resumeCommands]
  | read operation =>
    exact harmless_of_neutral fun command hcommand hsends =>
      neutral_readCommands switch operation command hcommand (h command hsends)
  | write request => exact harmless_of_written h (switch.written_commands request)
  | apply diff => exact harmless_of_written h (switch.written_applyCommands diff)
  | save =>
    refine harmless_of_held h ?_
    cases switch <;> simp +decide [VendorSwitch.emitted, VendorSwitch.saveCommands]
  | rollback method =>
    refine harmless_of_held h ?_
    cases switch <;> cases method <;>
      simp +decide [VendorSwitch.emitted, VendorSwitch.rollbackCommands]

/-- No sequence of operations changes the configuration in a dry run. -/
theorem harmless_operations (h : Strict sends)
    (hconsole : ∀ command ∈ ["config system console", "set output standard", "end"],
      sends command = true) (operations : List VendorOperation) :
    Harmless sends (operations.flatMap switch.emitted) := by
  induction operations with
  | nil => exact harmless_of_neutral fun _ h => absurd h List.not_mem_nil
  | cons operation operations ih =>
    rw [List.flatMap_cons]
    exact (harmless_emitted h hconsole operation).append ih

end Harmless

/-- Nothing is ever changed; both connections agree, and everything is read, exactly if no
operation is one of those that the gates are wrong about. -/
theorem transparent_iff {switch : VendorSwitch} {operations : List VendorOperation} :
    Transparent switch operations ↔ ∀ operation ∈ operations, operation.Fits switch := by
  simp only [← VendorOperation.agrees_iff]
  constructor
  · intro h operation hoperation
    refine ⟨fun command hcommand => ?_, ?_⟩
    · exact h.agree command (List.mem_flatMap.mpr ⟨operation, hoperation, hcommand⟩)
    · rintro readOperation rfl
      exact h.reads readOperation hoperation
  · intro h
    refine ⟨fun command hcommand => ?_, ?_, ?_, fun readOperation hread => ?_⟩
    · obtain ⟨operation, hoperation, hmem⟩ := List.mem_flatMap.mp hcommand
      exact (h operation hoperation).1 command hmem
    · exact harmless_operations strict_sshSends (by decide) operations
    · exact harmless_operations strict_serialSends (by decide) operations
    · exact (h _ hread).2 readOperation rfl

/-- The reads of a FortiSwitch are not all sent, and not the same ones on both connections; an
Aruba port that is switched on is sent on one of them. -/
theorem dryRun_misses_reads :
    ¬Transparent (.fortiswitch { config := { id := "fs1" } }) [.read .currentState] ∧
      sshSends "get system status" = false ∧ serialSends "get system status" = true ∧
      sshSends "diagnose switch mac-address list" = false ∧
      serialSends "diagnose switch mac-address list" = false ∧
      ¬Transparent (.aruba { config := { id := "sw1" } })
        [.write (.ports [{ portId := "1", vlan := 10 }] [])] := by
  refine ⟨fun h => ?_, by decide, by decide, by decide, by decide, fun h => ?_⟩
  · have hread := (h.reads .currentState List.mem_cons_self "get system status" (by decide)).1
    exact absurd hread (by decide)
  · have hagree := h.agree "enable" (by decide +kernel)
    exact absurd hagree (by decide)

end SwitchConfigurator
