import SwitchConfigurator.Config.AllowedHosts
import SwitchConfigurator.Config.VlanNames
import SwitchConfigurator.Foundations.Document

/-!
# Reading and writing configurations

The `Deserialize` and `Serialize` implementations of the records in `models.rs`,
`validation/mod.rs` and `config.rs`, as documents. Reading fails without a text here; the texts
of `serde` errors are not modelled.
-/

namespace SwitchConfigurator

open Document

/-- What `humantime_serde` and `serde_json` do with texts. Durations are in nanoseconds, and a
`serde_json::Value` is the text it prints to. -/
structure Formats where
  parseDuration : String → Option ℕ
  formatDuration : ℕ → String
  json : Value → String
  ofJson : String → Value
  duration_lt : ∀ text d, parseDuration text = some d → d < 2 ^ 64 * 10 ^ 9
  parse_format : ∀ d, d < 2 ^ 64 * 10 ^ 9 → parseDuration (formatDuration d) = some d
  json_ofJson : ∀ value, json (ofJson (json value)) = json value

/-! ## Enumerations -/

instance : Variants PortMode where
  name
    | .access => "access"
    | .trunk => "trunk"
  all := [.access, .trunk]
  find_name := by
    intro a
    cases a <;> rfl

instance : Variants SpeedDuplex where
  name
    | .auto => "auto"
    | .tenHalf => "10-half"
    | .tenFull => "10-full"
    | .hundredHalf => "100-half"
    | .hundredFull => "100-full"
    | .thousandFull => "1000-full"
    | .tenGFull => "10g-full"
  all := [.auto, .tenHalf, .tenFull, .hundredHalf, .hundredFull, .thousandFull, .tenGFull]
  find_name := by
    intro a
    cases a <;> rfl

instance : Variants MirrorDirection where
  name
    | .rx => "rx"
    | .tx => "tx"
    | .both => "both"
  all := [.rx, .tx, .both]
  find_name := by
    intro a
    cases a <;> rfl

instance : Variants SnmpAccess where
  name
    | .unrestricted => "unrestricted"
    | .manager => "manager"
    | .operator => "operator"
  all := [.unrestricted, .manager, .operator]
  find_name := by
    intro a
    cases a <;> rfl

instance : Variants TrapType where
  name
    | .macNotify => "mac-notify"
    | .linkChange => "link-change"
    | .all => "all"
  all := [.macNotify, .linkChange, .all]
  find_name := by
    intro a
    cases a <;> rfl

instance : Variants SnmpReadsMode where
  name
    | .auto => "auto"
    | .off => "off"
  all := [.auto, .off]
  find_name := by
    intro a
    cases a <;> rfl

instance : Variants ConnectionType where
  name
    | .ssh => "ssh"
    | .serial => "serial"
  all := [.ssh, .serial]
  find_name := by
    intro a
    cases a <;> rfl

instance : Variants FailureAction where
  name
    | .rollback => "rollback"
    | .saveAnyway => "save_anyway"
    | .manual => "manual"
  all := [.rollback, .saveAnyway, .manual]
  find_name := by
    intro a
    cases a <;> rfl

instance : Variants RollbackMethod where
  name
    | .reload => "reload"
    | .revertCommands => "revert_commands"
    | .restoreBackup => "restore_backup"
  all := [.reload, .revertCommands, .restoreBackup]
  find_name := by
    intro a
    cases a <;> rfl

instance : Variants SwitchModel where
  name := SwitchModel.debug
  all := [.aruba2530_24G_POE, .aruba2530_8G_POE, .aruba2530_48G_2SFP, .aruba2540_24G,
    .aruba2540_48G_4SFP, .aruba2930F, .fortiswitch124F_FPOE, .ciscoCatalyst9300_24P_UPOE]
  find_name := by
    intro a
    cases a <;> rfl

/-! ## VLANs, ports and mirrors -/

def VlanIpConfig.ofValue : Value → Option VlanIpConfig
  | .string s =>
    if s = "none" then some none
    else if s = "dhcp" then some dhcp
    else Option.none
  | .mapping entries => do
    let address ← field "address" string entries
    let netmask ← field "netmask" string entries
    return static address netmask
  | _ => Option.none

def VlanIpConfig.toValue : VlanIpConfig → Value
  | none => .string "none"
  | dhcp => .string "dhcp"
  | static address netmask =>
    .mapping [("address", .string address), ("netmask", .string netmask)]

@[simp] theorem VlanIpConfig.ofValue_toValue (ip : VlanIpConfig) :
    ofValue ip.toValue = some ip := by
  cases ip <;> rfl

def Vlan.ofValue : Value → Option Vlan := record fun entries => do
  let id ← field "id" u16 entries
  let name ← field "name" string entries
  let description ← fieldOr "description" none (optional string) entries
  let ipConfig ← fieldOr "ip_config" .none VlanIpConfig.ofValue entries
  return { id, name, description, ipConfig }

def Vlan.toValue (vlan : Vlan) : Value :=
  .mapping [("id", ofNat vlan.id), ("name", .string vlan.name),
    ("description", ofOption .string vlan.description), ("ip_config", vlan.ipConfig.toValue)]

theorem Vlan.ofValue_toValue {vlan : Vlan} (h : vlan.id < 2 ^ 16) :
    ofValue vlan.toValue = some vlan := by
  have hid : u16 (ofNat vlan.id) = some vlan.id := below_ofNat h
  rw [ofValue, toValue]
  simp [hid]

/-- The id that is read of a VLAN has 16 bits. -/
theorem Vlan.id_lt {value : Value} {vlan : Vlan} (h : ofValue value = some vlan) :
    vlan.id < 2 ^ 16 := by
  obtain ⟨entries, h⟩ := exists_of_record h
  obtain ⟨id, hid, h⟩ := Option.bind_eq_some_iff.mp h
  obtain ⟨name, -, h⟩ := Option.bind_eq_some_iff.mp h
  obtain ⟨description, -, h⟩ := Option.bind_eq_some_iff.mp h
  obtain ⟨ipConfig, -, h⟩ := Option.bind_eq_some_iff.mp h
  obtain rfl := Option.some.inj h
  obtain ⟨item, -, hitem⟩ := Option.bind_eq_some_iff.mp hid
  exact lt_of_below hitem

def VlanValue.ofValue : Value → Option VlanValue
  | .integer n => some (integer n)
  | .string s => some (string s)
  | _ => none

def VlanValue.toValue : VlanValue → Value
  | integer n => .integer n
  | string s => .string s

@[simp] theorem VlanValue.ofValue_toValue (value : VlanValue) :
    ofValue value.toValue = some value := by
  cases value <;> rfl

def PortDe.ofValue : Value → Option PortDe := record fun entries => do
  let portId ← field "port_id" string entries
  let mode ← fieldOr "mode" .access variant entries
  let vlan ← field "vlan" VlanValue.ofValue entries
  let taggedVlans ←
    fieldEither "tagged_vlans" "allowed_vlans" [] (sequence VlanValue.ofValue) entries
  let description ← fieldOr "description" none (optional string) entries
  let enabled ← fieldOr "enabled" true bool entries
  let poeEnabled ← fieldOr "poe_enabled" false bool entries
  let macNotify ← fieldOr "mac_notify" false bool entries
  let speedDuplex ← fieldOr "speed_duplex" .auto variant entries
  return { portId, mode, vlan, taggedVlans, description, enabled, poeEnabled, macNotify,
           speedDuplex }

def Port.ofValue (value : Value) : Option Port := do
  let de ← PortDe.ofValue value
  de.deserialize.toOption

/-- The fields of a port that are written, with its VLANs as they are given. -/
def PortDe.toValue (de : PortDe) : Value :=
  .mapping [("port_id", .string de.portId), ("mode", ofVariant de.mode),
    ("vlan", de.vlan.toValue), ("tagged_vlans", ofList VlanValue.toValue de.taggedVlans),
    ("description", ofOption .string de.description), ("enabled", .bool de.enabled),
    ("poe_enabled", .bool de.poeEnabled), ("mac_notify", .bool de.macNotify),
    ("speed_duplex", ofVariant de.speedDuplex)]

/-- A port whose VLANs are written as ids; what is deferred is not written. -/
def Port.toDe (port : Port) : PortDe :=
  { portId := port.portId
    mode := port.mode
    vlan := .integer port.vlan
    taggedVlans := port.taggedVlans.map fun (id : ℕ) => .integer id
    description := port.description
    enabled := port.enabled
    poeEnabled := port.poeEnabled
    macNotify := port.macNotify
    speedDuplex := port.speedDuplex }

theorem PortDe.ofValue_toValue (de : PortDe) : ofValue de.toValue = some de := by
  have htagged : sequence VlanValue.ofValue (ofList VlanValue.toValue de.taggedVlans) =
      some de.taggedVlans :=
    sequence_of_forall fun value _ => value.ofValue_toValue
  rw [ofValue, toValue]
  simp [htagged]

def PortMirror.ofValue : Value → Option PortMirror := record fun entries => do
  let sessionId ← field "session_id" string entries
  let sourcePorts ← field "source_ports" (sequence string) entries
  let destinationPort ← field "destination_port" string entries
  let direction ← fieldOr "direction" .both variant entries
  return { sessionId, sourcePorts, destinationPort, direction }

def PortMirror.toValue (mirror : PortMirror) : Value :=
  .mapping [("session_id", .string mirror.sessionId),
    ("source_ports", ofList .string mirror.sourcePorts),
    ("destination_port", .string mirror.destinationPort),
    ("direction", ofVariant mirror.direction)]

@[simp] theorem PortMirror.ofValue_toValue (mirror : PortMirror) :
    ofValue mirror.toValue = some mirror := by
  rw [ofValue, toValue]
  simp

/-! ## SNMP -/

def AllowedHost.ofValue (value : Value) : Option AllowedHost := do
  let text ← string value
  (tryFrom text).toOption

def AllowedHost.toValue (host : AllowedHost) : Value := .string host.toText

theorem AllowedHost.readsBack : ReadsBack ofValue toValue id := by
  intro value host h
  obtain ⟨text, -, hhost⟩ := Option.bind_eq_some_iff.mp h
  have hok : tryFrom text = .ok host := by
    cases htext : tryFrom text with
    | error e =>
      rw [htext] at hhost
      cases hhost
    | ok other =>
      rw [htext] at hhost
      exact congrArg Except.ok (Option.some.inj hhost)
  show (tryFrom host.toText).toOption = some host
  rw [tryFrom_toText hok]
  rfl

def SnmpCommunity.ofValue : Value → Option SnmpCommunity := record fun entries => do
  let name ← fieldOr "name" "" string entries
  let access ← fieldOr "access" .unrestricted variant entries
  let nameFile ← fieldOr "name_file" none (optional string) entries
  let nameCredential ← fieldOr "name_credential" none (optional string) entries
  let allowedHosts ← fieldOr "allowed_hosts" [] (sequence AllowedHost.ofValue) entries
  return { name, access, nameFile, nameCredential, allowedHosts }

/-- Beside a reference the string itself is not written. -/
def SnmpCommunity.toValue (community : SnmpCommunity) : Value :=
  .mapping <|
    entryIfSome "name" .string (if community.hasReference then none else some community.name) <|
    entryIfSome "name_file" .string community.nameFile <|
    entryIfSome "name_credential" .string community.nameCredential <|
    ("access", ofVariant community.access) ::
    entryIfSome "allowed_hosts" (ofList AllowedHost.toValue)
      (if community.allowedHosts.isEmpty then none else some community.allowedHosts) []

/-- A community without the string that its reference resolves to. -/
def SnmpCommunity.referenced (community : SnmpCommunity) : SnmpCommunity :=
  if community.hasReference then { community with name := "" } else community

theorem SnmpCommunity.readsBack : ReadsBack ofValue toValue referenced := by
  intro value community h
  obtain ⟨entries, h⟩ := exists_of_record h
  simp only [Option.bind_eq_bind, Option.bind_eq_some_iff, Option.pure_def, Option.some.injEq] at h
  obtain ⟨name, -, access, -, nameFile, -, nameCredential, -, allowedHosts, hallowed, rfl⟩ := h
  have hosts := AllowedHost.readsBack.sequence.fieldOr rfl hallowed
  rw [List.map_id] at hosts
  rw [ofValue, toValue, referenced, SnmpCommunity.hasReference]
  cases nameFile <;> cases nameCredential <;> cases allowedHosts <;> simp [hosts]

def SnmpTrapReceiver.ofValue : Value → Option SnmpTrapReceiver := record fun entries => do
  let host ← field "host" string entries
  let community ← field "community" string entries
  let version ← fieldOr "version" none (optional string) entries
  return { host, community, version }

def SnmpTrapReceiver.toValue (receiver : SnmpTrapReceiver) : Value :=
  .mapping [("host", .string receiver.host), ("community", .string receiver.community),
    ("version", ofOption .string receiver.version)]

@[simp] theorem SnmpTrapReceiver.ofValue_toValue (receiver : SnmpTrapReceiver) :
    ofValue receiver.toValue = some receiver := by
  rw [ofValue, toValue]
  simp

def SnmpReads.ofValue : Value → Option SnmpReads := record fun entries => do
  let mode ← fieldOr "mode" .off variant entries
  let community ← fieldOr "community" none (optional SnmpCommunity.ofValue) entries
  return { mode, community }

def SnmpReads.toValue (reads : SnmpReads) : Value :=
  .mapping <| ("mode", ofVariant reads.mode) ::
    entryIfSome "community" SnmpCommunity.toValue reads.community []

def SnmpReads.referenced (reads : SnmpReads) : SnmpReads :=
  { reads with community := reads.community.map SnmpCommunity.referenced }

theorem SnmpReads.readsBack : ReadsBack ofValue toValue referenced := by
  intro value reads h
  obtain ⟨entries, h⟩ := exists_of_record h
  simp only [Option.bind_eq_bind, Option.bind_eq_some_iff, Option.pure_def, Option.some.injEq] at h
  obtain ⟨mode, -, community, hcommunity, rfl⟩ := h
  have hread := (SnmpCommunity.readsBack.optional fun _ => by simp [SnmpCommunity.toValue]).fieldOr
    rfl hcommunity
  rw [ofValue, toValue, referenced]
  simp [hread]

def SnmpConfig.ofValue : Value → Option SnmpConfig := record fun entries => do
  let communities ← fieldOr "communities" [] (sequence SnmpCommunity.ofValue) entries
  let trapReceivers ← fieldOr "trap_receivers" [] (sequence SnmpTrapReceiver.ofValue) entries
  let enabledTraps ← fieldOr "enabled_traps" [] (sequence variant) entries
  let reads ← fieldOr "reads" none (optional SnmpReads.ofValue) entries
  return { communities, trapReceivers, enabledTraps, reads }

def SnmpConfig.toValue (snmp : SnmpConfig) : Value :=
  .mapping <| ("communities", ofList SnmpCommunity.toValue snmp.communities) ::
    ("trap_receivers", ofList SnmpTrapReceiver.toValue snmp.trapReceivers) ::
    ("enabled_traps", ofList ofVariant snmp.enabledTraps) ::
    entryIfSome "reads" SnmpReads.toValue snmp.reads []

def SnmpConfig.referenced (snmp : SnmpConfig) : SnmpConfig :=
  { snmp with
    communities := snmp.communities.map SnmpCommunity.referenced
    reads := snmp.reads.map SnmpReads.referenced }

theorem SnmpConfig.readsBack : ReadsBack ofValue toValue referenced := by
  intro value snmp h
  obtain ⟨entries, h⟩ := exists_of_record h
  simp only [Option.bind_eq_bind, Option.bind_eq_some_iff, Option.pure_def, Option.some.injEq] at h
  obtain ⟨communities, hcommunities, trapReceivers, -, enabledTraps, -, reads, hreads, rfl⟩ := h
  have hcommunities := SnmpCommunity.readsBack.sequence.fieldOr rfl hcommunities
  have hreceivers : sequence SnmpTrapReceiver.ofValue
      (ofList SnmpTrapReceiver.toValue trapReceivers) = some trapReceivers :=
    sequence_of_forall fun receiver _ => receiver.ofValue_toValue
  have htraps : sequence variant (ofList ofVariant enabledTraps) = some enabledTraps :=
    sequence_of_forall fun trap _ => variant_ofVariant trap
  have hreads := (SnmpReads.readsBack.optional fun _ => by simp [SnmpReads.toValue]).fieldOr
    rfl hreads
  rw [ofValue, toValue, referenced]
  simp [hcommunities, hreceivers, htraps, hreads]

/-! ## Credentials -/

def JumpHost.ofValue : Value → Option JumpHost := record fun entries => do
  let host ← field "host" string entries
  let username ← fieldOr "username" none (optional string) entries
  let port ← fieldOr "port" none (optional u16) entries
  let sshKeyPath ← fieldOr "ssh_key_path" none (optional string) entries
  let password ← fieldOr "password" none (optional string) entries
  return { host, username, port, sshKeyPath, password }

/-- The password is not written. -/
def JumpHost.toValue (jumpHost : JumpHost) : Value :=
  .mapping <| ("host", .string jumpHost.host) ::
    entryIfSome "username" .string jumpHost.username
    (entryIfSome "port" ofNat jumpHost.port
    (entryIfSome "ssh_key_path" .string jumpHost.sshKeyPath []))

def JumpHost.withoutSecrets (jumpHost : JumpHost) : JumpHost := { jumpHost with password := none }

theorem JumpHost.readsBack : ReadsBack ofValue toValue withoutSecrets := by
  intro value jumpHost h
  obtain ⟨entries, h⟩ := exists_of_record h
  simp only [Option.bind_eq_bind, Option.bind_eq_some_iff, Option.pure_def, Option.some.injEq] at h
  obtain ⟨host, -, username, -, port, hport, sshKeyPath, -, password, -, rfl⟩ := h
  have hread : optional u16 (ofOption ofNat port) = some (port.map id) :=
    ((readsBack_below _).optional fun _ => by simp [ofNat]).fieldOr rfl hport
  rw [ofValue, toValue, withoutSecrets]
  simp [hread]

def Credentials.ofValue : Value → Option Credentials := record fun entries => do
  let username ← field "username" string entries
  let password ← fieldOr "password" none (optional string) entries
  let sshKeyPath ← fieldOr "ssh_key_path" none (optional string) entries
  let port ← fieldOr "port" 22 u16 entries
  let connectionType ← fieldOr "connection_type" .ssh variant entries
  let serialDevice ← fieldOr "serial_device" none (optional string) entries
  let baudRate ← fieldOr "baud_rate" 9600 u32 entries
  let enableSecret ← fieldOr "enable_secret" none (optional string) entries
  let jumpHosts ← fieldOr "jump_hosts" none (optional (sequence JumpHost.ofValue)) entries
  return { username, password, sshKeyPath, port, connectionType, serialDevice, baudRate,
           enableSecret, jumpHosts }

/-- Passwords are not written. -/
def Credentials.toValue (credentials : Credentials) : Value :=
  .mapping <| ("username", .string credentials.username) ::
    ("ssh_key_path", ofOption .string credentials.sshKeyPath) ::
    ("port", ofNat credentials.port) ::
    ("connection_type", ofVariant credentials.connectionType) ::
    ("serial_device", ofOption .string credentials.serialDevice) ::
    ("baud_rate", ofNat credentials.baudRate) ::
    entryIfSome "jump_hosts" (ofList JumpHost.toValue) credentials.jumpHosts []

def Credentials.withoutSecrets (credentials : Credentials) : Credentials :=
  { credentials with
    password := none
    enableSecret := none
    jumpHosts := credentials.jumpHosts.map fun hosts => hosts.map JumpHost.withoutSecrets }

theorem Credentials.readsBack : ReadsBack ofValue toValue withoutSecrets := by
  intro value credentials h
  obtain ⟨entries, h⟩ := exists_of_record h
  simp only [Option.bind_eq_bind, Option.bind_eq_some_iff, Option.pure_def, Option.some.injEq] at h
  obtain ⟨username, -, password, -, sshKeyPath, -, port, hport, connectionType, -, serialDevice, -,
    baudRate, hbaud, enableSecret, -, jumpHosts, hhosts, rfl⟩ := h
  have hport : u16 (ofNat port) = some port := (readsBack_below _).fieldOr (by rfl) hport
  have hbaud : u32 (ofNat baudRate) = some baudRate := (readsBack_below _).fieldOr (by rfl) hbaud
  have hhosts := (JumpHost.readsBack.sequence.optional fun _ => by simp [ofList]).fieldOr rfl hhosts
  rw [ofValue, toValue, withoutSecrets]
  simp [hport, hbaud, hhosts]

/-! ## Settings and validation tests -/

def Settings.ofValue : Value → Option Settings := record fun entries => do
  let sshTimeoutSecs ← fieldOr "ssh_timeout_secs" 30 u64 entries
  let maxRetries ← fieldOr "max_retries" 3 u32 entries
  let enforcePortConfig ← fieldOr "enforce_port_config" false bool entries
  let snmpPort ← fieldOr "snmp_port" 161 u16 entries
  return { sshTimeoutSecs, maxRetries, enforcePortConfig, snmpPort }

def Settings.toValue (settings : Settings) : Value :=
  .mapping [("ssh_timeout_secs", ofNat settings.sshTimeoutSecs),
    ("max_retries", ofNat settings.maxRetries),
    ("enforce_port_config", .bool settings.enforcePortConfig),
    ("snmp_port", ofNat settings.snmpPort)]

theorem Settings.readsBack : ReadsBack ofValue toValue id := by
  intro value settings h
  obtain ⟨entries, h⟩ := exists_of_record h
  simp only [Option.bind_eq_bind, Option.bind_eq_some_iff, Option.pure_def, Option.some.injEq] at h
  obtain ⟨sshTimeoutSecs, hssh, maxRetries, hretries, enforcePortConfig, -, snmpPort, hport, rfl⟩ :=
    h
  have hssh : u64 (ofNat sshTimeoutSecs) = some sshTimeoutSecs :=
    (readsBack_below _).fieldOr (by rfl) hssh
  have hretries : u32 (ofNat maxRetries) = some maxRetries :=
    (readsBack_below _).fieldOr (by rfl) hretries
  have hport : u16 (ofNat snmpPort) = some snmpPort := (readsBack_below _).fieldOr (by rfl) hport
  rw [ofValue, toValue]
  simp [hssh, hretries, hport]

section

variable (formats : Formats)

/-- `humantime_serde`. -/
def durationOf (value : Value) : Option ℕ := (string value).bind formats.parseDuration

def ofDuration (d : ℕ) : Value := .string (formats.formatDuration d)

theorem readsBack_duration : ReadsBack (durationOf formats) (ofDuration formats) id := by
  intro value d h
  obtain ⟨text, -, htext⟩ := Option.bind_eq_some_iff.mp h
  exact formats.parse_format d (formats.duration_lt text d htext)

/-- The variant and its fields, among the entries of the test. -/
def TestType.ofEntries (entries : Entries) : Option TestType := do
  let type ← field "type" string entries
  if type = "command_execution" then
    let command ← fieldOr "command" "show version" string entries
    return commandExecution command
  else if type = "ping_management_ip" then
    let count ← fieldOr "count" 3 u32 entries
    return pingManagementIp count
  else if type = "tcp_port_check" then
    let ports ← field "ports" (sequence u16) entries
    return tcpPortCheck ports
  else if type = "gateway_reachable" then
    let target ← field "target" string entries
    let sourceVlan ← fieldOr "source_vlan" none (optional u16) entries
    return gatewayReachable target sourceVlan
  else if type = "device_reachable" then
    let deviceIp ← field "device_ip" string entries
    let deviceName ← field "device_name" string entries
    let count ← fieldOr "count" 3 u32 entries
    return deviceReachable deviceIp deviceName count
  else if type = "port_status" then
    let criticalPorts ← fieldOr "critical_ports" [] (sequence string) entries
    return portStatus criticalPorts
  else if type = "vlan_membership" then return vlanMembership
  else none

def TestType.toEntries (test : TestType) (entries : Entries) : Entries :=
  match test with
  | commandExecution command =>
    ("type", .string "command_execution") :: ("command", .string command) :: entries
  | pingManagementIp count =>
    ("type", .string "ping_management_ip") :: ("count", ofNat count) :: entries
  | tcpPortCheck ports =>
    ("type", .string "tcp_port_check") :: ("ports", ofList ofNat ports) :: entries
  | gatewayReachable target sourceVlan =>
    ("type", .string "gateway_reachable") :: ("target", .string target) ::
      ("source_vlan", ofOption ofNat sourceVlan) :: entries
  | deviceReachable deviceIp deviceName count =>
    ("type", .string "device_reachable") :: ("device_ip", .string deviceIp) ::
      ("device_name", .string deviceName) :: ("count", ofNat count) :: entries
  | portStatus criticalPorts =>
    ("type", .string "port_status") :: ("critical_ports", ofList .string criticalPorts) :: entries
  | vlanMembership => ("type", .string "vlan_membership") :: entries

theorem TestType.ofEntries_toEntries {entries : Entries} {test : TestType}
    (h : ofEntries entries = some test) (rest : Entries) :
    ofEntries (test.toEntries rest) = some test := by
  obtain ⟨type, -, h⟩ := Option.bind_eq_some_iff.mp h
  have hcounts {count : ℕ} (hcount : fieldOr "count" 3 u32 entries = some count) :
      u32 (ofNat count) = some count :=
    (readsBack_below _).fieldOr (by rfl) hcount
  -- by the tag of the entry, in the order the reader tries them
  split at h
  · obtain ⟨command, -, h⟩ := Option.bind_eq_some_iff.mp h
    obtain rfl := Option.some.inj h
    rw [toEntries, ofEntries]
    simp
  split at h
  · obtain ⟨count, hcount, h⟩ := Option.bind_eq_some_iff.mp h
    obtain rfl := Option.some.inj h
    rw [toEntries, ofEntries]
    simp [hcounts hcount]
  split at h
  · obtain ⟨ports, hports, h⟩ := Option.bind_eq_some_iff.mp h
    obtain rfl := Option.some.inj h
    have hread : sequence u16 (ofList ofNat ports) = some (ports.map id) :=
      (readsBack_below _).sequence.field hports
    rw [toEntries, ofEntries]
    simp [hread]
  split at h
  · obtain ⟨target, -, h⟩ := Option.bind_eq_some_iff.mp h
    obtain ⟨sourceVlan, hvlan, h⟩ := Option.bind_eq_some_iff.mp h
    obtain rfl := Option.some.inj h
    have hread : optional u16 (ofOption ofNat sourceVlan) = some (sourceVlan.map id) :=
      ((readsBack_below _).optional fun _ => by simp [ofNat]).fieldOr rfl hvlan
    rw [toEntries, ofEntries]
    simp [hread]
  split at h
  · obtain ⟨deviceIp, -, h⟩ := Option.bind_eq_some_iff.mp h
    obtain ⟨deviceName, -, h⟩ := Option.bind_eq_some_iff.mp h
    obtain ⟨count, hcount, h⟩ := Option.bind_eq_some_iff.mp h
    obtain rfl := Option.some.inj h
    rw [toEntries, ofEntries]
    simp [hcounts hcount]
  split at h
  · obtain ⟨criticalPorts, -, h⟩ := Option.bind_eq_some_iff.mp h
    obtain rfl := Option.some.inj h
    rw [toEntries, ofEntries]
    simp
  split at h
  · obtain rfl := Option.some.inj h
    rw [toEntries, ofEntries]
    simp
  · cases h

def ValidationTest.ofValue : Value → Option ValidationTest := record fun entries => do
  let testType ← TestType.ofEntries entries
  let timeout ← fieldOr "timeout" (10 * 10 ^ 9) (durationOf formats) entries
  let required ← fieldOr "required" true bool entries
  return { testType, timeout, required }

def ValidationTest.toValue (test : ValidationTest) : Value :=
  .mapping (test.testType.toEntries
    [("timeout", ofDuration formats test.timeout), ("required", .bool test.required)])

theorem ValidationTest.readsBack : ReadsBack (ofValue formats) (toValue formats) id := by
  intro value test h
  obtain ⟨entries, h⟩ := exists_of_record h
  simp only [Option.bind_eq_bind, Option.bind_eq_some_iff, Option.pure_def, Option.some.injEq] at h
  obtain ⟨testType, htest, timeout, htimeout, required, -, rfl⟩ := h
  have htimeout : durationOf formats (ofDuration formats timeout) = some timeout :=
    (readsBack_duration formats).fieldOr (formats.parse_format _ (by decide)) htimeout
  have hrest (name : String) (hname : name ∉ ["type", "command", "count", "ports", "target",
      "source_vlan", "device_ip", "device_name", "critical_ports"]) (rest : Entries) :
      entry name (testType.toEntries rest) = entry name rest := by
    simp only [List.mem_cons, List.not_mem_nil, or_false, not_or] at hname
    cases testType <;> simp [TestType.toEntries, hname]
  rw [ofValue, toValue, record_mapping, TestType.ofEntries_toEntries htest]
  simp [fieldOr, hrest, entry_cons_self, htimeout]

def ValidationConfig.ofValue : Value → Option ValidationConfig := record fun entries => do
  let enabled ← fieldOr "enabled" false bool entries
  let timeout ← fieldOr "timeout" (60 * 10 ^ 9) (durationOf formats) entries
  let onFailure ← fieldOr "on_failure" .rollback variant entries
  let rollbackMethod ← fieldOr "rollback_method" .restoreBackup variant entries
  let tests ← fieldOr "tests" [] (sequence (ValidationTest.ofValue formats)) entries
  return { enabled, timeout, onFailure, rollbackMethod, tests }

def ValidationConfig.toValue (validation : ValidationConfig) : Value :=
  .mapping [("enabled", .bool validation.enabled),
    ("timeout", ofDuration formats validation.timeout),
    ("on_failure", ofVariant validation.onFailure),
    ("rollback_method", ofVariant validation.rollbackMethod),
    ("tests", ofList (ValidationTest.toValue formats) validation.tests)]

theorem ValidationConfig.readsBack : ReadsBack (ofValue formats) (toValue formats) id := by
  intro value validation h
  obtain ⟨entries, h⟩ := exists_of_record h
  simp only [Option.bind_eq_bind, Option.bind_eq_some_iff, Option.pure_def, Option.some.injEq] at h
  obtain ⟨enabled, -, timeout, htimeout, onFailure, -, rollbackMethod, -, tests, htests, rfl⟩ := h
  have htimeout : durationOf formats (ofDuration formats timeout) = some timeout :=
    (readsBack_duration formats).fieldOr (formats.parse_format _ (by decide)) htimeout
  have htests := (ValidationTest.readsBack formats).sequence.fieldOr rfl htests
  rw [List.map_id] at htests
  rw [ofValue, toValue]
  simp [htimeout, htests]

/-! ## Switches -/

def vendorSpecificOf : Value → Option (List (String × String))
  | .mapping entries => some (entries.map fun entry => (entry.1, formats.json entry.2))
  | _ => none

def ofVendorSpecific (vendorSpecific : List (String × String)) : Value :=
  .mapping (vendorSpecific.map fun entry => (entry.1, formats.ofJson entry.2))

theorem readsBack_vendorSpecific :
    ReadsBack (vendorSpecificOf formats) (ofVendorSpecific formats) id := by
  intro value vendorSpecific h
  cases value with
  | mapping entries =>
    obtain rfl := Option.some.inj h
    rw [ofVendorSpecific, vendorSpecificOf, List.map_map, List.map_map]
    simp only [Function.comp_def, formats.json_ofJson, id]
  | _ => cases h

def SwitchConfig.ofValue : Value → Option SwitchConfig := record fun entries => do
  let id ← field "id" string entries
  let hostname ← fieldOr "hostname" none (optional string) entries
  let model ← fieldOr "model" none (optional variant) entries
  let managementIp ← fieldOr "management_ip" none (optional string) entries
  let credentials ← fieldOr "credentials" none (optional Credentials.ofValue) entries
  let vlans ← fieldOr "vlans" [] (sequence Vlan.ofValue) entries
  let ports ← fieldOr "ports" [] (sequence Port.ofValue) entries
  let portMirrors ← fieldOr "port_mirrors" [] (sequence PortMirror.ofValue) entries
  let snmp ← fieldOr "snmp" none (optional SnmpConfig.ofValue) entries
  let managementVlan ← fieldOr "management_vlan" none (optional u16) entries
  let validation ← fieldOr "validation" none (optional (ValidationConfig.ofValue formats)) entries
  let vendorSpecific ← fieldOr "vendor_specific" [] (vendorSpecificOf formats) entries
  let settings ← fieldOr "settings" {} Settings.ofValue entries
  return { id, hostname, model, managementIp, credentials, vlans, ports, portMirrors, snmp,
           managementVlan, validation, vendorSpecific, settings }

/-- The entries of a switch, of which those of the ports are given. -/
def SwitchConfig.toEntries (switch : SwitchConfig) (ports : List PortDe) : Entries :=
  ("id", .string switch.id) ::
    entryIfSome "hostname" .string switch.hostname
    (entryIfSome "model" ofVariant switch.model
    (entryIfSome "management_ip" .string switch.managementIp
    (entryIfSome "credentials" Credentials.toValue switch.credentials
    [("vlans", ofList Vlan.toValue switch.vlans),
     ("ports", ofList PortDe.toValue ports),
     ("port_mirrors", ofList PortMirror.toValue switch.portMirrors),
     ("snmp", ofOption SnmpConfig.toValue switch.snmp),
     ("management_vlan", ofOption ofNat switch.managementVlan),
     ("validation", ofOption (ValidationConfig.toValue formats) switch.validation),
     ("vendor_specific", ofVendorSpecific formats switch.vendorSpecific),
     ("settings", switch.settings.toValue)])))

def SwitchConfig.toValue (switch : SwitchConfig) : Value :=
  .mapping (switch.toEntries formats (switch.ports.map Port.toDe))

/-- A switch without what is not written of it: passwords, and the strings that references of
communities resolve to. -/
def SwitchConfig.withoutSecrets (switch : SwitchConfig) : SwitchConfig :=
  { switch with
    credentials := switch.credentials.map Credentials.withoutSecrets
    snmp := switch.snmp.map SnmpConfig.referenced }

/-- What a switch that was read has in common with one that can be read again. -/
structure SwitchConfig.Readable (switch : SwitchConfig) : Prop where
  credentials : optional Credentials.ofValue (ofOption Credentials.toValue switch.credentials) =
    some (switch.credentials.map Credentials.withoutSecrets)
  vlans : ∀ vlan ∈ switch.vlans, vlan.id < 2 ^ 16
  snmp : optional SnmpConfig.ofValue (ofOption SnmpConfig.toValue switch.snmp) =
    some (switch.snmp.map SnmpConfig.referenced)
  managementVlan : optional u16 (ofOption ofNat switch.managementVlan) = some switch.managementVlan
  validation : optional (ValidationConfig.ofValue formats)
    (ofOption (ValidationConfig.toValue formats) switch.validation) = some switch.validation
  vendorSpecific : vendorSpecificOf formats (ofVendorSpecific formats switch.vendorSpecific) =
    some switch.vendorSpecific
  settings : Settings.ofValue switch.settings.toValue = some switch.settings

/-- What was read can be read again. -/
theorem SwitchConfig.readable {value : Value} {switch : SwitchConfig}
    (h : SwitchConfig.ofValue formats value = some switch) : switch.Readable formats := by
  obtain ⟨entries, h⟩ := exists_of_record h
  -- field after field, in the order the reader takes them
  obtain ⟨id, -, h⟩ := Option.bind_eq_some_iff.mp h
  obtain ⟨hostname, -, h⟩ := Option.bind_eq_some_iff.mp h
  obtain ⟨model, -, h⟩ := Option.bind_eq_some_iff.mp h
  obtain ⟨managementIp, -, h⟩ := Option.bind_eq_some_iff.mp h
  obtain ⟨credentials, hcredentials, h⟩ := Option.bind_eq_some_iff.mp h
  obtain ⟨vlans, hvlans, h⟩ := Option.bind_eq_some_iff.mp h
  obtain ⟨ports, -, h⟩ := Option.bind_eq_some_iff.mp h
  obtain ⟨portMirrors, -, h⟩ := Option.bind_eq_some_iff.mp h
  obtain ⟨snmp, hsnmp, h⟩ := Option.bind_eq_some_iff.mp h
  obtain ⟨managementVlan, hmanagement, h⟩ := Option.bind_eq_some_iff.mp h
  obtain ⟨validation, hvalidation, h⟩ := Option.bind_eq_some_iff.mp h
  obtain ⟨vendorSpecific, hvendor, h⟩ := Option.bind_eq_some_iff.mp h
  obtain ⟨settings, hsettings, h⟩ := Option.bind_eq_some_iff.mp h
  obtain rfl := Option.some.inj h
  have hmanagement : optional u16 (ofOption ofNat managementVlan) = some (managementVlan.map _) :=
    ((readsBack_below _).optional fun _ => by simp [ofNat]).fieldOr rfl hmanagement
  have hvalidation : optional _ (ofOption _ validation) = some (validation.map _) :=
    ((ValidationConfig.readsBack formats).optional fun _ => by
      simp [ValidationConfig.toValue]).fieldOr rfl hvalidation
  rw [Option.map_id] at hmanagement hvalidation
  constructor
  · exact (Credentials.readsBack.optional fun _ => by simp [Credentials.toValue]).fieldOr
      rfl hcredentials
  · intro vlan hvlan
    obtain ⟨item, hitem⟩ : ∃ item, Vlan.ofValue item = some vlan := by
      rw [fieldOr] at hvlans
      split at hvlans
      · exact exists_of_mem_sequence hvlans hvlan
      · obtain rfl := Option.some.inj hvlans
        exact absurd hvlan List.not_mem_nil
    exact Vlan.id_lt hitem
  · exact (SnmpConfig.readsBack.optional fun _ => by simp [SnmpConfig.toValue]).fieldOr rfl hsnmp
  · exact hmanagement
  · exact hvalidation
  · exact (readsBack_vendorSpecific formats).fieldOr rfl hvendor
  · exact Settings.readsBack.fieldOr (by rfl) hsettings

/-- A readable switch is read back, with the ports that its entries give. -/
theorem SwitchConfig.ofValue_toEntries {switch : SwitchConfig} (h : switch.Readable formats)
    {des : List PortDe} {ports : List Port}
    (hports : List.Forall₂ (fun de port => de.deserialize = .ok port) des ports) :
    ofValue formats (.mapping (switch.toEntries formats des)) =
      some { switch.withoutSecrets with ports } := by
  have hvlans : sequence Vlan.ofValue (ofList Vlan.toValue switch.vlans) = some switch.vlans :=
    sequence_of_forall fun vlan hvlan => Vlan.ofValue_toValue (h.vlans vlan hvlan)
  have hmirrors : sequence PortMirror.ofValue (ofList PortMirror.toValue switch.portMirrors) =
      some switch.portMirrors :=
    sequence_of_forall fun mirror _ => mirror.ofValue_toValue
  have hmodel : optional variant (ofOption ofVariant switch.model) = some switch.model := by
    cases switch.model with
    | none => rfl
    | some model => exact congrArg (Option.map some) (variant_ofVariant model)
  have hread : sequence Port.ofValue (ofList PortDe.toValue des) = some ports := by
    show (des.map PortDe.toValue).mapM Port.ofValue = some ports
    clear hvlans hmirrors hmodel h
    induction hports with
    | nil => rfl
    | cons hde _ ih =>
      rw [List.map_cons, List.mapM_cons, ih, Port.ofValue, PortDe.ofValue_toValue]
      simp [hde, Except.toOption]
  rw [ofValue, record_mapping]
  -- one field at a time: the record is too large to be simplified as a whole
  refine Option.bind_eq_some_iff.mpr ⟨switch.id, by simp [toEntries], ?_⟩
  refine Option.bind_eq_some_iff.mpr ⟨switch.hostname, by simp [toEntries], ?_⟩
  refine Option.bind_eq_some_iff.mpr ⟨switch.model, by simp [toEntries, hmodel], ?_⟩
  refine Option.bind_eq_some_iff.mpr ⟨switch.managementIp, by simp [toEntries], ?_⟩
  refine Option.bind_eq_some_iff.mpr ⟨switch.credentials.map Credentials.withoutSecrets,
    by simp [toEntries, h.credentials], ?_⟩
  refine Option.bind_eq_some_iff.mpr ⟨switch.vlans, by simp [toEntries, hvlans], ?_⟩
  refine Option.bind_eq_some_iff.mpr ⟨ports, by simp [toEntries, hread], ?_⟩
  refine Option.bind_eq_some_iff.mpr ⟨switch.portMirrors, by simp [toEntries, hmirrors], ?_⟩
  refine Option.bind_eq_some_iff.mpr ⟨switch.snmp.map SnmpConfig.referenced,
    by simp [toEntries, h.snmp], ?_⟩
  refine Option.bind_eq_some_iff.mpr ⟨switch.managementVlan,
    by simp [toEntries, h.managementVlan], ?_⟩
  refine Option.bind_eq_some_iff.mpr ⟨switch.validation, by simp [toEntries, h.validation], ?_⟩
  refine Option.bind_eq_some_iff.mpr ⟨switch.vendorSpecific,
    by simp [toEntries, h.vendorSpecific], ?_⟩
  refine Option.bind_eq_some_iff.mpr ⟨switch.settings, by simp [toEntries, h.settings], ?_⟩
  rfl

end

end SwitchConfigurator
