import SwitchConfigurator.Vendors.OneLine

/-!
# The tables and fields that FortiSwitch commands name

Every generator opens the same few tables and sets the same few fields, whatever it is asked for.
-/

namespace SwitchConfigurator.Fortiswitch

open Cli

def tables : List String :=
  ["switch vlan", "switch interface", "switch physical-port", "switch mirror", "system interface",
    "system snmp community", "system snmp sysinfo", "secondaryip", "hosts"]

def fields : List String :=
  ["vlanid", "description", "type", "interface", "mode", "ip", "allowaccess", "native-vlan",
    "allowed-vlans", "untagged-vlans", "status", "poe-status", "speed", "default-cos", "admin",
    "dst", "src-ingress", "src-egress", "name", "query-v1-status", "query-v2c-status",
    "trap-v1-status", "trap-v2c-status", "events"]

def KnownLine : Line → Prop
  | .config table => table ∈ tables
  | .set field _ => field ∈ fields
  | _ => True

def KnownLines (lines : List Line) : Prop := ∀ line ∈ lines, KnownLine line

section KnownLines

variable {α : Type} {lines lines' : List Line} {l : List α} {table key field : String}

@[simp] theorem knownLine_config : KnownLine (.config table) ↔ table ∈ tables := Iff.rfl

@[simp] theorem knownLine_set {args : List Arg} : KnownLine (.set field args) ↔ field ∈ fields :=
  Iff.rfl

@[simp] theorem knownLine_edit {key : Arg} : KnownLine (.edit key) := trivial

@[simp] theorem knownLine_unset : KnownLine (.unset field) := trivial

@[simp] theorem knownLine_delete : KnownLine (.delete key) := trivial

@[simp] theorem knownLine_next : KnownLine .next := trivial

@[simp] theorem knownLine_close : KnownLine .close := trivial

@[simp] theorem knownLines_nil : KnownLines [] := by simp [KnownLines]

@[simp] theorem knownLines_cons {line : Line} :
    KnownLines (line :: lines) ↔ KnownLine line ∧ KnownLines lines := List.forall_mem_cons

@[simp] theorem knownLines_append :
    KnownLines (lines ++ lines') ↔ KnownLines lines ∧ KnownLines lines' := List.forall_mem_append

@[simp] theorem knownLines_map {f : α → Line} :
    KnownLines (l.map f) ↔ ∀ a ∈ l, KnownLine (f a) := List.forall_mem_map

@[simp] theorem knownLines_flatMap {f : α → List Line} :
    KnownLines (l.flatMap f) ↔ ∀ a ∈ l, KnownLines (f a) := List.forall_mem_flatMap

@[simp] theorem knownLines_block :
    KnownLines (block table lines) ↔ table ∈ tables ∧ KnownLines lines := by
  simp [block]

@[simp] theorem knownLines_entry {key : Arg} : KnownLines (entry key lines) ↔ KnownLines lines := by
  simp [entry]

theorem knownLines_mapIdx {f : ℕ → α → List Line} (h : ∀ i a, KnownLines (f i a)) :
    KnownLines (l.mapIdx f).flatten := by
  induction l generalizing f with
  | nil => exact knownLines_nil
  | cons a l ih =>
    rw [List.mapIdx_cons, List.flatten_cons]
    exact knownLines_append.mpr ⟨h 0 a, ih fun i a => h (i + 1) a⟩

end KnownLines

/-! ## SNMP -/

section Generators

variable {switch : FortiswitchSwitch} {community : SnmpCommunity} {snmp : SnmpConfig}

theorem known_hosts (hosts : List (String × String)) :
    KnownLines (hosts.mapIdx hostCommands).flatten :=
  knownLines_mapIdx fun i host => by simp +decide [hostCommands]

/-- A community is written in known lines. -/
theorem known_communityEntry (index : ℕ) (name : String) (hosts : List (String × String)) :
    KnownLines (communityEntry index name hosts) := by
  cases hosts with
  | nil => simp +decide [communityEntry]
  | cons host hosts =>
    have hhosts := known_hosts (host :: hosts)
    simp +decide [communityEntry, hhosts, -List.mapIdx_cons]

theorem known_snmpCommunityBlock {index : ℕ} {lines : List Line}
    (h : snmpCommunityBlock index community = .ok lines) : KnownLines lines := by
  obtain ⟨hosts, -, rfl⟩ := snmpCommunityBlock_ok_iff.mp h
  exact known_communityEntry _ _ hosts

theorem known_snmpAllowedHostsCommands : KnownLines (snmpAllowedHostsCommands community) := by
  rw [snmpAllowedHostsCommands]
  split
  · exact knownLines_nil
  · split
    · next commands hcommands =>
      -- a part of the community's own entry
      intro line hline
      exact known_snmpCommunityBlock hcommands line
        ((List.dropWhile_sublist _).subset (List.mem_of_mem_dropLast hline))
    · exact knownLines_nil

theorem known_plainCommunity {index : ℕ} : KnownLines (plainCommunity index community) := by
  simp +decide [plainCommunity, queryCommands, known_snmpAllowedHostsCommands]

theorem known_receiverCommands (index : ℕ) (receiver : SnmpTrapReceiver) :
    KnownLines (receiverCommands index receiver) := by
  simp +decide [receiverCommands]

/-- So is the whole of SNMP. -/
theorem known_generateSnmpCommands : KnownLines (generateSnmpCommands snmp) := by
  have hplain (n : ℕ) (l : List SnmpCommunity) :
      KnownLines (l.mapIdx fun i community => plainCommunity (i + n) community).flatten :=
    knownLines_mapIdx fun i community => known_plainCommunity
  have hreceivers (l : List SnmpTrapReceiver) :
      KnownLines (l.mapIdx fun i receiver => receiverCommands (i + 1) receiver).flatten :=
    knownLines_mapIdx fun i receiver => known_receiverCommands _ receiver
  have htraps (traps : List Arg) : KnownLines (if snmp.enabledTraps = [] then []
      else [.set "events" traps]) := by
    split <;> simp +decide
  rw [generateSnmpCommands]
  split
  · simp +decide [queryCommands, hplain, hreceivers, htraps, -List.mapIdx_cons]
  · simp +decide [hplain]

theorem known_prerequisites : KnownLines
    (snmpPrerequisiteCommands switch.snmpSysinfoEnabled switch.mgmtAccess) := by
  have hallow (access : MgmtAccess) : KnownLines (allowSnmp access) := by
    rw [allowSnmp]
    cases access.secondaryIndex <;> simp +decide
  have hsysinfo : KnownLines (if switch.snmpSysinfoEnabled != some true then
      block "system snmp sysinfo" [.set "status" [.bare "enable"]] else []) := by
    split <;> simp +decide
  cases switch.mgmtAccess with
  | none =>
    rw [snmpPrerequisiteCommands, knownLines_append]
    exact ⟨hsysinfo, knownLines_nil⟩
  | some access =>
    rw [snmpPrerequisiteCommands, knownLines_append]
    refine ⟨hsysinfo, ?_⟩
    split
    · exact knownLines_nil
    · exact hallow access

theorem known_removeCommunities (indices : List (String × ℕ)) (names : List String)
    (occupied : List ℕ) : KnownLines (removeCommunities indices names occupied).1 := by
  induction names generalizing occupied with
  | nil => exact knownLines_nil
  | cons name names ih =>
    rw [removeCommunities]
    cases indices.lookup name <;> simp [ih]

theorem known_updateCommunities {indices : List (String × ℕ)} {communities : List SnmpCommunity}
    {occupied : List ℕ} {result : List Line × List ℕ}
    (h : updateCommunities indices communities occupied = .ok result) : KnownLines result.1 := by
  induction communities generalizing occupied result with
  | nil =>
    rw [← Except.ok.inj h]
    exact knownLines_nil
  | cons community rest ih =>
    rw [updateCommunities] at h
    split at h
    all_goals
      obtain ⟨commands, hcommands, h⟩ := bind_ok_iff.mp h
      obtain ⟨others, hothers, h⟩ := bind_ok_iff.mp h
      rw [← Except.ok.inj h]
      simp [known_snmpCommunityBlock hcommands, ih hothers]

theorem known_addCommunities {communities : List SnmpCommunity} {occupied : List ℕ}
    {lines : List Line} (h : addCommunities communities occupied = .ok lines) :
    KnownLines lines := by
  induction communities generalizing occupied lines with
  | nil =>
    rw [← Except.ok.inj h]
    exact knownLines_nil
  | cons community rest ih =>
    obtain ⟨commands, hcommands, h⟩ := bind_ok_iff.mp h
    obtain ⟨others, hothers, h⟩ := bind_ok_iff.mp h
    rw [← Except.ok.inj h]
    simp [known_snmpCommunityBlock hcommands, ih hothers]

/-- So are changes of communities. -/
theorem known_communityCommands {indices : List (String × ℕ)} {diff : SnmpStateDiff}
    {lines : List Line} (h : communityCommands indices diff = .ok lines) : KnownLines lines := by
  obtain ⟨⟨updates, occupied⟩, hupdates, h⟩ := bind_ok_iff.mp h
  obtain ⟨adds, hadds, h⟩ := bind_ok_iff.mp h
  rw [← Except.ok.inj h]
  have hupdated := known_updateCommunities hupdates
  simp only at hupdated
  simp +decide [known_removeCommunities, hupdated, known_addCommunities hadds]

theorem known_receiverChanges (diff : SnmpStateDiff) : KnownLines (receiverChanges diff) := by
  have hreceivers : KnownLines (diff.trapReceiversToAdd.mapIdx fun i receiver =>
      receiverCommands (100 + i) receiver).flatten :=
    knownLines_mapIdx fun i receiver => known_receiverCommands _ receiver
  rw [receiverChanges, knownLines_append]
  constructor
  · split
    · exact knownLines_nil
    · simp +decide [inFirstHosts, hreceivers]
  · simp +decide [inFirstHosts]

/-- So is a change of SNMP. -/
theorem known_applySnmpDiff {diff : SnmpStateDiff} {lines : List Line}
    (h : applySnmpDiff switch diff = .ok lines) : KnownLines lines := by
  rw [applySnmpDiff] at h
  split at h
  · rw [← Except.ok.inj h]
    exact knownLines_nil
  · obtain ⟨u, -, h⟩ := bind_ok_iff.mp h
    obtain ⟨communities, hcommunities, h⟩ := bind_ok_iff.mp h
    rw [← Except.ok.inj h, knownLines_append, knownLines_append]
    refine ⟨⟨?_, known_communityCommands hcommunities⟩, known_receiverChanges diff⟩
    split
    · exact knownLines_nil
    · exact known_prerequisites

theorem known_configureSnmp {lines : List Line} (h : configureSnmp switch snmp = .ok lines) :
    KnownLines lines := by
  obtain ⟨u, -, h⟩ := bind_ok_iff.mp h
  rw [← Except.ok.inj h, knownLines_append]
  refine ⟨?_, known_generateSnmpCommands⟩
  split
  · exact knownLines_nil
  · exact known_prerequisites

/-! ## All requests -/

/-- So is the management VLAN. -/
theorem known_configureManagementVlan {vlanId : ℕ} {lines : List Line}
    (h : configureManagementVlan switch vlanId = .ok lines) : KnownLines lines := by
  rw [configureManagementVlan] at h
  split at h
  · cases h
  · next vlan _ =>
    rw [← Except.ok.inj h]
    cases hip : vlan.ipConfig <;> simp +decide [managementSettings, managementIpCommands, hip]

theorem known_getD {r : Except VendorError (List Line)} (h :
    ∀ lines, r = .ok lines → KnownLines lines) :
    KnownLines (r.toOption.getD []) := by
  cases r with
  | error e => exact knownLines_nil
  | ok lines => exact h lines rfl

/-- So is whatever a request asks for. -/
theorem known_generate (request : Request) : KnownLines (generate switch request) := by
  cases request with
  | vlans vlans =>
    have hsvi (vlan : Vlan) : KnownLines (sviCommands vlan) := by
      rw [sviCommands, sviSettings]
      cases vlan.ipConfig <;> simp +decide [ipCommands]
    simp +decide [generate, generateVlanCommands, hsvi]
  | removeVlans vlanIds => simp +decide [generate, generateRemoveVlanCommands]
  | migrations migrations => simp [generate]
  | ports ports mirrors =>
    have hvlans (port : Port) : KnownLines (vlanSettings port) := by
      rw [vlanSettings]
      cases port.inferredMode with
      | access => simp +decide
      | trunk => cases port.taggedVlans <;> simp +decide
    simp +decide [generate, generatePortCommands, portInterfaceCommands, physicalPortCommands,
      hvlans]
  | resetPorts portIds => simp +decide [generate, resetPorts, resetPort]
  | mirrorDestPorts portIds => simp +decide [generate, configureMirrorDestPorts]
  | mirrors mirrors =>
    have hmirror (mirror : PortMirror) : KnownLines (mirrorCommands mirror) := by
      rw [mirrorCommands]
      cases mirror.direction <;> simp +decide [sourceCommands]
    simp +decide [generate, generateMirrorCommands, hmirror]
  | removeMirrors sessionIds => simp +decide [generate, generateRemoveMirrorCommands]
  | snmp snmp currentTraps => exact known_generateSnmpCommands
  | configureSnmp snmp => exact known_getD fun _ => known_configureSnmp
  | snmpDiff diff => exact known_getD fun _ => known_applySnmpDiff
  | managementVlan vlanId => exact known_getD fun _ => known_configureManagementVlan
  | removeManagementVlan => simp [generate, removeManagementVlan]
  | poe portId on =>
    cases on <;> simp +decide [generate, poeEnableCommands, poeDisableCommands]

end Generators

end SwitchConfigurator.Fortiswitch
