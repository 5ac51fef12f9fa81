import SwitchConfigurator.Foundations.CommandRun
import SwitchConfigurator.SnmpDiff
import SwitchConfigurator.Vendors.Aruba.Lines
import SwitchConfigurator.Vendors.Collapse

/-!
# The SNMP settings of a reference Aruba switch

The switch keeps one access level for a community and one community for a trap receiver: a later
command overwrites an earlier one. What it prints is what it has, with the strings in double quotes.
-/

namespace SwitchConfigurator.Aruba

open Cli Keyed

/-! ## The switch -/

/-- A community string that can be typed: one line, and no quote in it. -/
def IsCommunity (text : List Char) : Prop := '\n' ∉ text ∧ '"' ∉ text

instance {text : List Char} : Decidable (IsCommunity text) := inferInstanceAs (Decidable (_ ∧ _))

/-- A name or an address. -/
def isHost (text : List Char) : Bool :=
  !text.isEmpty && text.all fun c => c.isAlphanum || c ∈ "-.:_".toList

structure DeviceCommunity where
  name : String
  access : SnmpAccess
  name_typed : IsCommunity name.toList

structure DeviceReceiver where
  host : String
  community : String
  host_typed : isHost host.toList = true
  community_typed : IsCommunity community.toList

structure SnmpDevice where
  communities : List DeviceCommunity := []
  receivers : List DeviceReceiver := []
  nodup_names : (communities.map DeviceCommunity.name).Nodup := by exact List.nodup_nil
  nodup_hosts : (receivers.map DeviceReceiver.host).Nodup := by exact List.nodup_nil

/-- The access levels as they are typed. -/
def accessWord : String → Option SnmpAccess
  | "unrestricted" => some .unrestricted
  | "manager" => some .manager
  | "operator" => some .operator
  | _ => none

namespace SnmpDevice

def setCommunity (community : DeviceCommunity) (device : SnmpDevice) : SnmpDevice :=
  { device with
    communities := upsert DeviceCommunity.name device.communities community
    nodup_names := nodup_upsert device.nodup_names }

def removeCommunity (name : String) (device : SnmpDevice) : SnmpDevice :=
  { device with
    communities := erase DeviceCommunity.name [name] device.communities
    nodup_names := nodup_erase device.nodup_names }

def setReceiver (receiver : DeviceReceiver) (device : SnmpDevice) : SnmpDevice :=
  { device with
    receivers := upsert DeviceReceiver.host device.receivers receiver
    nodup_hosts := nodup_upsert device.nodup_hosts }

def removeReceiver (host : String) (device : SnmpDevice) : SnmpDevice :=
  { device with
    receivers := erase DeviceReceiver.host [host] device.receivers
    nodup_hosts := nodup_erase device.nodup_hosts }

/-- What is neither a community nor a receiver is passed over. -/
def execute (words : List String) (device : SnmpDevice) : SnmpDevice :=
  match words with
  | ["snmp-server", "community", name, access] =>
    match accessWord access with
    | some access => if h : IsCommunity name.toList then device.setCommunity ⟨name, access, h⟩
      else device
    | none => device
  | ["no", "snmp-server", "community", name] => device.removeCommunity name
  | ["snmp-server", "host", host, "community", community] =>
    if h : isHost host.toList = true ∧ IsCommunity community.toList then
      device.setReceiver ⟨host, community, h.1, h.2⟩
    else device
  | ["no", "snmp-server", "host", host] => device.removeReceiver host
  | ["no", "snmp-server", "host", host, "community", _] => device.removeReceiver host
  | _ => device

def step (line : List Char) (device : SnmpDevice) : SnmpDevice :=
  match Cli.words line with
  | some words => device.execute (words.map String.ofList)
  | none => device

variable {device : SnmpDevice} {name host community : String} {access : SnmpAccess}

/-- A community is set with its access. -/
theorem execute_community (h : IsCommunity name.toList) :
    device.execute ["snmp-server", "community", name, accessText access] =
      device.setCommunity ⟨name, access, h⟩ := by
  cases access <;> exact dif_pos h

/-- A receiver is set with its community. -/
theorem execute_host (hhost : isHost host.toList = true) (h : IsCommunity community.toList) :
    device.execute ["snmp-server", "host", host, "community", community] =
      device.setReceiver ⟨host, community, hhost, h⟩ :=
  dif_pos ⟨hhost, h⟩

end SnmpDevice

/-! ## What it prints -/

def shownCommunity (name : List Char) (access : SnmpAccess) : List Char :=
  "snmp-server community ".toList ++ '"' :: (name ++ '"' :: (' ' :: (accessText access).toList))

def shownReceiver (host community : List Char) : List Char :=
  ("snmp-server host ".toList ++ (host ++ " community ".toList)) ++
    '"' :: (community ++ '"' :: [])

theorem shownCommunity_eq {name : List Char} {access : SnmpAccess} : shownCommunity name access =
    "snmp-server community ".toList ++
      '"' :: (name ++ '"' :: (' ' :: (accessText access).toList)) := rfl

theorem shownReceiver_eq {host community : List Char} : shownReceiver host community =
    ("snmp-server host ".toList ++ (host ++ " community ".toList)) ++
      '"' :: (community ++ '"' :: []) := rfl

def snmpConfigLines (device : SnmpDevice) : List (List Char) :=
  device.communities.map (fun community => shownCommunity community.name.toList community.access) ++
    device.receivers.map fun receiver =>
      shownReceiver receiver.host.toList receiver.community.toList

def shownSnmp (device : SnmpDevice) : List Char := printed (snmpConfigLines device)

/-! ## What is read of it -/

section Hosts

variable {host : List Char}

/-- A host is one word. -/
theorem isWord_of_isHost (h : isHost host = true) : IsWord host := by
  simp only [isHost, Bool.and_eq_true, Bool.not_eq_true', List.isEmpty_eq_false_iff,
    List.all_eq_true, Bool.or_eq_true] at h
  refine ⟨h.1, fun c hc => ?_⟩
  rcases h.2 c hc with halnum | hother
  · exact isWhitespace_of_isAlphanum halnum
  · have hothers : ∀ c ∈ "-.:_".toList, isWhitespace c = false := by decide
    exact hothers c (of_decide_eq_true hother)

/-- It is made of the characters of hosts. -/
theorem not_mem_of_isHost (h : isHost host = true) {c : Char} (halnum : c.isAlphanum = false)
    (hother : c ∉ "-.:_".toList) : c ∉ host := by
  simp only [isHost, Bool.and_eq_true, List.all_eq_true, Bool.or_eq_true, decide_eq_true_eq] at h
  intro hmem
  rcases h.2 c hmem with hc | hc
  · rw [halnum] at hc
    cases hc
  · exact hother hc

end Hosts

section Shown

variable {name host community : List Char} {access : SnmpAccess}

/-- The access is read back from its text. -/
theorem accessOf_accessText : accessOf (accessText access).toList = access := by
  cases access <;> decide

theorem trim_shownCommunity : trim (shownCommunity name access) = shownCommunity name access := by
  refine trim_eq_self ?_ ?_
  · rw [shownCommunity_eq]
    rintro _ ⟨⟩
    decide
  · rw [shownCommunity_eq, List.getLast?_append_of_ne_nil _ (List.cons_ne_nil _ _),
      ← List.cons_append, List.getLast?_append_of_ne_nil _ (List.cons_ne_nil _ _)]
    cases access <;> (rintro _ ⟨⟩; decide)

/-- A quoted name ends at the next quote. -/
theorem communityLine_quote {quoted : List Char} : communityLine ('"' :: quoted) =
    if quoted.contains '"' then
      some { name := String.ofList (quoted.takeWhile (· != '"'))
             access := accessOf (trim ((quoted.dropWhile (· != '"')).drop 1)) }
    else none := rfl

/-- A community is read back from its line. -/
theorem snmpCommunityLine_shownCommunity (h : '"' ∉ name) :
    snmpCommunityLine (shownCommunity name access) =
      some { name := String.ofList name, access } := by
  have hprefix : stripPrefix "snmp-server community " (shownCommunity name access) =
      some ('"' :: (name ++ '"' :: (' ' :: (accessText access).toList))) := rfl
  have hquoted : (name ++ '"' :: (' ' :: (accessText access).toList)).contains '"' = true := by
    simp
  have hchars : ∀ c ∈ name, (c != '"') = true := by
    intro c hc
    rw [bne_iff_ne]
    rintro rfl
    exact h hc
  have htake : (name ++ '"' :: (' ' :: (accessText access).toList)).takeWhile (· != '"') = name :=
    by
    rw [List.takeWhile_append_of_pos hchars]
    simp
  have hdrop : (name ++ '"' :: (' ' :: (accessText access).toList)).dropWhile (· != '"') =
      '"' :: (' ' :: (accessText access).toList) := by
    rw [List.dropWhile_append_of_pos hchars]
    simp
  have htrim : trim (' ' :: (accessText access).toList) = (accessText access).toList := by
    cases access <;> decide
  rw [snmpCommunityLine, trim_shownCommunity, hprefix, Option.bind_some, communityLine_quote,
    if_pos hquoted, htake, hdrop, List.drop_one, List.tail_cons, htrim, accessOf_accessText]

/-- It is not taken for a receiver. -/
theorem snmpHostLine_shownCommunity : snmpHostLine (shownCommunity name access) = none := by
  have hprefix : stripPrefix "snmp-server host " (shownCommunity name access) = none := rfl
  rw [snmpHostLine, trim_shownCommunity, hprefix, Option.bind_none]

theorem trim_shownReceiver : trim (shownReceiver host community) = shownReceiver host community :=
    by
  refine trim_eq_self ?_ ?_
  · rw [shownReceiver_eq]
    rintro _ ⟨⟩
    decide
  · rw [shownReceiver_eq, ← List.cons_append, ← List.append_assoc, List.getLast?_concat]
    rintro _ ⟨⟩
    decide

/-- A community is read word by word. -/
def communityRead (community : List Char) : List Char :=
  trimQuotes (collapse ('"' :: (community ++ ['"'])))

/-- A receiver is read back from its line. -/
theorem snmpHostLine_shownReceiver (h : isHost host = true) :
    snmpHostLine (shownReceiver host community) =
      some { host := String.ofList host, community := String.ofList (communityRead community)
             version := some "2c" } := by
  have hprefix : stripPrefix "snmp-server host " (shownReceiver host community) =
      some (host ++ " community ".toList ++ '"' :: (community ++ ['"'])) := rfl
  obtain ⟨name, more, hname⟩ :=
    @splitWhitespace_cons_of_not (community ++ ['"']) '"' (by decide)
  have hwords : splitWhitespace (host ++ " community ".toList ++ '"' :: (community ++ ['"'])) =
      host :: "community".toList :: ('"' :: name) :: more := by
    show splitWhitespace ((host ++ ' ' :: ("community".toList ++ ' ' :: [])) ++ _) = _
    rw [List.append_assoc, List.cons_append, splitWhitespace_cons (isWord_of_isHost h),
      List.append_assoc, List.cons_append, List.nil_append,
      splitWhitespace_cons ⟨by decide, by decide⟩, hname]
  have hword : isText "community" "community".toList = true := by decide
  have hstart : startsWith "\"" ('"' :: name) = true := rfl
  rw [snmpHostLine, trim_shownReceiver, hprefix, Option.bind_some, receiverLine, hwords]
  dsimp only
  rw [if_pos hword, if_pos hstart, communityRead, collapse, hname]

/-- It is not taken for a community. -/
theorem snmpCommunityLine_shownReceiver :
    snmpCommunityLine (shownReceiver host community) = none := by
  have hprefix : stripPrefix "snmp-server community " (shownReceiver host community) = none := rfl
  rw [snmpCommunityLine, trim_shownReceiver, hprefix, Option.bind_none]

/-! ## Lines without their escapes -/

/-- Only the name can have escape sequences in it. -/
theorem stripAnsi_shownCommunity :
    stripAnsi (shownCommunity name access) = shownCommunity (stripAnsi name) access := by
  have hstart : stripAnsi "snmp-server community ".toList = "snmp-server community ".toList := by
    decide
  have hend : stripAnsi (' ' :: (accessText access).toList) = ' ' :: (accessText access).toList :=
    by
    cases access <;> decide
  rw [shownCommunity_eq, stripAnsi_quoted, hstart, hend, shownCommunity_eq]

theorem stripAnsi_shownReceiver (h : isHost host = true) :
    stripAnsi (shownReceiver host community) = shownReceiver host (stripAnsi community) := by
  have hescape : escape ∉ "snmp-server host ".toList ++ (host ++ " community ".toList) := by
    rw [List.mem_append, List.mem_append, not_or, not_or]
    exact ⟨by decide, not_mem_of_isHost h (by decide) (by decide), by decide⟩
  rw [shownReceiver_eq, stripAnsi_quoted, stripAnsi_of_not_mem hescape, shownReceiver_eq]
  rfl

/-- A name without a line feed leaves one line. -/
theorem legible_shownCommunity (h : '\n' ∉ name) : Legible (shownCommunity name access) := by
  refine ⟨?_, trim_shownCommunity⟩
  have haccess : '\n' ∉ (accessText access).toList := by cases access <;> decide
  rw [shownCommunity_eq]
  simp only [List.mem_append, List.mem_cons, not_or]
  exact ⟨by decide, by decide, h, by decide, by decide, haccess⟩

theorem legible_shownReceiver (hhost : isHost host = true) (h : '\n' ∉ community) :
    Legible (shownReceiver host community) := by
  refine ⟨?_, trim_shownReceiver⟩
  rw [shownReceiver_eq]
  simp only [List.mem_append, List.mem_cons, not_or]
  exact ⟨⟨by decide, not_mem_of_isHost hhost (by decide) (by decide), by decide⟩, by decide, h,
    by decide, by simp⟩

end Shown

/-! ## The state -/

/-- A community as it is read back. -/
def DeviceCommunity.read (community : DeviceCommunity) : SnmpCommunity where
  name := String.ofList (stripAnsi community.name.toList)
  access := community.access

def DeviceReceiver.read (receiver : DeviceReceiver) : SnmpTrapReceiver where
  host := receiver.host
  community := String.ofList (communityRead (stripAnsi receiver.community.toList))
  version := some "2c"

section State

variable {device : SnmpDevice} {switch : ArubaSwitch} {linkChange macNotify : Bool}
variable {hardwareWarnings : List Char → List String}

/-- The lines that are read are those of communities and receivers. -/
theorem configLines_shownSnmp : configLines (shownSnmp device) =
    device.communities.map (fun community =>
      shownCommunity (stripAnsi community.name.toList) community.access) ++
    device.receivers.map fun receiver =>
      shownReceiver receiver.host.toList (stripAnsi receiver.community.toList) := by
  have hstripped : (snmpConfigLines device).map stripAnsi =
      device.communities.map (fun community =>
        shownCommunity (stripAnsi community.name.toList) community.access) ++
      device.receivers.map fun receiver =>
        shownReceiver receiver.host.toList (stripAnsi receiver.community.toList) := by
    rw [snmpConfigLines, List.map_append, List.map_map, List.map_map]
    congr 1
    · exact List.map_congr_left fun community _ => stripAnsi_shownCommunity
    · exact List.map_congr_left fun receiver _ => stripAnsi_shownReceiver receiver.host_typed
  rw [configLines, shownSnmp, stripAnsi_printed, hstripped]
  refine strLines_printed ?_
  rw [List.forall_mem_append, List.forall_mem_map, List.forall_mem_map]
  refine ⟨fun community _ => ?_, fun receiver _ => ?_⟩
  · exact legible_shownCommunity fun hmem =>
      community.name_typed.1 (stripAnsi_sublist.subset hmem)
  · exact legible_shownReceiver receiver.host_typed fun hmem =>
      receiver.community_typed.1 (stripAnsi_sublist.subset hmem)

/-- The lists that are read, also where no configuration comes of them. -/
theorem parseSnmpConfig_lists {lines : List (List Char)} :
    ((parseSnmpConfig lines linkChange macNotify).getD {}).communities =
        lines.filterMap snmpCommunityLine ∧
      ((parseSnmpConfig lines linkChange macNotify).getD {}).trapReceivers =
        lines.filterMap snmpHostLine := by
  rw [parseSnmpConfig]
  generalize (if linkChange then [TrapType.linkChange] else []) ++
    (if macNotify then [TrapType.macNotify] else []) = enabledTraps
  split
  · next h =>
    simp only [Bool.and_eq_true, List.isEmpty_iff] at h
    exact ⟨h.1.1.symm, h.1.2.symm⟩
  · exact ⟨rfl, rfl⟩

theorem filterMap_map_some {α β γ : Type} {f : β → Option γ} {g : α → β} {read : α → γ}
    {l : List α} (h : ∀ a ∈ l, f (g a) = some (read a)) :
    (l.map g).filterMap f = l.map read := by
  rw [List.filterMap_map, ← List.filterMap_eq_map]
  exact List.filterMap_congr h

theorem filterMap_map_none {α β γ : Type} {f : β → Option γ} {g : α → β} {l : List α}
    (h : ∀ a ∈ l, f (g a) = none) : (l.map g).filterMap f = [] := by
  rw [List.filterMap_map, List.filterMap_eq_nil_iff]
  exact h

/-- The SNMP that is read is what the device has. -/
theorem snmp_of_shownSnmp :
    let snmp := (parseCurrentState switch hardwareWarnings linkChange macNotify
      (shownSnmp device)).snmp.getD {}
    snmp.communities = device.communities.map DeviceCommunity.read ∧
      snmp.trapReceivers = device.receivers.map DeviceReceiver.read := by
  have hquote {community : DeviceCommunity} : '"' ∉ stripAnsi community.name.toList := fun hmem =>
    community.name_typed.2 (stripAnsi_sublist.subset hmem)
  have hlists := @parseSnmpConfig_lists linkChange macNotify (configLines (shownSnmp device))
  refine ⟨hlists.1.trans ?_, hlists.2.trans ?_⟩
  · rw [configLines_shownSnmp, List.filterMap_append,
      filterMap_map_some fun community _ => snmpCommunityLine_shownCommunity hquote,
      filterMap_map_none fun receiver _ => snmpCommunityLine_shownReceiver, List.append_nil]
    rfl
  · rw [configLines_shownSnmp, List.filterMap_append,
      filterMap_map_none fun community _ => snmpHostLine_shownCommunity,
      filterMap_map_some fun receiver _ => snmpHostLine_shownReceiver receiver.host_typed,
      List.nil_append]
    refine List.map_congr_left fun receiver _ => ?_
    rw [DeviceReceiver.read, String.ofList_toList]

end State

end SwitchConfigurator.Aruba
