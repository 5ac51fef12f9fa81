import SwitchConfigurator.Vendors.Fortiswitch.SnmpTable

/-!
# Reading the community table

`parse_snmp_community`, `parse_snmp_community_indices` and `adopt_desired_access`, and what a table
says when it is read.
-/

namespace SwitchConfigurator.Fortiswitch

open Cli

/-! ## Managers -/

/-- `str::parse::<Ipv4Addr>`, as a 32-bit number. -/
def ipv4Value (text : List Char) : Option ℕ :=
  if isIpv4 text then
    some ((text.splitOn '.').foldl (fun n octet => 256 * n + digitsValue octet) 0)
  else none

/-- `u32::count_ones`. -/
def countOnes (n : ℕ) : ℕ := (List.range 32).countP n.testBit

/-- The manager of an address and a netmask; none for a mask that is not a contiguous prefix. -/
def hostFromFortios (ip mask : List Char) : Option AllowedHost :=
  if isIpv4 ip then
    (ipv4Value mask).bind fun mask =>
      let length := countOnes mask
      let ip := String.ofList ip
      if length ≠ 0 ∧ mask ≠ netmask length then none
      else if length = 0 ∧ mask ≠ 0 then none
      else some (.network (if length = 32 then ip else s!"{ip}/{length}"))
  else none

/-! ## Communities -/

/-- The variables of the loop. -/
structure SnmpReader where
  communities : List SnmpCommunity := []
  trapReceivers : List SnmpTrapReceiver := []
  enabledTraps : List TrapType := []
  inBlock : Bool := false
  depth : ℕ := 0
  inCommunity : Bool := false
  communityName : Option String := none
  inHosts : Bool := false
  currentHost : Option (List Char) := none
  hosts : List (List Char) := []
  trapV1Disabled : Bool := false
  trapV2cDisabled : Bool := false

def parseTrapType (text : List Char) : Option TrapType :=
  if text = "mac-notify".toList then some .macNotify
  else if text = "link-up-down".toList then some .linkChange
  else if text = "all".toList then some .all
  else none

/-- A host of a community as a manager. -/
def readManager (host : List Char) : Option AllowedHost :=
  match splitWhitespace host with
  | [] => none
  | [addr] => (AllowedHost.tryFrom (String.ofList addr)).toOption
  | addr :: mask :: _ => hostFromFortios addr mask

/-- A host of a community as the host of a receiver: a single host has no mask. -/
def receiverHost (host : List Char) : String :=
  let mask := " 255.255.255.255".toList
  String.ofList (if mask <:+ host then host.take (host.length - mask.length) else host)

namespace SnmpReader

/-- The end of an entry, which is a community once it has a name. -/
def leaveEntry (reader : SnmpReader) : SnmpReader :=
  match reader.communityName with
  | none => { reader with inCommunity := false }
  | some name =>
    if reader.trapV1Disabled && reader.trapV2cDisabled then
      { reader with
        inCommunity := false
        communityName := none
        communities := reader.communities ++
          [{ name, allowedHosts := reader.hosts.filterMap readManager }] }
    else
      { reader with
        inCommunity := false
        communityName := none
        hosts := []
        trapReceivers := reader.trapReceivers ++
          reader.hosts.map fun host => { host := receiverHost host, community := name }
        communities := reader.communities ++ [{ name }] }

/-- A line of an entry, outside of its hosts. -/
def entryLine (reader : SnmpReader) (trimmed : List Char) : SnmpReader :=
  match stripPrefix "set name " trimmed with
  | some name => { reader with communityName := some (String.ofList (trimQuotes name)) }
  | none =>
    match stripPrefix "set events " trimmed with
    | some events =>
      { reader with enabledTraps := (splitWhitespace events).filterMap parseTrapType }
    | none =>
      if trimmed = "set trap-v1-status disable".toList then { reader with trapV1Disabled := true }
      else if trimmed = "set trap-v2c-status disable".toList then
        { reader with trapV2cDisabled := true }
      else if trimmed = "next".toList then reader.leaveEntry
      else reader

def hostLine (reader : SnmpReader) (trimmed : List Char) : SnmpReader :=
  match stripPrefix "set ip " trimmed with
  | some host => { reader with currentHost := some (trim host) }
  | none =>
    if trimmed = "next".toList then
      { reader with hosts := reader.hosts ++ reader.currentHost.toList, currentHost := none }
    else reader

/-- One line, already trimmed. -/
def step (reader : SnmpReader) (trimmed : List Char) : SnmpReader :=
  if trimmed = "config system snmp community".toList then
    { reader with inBlock := true, depth := 1 }
  else if !reader.inBlock then reader
  else if trimmed = "config hosts".toList then
    { reader with inHosts := true, depth := reader.depth + 1 }
  else if (stripPrefix "config " trimmed).isSome then { reader with depth := reader.depth + 1 }
  else if trimmed = "end".toList then
    if reader.inHosts && reader.depth - 1 == 1 then
      { reader with depth := reader.depth - 1, inHosts := false }
    else { reader with depth := reader.depth - 1, inBlock := reader.depth - 1 != 0 }
  else if reader.inHosts then reader.hostLine trimmed
  else if reader.depth != 1 then reader
  else if (stripPrefix "edit " trimmed).isSome then
    { reader with
      inCommunity := true
      communityName := none
      hosts := []
      trapV1Disabled := false
      trapV2cDisabled := false }
  else if !reader.inCommunity then reader
  else reader.entryLine trimmed

def result (reader : SnmpReader) : Option SnmpConfig :=
  if reader.communities.isEmpty && reader.trapReceivers.isEmpty then none
  else some
    { communities := reader.communities
      trapReceivers := reader.trapReceivers
      enabledTraps := reader.enabledTraps }

end SnmpReader

def parseSnmpCommunity (lines : List (List Char)) : Option SnmpConfig :=
  ((lines.map trim).foldl SnmpReader.step {}).result

/-! ## Indices -/

structure IndexReader where
  indices : List (String × ℕ) := []
  inBlock : Bool := false
  depth : ℕ := 0
  inHosts : Bool := false
  currentIndex : Option ℕ := none

namespace IndexReader

/-- One line, already trimmed. -/
def step (reader : IndexReader) (trimmed : List Char) : IndexReader :=
  if trimmed = "config system snmp community".toList then
    { reader with inBlock := true, depth := 1 }
  else if !reader.inBlock then reader
  else if trimmed = "config hosts".toList then
    { reader with inHosts := true, depth := reader.depth + 1 }
  else if (stripPrefix "config " trimmed).isSome then { reader with depth := reader.depth + 1 }
  else if trimmed = "end".toList then
    { reader with
      depth := reader.depth - 1
      inHosts := reader.inHosts && !(reader.depth - 1 == 1)
      inBlock := reader.depth - 1 != 0 }
  else if reader.inHosts || reader.depth != 1 then reader
  else match stripPrefix "edit " trimmed with
    | some key => { reader with currentIndex := parseUint 16 (trim key) }
    | none =>
      match stripPrefix "set name " trimmed, reader.currentIndex with
      | some name, some index =>
        { reader with indices := put (String.ofList (trimQuotes name)) index reader.indices }
      | some _, none => reader
      | none, _ =>
        if trimmed = "next".toList then { reader with currentIndex := none } else reader

end IndexReader

def parseSnmpCommunityIndices (lines : List (List Char)) : List (String × ℕ) :=
  ((lines.map trim).foldl IndexReader.step {}).indices

/-- FortiSwitch SNMP is read-only: parsed communities adopt the desired access of their name. -/
def adoptDesiredAccess (parsed desired : SnmpConfig) : SnmpConfig :=
  { parsed with
    communities := parsed.communities.map fun community =>
      match desired.communities.find? (·.name == community.name) with
      | some wanted => { community with access := wanted.access }
      | none => community }

/-! ## A table as it is read -/

/-- `set ip` of a host, as it is shown. -/
def SnmpHost.text (host : SnmpHost) : List Char :=
  host.ip.address.toList ++ ' ' :: host.ip.netmask.toList

namespace SnmpEntry

/-- Both trap statuses disabled: the hosts are those that may query. -/
def isAllowList (entry : SnmpEntry) : Bool := !entry.trapV1 && !entry.trapV2c

def allowedHosts (entry : SnmpEntry) : List AllowedHost :=
  if entry.isAllowList then entry.hosts.filterMap fun host => readManager host.text else []

def community (entry : SnmpEntry) : Option SnmpCommunity :=
  entry.name.map fun name => { name := name.text, allowedHosts := entry.allowedHosts }

def receivers (entry : SnmpEntry) : List SnmpTrapReceiver :=
  entry.name.elim [] fun name =>
    if entry.isAllowList then []
    else entry.hosts.map fun host => { host := receiverHost host.text, community := name.text }

/-- The traps that an entry sets, in the place of those before it. -/
def readTraps (traps : List TrapType) (entry : SnmpEntry) : List TrapType :=
  if entry.events.isEmpty then traps
  else entry.events.filterMap fun event => parseTrapType event.text.toList

end SnmpEntry

namespace SnmpTable

def communities (table : SnmpTable) : List SnmpCommunity := table.filterMap SnmpEntry.community

def receivers (table : SnmpTable) : List SnmpTrapReceiver := table.flatMap SnmpEntry.receivers

def traps (table : SnmpTable) : List TrapType := table.foldl SnmpEntry.readTraps []

/-- The index of each name, the last one of a name that is there more than once. -/
def indices (table : SnmpTable) : List (String × ℕ) :=
  table.foldl (fun indices entry => entry.name.elim indices fun name =>
    put name.text entry.index indices) []

/-- The SNMP configuration that a table stands for. -/
def read (table : SnmpTable) : Option SnmpConfig :=
  if table.communities.isEmpty && table.receivers.isEmpty then none
  else some
    { communities := table.communities
      trapReceivers := table.receivers
      enabledTraps := table.traps }

end SnmpTable

end SwitchConfigurator.Fortiswitch
