import SwitchConfigurator.Vendors.Fortiswitch.Commands
import SwitchConfigurator.Vendors.Text

/-!
# The community table of a FortiSwitch

A reference for what `config system snmp community` holds, what commands do to it and how `show`
prints it. Its values are such as the device takes: a name is one line without quotes, and the
address of a host is an IPv4 address with a netmask. A setting that is not taken leaves the entry as
it is.
-/

namespace SwitchConfigurator.Fortiswitch

open Cli

/-- A name between the quotes of one line. -/
structure CommunityName where
  text : String
  plain : ∀ c ∈ text.toList, c ≠ '"' ∧ c ≠ '\n'
  deriving DecidableEq

def CommunityName.of (text : String) : Option CommunityName :=
  if h : ∀ c ∈ text.toList, c ≠ '"' ∧ c ≠ '\n' then some ⟨text, h⟩ else none

structure HostAddress where
  address : String
  netmask : String
  valid : isIpv4 address.toList = true ∧ isIpv4 netmask.toList = true
  deriving DecidableEq

/-- The address of a host that none was set for. -/
def HostAddress.blank : HostAddress := ⟨"0.0.0.0", "0.0.0.0", by decide⟩

/-- The words that a device makes of what is sent: what is not quoted is split at blanks. -/
def deviceWords (args : List Arg) : List (List Char) :=
  args.flatMap fun
    | .bare text => splitWhitespace text.toList
    | .quoted text => [text.toList]

/-- `set ip`; an address alone is that of a single host. -/
def HostAddress.of (args : List Arg) : Option HostAddress :=
  match deviceWords args with
  | [address] =>
    if h : isIpv4 address = true then
      some ⟨String.ofList address, "255.255.255.255", by rwa [String.toList_ofList], by decide⟩
    else none
  | [address, netmask] =>
    if h : isIpv4 address = true ∧ isIpv4 netmask = true then
      some ⟨String.ofList address, String.ofList netmask,
        by rwa [String.toList_ofList, String.toList_ofList]⟩
    else none
  | _ => none

structure EventName where
  text : String
  word : IsWord text.toList
  deriving DecidableEq

def EventName.of (arg : Arg) : Option EventName :=
  if h : IsWord arg.value.toList then some ⟨arg.value, h⟩ else none

structure SnmpHost where
  index : ℕ
  ip : HostAddress := .blank
  deriving DecidableEq

structure SnmpEntry where
  index : ℕ
  name : Option CommunityName := none
  trapV1 : Bool := true
  trapV2c : Bool := true
  events : List EventName := []
  hosts : List SnmpHost := []
  deriving DecidableEq

abbrev SnmpTable := List SnmpEntry

def communityTable : String := "system snmp community"

/-! ## Commands -/

def SnmpHost.set (field : String) (args : List Arg) (host : SnmpHost) : SnmpHost :=
  if field = "ip" then { host with ip := (HostAddress.of args).getD host.ip } else host

namespace SnmpEntry

/-- The settings that are modelled; the others leave the entry as it is. -/
def set (field : String) (args : List Arg) (entry : SnmpEntry) : SnmpEntry :=
  match field, args with
  | "name", [arg] => { entry with name := (CommunityName.of arg.value).or entry.name }
  | "trap-v1-status", [arg] => { entry with trapV1 := arg.value != "disable" }
  | "trap-v2c-status", [arg] => { entry with trapV2c := arg.value != "disable" }
  | "events", args => { entry with events := (args.mapM EventName.of).getD entry.events }
  | _, _ => entry

/-- Open a host of the entry, a new one where there is none. -/
def openHost (index : ℕ) (entry : SnmpEntry) : SnmpEntry :=
  if index ∈ entry.hosts.map SnmpHost.index then entry
  else { entry with hosts := entry.hosts ++ [{ index := index }] }

def mapHost (index : ℕ) (f : SnmpHost → SnmpHost) (entry : SnmpEntry) : SnmpEntry :=
  { entry with hosts := entry.hosts.map fun host => if host.index = index then f host else host }

def removeHost (index : ℕ) (entry : SnmpEntry) : SnmpEntry :=
  { entry with hosts := entry.hosts.filter (·.index ≠ index) }

end SnmpEntry

namespace SnmpTable

def openEntry (index : ℕ) (table : SnmpTable) : SnmpTable :=
  if index ∈ table.map SnmpEntry.index then table else table ++ [{ index := index }]

def mapEntry (index : ℕ) (f : SnmpEntry → SnmpEntry) (table : SnmpTable) : SnmpTable :=
  table.map fun entry => if entry.index = index then f entry else entry

/-- Keys are decimal numbers. -/
def keyIndex (key : String) : Option ℕ :=
  if key.toList ≠ [] ∧ key.toList.all Char.isDigit then some (digitsValue key.toList) else none

/-- The entry of the table that a location is, or the host of it. -/
def place : Location → Option (ℕ × Option ℕ)
  | [(table, key)] =>
    if table = communityTable then (keyIndex key).map (·, none) else none
  | [(inner, hostKey), (table, key)] =>
    if table = communityTable ∧ inner = "hosts" then do
      return (← keyIndex key, some (← keyIndex hostKey))
    else none
  | _ => none

/-- What an effect does to the table; nothing that is modelled sends `unset` to it. -/
def apply (effect : Effect) (table : SnmpTable) : SnmpTable :=
  match place effect.loc, effect with
  | some (index, none), .create _ => table.openEntry index
  | some (index, none), .assign _ field args => table.mapEntry index (·.set field args)
  | some (index, none), .remove _ => table.filter (·.index ≠ index)
  | some (index, some host), .create _ => table.mapEntry index (·.openHost host)
  | some (index, some host), .assign _ field args =>
    table.mapEntry index (·.mapHost host (·.set field args))
  | some (index, some host), .remove _ => table.mapEntry index (·.removeHost host)
  | _, _ => table

def applyAll (effects : List Effect) (table : SnmpTable) : SnmpTable :=
  effects.foldl (fun table effect => table.apply effect) table

def execute (lines : List Line) (table : SnmpTable) : SnmpTable :=
  table.applyAll (effects [] lines)

end SnmpTable

/-! ## What is shown -/

def statusArg (enabled : Bool) : Arg := .bare (if enabled then "enable" else "disable")

def SnmpHost.lines (host : SnmpHost) : List Line :=
  entry (.number host.index) [.set "ip" [.bare host.ip.address, .bare host.ip.netmask]]

def SnmpEntry.lines (community : SnmpEntry) : List Line :=
  entry (.number community.index)
    ((community.name.toList.map fun name => .set "name" [.quoted name.text]) ++
      [.set "trap-v1-status" [statusArg community.trapV1],
        .set "trap-v2c-status" [statusArg community.trapV2c]] ++
      (if community.events.isEmpty then []
        else [.set "events" (community.events.map fun event => .bare event.text)]) ++
      (if community.hosts.isEmpty then []
        else block "hosts" (community.hosts.flatMap SnmpHost.lines)))

def SnmpTable.lines (table : SnmpTable) : List Line :=
  block communityTable (table.flatMap SnmpEntry.lines)

/-- `show system snmp community`. -/
def SnmpTable.shown (table : SnmpTable) : List Char :=
  printed (table.lines.map fun line => line.text.toList)

end SwitchConfigurator.Fortiswitch
