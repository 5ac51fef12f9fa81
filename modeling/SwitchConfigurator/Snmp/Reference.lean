import SwitchConfigurator.Snmp.Mapping
import SwitchConfigurator.Vendors.Fortiswitch.LookupText

/-!
# A FortiSwitch, as SNMP and as the console show it

The state that both lookups ask for, the rows that its agent serves, and the text that its console
prints, in the format that was confirmed on hardware. Where the agent may say one thing or another
(the nominal speed of a port that is down, how it numbers the rows of its tables, a second listing
of an interface), the state has it. The interfaces of VLANs are listed by the agent alone.
-/

namespace SwitchConfigurator.Snmp

/-- What interfaces and hosts are named with. -/
def isNameChar (c : Char) : Bool := c.isAlphanum || c ∈ "-_./".toList

structure Name where
  chars : List Char
  nonempty : chars ≠ []
  valid : ∀ c ∈ chars, isNameChar c = true

inductive Duplex where
  | full
  | half
  deriving DecidableEq, Repr

def Duplex.text : Duplex → List Char
  | full => "full".toList
  | half => "half".toList

/-- `dot3StatsDuplexStatus`. -/
def Duplex.code : Duplex → ℤ
  | half => 2
  | full => 3

/-- What the agent says of a listing that is not up: its speed, if any, is nominal. -/
structure Idle where
  operStatus : ℤ
  notUp : operStatus ≠ 1
  highSpeed : Option ℤ
  duplex : Option ℤ

/-- A link that is up runs at a speed. -/
inductive Link where
  | down (idle : Idle)
  | up (speed : ℕ) (running : 0 < speed) (duplex : Duplex)

structure Interface where
  name : Name
  ifIndex : ℕ
  link : Link
  /-- A second listing under an index of its own, as `internal` has one; it is never up. -/
  again : Option (ℕ × Idle) := none
  /-- The egress drop mode and the administrative status, where the console prints them. -/
  detail : Option (Name × Name)

/-- The interface of a VLAN, which can be up without a speed. -/
structure VlanInterface where
  name : Name
  ifIndex : ℕ
  operStatus : ℤ
  highSpeed : Option ℤ
  duplex : Option ℤ

/-- A row of the interface tables. -/
structure Listing where
  index : ℕ
  name : List Char
  operStatus : ℤ
  highSpeed : Option ℤ
  duplex : Option ℤ

def Idle.listing (idle : Idle) (index : ℕ) (name : List Char) : Listing :=
  ⟨index, name, idle.operStatus, idle.highSpeed, idle.duplex⟩

def Link.listing (link : Link) (index : ℕ) (name : List Char) : Listing :=
  match link with
  | down idle => idle.listing index name
  | up speed _ duplex => ⟨index, name, 1, some speed, some duplex.code⟩

def Interface.listings (i : Interface) : List Listing :=
  i.link.listing i.ifIndex i.name.chars ::
    i.again.toList.map fun other => other.2.listing other.1 i.name.chars

def VlanInterface.listing (v : VlanInterface) : Listing :=
  ⟨v.ifIndex, v.name.chars, v.operStatus, v.highSpeed, v.duplex⟩

/-- A MAC that the switch has learned, or that is its own. -/
structure FdbEntry where
  mac : List UInt8
  six : mac.length = 6
  vlan : ℕ
  portName : Name
  portId : ℕ
  status : Option ℤ
  usable : isUsable status = true
  index : List ℕ
  /-- The address column has the MAC; without it the index is the MAC. -/
  inColumn : Bool
  index_eq : inColumn = false → index = mac.map UInt8.toNat

/-- A row of the table that is not in use; the console does not show it. -/
structure FdbLeftover where
  index : List ℕ
  port : ℤ
  address : Option (List UInt8)
  status : ℤ
  unusable : isUsable (some status) = false

structure ReferenceSwitch where
  hostname : Name
  interfaces : List Interface
  vlanInterfaces : List VlanInterface
  names_nodup :
    ((interfaces.map fun i => i.name.chars) ++ vlanInterfaces.map fun v => v.name.chars).Nodup
  indices_nodup : ((interfaces.flatMap Interface.listings ++
    vlanInterfaces.map VlanInterface.listing).map Listing.index).Nodup
  fdb : List FdbEntry
  leftovers : List FdbLeftover
  fdb_nodup : (fdb.map FdbEntry.index ++ leftovers.map FdbLeftover.index).Nodup
  /-- The power tables, which the console has nothing of. -/
  pethAdmin : List Row
  pethDetection : List Row

namespace ReferenceSwitch

variable (s : ReferenceSwitch)

/-! ## The rows of the agent -/

def listings : List Listing :=
  s.interfaces.flatMap Interface.listings ++ s.vlanInterfaces.map VlanInterface.listing

def nameOctets (name : List Char) : List UInt8 := name.map fun c => UInt8.ofNat c.toNat

/-- A column of a table: the rows that have a value. -/
def columnRows {α : Type} (entries : List α) (column : List ℕ) (index : α → List ℕ)
    (value : α → Option SnmpValue) : List Row :=
  entries.filterMap fun a => (value a).map fun v => (column ++ index a, v)

def portStatusRows : PortStatusRows :=
  let rows := columnRows s.listings
  { ifName := rows ifNameColumn (fun l => [l.index]) fun l => some (.octets (nameOctets l.name))
    ifOperStatus := rows ifOperStatusColumn (fun l => [l.index]) fun l =>
      some (.integer l.operStatus)
    ifHighSpeed := rows ifHighSpeedColumn (fun l => [l.index]) fun l => l.highSpeed.map .integer
    duplex := rows dot3DuplexStatusColumn (fun l => [l.index]) fun l => l.duplex.map .integer
    pethAdmin := s.pethAdmin
    pethDetection := s.pethDetection }

/-- A row of the FDB, in use or not. -/
structure FdbRow where
  index : List ℕ
  port : ℤ
  address : Option (List UInt8)
  status : Option ℤ

def fdbRows : List FdbRow :=
  s.fdb.map (fun e => ⟨e.index, e.portId, if e.inColumn then some e.mac else none, e.status⟩) ++
    s.leftovers.map fun l => ⟨l.index, l.port, l.address, some l.status⟩

def macTableRows : MacTableRows :=
  let rows := columnRows s.fdbRows
  { address := rows fdbAddressColumn FdbRow.index fun r => r.address.map .octets
    port := rows fdbPortColumn FdbRow.index fun r => some (.integer r.port)
    status := rows fdbStatusColumn FdbRow.index fun r => r.status.map .integer }

/-! ## The text of the console -/

/-- Words, each with what stands after it. -/
def spaced (words : List (List Char × String)) : List Char :=
  words.flatMap fun word => word.1 ++ word.2.toList

def linkWords : Link → List (List Char × String)
  | .down _ => [("link-status:".toList, " "), ("down".toList, "   ")]
  | .up speed _ duplex =>
    [("link-status:".toList, " "), ("up".toList, " "),
      ('(' :: ((toString speed).toList ++ "Mbps".toList), " "),
      (duplex.text ++ "-duplex)".toList, "   ")]

def portWords (i : Interface) : List (List Char × String) :=
  [("name:".toList, " "), (i.name.chars, "    ")] ++
    (i.detail.toList.flatMap fun d => [("egress-drop-mode:".toList, " "), (d.1.chars, "    ")]) ++
    linkWords i.link ++
    (i.detail.toList.flatMap fun d => [("status:".toList, " "), (d.2.chars, "    ")])

def portLines (i : Interface) : List (List Char) :=
  [spaced [("==".toList, " "), ("[".toList, " "), (i.name.chars, " "), ("]".toList, "")],
    spaced (portWords i)]

def macLine (e : FdbEntry) : List Char :=
  spaced [("MAC:".toList, " "), (macText e.mac, "\t"), ("VLAN:".toList, " "),
    ((toString e.vlan).toList, " "), ("Port:".toList, " "),
    (e.portName.chars ++ "(port-id".toList, " "), ((toString e.portId).toList ++ [')'], "")]

/-- The echo of the command, its output and the next prompt. -/
def consoleText (command : String) (lines : List (List Char)) : List Char :=
  printed (((command.toList ++ ['\r']) :: (lines ++ [[]])).map (· ++ ['\r'])) ++
    spaced [(s.hostname.chars, " "), ("#".toList, " ")]

def physicalPortText : List Char :=
  s.consoleText "get switch physical-port" (s.interfaces.flatMap portLines)

def macAddressText : List Char :=
  s.consoleText "diagnose switch mac-address list" (s.fdb.map macLine)

end ReferenceSwitch

end SwitchConfigurator.Snmp
