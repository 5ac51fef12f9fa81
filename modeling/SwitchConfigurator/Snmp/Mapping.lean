import Mathlib.Data.List.Lex
import Mathlib.Data.List.Sort
import SwitchConfigurator.Lookup.Cache
import SwitchConfigurator.Vendors.Text

/-!
# SNMP tables as lookups

`snmp/mapping.rs`: the rows of a walk become the entries that the API serves. A `BTreeMap` is kept
as the pairs it is collected from; the last pair with a key counts, and it is read in key order.
-/

namespace SwitchConfigurator.Snmp

/-- A value read from a switch. -/
inductive SnmpValue where
  | integer (n : ℤ)
  | octets (bytes : List UInt8)
  deriving DecidableEq, Repr

/-- The full OID and the value. -/
abbrev Row := List ℕ × SnmpValue

/-! ## Octets as text -/

def isTail (b : UInt8) : Bool := 0x80 ≤ b && b ≤ 0xBF

/-- May this byte follow the first one of three or four? -/
def maySecond (lead b : UInt8) : Bool :=
  if lead = 0xE0 then 0xA0 ≤ b && b ≤ 0xBF
  else if lead = 0xED then 0x80 ≤ b && b ≤ 0x9F
  else if lead = 0xF0 then 0x90 ≤ b && b ≤ 0xBF
  else if lead = 0xF4 then 0x80 ≤ b && b ≤ 0x8F
  else isTail b

/-- The character whose bits, after those of the first byte, are in these bytes. -/
def charOfBits (lead : ℕ) (tails : List UInt8) : Char :=
  Char.ofNat (tails.foldl (fun bits b => bits * 64 + b.toNat % 64) lead)

/-- The first character, and how many bytes it takes after the first; what is not a character is
replaced, as far as it could have been the start of one. -/
def firstChar (a : UInt8) (rest : List UInt8) : Char × ℕ :=
  if a < 0x80 then (Char.ofNat a.toNat, 0)
  else if 0xC2 ≤ a && a ≤ 0xDF then
    match rest with
    | b :: _ => if isTail b then (charOfBits (a.toNat % 32) [b], 1) else ('\uFFFD', 0)
    | [] => ('\uFFFD', 0)
  else if 0xE0 ≤ a && a ≤ 0xF4 then
    match rest with
    | [] => ('\uFFFD', 0)
    | b :: rest =>
      if maySecond a b then
        match rest with
        | [] => ('\uFFFD', 1)
        | c :: rest =>
          if !isTail c then ('\uFFFD', 1)
          else if a ≤ 0xEF then (charOfBits (a.toNat % 16) [b, c], 2)
          else
            match rest with
            | [] => ('\uFFFD', 2)
            | d :: _ =>
              if isTail d then (charOfBits (a.toNat % 8) [b, c, d], 3) else ('\uFFFD', 2)
      else ('\uFFFD', 0)
  else ('\uFFFD', 0)

/-- The characters after so many bytes that are read already. -/
def lossyFrom : ℕ → List UInt8 → List Char
  | _, [] => []
  | skipped + 1, _ :: rest => lossyFrom skipped rest
  | 0, a :: rest => (firstChar a rest).1 :: lossyFrom (firstChar a rest).2 rest

/-- `String::from_utf8_lossy`. -/
def fromUtf8Lossy (bytes : List UInt8) : List Char := lossyFrom 0 bytes

namespace SnmpValue

def asInt : SnmpValue → Option ℤ
  | integer n => some n
  | octets _ => none

def asText : SnmpValue → Option (List Char)
  | octets bytes => some ((fromUtf8Lossy bytes).rdropWhile (· == '\u0000'))
  | integer _ => none

def asOctets : SnmpValue → Option (List UInt8)
  | octets bytes => some bytes
  | integer _ => none

end SnmpValue

/-! ## Columns -/

def ifNameColumn : List ℕ := [1, 3, 6, 1, 2, 1, 31, 1, 1, 1, 1]
def ifOperStatusColumn : List ℕ := [1, 3, 6, 1, 2, 1, 2, 2, 1, 8]
def ifHighSpeedColumn : List ℕ := [1, 3, 6, 1, 2, 1, 31, 1, 1, 1, 15]
def dot3DuplexStatusColumn : List ℕ := [1, 3, 6, 1, 2, 1, 10, 7, 2, 1, 19]
def pethPortAdminEnableColumn : List ℕ := [1, 3, 6, 1, 2, 1, 105, 1, 1, 1, 3]
def pethPortDetectionStatusColumn : List ℕ := [1, 3, 6, 1, 2, 1, 105, 1, 1, 1, 6]
def fdbAddressColumn : List ℕ := [1, 3, 6, 1, 2, 1, 17, 4, 3, 1, 1]
def fdbPortColumn : List ℕ := [1, 3, 6, 1, 2, 1, 17, 4, 3, 1, 2]
def fdbStatusColumn : List ℕ := [1, 3, 6, 1, 2, 1, 17, 4, 3, 1, 3]

/-- A `BTreeMap` from the index of a row to its value. -/
abbrev Table := List (List ℕ × SnmpValue)

namespace Table

def get (table : Table) (index : List ℕ) : Option SnmpValue :=
  (Keyed.lookup Prod.fst index table).map Prod.snd

def intAt (table : Table) (index : List ℕ) : Option ℤ := (table.get index).bind SnmpValue.asInt

def iter (table : Table) : List (List ℕ × SnmpValue) :=
  ((Keyed.keys Prod.fst table).insertionSort (· ≤ ·)).filterMap fun index =>
    Keyed.lookup Prod.fst index table

end Table

def byIndex (rows : List Row) (column : List ℕ) : Table :=
  rows.filterMap fun row => (column.isPrefixOf? row.1).map (·, row.2)

structure PortStatusRows where
  ifName : List Row := []
  ifOperStatus : List Row := []
  ifHighSpeed : List Row := []
  duplex : List Row := []
  pethAdmin : List Row := []
  pethDetection : List Row := []

structure MacTableRows where
  address : List Row := []
  port : List Row := []
  status : List Row := []

/-! ## Port status -/

/-- The power table is indexed by group and port, and the port is the digits of `portN`. -/
def poeStatusOf (rows : PortStatusRows) (supportsPoe : String → Bool) (name : List Char) :
    Option String :=
  if supportsPoe (String.ofList name) then
    ((stripPrefix "port" name).bind (parseUint 32)).bind fun port =>
      if (byIndex rows.pethAdmin pethPortAdminEnableColumn).intAt [1, port] = some 2 then
        some "disabled"
      else
        ((byIndex rows.pethDetection pethPortDetectionStatusColumn).intAt [1, port]).map
          fun status =>
            if status = 1 then "disabled"
            else if status = 2 then "searching"
            else if status = 3 then "delivering"
            else if status = 4 ∨ status = 6 then "fault"
            else if status = 5 then "test"
            else "unknown"
  else none

/-- The entry of one interface: speed and duplex only where the port is up. -/
def entryFrom (rows : PortStatusRows) (supportsPoe : String → Bool) (index : List ℕ)
    (name : List Char) : PortStatusEntry :=
  let oper := byIndex rows.ifOperStatus ifOperStatusColumn
  let up := oper.intAt index == some 1
  let mbps := ((byIndex rows.ifHighSpeed ifHighSpeedColumn).intAt index).filter (0 < ·)
  let duplex := (byIndex rows.duplex dot3DuplexStatusColumn).intAt index
  { portId := String.ofList name
    linkStatus := (oper.get index).map fun _ => if up then "up" else "down"
    speed := if up then mbps.map toString else none
    duplex :=
      if up then
        if duplex = some 3 then some "full"
        else if duplex = some 2 then some "half"
        else none
      else none
    poeStatus := poeStatusOf rows supportsPoe name }

/-- The same name can be listed twice: the entry that has a speed is kept. -/
def mergeEntry (entries : List PortStatusEntry) (entry : PortStatusEntry) : List PortStatusEntry :=
  match entries.find? (·.portId = entry.portId) with
  | some existing =>
    if existing.speed.isNone && entry.speed.isSome then
      Keyed.putFirst PortStatusEntry.portId entry entries
    else entries
  | none => entries ++ [entry]

def portStatusFrom (rows : PortStatusRows) (supportsPoe : String → Bool) : List PortStatusEntry :=
  (byIndex rows.ifName ifNameColumn).iter.foldl
    (fun entries row =>
      match row.2.asText with
      | some name =>
        if name = [] then entries else mergeEntry entries (entryFrom rows supportsPoe row.1 name)
      | none => entries) []

/-! ## MAC table -/

/-- `format!("{:02x}")`. -/
def hexByte (b : UInt8) : List Char :=
  [Nat.digitChar (b.toNat / 16), Nat.digitChar (b.toNat % 16)]

def macText (bytes : List UInt8) : List Char := [':'].intercalate (bytes.map hexByte)

/-- The MAC of a row: from the address column, or else from an index of six bytes. -/
def macBytes (address : Table) (index : List ℕ) : Option (List UInt8) :=
  match (address.get index).bind SnmpValue.asOctets with
  | some octets => if octets.length = 6 then some octets else none
  | none =>
    if index.length = 6 && index.all (· ≤ 255) then some (index.map UInt8.ofNat) else none

/-- Only learned, own and management entries count. -/
def isUsable (status : Option ℤ) : Bool := status.all fun st => 3 ≤ st && st ≤ 5

def macTableFrom (rows : MacTableRows) : List MacTableEntry :=
  let address := byIndex rows.address fdbAddressColumn
  let status := byIndex rows.status fdbStatusColumn
  (byIndex rows.port fdbPortColumn).iter.filterMap fun row =>
    if isUsable (status.intAt row.1) then
      row.2.asInt.bind fun portNumber =>
        (macBytes address row.1).map fun bytes =>
          { macAddress := String.ofList (macText bytes)
            vlanId := none
            portId := toString portNumber }
    else none

end SwitchConfigurator.Snmp
