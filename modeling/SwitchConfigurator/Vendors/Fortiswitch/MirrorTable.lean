import SwitchConfigurator.Foundations.KeyedDiff
import SwitchConfigurator.Vendors.Fortiswitch.SnmpTable

/-!
# The mirror table of a FortiSwitch

A reference for what `config switch mirror` holds, what commands do to it and how `show` prints it,
and `parse_switch_mirrors`. A setting replaces the field that it names, and no other.
-/

namespace SwitchConfigurator.Fortiswitch

open Cli Keyed

/-! ## The table -/

/-- A key that can be typed without quotes. -/
def IsSession (text : List Char) : Prop := IsWord text ∧ '"' ∉ text

instance {text : List Char} : Decidable (IsSession text) := inferInstanceAs (Decidable (_ ∧ _))

@[ext] structure InterfaceName where
  text : String
  word : IsWord text.toList

instance : DecidableEq InterfaceName := fun _ _ => decidable_of_iff _ InterfaceName.ext_iff.symm

/-- The interfaces that a setting lists; one that is no word spoils the setting. -/
def interfaceNames (args : List Arg) : Option (List InterfaceName) :=
  (deviceWords args).mapM fun text =>
    if h : IsWord text then some ⟨String.ofList text, by rwa [String.toList_ofList]⟩ else none

structure MirrorEntry where
  session : String
  dst : Option InterfaceName := none
  ingress : List InterfaceName := []
  egress : List InterfaceName := []
  session_typed : IsSession session.toList

structure MirrorTable where
  entries : List MirrorEntry := []
  nodup : (entries.map MirrorEntry.session).Nodup := by exact List.nodup_nil

def mirrorTable : String := "switch mirror"

/-- The fields that are modelled; the others leave the entry as it is. -/
def MirrorEntry.set (field : String) (args : List Arg) (entry : MirrorEntry) : MirrorEntry :=
  match field, interfaceNames args with
  | "dst", some [name] => { entry with dst := some name }
  | "src-ingress", some (name :: names) => { entry with ingress := name :: names }
  | "src-egress", some (name :: names) => { entry with egress := name :: names }
  | _, _ => entry

namespace MirrorTable

def put (entry : MirrorEntry) (table : MirrorTable) : MirrorTable where
  entries := upsert MirrorEntry.session table.entries entry
  nodup := nodup_upsert table.nodup

def find (session : String) (table : MirrorTable) : Option MirrorEntry :=
  lookup MirrorEntry.session session table.entries

/-- An entry that is not there is made. -/
def openEntry (session : String) (table : MirrorTable) : MirrorTable :=
  if h : IsSession session.toList then
    table.put ((table.find session).getD { session, session_typed := h })
  else table

def setField (session field : String) (args : List Arg) (table : MirrorTable) : MirrorTable :=
  match table.find session with
  | some entry => table.put (entry.set field args)
  | none => table

def remove (session : String) (table : MirrorTable) : MirrorTable where
  entries := erase MirrorEntry.session [session] table.entries
  nodup := nodup_erase table.nodup

/-- What an effect does to the table; nothing that is modelled sends `unset` to it. -/
def apply (effect : Effect) (table : MirrorTable) : MirrorTable :=
  match effect with
  | .create [(name, session)] => if name = mirrorTable then table.openEntry session else table
  | .assign [(name, session)] field args =>
    if name = mirrorTable then table.setField session field args else table
  | .remove [(name, session)] => if name = mirrorTable then table.remove session else table
  | _ => table

def applyAll (effects : List Effect) (table : MirrorTable) : MirrorTable :=
  effects.foldl (fun table effect => table.apply effect) table

def execute (lines : List Line) (table : MirrorTable) : MirrorTable :=
  table.applyAll (effects [] lines)

end MirrorTable

/-! ## What is shown -/

def interfaceArgs (names : List InterfaceName) : List Arg := names.map fun name => .bare name.text

/-- A list that is empty is not shown. -/
def sourceLines (field : String) (names : List InterfaceName) : List Line :=
  if names.isEmpty then [] else [.set field (interfaceArgs names)]

def MirrorEntry.lines (mirror : MirrorEntry) : List Line :=
  entry (.bare mirror.session) ([.set "status" [.bare "active"]] ++
    (mirror.dst.toList.map fun name => .set "dst" [.bare name.text]) ++
    sourceLines "src-ingress" mirror.ingress ++ sourceLines "src-egress" mirror.egress)

def MirrorTable.lines (table : MirrorTable) : List Line :=
  block mirrorTable (table.entries.flatMap MirrorEntry.lines)

/-- `show switch mirror`. -/
def MirrorTable.shown (table : MirrorTable) : List Char :=
  printed (table.lines.map fun line => line.text.toList)

/-! ## What is read of it -/

/-- `port1` is `1`; what has no such prefix is left. -/
def denormalizePortId (interface : String) : String :=
  String.ofList ((stripPrefix "port" interface.toList).getD interface.toList)

/-- The direction is told by the lists that are there. -/
def readDirection (ingress egress : List String) : MirrorDirection :=
  match !ingress.isEmpty, !egress.isEmpty with
  | true, true => .both
  | true, false => .rx
  | false, true => .tx
  | false, false => .both

/-- The variables of the loop. -/
structure MirrorReader where
  mirrors : List PortMirror := []
  inBlock : Bool := false
  depth : ℕ := 0
  sessionId : Option String := none
  dst : Option String := none
  ingress : List String := []
  egress : List String := []

namespace MirrorReader

/-- The session that is open, if it has a destination and a source. -/
def session (reader : MirrorReader) : Option PortMirror :=
  match reader.sessionId, reader.dst with
  | some id, some d =>
    if !reader.ingress.isEmpty || !reader.egress.isEmpty then
      let sourcePorts := if !reader.ingress.isEmpty then reader.ingress else reader.egress
      some { sessionId := id
             sourcePorts := sourcePorts.map denormalizePortId
             destinationPort := denormalizePortId d
             direction := readDirection reader.ingress reader.egress }
    else none
  | _, _ => none

/-- `flush_mirror`. -/
def flush (reader : MirrorReader) : MirrorReader :=
  { reader with
    mirrors := reader.mirrors ++ reader.session.toList
    sessionId := none
    dst := none
    ingress := []
    egress := [] }

/-- A line of a session, already trimmed. -/
def sessionLine (reader : MirrorReader) (trimmed : List Char) : MirrorReader :=
  match stripPrefix "set dst " trimmed with
  | some rest => { reader with dst := some (String.ofList (trim rest)) }
  | none =>
    match stripPrefix "set src-ingress " trimmed with
    | some rest => { reader with ingress := (splitWhitespace rest).map String.ofList }
    | none =>
      match stripPrefix "set src-egress " trimmed with
      | some rest => { reader with egress := (splitWhitespace rest).map String.ofList }
      | none => if trimmed = "next".toList then reader.flush else reader

/-- One line, already trimmed. -/
def step (reader : MirrorReader) (trimmed : List Char) : MirrorReader :=
  if trimmed = "config switch mirror".toList then { reader with inBlock := true, depth := 1 }
  else if !reader.inBlock then reader
  else if (stripPrefix "config " trimmed).isSome then { reader with depth := reader.depth + 1 }
  else if trimmed = "end".toList then
    if reader.depth - 1 = 0 then { reader.flush with depth := 0, inBlock := false }
    else { reader with depth := reader.depth - 1 }
  else if reader.depth ≠ 1 then reader
  else
    match stripPrefix "edit " trimmed with
    | some rest => { reader.flush with sessionId := some (String.ofList (trimQuotes (trim rest))) }
    | none => if reader.sessionId.isNone then reader else reader.sessionLine trimmed

end MirrorReader

def parseSwitchMirrors (lines : List (List Char)) : List PortMirror :=
  ((lines.map trim).foldl MirrorReader.step {}).flush.mirrors

end SwitchConfigurator.Fortiswitch
