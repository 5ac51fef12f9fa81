import SwitchConfigurator.Models
import SwitchConfigurator.Vendors.Text

/-!
# The interfaces that a FortiSwitch shows

A reference for the text of `show system interface`, what an interface says by the lines of its own
level, and the two readers of the text: `parse_management_vlan` and `parse_svi_details`.
-/

namespace SwitchConfigurator.Fortiswitch

open Cli

/-! ## The text -/

/-- The name of a nested block. -/
structure BlockName where
  text : List Char
  word : IsWord text

/-- The name of an entry, bare or in quotes. -/
structure EntryName where
  name : List Char
  quoted : Bool := false
  bare_word : quoted = false → IsWord name
  unquoted : '"' ∉ name

namespace EntryName

def text (key : EntryName) : List Char :=
  if key.quoted then '"' :: (key.name ++ ['"']) else key.name

/-- The VLAN that a name such as `vlan77` stands for. -/
def vlanId (key : EntryName) : Option ℕ := (stripPrefix "vlan" key.name).bind (parseUint 16)

end EntryName

/-- A line that is no word of the block structure. -/
structure Setting where
  text : List Char
  trimmed : trim text = text
  not_config : stripPrefix "config " text = none
  not_edit : stripPrefix "edit " text = none
  not_next : text ≠ "next".toList
  not_end : text ≠ "end".toList

def Setting.ofText (text : String) (trimmed : trim text.toList = text.toList)
    (plain : stripPrefix "config " text.toList = none ∧ stripPrefix "edit " text.toList = none ∧
      text.toList ≠ "next".toList ∧ text.toList ≠ "end".toList) : Setting where
  text := text.toList
  trimmed := trimmed
  not_config := plain.1
  not_edit := plain.2.1
  not_next := plain.2.2.1
  not_end := plain.2.2.2

theorem Setting.not_edit_vlan (setting : Setting) : stripPrefix "edit vlan" setting.text = none :=
    by
  cases hvlan : stripPrefix "edit vlan" setting.text with
  | none => rfl
  | some rest =>
    have hedit (rest : List Char) : stripPrefix "edit " ("edit vlan".toList ++ rest) =
        some ("vlan".toList ++ rest) := rfl
    have hnone := setting.not_edit
    rw [← text_of_stripPrefix hvlan, hedit] at hnone
    cases hnone

inductive ShownLine where
  | config (name : BlockName)
  | edit (key : EntryName)
  | next
  | close
  | own (setting : Setting)

namespace ShownLine

def text : ShownLine → List Char
  | config name => "config ".toList ++ name.text
  | edit key => "edit ".toList ++ key.text
  | next => "next".toList
  | close => "end".toList
  | own setting => setting.text

theorem text_edit (key : EntryName) : (edit key).text = "edit ".toList ++ key.text := rfl

theorem text_own (setting : Setting) : (own setting).text = setting.text := rfl

theorem text_next : next.text = "next".toList := rfl

/-- A line that leaves the level as it is. -/
def IsPlain : ShownLine → Prop
  | config _ | close => False
  | _ => True

/-- A nested block is not the table. -/
theorem config_ne_table (name : BlockName) :
    (config name).text ≠ "config system interface".toList := by
  intro heq
  have hname : name.text = "system interface".toList := List.append_cancel_left heq
  have hblank := name.word.2 ' ' (hname ▸ by decide)
  cases hblank

theorem IsPlain.not_word {line : ShownLine} (h : line.IsPlain) :
    stripPrefix "config " line.text = none ∧ line.text ≠ "end".toList := by
  cases line with
  | config name => cases h
  | close => cases h
  | next => exact ⟨by decide, by decide⟩
  | own setting => exact ⟨setting.not_config, setting.not_end⟩
  | edit key =>
    have hconfig (rest : List Char) : stripPrefix "config " ("edit ".toList ++ rest) = none := rfl
    have hend (rest : List Char) : "edit ".toList ++ rest ≠ "end".toList := by simp
    exact ⟨hconfig _, hend _⟩

/-- The VLAN that a line opens an interface of. -/
def vlanId : ShownLine → Option ℕ
  | edit key => key.vlanId
  | _ => none

end ShownLine

/-- What stands in a nested block: lines of any kind, and further blocks. -/
inductive Nested where
  | nil
  | line (line : ShownLine) (plain : line.IsPlain) (rest : Nested)
  | block (name : BlockName) (body rest : Nested)

def Nested.lines : Nested → List ShownLine
  | nil => []
  | line first _ rest => first :: rest.lines
  | block name body rest => .config name :: (body.lines ++ .close :: rest.lines)

/-- What stands in an interface. -/
inductive InterfaceItem where
  | own (setting : Setting)
  | nested (name : BlockName) (body : Nested)

namespace InterfaceItem

def lines : InterfaceItem → List ShownLine
  | own setting => [.own setting]
  | nested name body => .config name :: (body.lines ++ [.close])

def setting : InterfaceItem → Option Setting
  | own setting => some setting
  | nested _ _ => none

end InterfaceItem

structure ShownInterface where
  key : EntryName
  items : List InterfaceItem := []

namespace ShownInterface

/-- The lines of an interface, without the `next` behind them. -/
def inner (interface : ShownInterface) : List ShownLine :=
  .edit interface.key :: interface.items.flatMap InterfaceItem.lines

def lines (interface : ShownInterface) : List ShownLine := interface.inner ++ [.next]

/-- The lines of its own level. -/
def settings (interface : ShownInterface) : List Setting :=
  interface.items.filterMap InterfaceItem.setting

def vlanId (interface : ShownInterface) : Option ℕ := interface.key.vlanId

end ShownInterface

/-- Blocks that were opened one in another and never closed, each up to where the next one opens. -/
abbrev Unclosed := List (BlockName × Nested)

def Unclosed.lines (unclosed : Unclosed) : List ShownLine :=
  unclosed.flatMap fun block => .config block.1 :: block.2.lines

/-- Where a text stops. -/
inductive Ending where
  | complete
  /-- Behind an interface, the `end` of the table missing. -/
  | cutBehind
  | cutInside (last : ShownInterface) (unclosed : Unclosed)

namespace Ending

def lines : Ending → List ShownLine
  | complete => [.close]
  | cutBehind => []
  | cutInside last unclosed => last.inner ++ Unclosed.lines unclosed

def interfaces : Ending → List ShownInterface
  | cutInside last _ => [last]
  | _ => []

end Ending

structure InterfaceTable where
  closed : List ShownInterface
  ending : Ending := .complete

namespace InterfaceTable

def interfaces (table : InterfaceTable) : List ShownInterface :=
  table.closed ++ table.ending.interfaces

/-- The lines under `config system interface`. -/
def lines (table : InterfaceTable) : List ShownLine :=
  table.closed.flatMap ShownInterface.lines ++ table.ending.lines

/-- A text of the table, however its lines are indented. -/
def IsText (table : InterfaceTable) (lines : List (List Char)) : Prop :=
  lines.map trim = "config system interface".toList :: table.lines.map ShownLine.text

end InterfaceTable

/-! ## What an interface says by its own lines -/

namespace Setting

/-- An address, given or leased. -/
def IsAddress (setting : Setting) : Prop :=
  setting.text = "set mode dhcp".toList ∨
    ∃ rest ∈ stripPrefix "set ip " setting.text, (splitWhitespace rest).length = 2

instance : DecidablePred IsAddress := fun setting =>
  inferInstanceAs (Decidable (setting.text = "set mode dhcp".toList ∨
    ∃ rest ∈ stripPrefix "set ip " setting.text, (splitWhitespace rest).length = 2))

/-- `ssh` or `https` among the kinds of access. -/
def IsManagement (setting : Setting) : Prop :=
  ∃ rest ∈ stripPrefix "set allowaccess " setting.text,
    "ssh".toList ∈ splitWhitespace rest ∨ "https".toList ∈ splitWhitespace rest

instance : DecidablePred IsManagement := fun setting =>
  inferInstanceAs (Decidable (∃ rest ∈ stripPrefix "set allowaccess " setting.text,
    "ssh".toList ∈ splitWhitespace rest ∨ "https".toList ∈ splitWhitespace rest))

end Setting

namespace ShownInterface

def HasAddress (interface : ShownInterface) : Prop :=
  ∃ setting ∈ interface.settings, setting.IsAddress

instance : DecidablePred HasAddress := fun interface =>
  inferInstanceAs (Decidable (∃ setting ∈ interface.settings, setting.IsAddress))

/-- A VLAN that the switch can be managed in. -/
def IsManagement (interface : ShownInterface) : Prop :=
  interface.vlanId.isSome = true ∧ interface.HasAddress ∧
    ∃ setting ∈ interface.settings, setting.IsManagement

instance : DecidablePred IsManagement := fun interface =>
  inferInstanceAs (Decidable (interface.vlanId.isSome = true ∧ interface.HasAddress ∧
    ∃ setting ∈ interface.settings, setting.IsManagement))

end ShownInterface

/-- The first VLAN that the switch can be managed in. -/
def InterfaceTable.managementVlan (table : InterfaceTable) : Option ℕ :=
  (table.interfaces.find? fun interface => interface.IsManagement).bind ShownInterface.vlanId

/-! ## The management VLAN as it is read -/

/-- `trimmed.contains(..)`. -/
def containsText (pattern : String) (text : List Char) : Bool := pattern.toList <:+: text

/-- The lines that are taken for an address. -/
def configuresIp (trimmed : List Char) : Bool :=
  (stripPrefix "set ip " trimmed).isSome || trimmed == "set mode dhcp".toList ||
    trimmed == "set mode static".toList

/-- The lines that are taken for management access. -/
def allowsManagement (trimmed : List Char) : Bool :=
  (stripPrefix "set allowaccess " trimmed).isSome &&
    (containsText "ssh" trimmed || containsText "https" trimmed)

/-- The number in `"vlan77"`, quotes included. -/
def quotedVlan (rest : List Char) : Option ℕ :=
  (stripPrefix "\"vlan" rest).bind fun start =>
    if '"' ∈ start then parseUint 16 (start.takeWhile (· ≠ '"')) else none

/-- The variables of the loop. -/
structure ManagementReader where
  inSystemInterface : Bool := false
  inVlanInterface : Bool := false
  currentVlanId : Option ℕ := none
  hasIp : Bool := false
  hasAllowaccess : Bool := false
  nestingDepth : ℕ := 0

namespace ManagementReader

def enter (reader : ManagementReader) (vlanId : ℕ) : ManagementReader :=
  { reader with
    inVlanInterface := true
    currentVlanId := some vlanId
    hasIp := false
    hasAllowaccess := false }

def leave (reader : ManagementReader) : ManagementReader :=
  { reader with
    inVlanInterface := false
    currentVlanId := none
    hasIp := false
    hasAllowaccess := false }

/-- A line of an interface; an early return is an error. -/
def setting (reader : ManagementReader) (trimmed : List Char) :
    Except (Option ℕ) ManagementReader :=
  if configuresIp trimmed then .ok { reader with hasIp := true }
  else if (stripPrefix "set allowaccess " trimmed).isSome then
    .ok { reader with hasAllowaccess := reader.hasAllowaccess || allowsManagement trimmed }
  else if trimmed = "next".toList then
    if reader.hasIp && reader.hasAllowaccess && reader.currentVlanId.isSome then
      .error reader.currentVlanId
    else .ok reader.leave
  else .ok reader

/-- A line inside the table. The depth is not asked for. -/
def tableLine (reader : ManagementReader) (trimmed : List Char) :
    Except (Option ℕ) ManagementReader :=
  match stripPrefix "edit vlan" trimmed with
  | some rest =>
    match (splitWhitespace rest).head?.bind (parseUint 16) with
    | some vlanId => .ok (reader.enter vlanId)
    | none => .ok reader
  | none =>
    match stripPrefix "edit " trimmed with
    | some rest =>
      match quotedVlan rest with
      | some vlanId => .ok (reader.enter vlanId)
      | none => .ok reader
    | none => if reader.inVlanInterface then reader.setting trimmed else .ok reader

/-- One line, already trimmed. -/
def step (reader : ManagementReader) (trimmed : List Char) :
    Except (Option ℕ) ManagementReader :=
  if trimmed = "config system interface".toList then
    .ok { reader with inSystemInterface := true, nestingDepth := 1 }
  else if !reader.inSystemInterface then .ok reader
  else if (stripPrefix "config " trimmed).isSome then
    .ok { reader with nestingDepth := reader.nestingDepth + 1 }
  else if trimmed = "end".toList then
    if reader.nestingDepth - 1 = 0 then
      if reader.inVlanInterface && reader.hasIp && reader.hasAllowaccess &&
          reader.currentVlanId.isSome then .error reader.currentVlanId
      else .ok {}
    else .ok { reader with nestingDepth := reader.nestingDepth - 1 }
  else reader.tableLine trimmed

/-- What is returned behind the last line. -/
def atEnd (reader : ManagementReader) : Option ℕ :=
  if reader.inVlanInterface && reader.hasIp && reader.currentVlanId.isSome then
    reader.currentVlanId
  else none

end ManagementReader

def parseManagementVlan (lines : List (List Char)) : Option ℕ :=
  match (lines.map trim).foldlM ManagementReader.step {} with
  | .error found => found
  | .ok reader => reader.atEnd

/-! ## The addresses as they are read -/

structure SviDetails where
  ipConfig : VlanIpConfig := .none
  description : Option String := none

/-- `parse_vlan_interface_edit_id`. -/
def parseVlanInterfaceEditId (trimmed : List Char) : Option ℕ :=
  match stripPrefix "edit vlan" trimmed with
  | some rest => (splitWhitespace rest).head?.bind (parseUint 16)
  | none =>
    (stripPrefix "edit " trimmed).bind fun rest =>
      (stripPrefix "\"vlan" (trim rest)).bind fun start =>
        if start.getLast? = some '"' then parseUint 16 start.dropLast else none

/-- The variables of the loop. -/
structure SviReader where
  result : List (ℕ × SviDetails) := []
  inSystemInterface : Bool := false
  nestingDepth : ℕ := 0
  currentVlanId : Option ℕ := none
  current : SviDetails := {}

namespace SviReader

/-- The interface that is open goes to the result. -/
def flush (reader : SviReader) : SviReader :=
  { reader with
    result := match reader.currentVlanId with
      | some vlanId => put vlanId reader.current reader.result
      | none => reader.result
    currentVlanId := none }

/-- A line of an interface. -/
def interfaceLine (reader : SviReader) (trimmed : List Char) : SviReader :=
  match stripPrefix "set description " trimmed with
  | some description =>
    { reader with
      current.description := some (String.ofList (trimQuotes description)) }
  | none =>
    match stripPrefix "set ip " trimmed with
    | some rest =>
      match splitWhitespace rest with
      | [address, netmask] =>
        { reader with
          current.ipConfig := .static (String.ofList address) (String.ofList netmask) }
      | _ => reader
    | none =>
      if trimmed = "set mode dhcp".toList then { reader with current.ipConfig := .dhcp }
      else if trimmed = "next".toList then { reader.flush with current := {} }
      else reader

/-- One line, already trimmed. -/
def step (reader : SviReader) (trimmed : List Char) : SviReader :=
  if trimmed = "config system interface".toList then
    { reader with inSystemInterface := true, nestingDepth := 1 }
  else if !reader.inSystemInterface then reader
  else if (stripPrefix "config " trimmed).isSome then
    { reader with nestingDepth := reader.nestingDepth + 1 }
  else if trimmed = "end".toList then
    if reader.nestingDepth - 1 = 0 then
      { reader.flush with nestingDepth := 0, inSystemInterface := false }
    else { reader with nestingDepth := reader.nestingDepth - 1 }
  else if reader.nestingDepth ≠ 1 then reader
  else
    match parseVlanInterfaceEditId trimmed with
    | some vlanId => { reader.flush with currentVlanId := some vlanId, current := {} }
    | none =>
      if reader.currentVlanId.isNone then reader else reader.interfaceLine trimmed

end SviReader

def parseSviDetails (lines : List (List Char)) : List (ℕ × SviDetails) :=
  ((lines.map trim).foldl SviReader.step {}).flush.result

end SwitchConfigurator.Fortiswitch
