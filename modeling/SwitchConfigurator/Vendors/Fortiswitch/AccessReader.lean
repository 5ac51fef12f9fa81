import SwitchConfigurator.Vendors.Fortiswitch.Access
import SwitchConfigurator.Vendors.Fortiswitch.SystemInterface

/-!
# The access of the management address as it is read

`parse_mgmt_access`, `interface_allowaccess` and `resolve_mgmt_access`, and what they read from the
text of an interface table whose interfaces have secondary addresses.
-/

namespace SwitchConfigurator.Fortiswitch

open Cli

/-! ## The readers -/

def addressOf (rest : List Char) : Option (List Char) := (splitWhitespace rest).head?

/-- `name.trim().trim_matches('"')`. -/
def entryName (name : List Char) : String := String.ofList (trimQuotes (trim name))

/-- The tokens of a `set allowaccess`. -/
def accessOf (rest : List Char) : List String := (splitWhitespace rest).map String.ofList

/-- The variables of the loop. -/
structure AccessReader where
  interface : Option String := none
  primaryAccess : List String := []
  primaryMatches : Bool := false
  inSecondary : Bool := false
  secondaryIndex : Option ℕ := none
  secondaryAccess : List String := []
  secondaryMatches : Bool := false
  foundSecondary : Option MgmtAccess := none

namespace AccessReader

def edit (reader : AccessReader) (name : List Char) : AccessReader :=
  if reader.inSecondary then
    { reader with
      secondaryIndex := parseUint 32 (trim name)
      secondaryAccess := []
      secondaryMatches := false }
  else
    { reader with
      interface := some (entryName name)
      primaryAccess := []
      primaryMatches := false
      foundSecondary := none }

/-- A `next`; an early return is an error. -/
def next (reader : AccessReader) : Except (Option MgmtAccess) AccessReader :=
  if reader.inSecondary && reader.secondaryMatches then
    match reader.interface with
    | some interface =>
      .ok
        { reader with
          foundSecondary :=
            some ⟨interface, reader.secondaryIndex, reader.secondaryAccess⟩ }
    | none => .ok reader
  else if !reader.inSecondary && reader.primaryMatches then
    .error (reader.foundSecondary.or
      (reader.interface.map fun interface => ⟨interface, none, reader.primaryAccess⟩))
  else if !reader.inSecondary then
    match reader.foundSecondary with
    | some found => .error (some found)
    | none => .ok reader
  else .ok reader

/-- The address is the management IP. -/
def hit (reader : AccessReader) : AccessReader :=
  if reader.inSecondary then { reader with secondaryMatches := true }
  else { reader with primaryMatches := true }

def allow (reader : AccessReader) (tokens : List String) : AccessReader :=
  if reader.inSecondary then { reader with secondaryAccess := tokens }
  else { reader with primaryAccess := tokens }

/-- One line, already trimmed. -/
def step (managementIp : String) (reader : AccessReader) (trimmed : List Char) :
    Except (Option MgmtAccess) AccessReader :=
  match stripPrefix "edit " trimmed with
  | some name => .ok (reader.edit name)
  | none =>
    if trimmed = "config secondaryip".toList then .ok { reader with inSecondary := true }
    else if trimmed = "next".toList then reader.next
    else if trimmed = "end".toList then .ok { reader with inSecondary := false }
    else
      match stripPrefix "set ip " trimmed with
      | some rest =>
        .ok (if addressOf rest = some managementIp.toList then reader.hit else reader)
      | none =>
        match stripPrefix "set allowaccess " trimmed with
        | some rest => .ok (reader.allow (accessOf rest))
        | none => .ok reader

end AccessReader

def parseMgmtAccess (lines : List (List Char)) (managementIp : String) : Option MgmtAccess :=
  match (lines.map trim).foldlM (AccessReader.step managementIp) {} with
  | .error found => found
  | .ok _ => none

/-- The variables of the loop of `interface_allowaccess`. -/
structure TargetReader where
  inTarget : Bool := false
  inSecondary : Bool := false

/-- One line, already trimmed; an early return is an error. -/
def TargetReader.step (interface : String) (reader : TargetReader) (trimmed : List Char) :
    Except (List String) TargetReader :=
  match stripPrefix "edit " trimmed with
  | some name =>
    .ok (if reader.inSecondary then reader
      else { reader with inTarget := entryName name == interface })
  | none =>
    if trimmed = "config secondaryip".toList then .ok { reader with inSecondary := true }
    else if trimmed = "end".toList then .ok { reader with inSecondary := false }
    else if reader.inTarget && !reader.inSecondary then
      match stripPrefix "set allowaccess " trimmed with
      | some rest => .error (accessOf rest)
      | none => .ok reader
    else .ok reader

def interfaceAllowaccess (lines : List (List Char)) (interface : String) : Option (List String) :=
  match (lines.map trim).foldlM (TargetReader.step interface) {} with
  | .error access => some access
  | .ok _ => none

/-- The leases are in the order that the map gives them out. -/
def resolveMgmtAccess (showLines : List (List Char)) (leases : List (String × String))
    (managementIp : String) : Option MgmtAccess :=
  match parseMgmtAccess showLines managementIp with
  | some found => some found
  | none =>
    if managementIp.isEmpty || managementIp == "0.0.0.0" then none
    else
      (leases.find? fun lease => lease.2 == managementIp).bind fun lease =>
        (interfaceAllowaccess showLines lease.1).map fun access => ⟨lease.1, none, access⟩

/-! ## Interfaces with secondary addresses -/

namespace Setting

/-- The address that a line sets. -/
def address (setting : Setting) : Option (List Char) :=
  (stripPrefix "set ip " setting.text).bind addressOf

/-- The access that a line sets. -/
def access (setting : Setting) : Option (List String) :=
  (stripPrefix "set allowaccess " setting.text).map accessOf

/-- Neither an address nor access is set. -/
def Quiet (setting : Setting) : Prop :=
  stripPrefix "set ip " setting.text = none ∧ stripPrefix "set allowaccess " setting.text = none

end Setting

/-- A block without entries, addresses and access, and no table of secondary addresses. -/
def Nested.Quiet : Nested → Prop
  | nil => True
  | line (.own setting) _ rest => setting.Quiet ∧ rest.Quiet
  | line _ _ _ => False
  | block name body rest => name.text ≠ "secondaryip".toList ∧ body.Quiet ∧ rest.Quiet

/-- A number as the key of an entry. -/
def EntryName.number (n : ℕ) : EntryName where
  name := (toString n).toList
  bare_word _ := isWord_toString n
  unquoted hmem := absurd (isDigit_of_mem_toString hmem) (by decide)

/-- An entry of `config secondaryip`. -/
structure SecondaryEntry where
  index : ℕ
  settings : List Setting := []
  index_lt : index < 2 ^ 32

namespace SecondaryEntry

def lines (entry : SecondaryEntry) : List ShownLine :=
  .edit (.number entry.index) :: (entry.settings.map .own ++ [.next])

/-- The entry in front of the rest of its table. -/
def nested (entry : SecondaryEntry) (rest : Nested) : Nested :=
  .line (.edit (.number entry.index)) trivial
    (entry.settings.foldr (fun setting => .line (.own setting) trivial) (.line .next trivial rest))

end SecondaryEntry

/-- A nested entry is shown in front of the others. -/
theorem lines_nested {entry : SecondaryEntry} {rest : Nested} :
    (entry.nested rest).lines = entry.lines ++ rest.lines := by
  have hsettings (settings : List Setting) (rest : Nested) :
      (settings.foldr (fun setting => Nested.line (.own setting) trivial) rest).lines =
        settings.map .own ++ rest.lines := by
    induction settings with
    | nil => rfl
    | cons setting settings ih => exact congrArg (ShownLine.own setting :: ·) ih
  have hopen : (entry.nested rest).lines = .edit (.number entry.index) ::
      (entry.settings.foldr (fun setting => Nested.line (.own setting) trivial)
        (.line .next trivial rest)).lines := rfl
  rw [hopen, hsettings, SecondaryEntry.lines, List.cons_append, List.append_assoc]
  rfl

theorem lines_entries {entries : List SecondaryEntry} :
    (entries.foldr SecondaryEntry.nested .nil).lines = entries.flatMap SecondaryEntry.lines := by
  induction entries with
  | nil => rfl
  | cons entry entries ih => rw [List.foldr_cons, lines_nested, ih, List.flatMap_cons]

theorem isWord_secondaryip : IsWord "secondaryip".toList := ⟨by decide, by decide⟩

def secondaryip : BlockName := ⟨"secondaryip".toList, isWord_secondaryip⟩

/-- What stands in an interface. -/
inductive AddressItem where
  | own (setting : Setting)
  | secondaries (entries : List SecondaryEntry)
  | other (name : BlockName) (body : Nested) (not_secondary : name.text ≠ "secondaryip".toList)
    (quiet : body.Quiet)

namespace AddressItem

def shown : AddressItem → InterfaceItem
  | own setting => .own setting
  | secondaries entries => .nested secondaryip (entries.foldr SecondaryEntry.nested .nil)
  | other name body _ _ => .nested name body

def settings : AddressItem → List Setting
  | own setting => [setting]
  | secondaries _ => []
  | other _ _ _ _ => []

def entries : AddressItem → List SecondaryEntry
  | own _ => []
  | secondaries entries => entries
  | other _ _ _ _ => []

end AddressItem

/-- The access that lines set, the last one counting. -/
def lastAccess (settings : List Setting) : Option (List String) :=
  (settings.filterMap Setting.access).getLast?

/-- An address of the device, primary or secondary, with its own lines. -/
structure ShownAddress where
  interface : String
  index : Option ℕ := none
  settings : List Setting

namespace ShownAddress

def Has (managementIp : String) (address : ShownAddress) : Bool :=
  address.settings.any fun setting => setting.address == some managementIp.toList

/-- The access that is printed; none where the device has its default there. -/
def access (address : ShownAddress) : Option (List String) := lastAccess address.settings

/-- The address as it is read: what is not printed counts as no access at all. -/
def found (address : ShownAddress) : MgmtAccess :=
  ⟨address.interface, address.index, address.access.getD []⟩

def loc (address : ShownAddress) : Location := accessLocation address.found

end ShownAddress

/-- An interface that prints its access once at most. -/
structure AddressedInterface where
  key : EntryName
  items : List AddressItem := []
  access_once : ((items.flatMap AddressItem.settings).filterMap Setting.access).length ≤ 1

namespace AddressedInterface

def shown (interface : AddressedInterface) : ShownInterface where
  key := interface.key
  items := interface.items.map AddressItem.shown

def name (interface : AddressedInterface) : String := String.ofList interface.key.name

def primary (interface : AddressedInterface) : ShownAddress where
  interface := interface.name
  settings := interface.items.flatMap AddressItem.settings

def secondary (name : String) (entry : SecondaryEntry) : ShownAddress where
  interface := name
  index := some entry.index
  settings := entry.settings

def secondaries (interface : AddressedInterface) : List ShownAddress :=
  (interface.items.flatMap AddressItem.entries).map (secondary interface.name)

def addresses (interface : AddressedInterface) : List ShownAddress :=
  interface.primary :: interface.secondaries

/-- The address that is the management IP; of several the last secondary one. -/
def owner (managementIp : String) (interface : AddressedInterface) : Option ShownAddress :=
  (interface.secondaries.reverse.find? (ShownAddress.Has managementIp)).or
    (if interface.primary.Has managementIp then some interface.primary else none)

/-- An access that is printed once is the first one and the last. -/
theorem access_of_first (interface : AddressedInterface) {access : List String}
    (h : ((interface.items.flatMap AddressItem.settings).filterMap Setting.access).head? =
      some access) : interface.primary.access = some access := by
  have honce := interface.access_once
  rw [ShownAddress.access, lastAccess, primary]
  dsimp only
  match hprinted : (interface.items.flatMap AddressItem.settings).filterMap Setting.access with
  | [] =>
    rw [hprinted] at h
    cases h
  | [only] =>
    rw [hprinted] at h
    exact h
  | _ :: _ :: _ =>
    rw [hprinted] at honce
    simp at honce

end AddressedInterface

/-- The interfaces of a device. -/
abbrev AddressTable := List AddressedInterface

namespace AddressTable

def shown (table : AddressTable) : InterfaceTable where
  closed := table.map AddressedInterface.shown

/-- The lines of the interfaces. -/
def lines (table : AddressTable) : List ShownLine :=
  table.flatMap fun interface => interface.shown.lines

/-- A text of the table, however its lines are indented. -/
def IsText (table : AddressTable) (lines : List (List Char)) : Prop := table.shown.IsText lines

def addresses (table : AddressTable) : List ShownAddress :=
  table.flatMap AddressedInterface.addresses

/-- The address that is the management IP, in the first interface with one. -/
def owner (table : AddressTable) (managementIp : String) : Option ShownAddress :=
  table.findSome? (AddressedInterface.owner managementIp)

end AddressTable

/-! ## What is read -/

/-- The name of an entry is read as it was printed. -/
theorem entryName_text (key : EntryName) : entryName key.text = String.ofList key.name := by
  obtain ⟨name, quoted, hword, hquote⟩ := key
  rw [entryName, EntryName.text]
  dsimp only
  cases quoted with
  | false =>
    have hkept : trimQuotes name = name := trimQuotes_eq_self_iff.mpr
      ⟨fun hhead => hquote (List.mem_of_head? hhead),
        fun hlast => hquote (List.mem_of_getLast? hlast)⟩
    rw [if_neg Bool.false_ne_true, trim_of_forall (hword rfl).2, hkept]
  | true =>
    have htrim : trim ('"' :: (name ++ ['"'])) = '"' :: (name ++ ['"']) := by
      refine trim_eq_self (by simp [isWhitespace]) ?_
      rw [← List.cons_append, List.getLast?_concat]
      simp [isWhitespace]
    rw [if_pos rfl, htrim, trimQuotes_quoted hquote]

theorem Setting.not_both {setting : Setting} {rest : List Char}
    (h : stripPrefix "set ip " setting.text = some rest) :
    stripPrefix "set allowaccess " setting.text = none := by
  have hother (rest : List Char) :
      stripPrefix "set allowaccess " ("set ip ".toList ++ rest) = none := rfl
  rw [← text_of_stripPrefix h, hother]

/-- A setting is no block. -/
theorem Setting.ne_config {setting : Setting} {name : String} :
    setting.text ≠ ("config " ++ name).toList := by
  intro htext
  have hconfig : stripPrefix "config " ("config " ++ name).toList = some name.toList := by
    rw [String.toList_append]
    rfl
  have hnone := setting.not_config
  rw [htext, hconfig] at hnone
  cases hnone

/-- The last list of access counts. -/
theorem lastAccess_cons {setting : Setting} {settings : List Setting} :
    lastAccess (setting :: settings) = (lastAccess settings).or setting.access := by
  rw [lastAccess, lastAccess, List.filterMap_cons]
  cases setting.access with
  | none => rw [Option.or_none]
  | some access =>
    rw [List.getLast?_cons]
    cases (settings.filterMap Setting.access).getLast? <;> rfl

/-- Of two parts the second one's counts. -/
theorem lastAccess_append {settings settings' : List Setting} :
    lastAccess (settings ++ settings') = (lastAccess settings').or (lastAccess settings) := by
  rw [lastAccess, List.filterMap_append, List.getLast?_append]
  rfl

/-- Read lines one after the other. -/
def readShown {σ ε : Type} (step : σ → List Char → Except ε σ) (reader : σ)
    (lines : List ShownLine) : Except ε σ :=
  (lines.map ShownLine.text).foldlM step reader

section Run

variable {σ ε : Type} {step : σ → List Char → Except ε σ} {reader next : σ} {line : ShownLine}
  {lines lines' : List ShownLine}

theorem readShown_cons (h : step reader line.text = .ok next) :
    readShown step reader (line :: lines) = readShown step next lines := by
  rw [readShown, List.map_cons, List.foldlM_cons, h]
  rfl

/-- The second half is read on from where the first has left the reader. -/
theorem readShown_append (h : readShown step reader lines = .ok next) :
    readShown step reader (lines ++ lines') = readShown step next lines' := by
  rw [readShown, List.map_append, List.foldlM_append, ← readShown, h]
  rfl

/-- Where the first half ends the search, so does the whole. -/
theorem readShown_append_error {found : ε} (h : readShown step reader lines = .error found) :
    readShown step reader (lines ++ lines') = .error found := by
  rw [readShown, List.map_append, List.foldlM_append, ← readShown, h]
  rfl

theorem readShown_one : readShown step reader [line] = step reader line.text := by
  rw [readShown, List.map_singleton, List.foldlM_cons]
  exact bind_pure _

end Run

namespace AccessReader

variable {ip : String} {reader : AccessReader}

/-- What a line of an address tells the reader. -/
def take (ip : String) (reader : AccessReader) (setting : Setting) : AccessReader :=
  if reader.inSecondary then
    { reader with
      secondaryAccess := setting.access.getD reader.secondaryAccess
      secondaryMatches := reader.secondaryMatches || setting.address == some ip.toList }
  else
    { reader with
      primaryAccess := setting.access.getD reader.primaryAccess
      primaryMatches := reader.primaryMatches || setting.address == some ip.toList }

/-- A setting of the interface itself is taken. -/
theorem step_own (setting : Setting) :
    step ip reader setting.text = .ok (reader.take ip setting) := by
  have hsecondary : setting.text ≠ "config secondaryip".toList :=
    @Setting.ne_config setting "secondaryip"
  rw [step, setting.not_edit]
  dsimp only
  rw [if_neg hsecondary, if_neg setting.not_next, if_neg setting.not_end]
  rw [take, Setting.access, Setting.address]
  cases hip : stripPrefix "set ip " setting.text with
  | some rest =>
    rw [Setting.not_both hip]
    by_cases hhit : addressOf rest = some ip.toList
    · simp [hit, hhit]
    · have hmiss : (addressOf rest == some ip.toList) = false := beq_false_of_ne hhit
      simp [hhit, hmiss]
  | none =>
    cases haccess : stripPrefix "set allowaccess " setting.text with
    | some rest => simp [allow]
    | none => simp

/-- An `edit` opens an interface. -/
theorem step_edit (key : EntryName) :
    step ip reader (ShownLine.edit key).text = .ok (reader.edit key.text) := rfl

/-- A `next` ends the search if the interface has the address. -/
theorem step_next : step ip reader ShownLine.next.text = reader.next := rfl

/-- An `end` leaves the secondary addresses. -/
theorem step_close :
    step ip reader ShownLine.close.text = .ok { reader with inSecondary := false } :=
  rfl

/-- Only the block of secondary addresses is entered. -/
theorem step_config (name : BlockName) : step ip reader (ShownLine.config name).text =
    .ok (if name.text = "secondaryip".toList then { reader with inSecondary := true }
      else reader) := by
  have hedit (rest : List Char) : stripPrefix "edit " ("config ".toList ++ rest) = none := rfl
  have hip (rest : List Char) : stripPrefix "set ip " ("config ".toList ++ rest) = none := rfl
  have haccess (rest : List Char) :
      stripPrefix "set allowaccess " ("config ".toList ++ rest) = none := rfl
  have hnext (rest : List Char) : "config ".toList ++ rest ≠ "next".toList := by simp
  have hend (rest : List Char) : "config ".toList ++ rest ≠ "end".toList := by simp
  have htable : "config secondaryip".toList = "config ".toList ++ "secondaryip".toList := by decide
  have htext : (ShownLine.config name).text = "config ".toList ++ name.text := rfl
  rw [htext, step, hedit]
  dsimp only
  by_cases hname : name.text = "secondaryip".toList
  · rw [if_pos hname, hname]
    exact if_pos htable.symm
  · have hother : "config ".toList ++ name.text ≠ "config secondaryip".toList := by
      rw [htable]
      exact fun h => hname (List.append_cancel_left h)
    rw [if_neg hother, if_neg (hnext name.text), if_neg (hend name.text), hip, haccess,
      if_neg hname]

/-- What was read of an interface that is open. -/
structure Reads (ip name : String) (own : List Setting) (secondaries : List ShownAddress)
    (reader : AccessReader) : Prop where
  interface : reader.interface = some name
  access : reader.primaryAccess = (lastAccess own).getD []
  hit : reader.primaryMatches = own.any fun setting => setting.address == some ip.toList
  found : reader.foundSecondary =
    (secondaries.reverse.find? (ShownAddress.Has ip)).map ShownAddress.found

section Walk

variable {name : String} {own : List Setting} {secondaries : List ShownAddress}

/-- A setting of the interface itself is read as its own. -/
theorem Reads.setting (h : Reads ip name own secondaries reader) (hout : reader.inSecondary = false)
    (setting : Setting) : Reads ip name (own ++ [setting]) secondaries (reader.take ip setting) ∧
      (reader.take ip setting).inSecondary = false := by
  rw [take, if_neg (by simp [hout])]
  refine ⟨⟨h.interface, ?_, ?_, h.found⟩, hout⟩
  · have hlast : lastAccess [setting] = setting.access := lastAccess_cons
    rw [lastAccess_append, hlast]
    cases setting.access with
    | none => exact h.access
    | some access => rfl
  · rw [List.any_append, ← h.hit]
    simp

/-- The lines of a secondary address. -/
theorem run_settings (settings : List Setting) (hin : reader.inSecondary = true) :
    readShown (step ip) reader (settings.map .own) = .ok
      { reader with
        secondaryAccess := (lastAccess settings).getD reader.secondaryAccess
        secondaryMatches := reader.secondaryMatches ||
          settings.any fun setting => setting.address == some ip.toList } := by
  induction settings generalizing reader with
  | nil => simp [readShown, lastAccess, pure, Except.pure]
  | cons setting settings ih =>
    have hstays : (reader.take ip setting).inSecondary = true := by
      rw [take, if_pos hin]
      exact hin
    rw [List.map_cons, readShown_cons (step_own setting), ih hstays]
    rw [take, if_pos hin, lastAccess_cons, List.any_cons, ← Bool.or_assoc]
    cases lastAccess settings <;> rfl

/-- An entry of the secondary addresses is one more address that was read. -/
theorem Reads.entry (h : Reads ip name own secondaries reader) (hin : reader.inSecondary = true)
    (entry : SecondaryEntry) : ∃ next, readShown (step ip) reader entry.lines = .ok next ∧
      Reads ip name own (secondaries ++ [AddressedInterface.secondary name entry]) next ∧
        next.inSecondary = true := by
  let opened : AccessReader :=
    { reader with
      secondaryIndex := some entry.index
      secondaryAccess := []
      secondaryMatches := false }
  have hedit : reader.edit (EntryName.number entry.index).text = opened := by
    have hindex : trim (EntryName.number entry.index).text = (toString entry.index).toList :=
      trim_of_forall (isWord_toString entry.index).2
    rw [edit, if_pos hin, hindex, parseUint_toString entry.index_lt]
  have hopen : step ip reader (ShownLine.edit (.number entry.index)).text = .ok opened := by
    rw [step_edit, hedit]
  rw [SecondaryEntry.lines, readShown_cons hopen,
    readShown_append (@run_settings ip opened _ hin), readShown_one,
    step_next, next]
  have hlast : (secondaries ++ [AddressedInterface.secondary name entry]).reverse =
      AddressedInterface.secondary name entry :: secondaries.reverse := List.reverse_concat ..
  dsimp only
  rw [hin, Bool.true_and, Bool.false_or, h.interface]
  -- `next` keeps the entry where it is the wanted address, else what was found before
  cases hhas : entry.settings.any fun setting => setting.address == some ip.toList with
  | true =>
    have hmine : (AddressedInterface.secondary name entry).Has ip = true := hhas
    refine ⟨_, rfl, ⟨rfl, h.access, h.hit, ?_⟩, rfl⟩
    rw [hlast, List.find?_cons_of_pos hmine]
    rfl
  | false =>
    have hother : (AddressedInterface.secondary name entry).Has ip = false := hhas
    refine ⟨_, rfl, ⟨rfl, h.access, h.hit, ?_⟩, rfl⟩
    rw [hlast, List.find?_cons_of_neg (by simp [hother])]
    exact h.found

/-- The secondary addresses are read with their own lists. -/
theorem Reads.entries (h : Reads ip name own secondaries reader) (hin : reader.inSecondary = true)
    (entries : List SecondaryEntry) : ∃ next,
      readShown (step ip) reader (entries.flatMap SecondaryEntry.lines) = .ok next ∧
        Reads ip name own (secondaries ++ entries.map (AddressedInterface.secondary name)) next ∧
          next.inSecondary = true := by
  induction entries generalizing reader secondaries with
  | nil =>
    rw [List.map_nil, List.append_nil]
    exact ⟨reader, rfl, h, hin⟩
  | cons entry entries ih =>
    obtain ⟨next, hrun, hnext, hstays⟩ := h.entry hin entry
    rw [List.flatMap_cons, readShown_append hrun, List.map_cons, List.append_cons]
    exact ih hnext hstays

theorem step_close_outside (hout : reader.inSecondary = false) :
    step ip reader ShownLine.close.text = .ok reader := by
  rw [step_close, ← hout]

/-- Nothing of a quiet block is read. -/
theorem run_quiet (nested : Nested) (hquiet : nested.Quiet) (hout : reader.inSecondary = false) :
    readShown (step ip) reader nested.lines = .ok reader := by
  induction nested with
  | nil => rfl
  | line line plain rest ih =>
    cases line with
    | own setting =>
      obtain ⟨⟨hip, haccess⟩, hrest⟩ := hquiet
      have hsame : reader.take ip setting = reader := by
        rw [take, if_neg (by simp [hout]), Setting.access, Setting.address, hip, haccess]
        simp
      have hstep : step ip reader (ShownLine.own setting).text = .ok reader := by
        rw [ShownLine.text_own, step_own, hsame]
      rw [Nested.lines, readShown_cons hstep]
      exact ih hrest
    | _ => exact hquiet.elim
  | block name body rest ihbody ihrest =>
    obtain ⟨hname, hbody, hrest⟩ := hquiet
    have hconfig : step ip reader (ShownLine.config name).text = .ok reader := by
      rw [step_config, if_neg hname]
    rw [Nested.lines, readShown_cons hconfig, readShown_append (ihbody hbody),
      readShown_cons (step_close_outside hout)]
    exact ihrest hrest

/-- An item leaves the reader where it was, or ends the search. -/
theorem Reads.item (h : Reads ip name own secondaries reader) (hout : reader.inSecondary = false)
    (item : AddressItem) : ∃ next, readShown (step ip) reader item.shown.lines = .ok next ∧
      Reads ip name (own ++ item.settings)
        (secondaries ++ item.entries.map (AddressedInterface.secondary name)) next ∧
      next.inSecondary = false := by
  cases item with
  | own setting =>
    obtain ⟨hnext, hstays⟩ := h.setting hout setting
    refine ⟨_, ?_, ?_, hstays⟩
    · exact readShown_one.trans (step_own setting)
    · rw [AddressItem.entries, List.map_nil, List.append_nil]
      exact hnext
  | secondaries entries =>
    have hconfig : step ip reader (ShownLine.config secondaryip).text =
        .ok { reader with inSecondary := true } := by
      rw [step_config]
      exact congrArg Except.ok (if_pos rfl)
    have hopen : Reads ip name own secondaries { reader with inSecondary := true } :=
      ⟨h.interface, h.access, h.hit, h.found⟩
    obtain ⟨next, hrun, hnext, -⟩ := hopen.entries rfl entries
    refine ⟨{ next with inSecondary := false }, ?_,
      ⟨hnext.interface, ?_, ?_, hnext.found⟩, rfl⟩
    · rw [AddressItem.shown, InterfaceItem.lines, lines_entries, readShown_cons hconfig,
        readShown_append hrun, readShown_one, step_close]
    · rw [AddressItem.settings, List.append_nil]
      exact hnext.access
    · rw [AddressItem.settings, List.append_nil]
      exact hnext.hit
  -- any other nested table is read through without effect
  | other name body not_secondary quiet =>
    have hconfig : step ip reader (ShownLine.config name).text = .ok reader := by
      rw [step_config, if_neg not_secondary]
    refine ⟨reader, ?_, ?_, hout⟩
    · rw [AddressItem.shown, InterfaceItem.lines, readShown_cons hconfig,
        readShown_append (run_quiet body quiet hout), readShown_one, step_close_outside hout]
    · rw [AddressItem.settings, AddressItem.entries, List.map_nil, List.append_nil,
        List.append_nil]
      exact h

/-- So do several. -/
theorem Reads.items (h : Reads ip name own secondaries reader) (hout : reader.inSecondary = false)
    (items : List AddressItem) : ∃ next,
      readShown (step ip) reader ((items.map AddressItem.shown).flatMap InterfaceItem.lines) =
        .ok next ∧
        Reads ip name (own ++ items.flatMap AddressItem.settings) (secondaries ++
          (items.flatMap AddressItem.entries).map (AddressedInterface.secondary name)) next ∧
        next.inSecondary = false := by
  induction items generalizing reader own secondaries with
  | nil =>
    refine ⟨reader, rfl, ?_, hout⟩
    rw [List.flatMap_nil, List.flatMap_nil, List.map_nil, List.append_nil, List.append_nil]
    exact h
  | cons item items ih =>
    obtain ⟨next, hrun, hnext, hstays⟩ := h.item hout item
    obtain ⟨last, hlast, hitems, hleft⟩ := ih hnext hstays
    refine ⟨last, ?_, ?_, hleft⟩
    · rw [List.map_cons, List.flatMap_cons, readShown_append hrun, hlast]
    · rw [List.flatMap_cons, List.flatMap_cons, List.map_append, ← List.append_assoc,
        ← List.append_assoc]
      exact hitems

/-- An interface that has the address is returned at its end, and another one leaves nothing. -/
theorem run_interface (hout : reader.inSecondary = false) (interface : AddressedInterface) :
    (∃ address, interface.owner ip = some address ∧
      readShown (step ip) reader interface.shown.lines = .error (some address.found)) ∨
    (interface.owner ip = none ∧ ∃ next, readShown (step ip) reader interface.shown.lines =
      .ok next ∧
      next.inSecondary = false) := by
  have hedit : step ip reader (ShownLine.edit interface.key).text = .ok
      { reader with
        interface := some interface.name
        primaryAccess := []
        primaryMatches := false
        foundSecondary := none } := by
    rw [step_edit, edit, if_neg (by simp [hout]), entryName_text, AddressedInterface.name]
  -- the `edit` line forgets what the interface before it had
  have hopen : Reads ip interface.name [] []
      { reader with
        interface := some interface.name
        primaryAccess := []
        primaryMatches := false
        foundSecondary := none } := ⟨rfl, rfl, rfl, rfl⟩
  obtain ⟨inside, hrun, hinside, hstays⟩ := hopen.items hout interface.items
  have hlines : readShown (step ip) reader interface.shown.lines = inside.next := by
    rw [ShownInterface.lines, ShownInterface.inner, List.cons_append]
    refine (readShown_cons hedit).trans ((readShown_append hrun).trans ?_)
    rw [readShown_one, step_next]
  have hfound : inside.foundSecondary = (interface.secondaries.reverse.find?
    (ShownAddress.Has ip)).map ShownAddress.found := hinside.found
  have haccess : inside.primaryAccess = interface.primary.access.getD [] := hinside.access
  have hhit : inside.primaryMatches = interface.primary.Has ip := hinside.hit
  rw [hlines, AddressedInterface.owner, next, hstays, hfound, hinside.interface, haccess, hhit]
  -- the last secondary with this address wins over the primary one
  cases interface.secondaries.reverse.find? (ShownAddress.Has ip) with
  | some address =>
    left
    refine ⟨address, rfl, ?_⟩
    cases interface.primary.Has ip <;> rfl
  | none =>
    cases interface.primary.Has ip with
    | true => exact .inl ⟨interface.primary, rfl, rfl⟩
    | false => exact .inr ⟨rfl, inside, rfl, hstays⟩

/-- The first interface with the address ends the search. -/
theorem run_interfaces (hout : reader.inSecondary = false) (table : AddressTable) :
    (∃ address, table.owner ip = some address ∧
      readShown (step ip) reader table.lines =
        .error (some address.found)) ∨
    (table.owner ip = none ∧ ∃ next,
      readShown (step ip) reader table.lines = .ok next ∧
        next.inSecondary = false) := by
  induction table generalizing reader with
  | nil => exact .inr ⟨rfl, reader, rfl, hout⟩
  | cons interface table ih =>
    rw [AddressTable.lines, List.flatMap_cons, AddressTable.owner, List.findSome?_cons]
    rcases run_interface hout interface with ⟨address, howner, hrun⟩ | ⟨howner, next, hrun, hstays⟩
    · rw [howner]
      exact .inl ⟨address, rfl, readShown_append_error hrun⟩
    · rw [howner, readShown_append hrun]
      exact ih hstays

end Walk

end AccessReader

namespace TargetReader

variable {name : String} {reader : TargetReader}

theorem step_edit (key : EntryName) : step name reader (ShownLine.edit key).text =
    .ok (if reader.inSecondary then reader
      else { reader with inTarget := String.ofList key.name == name }) := by
  have hedit (rest : List Char) : stripPrefix "edit " ("edit ".toList ++ rest) = some rest := rfl
  rw [ShownLine.text_edit, step, hedit]
  dsimp only
  rw [entryName_text]

theorem step_next : step name reader ShownLine.next.text = .ok reader := by
  obtain ⟨inTarget, inSecondary⟩ := reader
  cases inTarget <;> cases inSecondary <;> rfl

theorem step_close : step name reader ShownLine.close.text =
    .ok { reader with inSecondary := false } := rfl

theorem step_own (setting : Setting) : step name reader setting.text =
    if reader.inTarget && !reader.inSecondary then
      match setting.access with
      | some access => .error access
      | none => .ok reader
    else .ok reader := by
  have hsecondary : setting.text ≠ "config secondaryip".toList :=
    @Setting.ne_config setting "secondaryip"
  rw [step, setting.not_edit]
  dsimp only
  rw [if_neg hsecondary, if_neg setting.not_end, Setting.access]
  cases stripPrefix "set allowaccess " setting.text <;> rfl

theorem step_config (name' : BlockName) : step name reader (ShownLine.config name').text =
    .ok (if name'.text = "secondaryip".toList then { reader with inSecondary := true }
      else reader) := by
  have hedit (rest : List Char) : stripPrefix "edit " ("config ".toList ++ rest) = none := rfl
  have haccess (rest : List Char) :
      stripPrefix "set allowaccess " ("config ".toList ++ rest) = none := rfl
  have hend (rest : List Char) : "config ".toList ++ rest ≠ "end".toList := by simp
  have htable : "config secondaryip".toList = "config ".toList ++ "secondaryip".toList := by decide
  have htext : (ShownLine.config name').text = "config ".toList ++ name'.text := rfl
  rw [htext, step, hedit]
  dsimp only
  by_cases hname : name'.text = "secondaryip".toList
  · rw [if_pos hname, hname]
    exact if_pos htable.symm
  · have hother : "config ".toList ++ name'.text ≠ "config secondaryip".toList := by
      rw [htable]
      exact fun h => hname (List.append_cancel_left h)
    rw [if_neg hother, if_neg (hend name'.text), haccess, if_neg hname]
    cases reader.inTarget && !reader.inSecondary <;> rfl

/-- Nothing is read of the secondary addresses. -/
theorem read_entries (entries : List SecondaryEntry) (hin : reader.inSecondary = true) :
    readShown (step name) reader (entries.flatMap SecondaryEntry.lines) = .ok reader := by
  have hsettings (settings : List Setting) :
      readShown (step name) reader (settings.map .own) = .ok reader := by
    induction settings with
    | nil => rfl
    | cons setting settings ih =>
      have hstep : step name reader (ShownLine.own setting).text = .ok reader := by
        rw [ShownLine.text_own, step_own, hin, if_neg (by simp)]
      rw [List.map_cons, readShown_cons hstep, ih]
  induction entries with
  | nil => rfl
  | cons entry entries ih =>
    have hedit : step name reader (ShownLine.edit (.number entry.index)).text = .ok reader := by
      rw [step_edit, if_pos hin]
    have hentry : readShown (step name) reader entry.lines = .ok reader := by
      rw [SecondaryEntry.lines, readShown_cons hedit, readShown_append (hsettings _),
        readShown_one, step_next]
    rw [List.flatMap_cons, readShown_append hentry, ih]

theorem step_close_outside (hout : reader.inSecondary = false) :
    step name reader ShownLine.close.text = .ok reader := by
  rw [step_close, ← hout]

/-- Nested blocks without addresses are passed over. -/
theorem read_quiet (nested : Nested) (hquiet : nested.Quiet) (hout : reader.inSecondary = false) :
    readShown (step name) reader nested.lines = .ok reader := by
  induction nested with
  | nil => rfl
  | line line plain rest ih =>
    cases line with
    | own setting =>
      obtain ⟨⟨-, haccess⟩, hrest⟩ := hquiet
      have hstep : step name reader (ShownLine.own setting).text = .ok reader := by
        rw [ShownLine.text_own, step_own, Setting.access, haccess]
        cases reader.inTarget && !reader.inSecondary <;> rfl
      rw [Nested.lines, readShown_cons hstep]
      exact ih hrest
    | _ => exact hquiet.elim
  | block name' body rest ihbody ihrest =>
    obtain ⟨hname, hbody, hrest⟩ := hquiet
    have hconfig : step name reader (ShownLine.config name').text = .ok reader := by
      rw [step_config, if_neg hname]
    rw [Nested.lines, readShown_cons hconfig, readShown_append (ihbody hbody),
      readShown_cons (step_close_outside hout)]
    exact ihrest hrest

/-- What own lines give: the first access, where the interface is looked for. -/
def answer (reader : TargetReader) (settings : List Setting) : Except (List String) TargetReader :=
  if reader.inTarget then
    match (settings.filterMap Setting.access).head? with
    | some access => .error access
    | none => .ok reader
  else .ok reader

theorem answer_nil : reader.answer [] = .ok reader := by
  rw [answer]
  cases reader.inTarget <;> rfl

/-- An item is answered by its own settings. -/
theorem read_item (hout : reader.inSecondary = false) (item : AddressItem) :
    readShown (step name) reader item.shown.lines = reader.answer item.settings := by
  cases item with
  | own setting =>
    refine readShown_one.trans ((step_own setting).trans ?_)
    rw [answer, hout, AddressItem.settings, List.filterMap_cons]
    cases reader.inTarget <;> cases setting.access <;> rfl
  | secondaries entries =>
    have hconfig : step name reader (ShownLine.config secondaryip).text =
        .ok { reader with inSecondary := true } := by
      rw [step_config]
      exact congrArg Except.ok (if_pos rfl)
    rw [AddressItem.shown, InterfaceItem.lines, lines_entries, readShown_cons hconfig,
      readShown_append (read_entries entries rfl), readShown_one, step_close,
      AddressItem.settings, answer_nil, ← hout]
  | other name' body not_secondary quiet =>
    have hconfig : step name reader (ShownLine.config name').text = .ok reader := by
      rw [step_config, if_neg not_secondary]
    rw [AddressItem.shown, InterfaceItem.lines, readShown_cons hconfig,
      readShown_append (read_quiet body quiet hout), readShown_one, step_close_outside hout,
      AddressItem.settings, answer_nil]

/-- So are several. -/
theorem read_items (items : List AddressItem) (hout : reader.inSecondary = false) :
    readShown (step name) reader ((items.map AddressItem.shown).flatMap InterfaceItem.lines) =
      reader.answer (items.flatMap AddressItem.settings) := by
  induction items with
  | nil => exact answer_nil.symm
  | cons item items ih =>
    have hitem := @read_item name reader hout item
    rw [List.map_cons, List.flatMap_cons, List.flatMap_cons]
    by_cases htarget : reader.inTarget = true
    · cases hfirst : (item.settings.filterMap Setting.access).head? with
      | some access =>
        rw [answer, if_pos htarget, hfirst] at hitem
        rw [readShown_append_error hitem, answer, if_pos htarget, List.filterMap_append,
          List.head?_append, hfirst]
        rfl
      | none =>
        rw [answer, if_pos htarget, hfirst] at hitem
        rw [readShown_append hitem, ih, answer, answer, if_pos htarget, if_pos htarget,
          List.filterMap_append, List.head?_append, hfirst]
        rfl
    · rw [answer, if_neg htarget] at hitem
      rw [readShown_append hitem, ih, answer, answer, if_neg htarget, if_neg htarget]

/-- An interface of the name is answered by its first list. -/
theorem read_interface (hout : reader.inSecondary = false) (interface : AddressedInterface) :
    (interface.name = name ∧ ∃ access, interface.primary.access = some access ∧
      readShown (step name) reader interface.shown.lines = .error access) ∨
    ∃ next, readShown (step name) reader interface.shown.lines = .ok next ∧
      next.inSecondary = false := by
  let opened : TargetReader := { reader with inTarget := interface.name == name }
  have hedit : step name reader (ShownLine.edit interface.key).text = .ok opened := by
    rw [step_edit, if_neg (by simp [hout])]
    rfl
  have hitems := @read_items name opened interface.items hout
  have hlines : readShown (step name) reader interface.shown.lines = readShown (step name) opened
      ((interface.items.map AddressItem.shown).flatMap InterfaceItem.lines ++ [.next]) := by
    rw [ShownInterface.lines, ShownInterface.inner, List.cons_append]
    exact readShown_cons hedit
  rw [hlines]
  rw [answer] at hitems
  -- only the target interface answers, and only where it prints its access
  by_cases hname : interface.name = name
  · rw [if_pos (beq_iff_eq.mpr hname)] at hitems
    cases hfirst : ((interface.items.flatMap AddressItem.settings).filterMap
        Setting.access).head? with
    | some access =>
      rw [hfirst] at hitems
      exact .inl ⟨hname, access, interface.access_of_first hfirst,
        readShown_append_error hitems⟩
    | none =>
      rw [hfirst] at hitems
      refine .inr ⟨opened, ?_, hout⟩
      rw [readShown_append hitems, readShown_one, step_next]
  · rw [if_neg (by simpa [opened] using hname)] at hitems
    refine .inr ⟨opened, ?_, hout⟩
    rw [readShown_append hitems, readShown_one, step_next]

/-- What is returned is what an interface of the name prints. -/
theorem read_table (hout : reader.inSecondary = false) (table : AddressTable) :
    (∃ interface ∈ table, interface.name = name ∧ ∃ access,
      interface.primary.access = some access ∧
        readShown (step name) reader table.lines = .error access) ∨
    ∃ next, readShown (step name) reader table.lines = .ok next ∧ next.inSecondary = false := by
  induction table generalizing reader with
  | nil => exact .inr ⟨reader, rfl, hout⟩
  | cons interface table ih =>
    rw [AddressTable.lines, List.flatMap_cons]
    rcases @read_interface name reader hout interface with
      ⟨hname, access, haccess, hread⟩ | ⟨next, hread, hstays⟩
    · exact .inl ⟨interface, List.mem_cons_self, hname, access, haccess,
        readShown_append_error hread⟩
    · rw [readShown_append hread]
      rcases ih hstays with ⟨other, hmem, hother⟩ | hok
      · exact .inl ⟨other, List.mem_cons_of_mem _ hmem, hother⟩
      · exact .inr hok

end TargetReader

section Text

variable {table : AddressTable} {raw : List (List Char)} {ip : String}

theorem AddressTable.texts (h : table.IsText raw) : raw.map trim =
    "config system interface".toList ::
      (table.lines ++ [ShownLine.close]).map ShownLine.text := by
  have hlines : table.shown.lines =
      table.lines ++ [ShownLine.close] := by
    rw [InterfaceTable.lines, AddressTable.shown, List.flatMap_map]
    rfl
  exact hlines ▸ h

/-- The management address is read as the one that owns the management IP, with the access that is
printed for it. -/
theorem parseMgmtAccess_eq (h : table.IsText raw) :
    parseMgmtAccess raw ip = (table.owner ip).map ShownAddress.found := by
  have hhead : AccessReader.step ip {} "config system interface".toList = .ok {} := by
    rfl
  rw [parseMgmtAccess, AddressTable.texts h, List.foldlM_cons, hhead]
  have hfold : (do
      let reader ← (.ok {} : Except (Option MgmtAccess) AccessReader)
      ((table.lines ++ [ShownLine.close]).map
        ShownLine.text).foldlM (AccessReader.step ip) reader) =
      readShown (AccessReader.step ip) {}
        (table.lines ++ [ShownLine.close]) := rfl
  rw [hfold]
  have houtside : ({} : AccessReader).inSecondary = false := rfl
  rcases AccessReader.run_interfaces houtside table with
    ⟨address, howner, hrun⟩ | ⟨howner, next, hrun, -⟩
  · rw [howner, readShown_append_error hrun]
    rfl
  · rw [howner, readShown_append hrun, readShown_one, AccessReader.step_close]
    rfl

/-- The access of a leasing interface is the one that it prints. -/
theorem interfaceAllowaccess_printed (h : table.IsText raw) {name : String}
    {access : List String} (hread : interfaceAllowaccess raw name = some access) :
    ∃ interface ∈ table, interface.name = name ∧ interface.primary.access = some access := by
  have hhead : TargetReader.step name {} "config system interface".toList = .ok {} := by
    rfl
  have hfold : (do
      let reader ← (.ok {} : Except (List String) TargetReader)
      ((table.lines ++ [ShownLine.close]).map ShownLine.text).foldlM
        (TargetReader.step name) reader) =
      readShown (TargetReader.step name) {} (table.lines ++ [ShownLine.close]) := rfl
  rw [interfaceAllowaccess, AddressTable.texts h, List.foldlM_cons, hhead, hfold] at hread
  have houtside : ({} : TargetReader).inSecondary = false := rfl
  rcases TargetReader.read_table houtside table with
    ⟨interface, hmem, hname, printed, hprinted, hrun⟩ | ⟨next, hrun, -⟩
  · rw [readShown_append_error hrun] at hread
    exact ⟨interface, hmem, hname, hprinted.trans hread⟩
  · rw [readShown_append hrun, readShown_one, TargetReader.step_close] at hread
    cases hread

end Text

end SwitchConfigurator.Fortiswitch
