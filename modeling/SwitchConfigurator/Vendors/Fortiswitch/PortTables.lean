import Mathlib.Data.String.Basic
import SwitchConfigurator.Foundations.TableWalk
import SwitchConfigurator.Vendors.Aruba.RunningConfig
import SwitchConfigurator.Vendors.Fortiswitch.AccessReader
import SwitchConfigurator.Vendors.Fortiswitch.LookupText
import SwitchConfigurator.Vendors.Fortiswitch.MirrorRoundTrip
import SwitchConfigurator.Vendors.Fortiswitch.SnmpReader
import SwitchConfigurator.Vendors.Fortiswitch.SviDetails
import SwitchConfigurator.Vendors.Fortiswitch.VlanList

/-!
# The VLANs and ports of a FortiSwitch

`parse_switch_vlan_ids`, `parse_switch_interface_ports` and `parse_physical_ports` read a table each
and look at the lines of its own level only. `build_ports` makes ports of the last two, and
`parse_current_state` puts the whole state together.
-/

namespace SwitchConfigurator.Fortiswitch

open Cli TableWalk

/-! ## The loops -/

/-- A loop over the lines, already trimmed, of the table under a header. -/
def tableWalker {σ ρ : Type} (header : String) (line : σ → List Char → σ) (close : σ → Except ρ σ) :
    Walker (List Char) σ ρ where
  header trimmed := trimmed == header.toList
  opens trimmed := (stripPrefix "config " trimmed).isSome
  closes trimmed := trimmed == "end".toList
  line
  close

/-- An `edit` of the VLAN database, whose end ends the loop. -/
def vlanIdWalker : Walker (List Char) (List ℕ) (List ℕ) :=
  tableWalker "config switch vlan"
    (fun ids trimmed =>
      ids ++ ((stripPrefix "edit " trimmed).bind fun rest =>
        parseUint 16 (trimQuotes (trim rest))).toList)
    .error

def parseSwitchVlanIds (lines : List (List Char)) : List ℕ :=
  match vlanIdWalker.run { state := [] } (lines.map trim) with
  | .error ids => ids
  | .ok reader => reader.state

/-- The variables of the loops over a table of ports. -/
structure PortReader (Info : Type) where
  result : List (String × Info) := []
  currentPort : Option String := none
  current : Info

namespace PortReader

variable {Info : Type} (blank : Info) (setting : Info → List Char → Option Info)

/-- The port that is open goes to the result. -/
def flush (reader : PortReader Info) : PortReader Info :=
  { reader with
    result := match reader.currentPort with
      | some portId => put portId reader.current reader.result
      | none => reader.result
    currentPort := none }

/-- A line of the table's own level. -/
def line (reader : PortReader Info) (trimmed : List Char) : PortReader Info :=
  match stripPrefix "edit " trimmed with
  | some rest =>
    { reader.flush with currentPort := some (entryName rest), current := blank }
  | none =>
    if reader.currentPort.isNone then reader
    else match setting reader.current trimmed with
      | some current => { reader with current }
      | none =>
        if trimmed = "next".toList then { reader.flush with current := blank } else reader

end PortReader

/-- A loop over a table of ports, which goes on behind the end of the table. -/
def parsePorts {Info : Type} (header : String) (blank : Info)
    (setting : Info → List Char → Option Info) (lines : List (List Char)) :
    List (String × Info) :=
  let walker : Walker (List Char) (PortReader Info) Empty :=
    tableWalker header (PortReader.line blank setting) fun reader => .ok reader.flush
  match walker.run { state := { current := blank } } (lines.map trim) with
  | .ok reader => reader.state.flush.result

structure PortInterfaceInfo where
  description : Option String := none
  nativeVlan : Option ℕ := none
  allowedVlans : List ℕ := []
  deriving DecidableEq, Repr

def PortInterfaceInfo.setting (info : PortInterfaceInfo) (trimmed : List Char) :
    Option PortInterfaceInfo :=
  match stripPrefix "set description " trimmed with
  | some description =>
    some { info with description := some (String.ofList (trimQuotes description)) }
  | none =>
    match stripPrefix "set native-vlan " trimmed with
    | some rest => some { info with nativeVlan := parseUint 16 (trim rest) }
    | none => (stripPrefix "set allowed-vlans " trimmed).map fun rest =>
        { info with allowedVlans := parseVlanList rest }

def parseSwitchInterfacePorts (lines : List (List Char)) : List (String × PortInterfaceInfo) :=
  parsePorts "config switch interface" {} PortInterfaceInfo.setting lines

/-- What is `none` was never printed. -/
structure PhysicalPortInfo where
  enabled : Option Bool := none
  poeEnabled : Option Bool := none
  speedDuplex : Option SpeedDuplex := none
  deriving DecidableEq, Repr

def parseSpeedFromFortiswitch (s : List Char) : SpeedDuplex :=
  match String.ofList s with
  | "10half" => .tenHalf
  | "10full" => .tenFull
  | "100half" => .hundredHalf
  | "100full" => .hundredFull
  | "1000full" => .thousandFull
  | "10000full" => .tenGFull
  | _ => .auto

def PhysicalPortInfo.setting (info : PhysicalPortInfo) (trimmed : List Char) :
    Option PhysicalPortInfo :=
  if trimmed = "set status up".toList then some { info with enabled := some true }
  else if trimmed = "set status down".toList then some { info with enabled := some false }
  else if trimmed = "set poe-status enable".toList then some { info with poeEnabled := some true }
  else if trimmed = "set poe-status disable".toList then some { info with poeEnabled := some false }
  else (stripPrefix "set speed " trimmed).map fun rest =>
    { info with speedDuplex := some (parseSpeedFromFortiswitch (trim rest)) }

def parsePhysicalPorts (lines : List (List Char)) : List (String × PhysicalPortInfo) :=
  parsePorts "config switch physical-port" {} PhysicalPortInfo.setting lines

/-! ## The ports -/

/-- The names of both tables in ascending order, those of the switch's own interfaces left out. -/
def numberedPorts (interfaces : List (String × PortInterfaceInfo))
    (physical : List (String × PhysicalPortInfo)) : List String :=
  ((interfaces.map Prod.fst ++ physical.map Prod.fst).dedup.insertionSort (· ≤ ·)).filter
    isNumberedPort

def buildPort (model : Option SwitchModel) (interfaceId : String) (iface : PortInterfaceInfo)
    (phys : PhysicalPortInfo) : Port :=
  let portId := denormalizePortId interfaceId
  let native := iface.nativeVlan.getD 1
  let tagged := iface.allowedVlans.filter (· ≠ native)
  { portId
    mode := if tagged.isEmpty then .access else .trunk
    vlan := native
    taggedVlans := tagged
    description := iface.description
    enabled := phys.enabled.getD true
    -- a setting that is not printed has the default of the switch
    poeEnabled := phys.poeEnabled.getD (model.any (·.portSupportsPoe portId))
    macNotify := false
    speedDuplex := phys.speedDuplex.getD .auto }

def buildPorts (model : Option SwitchModel) (interfaces : List (String × PortInterfaceInfo))
    (physical : List (String × PhysicalPortInfo)) : List Port :=
  (numberedPorts interfaces physical).map fun interfaceId =>
    buildPort model interfaceId ((interfaces.lookup interfaceId).getD {})
      ((physical.lookup interfaceId).getD {})

/-! ## The state -/

structure FortiSwitchConfigBlocks where
  systemInterface : List Char
  switchVlan : List Char
  switchInterface : List Char
  physicalPort : List Char
  switchMirror : List Char
  snmpCommunity : List Char
  snmpSysinfo : List Char
  /-- `get system interface`, which has the leased addresses too. -/
  interfaceAddresses : List Char

/-- A status that is not printed is the default, which is off. -/
def parseSnmpSysinfoEnabled (inBlock : Bool) : List (List Char) → Bool
  | [] => false
  | line :: rest =>
    let trimmed := trim line
    if trimmed = "config system snmp sysinfo".toList then parseSnmpSysinfoEnabled true rest
    else if inBlock && trimmed == "end".toList then false
    else if inBlock && trimmed == "set status enable".toList then true
    else parseSnmpSysinfoEnabled inBlock rest

def parseInterfaceAddresses (lines : List (List Char)) : List (String × String) :=
  lines.foldl (fun addresses line =>
    let after (key : String) := tokenAfter (· == key.toList) (splitWhitespace line)
    match after "name:", after "ip:" with
    | some name, some ip => put (String.ofList name) (String.ofList ip) addresses
    | _, _ => addresses) []

/-- A VLAN of the database: its name is never written to the device. -/
def assembleVlan (config : SwitchConfig) (details : List (ℕ × SviDetails)) (id : ℕ) : Vlan :=
  let svi := details.lookup id
  let desired := config.vlans.find? (·.id == id)
  { id
    name := ((desired.map Vlan.name).or (svi.bind SviDetails.description)).getD s!"vlan{id}"
    description := (svi.bind SviDetails.description).or (desired.bind Vlan.description)
    ipConfig := (svi.map SviDetails.ipConfig).getD .none }

/-- The state, and the switch that remembers what SNMP needs besides. `hardwareWarnings` is what
`get system status` gives rise to. -/
def parseCurrentState (switch : FortiswitchSwitch) (hardwareWarnings : List String)
    (raw : FortiSwitchConfigBlocks) : FortiswitchSwitch × SwitchState :=
  let linesOf (text : List Char) := strLines (Aruba.stripAnsi text)
  let details := parseSviDetails (linesOf raw.systemInterface)
  ({ switch with
      snmpCommunityIndices := parseSnmpCommunityIndices (linesOf raw.snmpCommunity)
      snmpSysinfoEnabled := some (parseSnmpSysinfoEnabled false (linesOf raw.snmpSysinfo))
      mgmtAccess := resolveMgmtAccess (linesOf raw.systemInterface)
        (parseInterfaceAddresses (linesOf raw.interfaceAddresses))
        (switch.config.managementIp.getD "") },
    { vlans :=
        (parseSwitchVlanIds (linesOf raw.switchVlan)).map (assembleVlan switch.config details)
      ports := buildPorts switch.config.model
        (parseSwitchInterfacePorts (linesOf raw.switchInterface))
        (parsePhysicalPorts (linesOf raw.physicalPort))
      portMirrors := parseSwitchMirrors (linesOf raw.switchMirror)
      snmp :=
        match parseSnmpCommunity (linesOf raw.snmpCommunity), effectiveSnmp switch.config with
        | some parsed, some desired => some (adoptDesiredAccess parsed desired)
        | parsed, _ => parsed
      managementVlan := parseManagementVlan (linesOf raw.systemInterface)
      warnings := hardwareWarnings })

/-! ## Tables as they are shown -/

/-- A text of one table, however its lines are indented. -/
def ShowsTable (header : String) (entries : List ShownInterface) (lines : List (List Char)) :
    Prop :=
  lines.map trim = header.toList ::
    ((entries.flatMap ShownInterface.lines).map ShownLine.text ++ [ShownLine.close.text])

instance {header : String} {entries : List ShownInterface} {lines : List (List Char)} :
    Decidable (ShowsTable header entries lines) := inferInstanceAs (Decidable (_ = _))

namespace ShownInterface

variable (entry : ShownInterface)

/-- The lines of an entry that stand in no nested block. -/
def own : List (List Char) :=
  (ShownLine.edit entry.key).text :: (entry.settings.map Setting.text ++ [ShownLine.next.text])

/-- The name of an entry. -/
def name : String := String.ofList entry.key.name

end ShownInterface

/-- The header of a table whose name has a blank in it. -/
def IsHeader (header : String) : Prop :=
  ∃ table, header.toList = "config ".toList ++ table ∧ ' ' ∈ table

section Shown

variable {σ ρ : Type} {header : String} {line : σ → List Char → σ} {close : σ → Except ρ σ}

/-- No line inside of a table is taken for its header. -/
theorem IsHeader.ne_text (h : IsHeader header) (shown : ShownLine) :
    shown.text ≠ header.toList := by
  obtain ⟨table, hheader, hblank⟩ := h
  have hconfig : stripPrefix "config " header.toList = some table := by
    rw [hheader]
    rfl
  intro heq
  cases shown with
  | config name =>
    have htable : name.text = table := List.append_cancel_left (heq.trans hheader)
    exact absurd (name.word.2 ' ' (htable ▸ hblank)) (by decide)
  | own setting =>
    have hnone := setting.not_config
    rw [show setting.text = header.toList from heq, hconfig] at hnone
    cases hnone
  | edit key =>
    rw [← heq] at hconfig
    cases hconfig
  | next =>
    rw [← heq] at hconfig
    cases hconfig
  | close =>
    rw [← heq] at hconfig
    cases hconfig

section Levels

variable (h : IsHeader header)
include h

theorem level_plain {shown : ShownLine} (hplain : shown.IsPlain) {lines own : List (List Char)}
    (hrest : (tableWalker header line close).Level lines own) :
    (tableWalker header line close).Level (shown.text :: lines) (shown.text :: own) := by
  obtain ⟨hconfig, hend⟩ := hplain.not_word
  refine .line (beq_false_of_ne (h.ne_text shown)) ?_ (beq_false_of_ne hend) hrest
  show (stripPrefix "config " shown.text).isSome = false
  rw [hconfig, Option.isSome_none]

/-- A setting at the level of the table's entry is its own. -/
theorem level_own (setting : Setting) {lines own : List (List Char)}
    (hrest : (tableWalker header line close).Level lines own) :
    (tableWalker header line close).Level (setting.text :: lines) (setting.text :: own) :=
  @level_plain _ _ _ _ _ h (.own setting) trivial _ _ hrest

/-- A block is passed over, with all that is in it. -/
theorem level_block (name : BlockName) {inner innerOwn lines own : List (List Char)}
    (hinner : (tableWalker header line close).Level inner innerOwn)
    (hrest : (tableWalker header line close).Level lines own) :
    (tableWalker header line close).Level
      ((ShownLine.config name).text :: (inner ++ ShownLine.close.text :: lines)) own :=
  .block (beq_false_of_ne (h.ne_text (.config name))) rfl (beq_false_of_ne (h.ne_text .close)) rfl
    rfl hinner hrest

theorem level_nested (nested : Nested) :
    ∃ own, (tableWalker header line close).Level (nested.lines.map ShownLine.text) own := by
  induction nested with
  | nil => exact ⟨[], .nil⟩
  | line shown plain rest ih =>
    obtain ⟨own, hrest⟩ := ih
    exact ⟨shown.text :: own, level_plain h plain hrest⟩
  | block name body rest ihBody ihRest =>
    obtain ⟨_, hbody⟩ := ihBody
    obtain ⟨own, hrest⟩ := ihRest
    refine ⟨own, ?_⟩
    rw [Nested.lines, List.map_cons, List.map_append, List.map_cons]
    exact level_block h name hbody hrest

theorem level_item (item : InterfaceItem) : (tableWalker header line close).Level
    (item.lines.map ShownLine.text) (item.setting.toList.map Setting.text) := by
  cases item with
  | own setting => exact level_own h setting .nil
  | nested name body =>
    obtain ⟨_, hbody⟩ : ∃ own, (tableWalker header line close).Level
      (body.lines.map ShownLine.text) own := level_nested h body
    rw [InterfaceItem.lines, List.map_cons, List.map_append]
    exact level_block h name hbody .nil

/-- An entry has its own settings only. -/
theorem level_entry (entry : ShownInterface) :
    (tableWalker header line close).Level (entry.lines.map ShownLine.text) entry.own := by
  have hitems : (tableWalker header line close).Level
      ((entry.items.flatMap InterfaceItem.lines).map ShownLine.text)
      (entry.settings.map Setting.text) := by
    rw [List.map_flatMap, ShownInterface.settings, List.filterMap_eq_flatMap_toList,
      List.map_flatMap]
    exact .flatMap fun item _ => level_item h item
  have hnext : (tableWalker header line close).Level [ShownLine.next.text] [ShownLine.next.text] :=
    @level_plain _ _ _ _ _ h .next trivial _ _ .nil
  rw [ShownInterface.lines, ShownInterface.inner, List.map_append, List.map_cons, List.cons_append]
  exact @level_plain _ _ _ _ _ h (.edit entry.key) trivial _ _ (hitems.append hnext)

/-- Of a table the lines that stand in no nested block are read. -/
theorem run_shown {entries : List ShownInterface} {lines : List (List Char)}
    (hshows : ShowsTable header entries lines) (reader : Reader σ) :
    (tableWalker header line close).run reader (lines.map trim) =
      (close ((entries.flatMap ShownInterface.own).foldl line reader.state)).map
        fun state => { state } := by
  have hlevel : (tableWalker header line close).Level
      ((entries.flatMap ShownInterface.lines).map ShownLine.text)
      (entries.flatMap ShownInterface.own) := by
    rw [List.map_flatMap]
    exact .flatMap fun entry _ => level_entry h entry
  rw [hshows]
  exact hlevel.run_table (beq_self_eq_true _) (beq_false_of_ne (h.ne_text .close)) rfl rfl

end Levels

end Shown

/-! ## The tables as they are read -/

theorem stripPrefix_edit (key : EntryName) :
    stripPrefix "edit " (ShownLine.edit key).text = some key.text := rfl

/-- The VLANs of the database are those that an entry has the number of. -/
theorem parseSwitchVlanIds_shown {entries : List ShownInterface} {lines : List (List Char)}
    (h : ShowsTable "config switch vlan" entries lines) :
    parseSwitchVlanIds lines = entries.filterMap fun entry => parseUint 16 entry.key.name := by
  have hheader : IsHeader "config switch vlan" := ⟨"switch vlan".toList, rfl, by decide⟩
  have hkey (key : EntryName) : trimQuotes (trim key.text) = key.name := by
    have hname := congrArg String.toList (entryName_text key)
    rwa [entryName, String.toList_ofList, String.toList_ofList] at hname
  -- only the `edit` lines give an id
  have hsettings (settings : List Setting) (ids : List ℕ) :
      (settings.map Setting.text).foldl vlanIdWalker.line ids = ids := by
    induction settings with
    | nil => rfl
    | cons setting settings ih =>
      have hline : vlanIdWalker.line ids setting.text = ids := by
        show ids ++ _ = ids
        rw [setting.not_edit]
        exact List.append_nil ids
      rw [List.map_cons, List.foldl_cons, hline, ih]
  have hentry (entry : ShownInterface) (ids : List ℕ) : entry.own.foldl vlanIdWalker.line ids =
      ids ++ (parseUint 16 entry.key.name).toList := by
    have hedit : vlanIdWalker.line ids (ShownLine.edit entry.key).text =
        ids ++ (parseUint 16 entry.key.name).toList := by
      show ids ++ _ = _
      rw [stripPrefix_edit, Option.bind_some, hkey]
    rw [ShownInterface.own, List.foldl_cons, List.foldl_append, hsettings, hedit]
    exact List.append_nil _
  have hentries (ids : List ℕ) :
      (entries.flatMap ShownInterface.own).foldl vlanIdWalker.line ids =
        ids ++ entries.filterMap fun entry => parseUint 16 entry.key.name := by
    clear h
    induction entries generalizing ids with
    | nil => exact (List.append_nil ids).symm
    | cons entry entries ih =>
      rw [List.flatMap_cons, List.foldl_append, hentry, ih, List.append_assoc]
      cases hid : parseUint 16 entry.key.name <;> simp [hid]
  rw [parseSwitchVlanIds, vlanIdWalker, run_shown hheader h]
  exact hentries []

/-- What an entry says by the lines of its own level. -/
def ShownInterface.read {Info : Type} (blank : Info) (setting : Info → List Char → Option Info)
    (entry : ShownInterface) : Info :=
  entry.settings.foldl (fun info line => (setting info line.text).getD info) blank

section Ports

variable {Info : Type} {blank : Info} {setting : Info → List Char → Option Info}

/-- Every entry is read, whatever it is called, and of two of one name the later one counts. -/
theorem parsePorts_shown {header : String} {entries : List ShownInterface}
    {lines : List (List Char)} (hheader : IsHeader header)
    (hnext : ∀ info, setting info ShownLine.next.text = none)
    (h : ShowsTable header entries lines) : parsePorts header blank setting lines =
      entries.foldl (fun result entry => put entry.name (entry.read blank setting) result) [] := by
  -- inside an entry every line goes to `setting`: none is an `edit` or a `next`
  have hsettings (settings : List Setting) (reader : PortReader Info)
      (hopen : reader.currentPort.isNone = false) :
      (settings.map Setting.text).foldl (PortReader.line blank setting) reader =
        { reader with
          current := settings.foldl (fun info line => (setting info line.text).getD info)
            reader.current } := by
    induction settings generalizing reader with
    | nil => rfl
    | cons line settings ih =>
      have hline : PortReader.line blank setting reader line.text =
          { reader with current := (setting reader.current line.text).getD reader.current } := by
        rw [PortReader.line, line.not_edit, hopen]
        cases setting reader.current line.text with
        | some current => rfl
        | none => exact if_neg line.not_next
      rw [List.map_cons, List.foldl_cons, hline, ih]
      · rfl
      · exact hopen
  -- an entry leaves the reader as it found it, with one more result
  have hentry (entry : ShownInterface) (result : List (String × Info)) :
      entry.own.foldl (PortReader.line blank setting) { result, current := blank } =
        { result := put entry.name (entry.read blank setting) result, current := blank } := by
    have hedit : PortReader.line blank setting { result, current := blank }
        (ShownLine.edit entry.key).text =
          { result, currentPort := some entry.name, current := blank } := by
      rw [PortReader.line, stripPrefix_edit]
      dsimp only
      rw [entryName_text]
      rfl
    rw [ShownInterface.own, List.foldl_cons, hedit, List.foldl_append, hsettings _ _ rfl,
      List.foldl_cons, List.foldl_nil, PortReader.line, hnext]
    rfl
  have hentries (result : List (String × Info)) :
      (entries.flatMap ShownInterface.own).foldl (PortReader.line blank setting)
          { result, current := blank } =
        { current := blank
          result := entries.foldl
            (fun result entry => put entry.name (entry.read blank setting) result) result } := by
    clear h
    induction entries generalizing result with
    | nil => rfl
    | cons entry entries ih =>
      rw [List.flatMap_cons, List.foldl_append, hentry, ih, List.foldl_cons]
  rw [parsePorts, run_shown hheader h]
  -- the reader flushes at `end` and at the end of the text; neither finds an open entry
  show (PortReader.flush (PortReader.flush
    ((entries.flatMap ShownInterface.own).foldl _ _))).result = _
  rw [hentries]
  rfl

/-- The ports of a table are its entries. -/
theorem mem_keys_parsePorts {header : String} {entries : List ShownInterface}
    {lines : List (List Char)} (hheader : IsHeader header)
    (hnext : ∀ info, setting info ShownLine.next.text = none)
    (h : ShowsTable header entries lines) {name : String} :
    name ∈ (parsePorts header blank setting lines).map Prod.fst ↔
      ∃ entry ∈ entries, entry.name = name := by
  have hkeys (result : List (String × Info)) :
      name ∈ (entries.foldl (fun result entry =>
          put entry.name (entry.read blank setting) result) result).map Prod.fst ↔
        (∃ entry ∈ entries, entry.name = name) ∨ name ∈ result.map Prod.fst := by
    clear h
    induction entries generalizing result with
    | nil => simp
    | cons entry entries ih =>
      rw [List.foldl_cons, ih, mem_keys_put, List.exists_mem_cons_iff, or_left_comm, or_assoc]
      exact or_congr_left eq_comm
  rw [parsePorts_shown hheader hnext h, hkeys, List.map_nil, or_iff_left (List.not_mem_nil)]

end Ports

theorem isHeader_interfaces : IsHeader "config switch interface" :=
  ⟨"switch interface".toList, rfl, by decide⟩

theorem isHeader_physicalPorts : IsHeader "config switch physical-port" :=
  ⟨"switch physical-port".toList, rfl, by decide⟩

/-- The numbered ports are those of either table that have a number. -/
theorem mem_numberedPorts {interfaces : List (String × PortInterfaceInfo)}
    {physical : List (String × PhysicalPortInfo)} {interfaceId : String} :
    interfaceId ∈ numberedPorts interfaces physical ↔
      (interfaceId ∈ interfaces.map Prod.fst ∨ interfaceId ∈ physical.map Prod.fst) ∧
        isNumberedPort interfaceId = true := by
  rw [numberedPorts, List.mem_filter, List.mem_insertionSort, List.mem_dedup, List.mem_append]

end SwitchConfigurator.Fortiswitch
