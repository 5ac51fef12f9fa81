import SwitchConfigurator.Foundations.BlockWalk
import SwitchConfigurator.Vendors.Aruba.Commands
import SwitchConfigurator.Vendors.Text

/-!
# The running config of an Aruba switch

`parse_current_state` of `vendors/aruba.rs`: one loop over the lines finds interface blocks, VLAN
blocks and the mirror destination, a second pass makes ports of what was found. The output of
`show snmp-server traps` is an argument. The ports are listed in the order in which the loop first
meets them, where the source goes through a hash map.
-/

namespace SwitchConfigurator.Aruba

open BlockWalk

/-! ## Terminal escapes -/

def escape : Char := Char.ofNat 0x1b

def isParameter (c : Char) : Bool := c.isDigit || c == ';' || c == '?'

/-- `\x1b\[[0-9;?]*[A-Za-z]` is removed wherever it matches. What may still become a match is held
back. -/
def stripAnsiFrom (held : List Char) : List Char → List Char
  | [] => held
  | c :: rest =>
    match held with
    | [] => if c = escape then stripAnsiFrom [c] rest else c :: stripAnsiFrom [] rest
    | [_] =>
      if c = '[' then stripAnsiFrom (held ++ [c]) rest
      else if c = escape then held ++ stripAnsiFrom [c] rest
      else held ++ c :: stripAnsiFrom [] rest
    | _ =>
      if isParameter c then stripAnsiFrom (held ++ [c]) rest
      else if c.isAlpha then stripAnsiFrom [] rest
      else if c = escape then held ++ stripAnsiFrom [c] rest
      else held ++ c :: stripAnsiFrom [] rest

def stripAnsi (text : List Char) : List Char := stripAnsiFrom [] text

/-- The lines that the loop goes through. -/
def configLines (config : List Char) : List (List Char) := strLines (stripAnsi config)

/-- A line as it is read inside of a block. -/
def innerLine (line : List Char) : List Char := trim (stripAnsi line)

def startsWith (start : String) (text : List Char) : Bool := start.toList.isPrefixOf text

def isText (word : String) (text : List Char) : Bool := text == word.toList

/-- The lines that end a block. -/
def endsBlock (line : List Char) : Bool :=
  let inner := innerLine line
  isText "exit" inner || startsWith "vlan " inner || startsWith "interface " inner ||
    startsWith "hostname " inner || startsWith "module " inner

/-- Characters that are no part of an escape sequence. -/
def EndsEscape (c : Char) : Prop :=
  c ≠ escape ∧ c ≠ '[' ∧ isParameter c = false ∧ c.isAlpha = false

/-- A character that ends sequences cuts the text in two. -/
theorem stripAnsiFrom_append_cons {held text rest : List Char} {c : Char} (h : EndsEscape c) :
    stripAnsiFrom held (text ++ c :: rest) =
      stripAnsiFrom held text ++ c :: stripAnsiFrom [] rest := by
  induction text generalizing held with
  | nil =>
    -- such a character is part of no escape, so what is held is kept and the automaton starts
    -- afresh
    obtain ⟨hescape, hbracket, hparameter, halpha⟩ := h
    match held with
    | [] => simp [stripAnsiFrom, hescape]
    | [_] => simp [stripAnsiFrom, hescape, hbracket]
    | _ :: _ :: _ => simp [stripAnsiFrom, hescape, hparameter, halpha]
  | cons d text ih =>
    match held with
    | [] =>
      rw [List.cons_append, stripAnsiFrom, stripAnsiFrom]
      split
      · exact ih
      · rw [ih]
        rfl
    | [_] =>
      rw [List.cons_append, stripAnsiFrom, stripAnsiFrom]
      split
      · exact ih
      · split
        · rw [ih, List.append_assoc]
        · rw [ih, List.append_assoc]
          rfl
    | _ :: _ :: _ =>
      rw [List.cons_append, stripAnsiFrom, stripAnsiFrom]
      split
      · exact ih
      · split
        · exact ih
        · split
          · rw [ih, List.append_assoc]
          · rw [ih, List.append_assoc]
            rfl
      all_goals simp

/-- Texts with such a character between them are stripped one by one. -/
theorem stripAnsi_append_cons {text rest : List Char} {c : Char} (h : EndsEscape c) :
    stripAnsi (text ++ c :: rest) = stripAnsi text ++ c :: stripAnsi rest :=
  stripAnsiFrom_append_cons h

theorem stripAnsiFrom_sublist {held text : List Char} :
    (stripAnsiFrom held text).Sublist (held ++ text) := by
  induction text generalizing held with
  | nil => rw [stripAnsiFrom, List.append_nil]
  | cons c text ih =>
    have hkept : (held ++ c :: stripAnsiFrom [] text).Sublist (held ++ c :: text) :=
      ((@ih []).cons_cons c).append_left held
    -- each case of the automaton keeps, lengthens, restarts or drops what it holds
    have hlonger : (stripAnsiFrom (held ++ [c]) text).Sublist (held ++ c :: text) := by
      have h := @ih (held ++ [c])
      rwa [List.append_assoc] at h
    have hanew : (held ++ stripAnsiFrom [c] text).Sublist (held ++ c :: text) :=
      (@ih [c]).append_left held
    have hdropped : (stripAnsiFrom [] text).Sublist (held ++ c :: text) :=
      (@ih []).trans ((List.sublist_cons_self c text).trans (List.sublist_append_right _ _))
    match held with
    | [] =>
      rw [stripAnsiFrom]
      split
      · exact hanew
      · exact hkept
    | [_] =>
      rw [stripAnsiFrom]
      split
      · exact hlonger
      · split
        · exact hanew
        · exact hkept
    | _ :: _ :: _ =>
      rw [stripAnsiFrom]
      split
      · exact hlonger
      · split
        · exact hdropped
        · split
          · exact hanew
          · exact hkept
      all_goals simp

/-- Escapes only go away. -/
theorem stripAnsi_sublist {text : List Char} : (stripAnsi text).Sublist text :=
    stripAnsiFrom_sublist

/-! ## Interface blocks -/

structure InterfaceBlock where
  portId : String
  description : Option String := none
  hasMonitor : Bool := false
  poeEnabled : Bool
  macNotify : Bool := false
  enabled : Bool := true
  speedDuplex : SpeedDuplex := .auto
  deriving DecidableEq, Repr

def fromArubaOutput (s : String) : Option SpeedDuplex :=
  let lower := s.toLower
  if lower = "auto" then some .auto
  else if lower ∈ ["10-half", "10half", "10hdx"] then some .tenHalf
  else if lower ∈ ["10-full", "10full", "10fdx"] then some .tenFull
  else if lower ∈ ["100-half", "100half", "100hdx"] then some .hundredHalf
  else if lower ∈ ["100-full", "100full", "100fdx"] then some .hundredFull
  else if lower ∈ ["1000-full", "1000full", "1000fdx"] then some .thousandFull
  else if lower ∈ ["10g-full", "10gfull", "10gfdx"] then some .tenGFull
  else none

def interfacePort (header : List Char) : Option (List Char) :=
  (stripPrefix "interface " (trim header)).map trim

def InterfaceBlock.line (block : InterfaceBlock) (line : List Char) : InterfaceBlock :=
  let inner := innerLine line
  match stripPrefix "name " inner with
  | some name => { block with description := some (String.ofList (trimQuotes name)) }
  | none =>
    if startsWith "monitor" inner then { block with hasMonitor := true }
    else if isText "no power-over-ethernet" inner then { block with poeEnabled := false }
    else if startsWith "power-over-ethernet" inner then { block with poeEnabled := true }
    else if startsWith "mac-notify" inner then { block with macNotify := true }
    else if startsWith "no mac-notify" inner then { block with macNotify := false }
    else if isText "disable" inner then { block with enabled := false }
    else if isText "enable" inner then { block with enabled := true }
    else match stripPrefix "speed-duplex " inner with
      | some speed =>
        match fromArubaOutput (String.ofList (trim speed)) with
        | some parsed => { block with speedDuplex := parsed }
        | none => block
      | none => block

/-- The settings that an interface starts with. -/
def interfaceHeader (poe : Bool) (header : List Char) : Option InterfaceBlock :=
  (interfacePort header).map fun portId => { portId := String.ofList portId, poeEnabled := poe }

/-- The settings of an interface block, from its lines up to the one that ends it. -/
def parseInterfaceName (poe : Bool) (header : List Char) (body : List (List Char)) :
    Option InterfaceBlock :=
  (interfaceHeader poe header).map (body.foldl InterfaceBlock.line)

/-! ## VLAN blocks -/

structure VlanBlock where
  vlan : Vlan
  untaggedPorts : List String := []
  taggedPorts : List String := []
  deriving DecidableEq, Repr

/-- One part of a port list: a range of numbers or a number. -/
def portsOfPart (part : List Char) : List String :=
  if part.contains '-' then
    match parseUint 16 (trim (part.takeWhile (· != '-'))),
        parseUint 16 (trim ((part.dropWhile (· != '-')).drop 1)) with
    | some first, some last => (List.range' first (last + 1 - first)).map toString
    | _, _ => []
  else if (parseUint 16 part).isSome then [String.ofList part] else []

def parsePortList (ports : List Char) : List String :=
  (ports.splitOn ',').flatMap fun part => portsOfPart (trim part)

def VlanBlock.setIp (block : VlanBlock) (ipConfig : VlanIpConfig) : VlanBlock :=
  { block with vlan := { block.vlan with ipConfig } }

def VlanBlock.line (block : VlanBlock) (line : List Char) : VlanBlock :=
  let inner := innerLine line
  match stripPrefix "name " inner with
  | some name => { block with vlan := { block.vlan with name := String.ofList (trimQuotes name) } }
  | none =>
    match stripPrefix "untagged " inner with
    | some ports => { block with untaggedPorts := block.untaggedPorts ++ parsePortList ports }
    | none =>
      match stripPrefix "tagged " inner with
      | some ports => { block with taggedPorts := block.taggedPorts ++ parsePortList ports }
      | none =>
        if isText "ip address dhcp-bootp" inner then block.setIp .dhcp
        else match stripPrefix "ip address " inner with
          | some ipInfo =>
            match splitWhitespace ipInfo with
            | address :: netmask :: _ =>
              block.setIp (.static (String.ofList address) (String.ofList netmask))
            | _ => block
          | none => if isText "no ip address" inner then block.setIp .none else block

def vlanHeader (header : List Char) : Option VlanBlock :=
  ((stripPrefix "vlan " (trim header)).bind fun id => parseUint 16 (trim id)).map fun id =>
    { vlan := { id, name := s!"VLAN{id}" } }

/-- A VLAN with the ports it lists, from its lines up to the one that ends it. -/
def parseVlanWithPorts (header : List Char) (body : List (List Char)) : Option VlanBlock :=
  (vlanHeader header).map (body.foldl VlanBlock.line)

/-! ## The loop -/

/-- What the loop takes from the config. -/
inductive Reading where
  | mirrorDestination (port : String)
  | interface (block : InterfaceBlock)
  | vlan (block : VlanBlock)
  deriving DecidableEq, Repr

/-- Lines that the loop passes over before it looks at what they say. -/
def isPassedOver (line : List Char) : Bool :=
  line.isEmpty || startsWith ";" line || startsWith "Running configuration" line

/-- "mirror 1 port 22", or "mirror-port 42" on older switches. -/
def mirrorLine (line : List Char) : List Reading :=
  match stripPrefix "mirror " line with
  | some rest =>
    match splitWhitespace rest with
    | _ :: word :: destination :: _ =>
      if isText "port" word then [.mirrorDestination (String.ofList destination)] else []
    | _ => []
  | none =>
    match stripPrefix "mirror-port " line with
    | some destination => [.mirrorDestination (String.ofList (trim destination))]
    | none => []

def outsideLine (line : List Char) : List Reading :=
  if isPassedOver (trim line) then [] else mirrorLine (trim line)

/-- A block that a line opens. The lines inside are read by its own parser, and the loop goes on
behind the line that ended the block, whatever that line is. -/
def openBlock (poe : Bool) (line : List Char) : Option Reading :=
  match interfaceHeader poe line with
  | some block => some (.interface block)
  | none => (vlanHeader line).map .vlan

def Reading.line (reading : Reading) (line : List Char) : Reading :=
  match reading with
  | .interface block => .interface (block.line line)
  | .vlan block => .vlan (block.line line)
  | .mirrorDestination port => .mirrorDestination port

def isExit (line : List Char) : Bool := isText "exit" (trim line)

/-! ## The second pass -/

structure PortVlanInfo where
  portId : String
  untaggedVlan : Option ℕ := none
  taggedVlans : List ℕ := []
  hasMonitor : Bool := false
  poeEnabled : Bool := true
  macNotify : Bool := false
  enabled : Bool := true
  speedDuplex : SpeedDuplex := .auto
  deriving DecidableEq, Repr

/-- What the loop collects. -/
structure Collected where
  vlans : List Vlan := []
  interfaceNames : List (String × String) := []
  portVlanMap : List (String × PortVlanInfo) := []
  mirrorDestination : Option String := none
  deriving DecidableEq, Repr

namespace Collected

/-- `entry(..).or_insert_with(..)`, and a change of what is there. -/
def withPort (portId : String) (change : PortVlanInfo → PortVlanInfo) (found : Collected) :
    Collected :=
  let info := (found.portVlanMap.lookup portId).getD { portId }
  { found with portVlanMap := Cli.put portId (change info) found.portVlanMap }

def withInterface (block : InterfaceBlock) (found : Collected) : Collected :=
  let named := match block.description with
    | some name =>
      { found with interfaceNames := Cli.put block.portId name found.interfaceNames }
    | none => found
  named.withPort block.portId fun info =>
    { info with
      hasMonitor := block.hasMonitor, poeEnabled := block.poeEnabled,
      macNotify := block.macNotify, enabled := block.enabled, speedDuplex := block.speedDuplex }

def withVlan (block : VlanBlock) (found : Collected) : Collected :=
  let listed := { found with vlans := found.vlans ++ [block.vlan] }
  let untagged := block.untaggedPorts.foldl (fun found portId =>
    found.withPort portId fun info => { info with untaggedVlan := some block.vlan.id }) listed
  block.taggedPorts.foldl (fun found portId => found.withPort portId fun info =>
    { info with taggedVlans := info.taggedVlans ++ [block.vlan.id] }) untagged

def record (found : Collected) : Reading → Collected
  | .mirrorDestination port => { found with mirrorDestination := some port }
  | .interface block => found.withInterface block
  | .vlan block => found.withVlan block

end Collected

def collect (readings : List Reading) : Collected := readings.foldl Collected.record {}

def PortVlanInfo.toPort (description : Option String) (info : PortVlanInfo) : Port :=
  let untaggedVlan := info.untaggedVlan.getD 1
  let trunk := !info.taggedVlans.isEmpty
  { portId := info.portId
    mode := if trunk then .trunk else .access
    vlan := untaggedVlan
    -- the native VLAN is listed with the tagged ones
    taggedVlans :=
      if trunk then
        (if info.taggedVlans.contains untaggedVlan then info.taggedVlans
          else info.taggedVlans ++ [untaggedVlan]).insertionSort (· ≤ ·)
      else []
    description
    enabled := info.enabled
    poeEnabled := info.poeEnabled
    macNotify := info.macNotify
    speedDuplex := info.speedDuplex }

namespace Collected

variable (found : Collected)

def ports : List Port := found.portVlanMap.map fun entry =>
  entry.2.toPort (found.interfaceNames.lookup entry.1)

def monitorPorts : List String :=
  (found.portVlanMap.filter fun entry => entry.2.hasMonitor).map Prod.fst

def portMirrors : List PortMirror :=
  match found.mirrorDestination with
  | some destinationPort =>
    if found.monitorPorts.isEmpty then []
    else [{ sessionId := "1", sourcePorts := found.monitorPorts, destinationPort,
            direction := .both }]
  | none => []

end Collected

/-! ## SNMP and the management VLAN -/

def accessOf (word : List Char) : SnmpAccess :=
  if isText "manager" word then .manager
  else if isText "operator" word then .operator
  else .unrestricted

/-- `snmp-server community "name" access`. A quoted name ends at the second quote. -/
def communityLine (rest : List Char) : Option SnmpCommunity :=
  match rest with
  | '"' :: quoted =>
    if quoted.contains '"' then
      let name := quoted.takeWhile (· != '"')
      let remaining := (quoted.dropWhile (· != '"')).drop 1
      some { name := String.ofList name, access := accessOf (trim remaining) }
    else none
  | _ =>
    match splitWhitespace rest with
    | name :: access :: _ => some { name := String.ofList name, access := accessOf access }
    | _ => none

/-- `snmp-server host 192.168.1.1 community "public"`. -/
def receiverLine (rest : List Char) : Option SnmpTrapReceiver :=
  match splitWhitespace rest with
  | host :: word :: name :: more =>
    if isText "community" word then
      let community :=
        if startsWith "\"" name then trimQuotes ([' '].intercalate (name :: more)) else name
      some { host := String.ofList host, community := String.ofList community
             version := some "2c" }
    else none
  | _ => none

def snmpCommunityLine (line : List Char) : Option SnmpCommunity :=
  (stripPrefix "snmp-server community " (trim line)).bind communityLine

def snmpHostLine (line : List Char) : Option SnmpTrapReceiver :=
  (stripPrefix "snmp-server host " (trim line)).bind receiverLine

def parseSnmpConfig (lines : List (List Char)) (linkChange macNotify : Bool) :
    Option SnmpConfig :=
  let communities := lines.filterMap snmpCommunityLine
  let trapReceivers := lines.filterMap snmpHostLine
  let enabledTraps := (if linkChange then [TrapType.linkChange] else []) ++
    if macNotify then [TrapType.macNotify] else []
  if communities.isEmpty && trapReceivers.isEmpty && enabledTraps.isEmpty then none
  else some { communities, trapReceivers, enabledTraps }

/-- "management-vlan 10" or "management-vlan vlan10". -/
def managementVlanLine (line : List Char) : Option ℕ :=
  (stripPrefix "management-vlan " (trim line)).bind fun rest =>
    (parseUint 16 (trim rest)).or ((stripPrefix "vlan" (trim rest)).bind (parseUint 16))

def parseManagementVlan (lines : List (List Char)) : Option ℕ := lines.findSome? managementVlanLine

/-! ## The whole state -/

/-- A text without an escape stays as it is. -/
theorem stripAnsi_of_not_mem {text : List Char} (h : escape ∉ text) : stripAnsi text = text := by
  unfold stripAnsi
  induction text with
  | nil => rfl
  | cons c text ih =>
    rw [List.mem_cons, not_or] at h
    rw [stripAnsiFrom, if_neg (Ne.symm h.1), ih h.2]

theorem ends_of_exits {line : List Char} (h : isExit line = true) : endsBlock line = true := by
  have htrim : trim line = "exit".toList := eq_of_beq h
  have hescape : escape ∉ line := by
    intro hmem
    have hkept := mem_trim hmem (by decide)
    rw [htrim] at hkept
    revert hkept
    decide
  rw [endsBlock, innerLine, stripAnsi_of_not_mem hescape, htrim]
  decide

theorem opens_of_exits {poe : Bool} {line : List Char} (h : isExit line = true) :
    openBlock poe line = none := by
  have htrim : trim line = "exit".toList := eq_of_beq h
  rw [openBlock, interfaceHeader, interfacePort, vlanHeader, htrim]
  rfl

/-- The loop over the lines. -/
def configWalker (poe : Bool) : Walker (List Char) Reading where
  opens := openBlock poe
  line := Reading.line
  ends := endsBlock
  exits := isExit
  glance := outsideLine
  ends_of_exits := ends_of_exits
  opens_of_exits := opens_of_exits

def readConfig (poe : Bool) (lines : List (List Char)) : List Reading :=
  (configWalker poe).readings lines

/-- `linkChange` and `macNotify` are what `show snmp-server traps` tells, and the hardware check
reads the text for itself. -/
def parseCurrentState (switch : ArubaSwitch) (hardwareWarnings : List Char → List String)
    (linkChange macNotify : Bool) (config : List Char) : SwitchState :=
  let lines := configLines config
  let found := collect (readConfig switch.supportsPoe lines)
  { vlans := found.vlans
    ports := found.ports
    portMirrors := found.portMirrors
    snmp := parseSnmpConfig lines linkChange macNotify
    managementVlan := parseManagementVlan lines
    warnings := hardwareWarnings (stripAnsi config) }

section State

variable {switch : ArubaSwitch} {hardwareWarnings : List Char → List String}
variable {linkChange macNotify : Bool} {config : List Char}

/-- The VLANs of a state are those of the text. -/
theorem vlans_parseCurrentState :
    (parseCurrentState switch hardwareWarnings linkChange macNotify config).vlans =
      (collect (readConfig switch.supportsPoe (configLines config))).vlans := rfl

/-- So are the ports. -/
theorem ports_parseCurrentState :
    (parseCurrentState switch hardwareWarnings linkChange macNotify config).ports =
      (collect (readConfig switch.supportsPoe (configLines config))).ports := rfl

end State

end SwitchConfigurator.Aruba
