import SwitchConfigurator.Vendors.Aruba.ShownVlans
import SwitchConfigurator.Vendors.Cisco.Commands
import SwitchConfigurator.Vendors.Cisco.RunningConfig
import SwitchConfigurator.Vendors.Fortiswitch.PortTables

/-!
# The check against an empty state

`apply_configuration` of each vendor refuses to go on where a state without VLANs and ports was
read. The readers for Aruba and for FortiSwitch find something in every config that has a VLAN or a
port, and the one for Cisco never does.
-/

namespace SwitchConfigurator

/-- A switch, and what it prints when its state is read. -/
inductive ShownSwitch where
  | aruba (switch : Aruba.ArubaSwitch) (hardwareWarnings : List Char → List String)
    (linkChange macNotify : Bool) (running : List Char)
  | cisco (switch : Cisco.CiscoSwitch) (hardwareWarnings : List Char → List String)
    (running : List Char)
  | fortiswitch (switch : Fortiswitch.FortiswitchSwitch) (hardwareWarnings : List String)
    (raw : Fortiswitch.FortiSwitchConfigBlocks)

/-! ## Configs that have something -/

/-- A line that a VLAN or an interface starts with. -/
def StartsBlock (line : List Char) : Prop :=
  (∃ id ≤ 4094, trim line = "vlan ".toList ++ (toString id).toList) ∨
    ∃ port, IsWord port ∧ trim line = "interface ".toList ++ port

namespace Fortiswitch

/-- The tables of VLANs and ports that a FortiSwitch has. -/
structure ShownTables where
  vlans : List ShownInterface
  interfaces : List ShownInterface
  physicalPorts : List ShownInterface

namespace ShownTables

variable (tables : ShownTables)

/-- The texts show the tables. -/
structure IsText (raw : FortiSwitchConfigBlocks) : Prop where
  vlans : ShowsTable "config switch vlan" tables.vlans
    (strLines (Aruba.stripAnsi raw.switchVlan))
  interfaces : ShowsTable "config switch interface" tables.interfaces
    (strLines (Aruba.stripAnsi raw.switchInterface))
  physicalPorts : ShowsTable "config switch physical-port" tables.physicalPorts
    (strLines (Aruba.stripAnsi raw.physicalPort))

/-- There is a VLAN, or a port on the front panel. -/
def HasConfig : Prop :=
  (∃ entry ∈ tables.vlans, ∃ id ≤ 4094, entry.name = toString id) ∨
    ∃ entry ∈ tables.interfaces ++ tables.physicalPorts, ∃ n : ℕ, entry.name = "port" ++ toString n

end ShownTables

end Fortiswitch

namespace ShownSwitch

def vendor : ShownSwitch → Vendor
  | aruba _ _ _ _ _ => .aruba
  | cisco _ _ _ => .cisco
  | fortiswitch _ _ _ => .fortiswitch

/-- The desired config. -/
def config : ShownSwitch → SwitchConfig
  | aruba switch _ _ _ _ => switch.config
  | cisco switch _ _ => switch.config
  | fortiswitch switch _ _ => switch.config

/-- The running config has a VLAN or an interface. -/
def HasConfig : ShownSwitch → Prop
  | aruba _ _ _ _ running => ∃ line ∈ Aruba.configLines running, StartsBlock line
  | cisco _ _ running => ∃ line ∈ strLines running, StartsBlock line
  | fortiswitch _ _ raw =>
    ∃ tables : Fortiswitch.ShownTables, tables.IsText raw ∧ tables.HasConfig

def parseCurrentState : ShownSwitch → SwitchState
  | aruba switch hardwareWarnings linkChange macNotify running =>
    Aruba.parseCurrentState switch hardwareWarnings linkChange macNotify running
  | cisco _ hardwareWarnings running => Cisco.parseCurrentState hardwareWarnings running
  | fortiswitch switch hardwareWarnings raw =>
    (Fortiswitch.parseCurrentState switch hardwareWarnings raw).2

/-- The beginning of `apply_configuration`: the state that it goes on with, unless it refuses to. -/
def stateToChange (shown : ShownSwitch) : Except VendorError SwitchState := do
  let current := shown.parseCurrentState
  checkEmptyStateSafety current shown.config.vlans.length shown.config.ports.length
    (shown.config.hostname.getD "")
  return current

end ShownSwitch

/-! ## What the readers find -/

/-- Something was read. -/
def SwitchState.Populated (state : SwitchState) : Prop := state.vlans ≠ [] ∨ state.ports ≠ []

section Aruba

open Aruba

/-- A block of any kind. -/
def Aruba.Reading.IsBlock : Reading → Prop
  | .mirrorDestination _ => False
  | _ => True

/-- A line that starts a block opens one. -/
theorem StartsBlock.opens {line : List Char} {poe : Bool} (h : StartsBlock line) :
    (openBlock poe line).isSome = true := by
  rw [openBlock]
  cases hinterface : interfaceHeader poe line with
  | some block => rfl
  | none =>
    rcases h with ⟨id, hid, hline⟩ | ⟨port, hport, hline⟩
    · have hstrip (rest : List Char) : stripPrefix "vlan " ("vlan ".toList ++ rest) = some rest :=
        rfl
      have hlt : id < 2 ^ 16 := by omega
      rw [vlanHeader, hline, hstrip, Option.bind_some, trim_of_forall (isWord_toString id).2,
        parseUint_toString hlt]
      rfl
    · have hstrip (rest : List Char) : stripPrefix "interface " ("interface ".toList ++ rest) =
          some rest := rfl
      rw [interfaceHeader, interfacePort, hline, hstrip] at hinterface
      cases hinterface

theorem isBlock_openBlock {line : List Char} {poe : Bool} :
    ∀ reading ∈ openBlock poe line, reading.IsBlock := by
  intro reading hreading
  rw [openBlock] at hreading
  split at hreading
  · obtain rfl := Option.some.inj hreading
    trivial
  · obtain ⟨block, -, rfl⟩ := Option.map_eq_some_iff.mp hreading
    trivial

/-- A block stays one, whatever its lines. -/
theorem isBlock_line {reading : Reading} {line : List Char} (h : reading.IsBlock) :
    (reading.line line).IsBlock := by
  cases reading with
  | mirrorDestination port => cases h
  | interface block => trivial
  | vlan block => trivial

theorem put_ne_nil {key : String} {value : PortVlanInfo} {entries : List (String × PortVlanInfo)} :
    Cli.put key value entries ≠ [] := by
  intro hnil
  have hkey : key ∈ (Cli.put key value entries).map Prod.fst := Cli.mem_keys_put.mpr (.inl rfl)
  rw [hnil] at hkey
  cases hkey

/-- A reading of an interface puts its port on a VLAN. -/
theorem portVlanMap_record {found : Collected} {reading : Reading}
    (h : found.portVlanMap ≠ [] ∨ ∃ block, reading = .interface block) :
    (found.record reading).portVlanMap ≠ [] := by
  have hports {change : PortVlanInfo → PortVlanInfo} (ports : List String) (found : Collected)
      (hfound : found.portVlanMap ≠ []) :
      (ports.foldl (fun found portId => found.withPort portId change) found).portVlanMap ≠ [] := by
    induction ports generalizing found with
    | nil => exact hfound
    | cons portId ports ih => exact ih _ put_ne_nil
  cases reading with
  | mirrorDestination port =>
    rcases h with h | ⟨block, hblock⟩
    · exact h
    · cases hblock
  | interface block => exact put_ne_nil
  | vlan block =>
    rcases h with h | ⟨block, hblock⟩
    · exact hports _ _ (hports _ _ h)
    · cases hblock

/-- A block that was read leaves a VLAN or a port. -/
theorem populated_collect {readings : List Reading} {reading : Reading} (hmem : reading ∈ readings)
    (h : reading.IsBlock) :
    (Aruba.collect readings).vlans ≠ [] ∨ (Aruba.collect readings).portVlanMap ≠ [] := by
  cases reading with
  | mirrorDestination port => cases h
  | vlan block =>
    refine .inl ?_
    rw [vlans_collect]
    exact List.ne_nil_of_mem (List.mem_flatMap_of_mem hmem List.mem_cons_self)
  | interface block =>
    refine .inr ?_
    obtain ⟨before, after, rfl⟩ := List.append_of_mem hmem
    have hafter (found : Collected) (hfound : found.portVlanMap ≠ []) :
        (after.foldl Collected.record found).portVlanMap ≠ [] := by
      clear hmem
      induction after generalizing found with
      | nil => exact hfound
      | cons reading after ih => exact ih _ (portVlanMap_record (.inl hfound))
    rw [Aruba.collect, List.foldl_append, List.foldl_cons]
    exact hafter _ (portVlanMap_record (.inr ⟨block, rfl⟩))

/-- A block in the text gives a state that is not empty. -/
theorem Aruba.populated_parseCurrentState {switch : ArubaSwitch}
    {hardwareWarnings : List Char → List String} {linkChange macNotify : Bool}
    {running : List Char} (h : ∃ line ∈ configLines running, StartsBlock line) :
    (parseCurrentState switch hardwareWarnings linkChange macNotify running).Populated := by
  obtain ⟨line, hline, hstarts⟩ := h
  obtain ⟨reading, hreading, hblock⟩ := BlockWalk.exists_reading_of_opens
    (w := configWalker switch.supportsPoe) (fun _ => isBlock_openBlock)
    (fun _ _ => isBlock_line) ⟨line, hline, hstarts.opens⟩
  rw [SwitchState.Populated, vlans_parseCurrentState, ports_parseCurrentState, Collected.ports,
    Ne, Ne, List.map_eq_nil_iff]
  exact populated_collect hreading hblock

end Aruba

section Fortiswitch

open Fortiswitch

theorem isNumberedPort_toString (n : ℕ) : isNumberedPort ("port" ++ toString n) = true := by
  have hstrip (digits : List Char) : stripPrefix "port" ("port".toList ++ digits) = some digits :=
    rfl
  rw [isNumberedPort, String.toList_append, hstrip]
  simp only [Bool.and_eq_true, Bool.not_eq_true', List.isEmpty_eq_false_iff, List.all_eq_true]
  exact ⟨toString_ne_nil n, fun c hc => Cli.isDigit_of_mem_toString hc⟩

/-- So does a configuration in the tables. -/
theorem Fortiswitch.populated_parseCurrentState {switch : FortiswitchSwitch}
    {hardwareWarnings : List String} {raw : FortiSwitchConfigBlocks} {tables : ShownTables}
    (htext : tables.IsText raw) (h : tables.HasConfig) :
    (parseCurrentState switch hardwareWarnings raw).2.Populated := by
  rcases h with ⟨entry, hentry, id, hid, hname⟩ | ⟨entry, hentry, n, hname⟩
  · refine .inl ?_
    have hlt : id < 2 ^ 16 := by omega
    have hkey : entry.key.name = (toString id).toList := by
      rw [← hname, ShownInterface.name, String.toList_ofList]
    have hmem : id ∈ parseSwitchVlanIds (strLines (Aruba.stripAnsi raw.switchVlan)) := by
      rw [parseSwitchVlanIds_shown htext.vlans, List.mem_filterMap]
      exact ⟨entry, hentry, hkey ▸ parseUint_toString hlt⟩
    exact List.ne_nil_of_mem (List.mem_map_of_mem hmem)
  · refine .inr ?_
    have hmem : entry.name ∈ numberedPorts
        (parseSwitchInterfacePorts (strLines (Aruba.stripAnsi raw.switchInterface)))
        (parsePhysicalPorts (strLines (Aruba.stripAnsi raw.physicalPort))) := by
      rw [mem_numberedPorts, parseSwitchInterfacePorts, parsePhysicalPorts,
        mem_keys_parsePorts isHeader_interfaces (fun _ => rfl) htext.interfaces,
        mem_keys_parsePorts isHeader_physicalPorts (fun _ => rfl) htext.physicalPorts]
      refine ⟨?_, hname ▸ isNumberedPort_toString n⟩
      exact (List.mem_append.mp hentry).imp (fun h => ⟨entry, h, rfl⟩) fun h => ⟨entry, h, rfl⟩
    exact List.ne_nil_of_mem (List.mem_map_of_mem hmem)

end Fortiswitch

/-! ## Who is refused -/

/-- Where something is desired, the check wants a state that is not empty. -/
theorem checkEmptyStateSafety_ok_iff {current : SwitchState} {desiredVlans desiredPorts : ℕ}
    {hostname : String} (h : 0 < desiredVlans ∨ 0 < desiredPorts) :
    checkEmptyStateSafety current desiredVlans desiredPorts hostname = .ok () ↔
      current.Populated := by
  have hdesired : (decide (desiredVlans > 0) || decide (desiredPorts > 0)) = true := by
    rwa [Bool.or_eq_true, decide_eq_true_eq, decide_eq_true_eq]
  rw [checkEmptyStateSafety, hdesired, Bool.and_true, SwitchState.Populated, Ne, Ne,
    ← List.isEmpty_iff, ← List.isEmpty_iff]
  cases current.vlans.isEmpty <;> cases current.ports.isEmpty <;> simp

namespace ShownSwitch

/-- VLANs or ports are desired. -/
def Desires (shown : ShownSwitch) : Prop := shown.config.vlans ≠ [] ∨ shown.config.ports ≠ []

/-- An apply goes on exactly if the state it read is not empty. -/
theorem stateToChange_ok_iff {shown : ShownSwitch} (h : shown.Desires) :
    shown.stateToChange = .ok shown.parseCurrentState ↔ shown.parseCurrentState.Populated := by
  have hdesired := h.imp List.length_pos_iff.mpr List.length_pos_iff.mpr
  rw [← checkEmptyStateSafety_ok_iff hdesired, stateToChange]
  cases checkEmptyStateSafety shown.parseCurrentState shown.config.vlans.length
    shown.config.ports.length (shown.config.hostname.getD "") with
  | error e => exact iff_of_false nofun nofun
  | ok _ => exact iff_of_true rfl rfl

/-- A switch that shows a config is gone on with exactly where it is no Cisco switch. -/
theorem goes_on_iff (shown : ShownSwitch) (hconfig : shown.HasConfig) (hdesired : shown.Desires) :
    shown.stateToChange = .ok shown.parseCurrentState ↔ shown.vendor ≠ .cisco := by
  rw [stateToChange_ok_iff hdesired]
  cases shown with
  | aruba switch hardwareWarnings linkChange macNotify running =>
    exact iff_of_true (Aruba.populated_parseCurrentState hconfig) nofun
  | fortiswitch switch hardwareWarnings raw =>
    obtain ⟨tables, htext, htables⟩ := hconfig
    exact iff_of_true (Fortiswitch.populated_parseCurrentState htext htables) nofun
  | cisco switch hardwareWarnings running =>
    refine iff_of_false ?_ fun h => h rfl
    rintro (h | h) <;> exact h rfl

/-- Two VLANs and a port that is on them. -/
def labTables : Fortiswitch.ShownTables where
  vlans :=
    [{ key := ⟨"10".toList, false, by decide, by decide⟩
       items :=
        [.own (Fortiswitch.Setting.ofText "set description \"office\"" (by decide) (by decide))] },
     { key := ⟨"20".toList, false, by decide, by decide⟩ }]
  interfaces :=
    [{ key := ⟨"port1".toList, true, by decide, by decide⟩
       items :=
        [.own (Fortiswitch.Setting.ofText "set native-vlan 10" (by decide) (by decide)),
          .own (Fortiswitch.Setting.ofText "set allowed-vlans 20" (by decide) (by decide))] }]
  physicalPorts := []

def shownLab : ShownSwitch :=
  .fortiswitch
    { config :=
      { id := "lab"
        vlans := [{ id := 10, name := "office" }, { id := 20, name := "lab" }] } } []
    { systemInterface := []
      switchVlan := ("config switch vlan\n    edit 10\n        set description \"office\"\n" ++
        "    next\n    edit 20\n    next\nend\n").toList
      switchInterface := ("config switch interface\n    edit \"port1\"\n" ++
        "        set native-vlan 10\n        set allowed-vlans 20\n    next\nend\n").toList
      physicalPort := "config switch physical-port\nend\n".toList
      switchMirror := []
      snmpCommunity := []
      snmpSysinfo := []
      interfaceAddresses := [] }

/-- A switch with two VLANs and a port, of each vendor. -/
theorem goes_on_iff_lab :
    shownLab.stateToChange = .ok shownLab.parseCurrentState ↔ shownLab.vendor ≠ .cisco := by
  refine goes_on_iff shownLab ⟨labTables, ⟨by decide +kernel, by decide +kernel, by decide +kernel⟩,
    .inl ⟨_, List.mem_cons_self, 10, by decide, rfl⟩⟩ (.inl (by decide))

/-- A Cisco switch with one VLAN, which is as it is desired. -/
def shownCisco : ShownSwitch :=
  .cisco { config := { id := "core", vlans := [{ id := 10, name := "office" }] } } (fun _ => [])
    "vlan 10\n name office\n!\ninterface GigabitEthernet1/0/1\n switchport access vlan 10\n".toList

theorem cisco_refused : ¬∀ shown : ShownSwitch, shown.HasConfig → shown.Desires →
    shown.stateToChange = .ok shown.parseCurrentState := by
  intro h
  have hconfig : shownCisco.HasConfig := ⟨"vlan 10".toList, by decide, .inl ⟨10, by decide, rfl⟩⟩
  cases h shownCisco hconfig (.inl (by decide))

end ShownSwitch

end SwitchConfigurator
