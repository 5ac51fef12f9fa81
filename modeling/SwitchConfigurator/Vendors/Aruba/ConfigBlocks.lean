import SwitchConfigurator.Vendors.Aruba.RunningConfig

/-!
# Blocks of the running config

The inner parsers of interface and VLAN blocks stop at an `exit` or at the header of the next block,
and the loop goes on behind the line where they stopped. A header that ended a block is therefore
never looked at.
-/

namespace SwitchConfigurator.Aruba

open BlockWalk

/-- A block of the running config of a switch with or without PoE. -/
abbrev ConfigBlock (poe : Bool) := Block (configWalker poe)

section Taken

variable {body : List (List Char)}

/-- A block of an interface stays one. -/
theorem foldl_line_interface {block : InterfaceBlock} :
    body.foldl Reading.line (.interface block) =
      .interface (body.foldl InterfaceBlock.line block) := by
  induction body generalizing block with
  | nil => rfl
  | cons line body ih => exact ih

/-- A block of a VLAN stays one. -/
theorem foldl_line_vlan {block : VlanBlock} :
    body.foldl Reading.line (.vlan block) = .vlan (body.foldl VlanBlock.line block) := by
  induction body generalizing block with
  | nil => rfl
  | cons line body ih => exact ih

theorem taken_def {poe : Bool} (b : ConfigBlock poe) :
    b.taken = (openBlock poe b.header).map (b.body.foldl Reading.line) := rfl

/-- What a block says is what the parser for its kind makes of its own lines. -/
theorem taken_eq {poe : Bool} (b : ConfigBlock poe) : b.taken =
    match parseInterfaceName poe b.header b.body with
    | some block => some (.interface block)
    | none => (parseVlanWithPorts b.header b.body).map .vlan := by
  rw [taken_def, openBlock, parseInterfaceName, parseVlanWithPorts]
  cases interfaceHeader poe b.header with
  | some block => exact congrArg some foldl_line_interface
  | none =>
    cases vlanHeader b.header with
    | some block => exact congrArg some foldl_line_vlan
    | none => rfl

end Taken

/-- The config is read as its blocks, each by itself, and no header is passed over as the end of
the block before it. -/
structure ReadsBlocks (switch : ArubaSwitch) (hardwareWarnings : List Char → List String)
    (linkChange macNotify : Bool) (config : List Char)
    (blocks : List (ConfigBlock switch.supportsPoe)) : Prop where
  readings : readConfig switch.supportsPoe (configLines config) = blocks.flatMap Block.own
  stops : ∀ piece ∈ (configWalker switch.supportsPoe).walk none (configLines config),
    ∀ stop ∈ piece.stop, isExit stop = true
  vlans : (parseCurrentState switch hardwareWarnings linkChange macNotify config).vlans =
    (collect (blocks.flatMap Block.own)).vlans
  ports : (parseCurrentState switch hardwareWarnings linkChange macNotify config).ports =
    (collect (blocks.flatMap Block.own)).ports

/-- Blocks are read as they stand exactly if each interface or VLAN block without an `exit` of its
own can take all lines up to the next `exit`, or to the end: none of them is a header that ends a
block or says anything outside of blocks, and together they leave its settings as they are. -/
theorem reads_blocks_iff {switch : ArubaSwitch} {hardwareWarnings : List Char → List String}
    {linkChange macNotify : Bool} {config : List Char}
    {blocks : List (ConfigBlock switch.supportsPoe)} (h : configLines config = text blocks) :
    ReadsBlocks switch hardwareWarnings linkChange macNotify config blocks ↔ Intact blocks := by
  rw [← lossless_iff]
  constructor
  · rintro ⟨hreadings, hstops, -, -⟩
    rw [h] at hreadings hstops
    exact ⟨hstops, hreadings⟩
  · rintro ⟨hstops, hreadings⟩
    have hread : readConfig switch.supportsPoe (configLines config) =
        blocks.flatMap Block.own := by
      rw [h]
      exact hreadings
    refine ⟨hread, ?_, ?_, ?_⟩
    · rw [h]
      exact hstops
    · rw [vlans_parseCurrentState, hread]
    · rw [ports_parseCurrentState, hread]

/-- A block without an `exit`. -/
theorem closing_none (poe : Bool) :
    ∀ line ∈ (none : Option (List Char)), (configWalker poe).exits line = true :=
  fun _ h => nomatch h

/-- Two VLANs, the first one without an `exit`. -/
def openVlans (poe : Bool) : List (ConfigBlock poe) :=
  [{ header := "vlan 10".toList
     header_exits := (by decide : isExit "vlan 10".toList = false)
     body_ends := by simp
     body_opens := by simp
     closing_exits := closing_none poe },
   { header := "vlan 20".toList
     closing := some "   exit".toList
     header_exits := (by decide : isExit "vlan 20".toList = false)
     body_ends := by simp
     body_opens := by simp
     closing_exits := by
       rintro _ ⟨⟩
       exact (by decide : isExit "   exit".toList = true) }]

/-- The second one is passed over as the end of the first. -/
theorem header_passed_over :
    ¬∀ (switch : ArubaSwitch) (hardwareWarnings : List Char → List String)
      (linkChange macNotify : Bool) (config : List Char)
      (blocks : List (ConfigBlock switch.supportsPoe)), configLines config = text blocks →
        ReadsBlocks switch hardwareWarnings linkChange macNotify config blocks := by
  intro h
  have hvlans := (h { config := { id := "sw1" } } (fun _ => []) false false
    "vlan 10\nvlan 20\n   exit\n".toList (openVlans false) (by decide +kernel)).vlans
  revert hvlans
  decide +kernel

/-- A closed VLAN and a closed port, and behind them a VLAN without an `exit`, with a line that says
nothing of it. -/
def openLast : List (ConfigBlock false) :=
  [{ header := "vlan 10".toList
     body := ["   name \"Office\"".toList]
     closing := some "   exit".toList
     header_exits := (by decide : isExit "vlan 10".toList = false)
     body_ends := by decide +kernel
     body_opens := by decide +kernel
     closing_exits := by decide +kernel },
   { header := "interface 1".toList
     body := ["   name \"printer\"".toList, "   untagged vlan 10".toList]
     closing := some "   exit".toList
     header_exits := (by decide : isExit "interface 1".toList = false)
     body_ends := by decide +kernel
     body_opens := by decide +kernel
     closing_exits := by decide +kernel },
   { header := "vlan 20".toList
     body := ["   name \"Lab\"".toList]
     header_exits := (by decide : isExit "vlan 20".toList = false)
     body_ends := by decide +kernel
     body_opens := by decide +kernel
     closing_exits := closing_none false },
   { header := "spanning-tree".toList
     header_exits := (by decide : isExit "spanning-tree".toList = false)
     body_ends := by simp
     body_opens := by simp
     closing_exits := closing_none false }]

/-- The last block of the text does not close. -/
theorem intact_openLast : Intact openLast := by
  have hclosed (line : List Char) : (some line : Option (List Char)) ≠ none := Option.some_ne_none _
  refine intact_cons.mpr ⟨fun _ h => absurd h (hclosed _), intact_cons.mpr
    ⟨fun _ h => absurd h (hclosed _), intact_cons.mpr ⟨fun _ _ => ⟨?_, ?_, ?_⟩, intact_cons.mpr
      ⟨fun htaken => ?_, ?_⟩⟩⟩⟩
  · exact List.forall_mem_singleton.mpr (by decide +kernel)
  · exact List.forall_mem_singleton.mpr (by decide +kernel)
  · decide +kernel
  · exact absurd htaken (by decide +kernel)
  · intro before b after h
    exact absurd h.symm (by simp)

/-- Blocks are read as they stand, the open one included. -/
theorem reads_blocks_iff_open : ReadsBlocks { config := { id := "sw1" } } (fun _ => []) false false
    ("vlan 10\n   name \"Office\"\n   exit\ninterface 1\n   name \"printer\"\n" ++
      "   untagged vlan 10\n   exit\nvlan 20\n   name \"Lab\"\nspanning-tree\n").toList openLast :=
  (reads_blocks_iff (by decide +kernel)).mpr intact_openLast

end SwitchConfigurator.Aruba
