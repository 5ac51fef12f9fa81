import SwitchConfigurator.Foundations.ItemLists
import SwitchConfigurator.Vendors.Fortiswitch.Commands
import SwitchConfigurator.Vendors.Text

/-!
# Lists of VLANs

The lists that FortiOS prints behind `set allowed-vlans`: ids and ranges of ids, with commas or
blanks between them. The commands for ports write the ids one by one, and the switch shows them
compressed.
-/

namespace SwitchConfigurator.Fortiswitch

open Cli ItemLists

/-! ## Reading a list -/

/-- `str::split_once`. -/
def splitOnce (sep : Char) (text : List Char) : Option (List Char × List Char) :=
  if sep ∈ text then some (text.takeWhile (· ≠ sep), (text.dropWhile (· ≠ sep)).drop 1) else none

/-- The ids of one part of a list. What is no range of numbers is read as a number, and dropped
where it is none. -/
def vlansOfPart (part : List Char) : List ℕ :=
  let single := (parseUint 16 (trim part)).toList
  match splitOnce '-' part with
  | some (start, stop) =>
    match parseUint 16 (trim start), parseUint 16 (trim stop) with
    | some start, some stop => List.range' start (stop + 1 - start)
    | _, _ => single
  | none => single

def isSeparator (c : Char) : Bool := c == ',' || isWhitespace c

def parseVlanList (text : List Char) : List ℕ := (parts isSeparator text).flatMap vlansOfPart

/-! ## Writing a list -/

/-- An item of a list. A range may be of one id only. -/
inductive VlanItem where
  | id (vlan : ℕ)
  | range (run : Run)
  deriving DecidableEq, Repr

namespace VlanItem

def vlans : VlanItem → List ℕ
  | id vlan => [vlan]
  | range run => run.members

def text : VlanItem → List Char
  | id vlan => (toString vlan).toList
  | range run => (toString run.first).toList ++ '-' :: (toString run.last).toList

end VlanItem

/-- A text gives a list of ids, in some choice of items and separators. -/
def Renders (vlans : List ℕ) (text : List Char) : Prop :=
  ∃ items : List VlanItem, items.flatMap VlanItem.vlans = vlans ∧
    Spells isSeparator (items.map VlanItem.text) text

/-- How `show switch interface` writes a run of ids. -/
def itemOf (run : Run) : VlanItem := if run.more = 0 then .id run.first else .range run

/-- What `show switch interface` prints for ids in ascending order. -/
def compressed (vlans : List ℕ) : List Char :=
  [','].intercalate ((compress vlans).map fun run => (itemOf run).text)

/-- What `show switch interface` prints behind `set allowed-vlans` once that has been set: the ids
are a set, so order and repetitions are lost. -/
def shownVlans (vlans : List ℕ) : List Char :=
  compressed (vlans.dedup.insertionSort (· ≤ ·))

example : shownVlans [501, 101, 102, 42, 104, 103, 101] = "42,101-104,501".toList := by decide

/-! ## Items that are read -/

section Items

variable {vlan : ℕ} {item : VlanItem} {run : Run} {vlans : List ℕ} {text : List Char}

theorem not_mem_toString {c : Char} (h : c.isDigit = false) : c ∉ (toString vlan).toList := by
  intro hc
  rw [isDigit_of_mem_toString hc] at h
  cases h

theorem trim_toString : trim (toString vlan).toList = (toString vlan).toList :=
  trim_of_forall (isWord_toString vlan).2

/-- An item holds digits and the sign of a range, so no separator stands in it. -/
theorem VlanItem.text_solid (item : VlanItem) :
    item.text ≠ [] ∧ ∀ c ∈ item.text, isSeparator c = false := by
  have hdigit {vlan : ℕ} {c : Char} (hc : c ∈ (toString vlan).toList) : isSeparator c = false := by
    have hcomma : c ≠ ',' := by
      rintro rfl
      exact not_mem_toString (by decide) hc
    rw [isSeparator, isWhitespace_of_isDigit (isDigit_of_mem_toString hc), Bool.or_false]
    exact beq_eq_false_iff_ne.mpr hcomma
  cases item with
  | id vlan => exact ⟨toString_ne_nil vlan, fun c => hdigit⟩
  | range run =>
    refine ⟨List.append_ne_nil_of_right_ne_nil _ (List.cons_ne_nil _ _), ?_⟩
    intro c hc
    rw [VlanItem.text, List.mem_append, List.mem_cons] at hc
    rcases hc with hc | rfl | hc
    · exact hdigit hc
    · decide
    · exact hdigit hc

theorem splitOnce_eq_none {sep : Char} (h : sep ∉ text) : splitOnce sep text = none := if_neg h

theorem splitOnce_append {sep : Char} {before after : List Char} (h : sep ∉ before) :
    splitOnce sep (before ++ sep :: after) = some (before, after) := by
  have hbefore : ∀ c ∈ before, decide (c ≠ sep) = true := by
    intro c hc
    rw [decide_eq_true_iff]
    rintro rfl
    exact h hc
  rw [splitOnce, if_pos (by simp), List.takeWhile_append_of_pos hbefore,
    List.dropWhile_append_of_pos hbefore]
  simp

/-- Every item is read as the ids it stands for. -/
theorem vlansOfPart_text (h : ∀ vlan ∈ item.vlans, vlan < 2 ^ 16) :
    vlansOfPart item.text = item.vlans := by
  cases item with
  | id vlan =>
    have hvlan : vlan < 2 ^ 16 := h vlan (List.mem_singleton_self vlan)
    rw [vlansOfPart, VlanItem.text, splitOnce_eq_none (not_mem_toString (by decide)),
      trim_toString, parseUint_toString hvlan]
    rfl
  | range run =>
    have hstart : run.first < 2 ^ 16 := h _ (Run.mem_members.mpr ⟨le_rfl, run.first_le_last⟩)
    have hstop : run.last < 2 ^ 16 := h _ (Run.mem_members.mpr ⟨run.first_le_last, le_rfl⟩)
    rw [vlansOfPart, VlanItem.text, splitOnce_append (not_mem_toString (by decide))]
    dsimp only
    rw [trim_toString, trim_toString, parseUint_toString hstart, parseUint_toString hstop]
    exact run.members_eq.symm

/-- The reader does not depend on how a list is written. -/
theorem Renders.parse (h : Renders vlans text) (hvlans : ∀ vlan ∈ vlans, vlan < 2 ^ 16) :
    parseVlanList text = vlans := by
  obtain ⟨items, rfl, hspells⟩ := h
  rw [parseVlanList, hspells.parts_eq, List.flatMap_map]
  -- each item is read on its own
  have hitem : ∀ item ∈ items, vlansOfPart item.text = item.vlans := by
    intro item hitem
    apply vlansOfPart_text
    intro vlan hvlan
    exact hvlans vlan (List.mem_flatMap.mpr ⟨item, hitem, hvlan⟩)
  exact List.flatMap_congr hitem

end Items

/-! ## Lists that are written -/

section Written

variable {vlans : List ℕ}

/-- Items with one separator between them. -/
theorem renders_intercalate {c : Char} (hc : isSeparator c = true) (items : List VlanItem) :
    Renders (items.flatMap VlanItem.vlans) ([c].intercalate (items.map VlanItem.text)) := by
  refine ⟨items, rfl, spells_intercalate hc ?_⟩
  rw [List.forall_mem_map]
  exact fun item _ => item.text_solid

/-- The arguments that the commands give, with blanks between them. -/
theorem renders_numbers (vlans : List ℕ) :
    Renders vlans (render (vlans.map .number)).toList := by
  have hone : (vlans.map VlanItem.id).flatMap VlanItem.vlans = vlans := by
    rw [List.flatMap_map]
    exact List.flatMap_singleton' vlans
  have hrenders := renders_intercalate (c := ' ') (by decide) (vlans.map .id)
  rw [hone, List.map_map] at hrenders
  rw [render, String.toList_intercalate, List.map_map, List.map_map]
  exact hrenders

/-- An item has the members of its run. -/
theorem vlans_itemOf (run : Run) : (itemOf run).vlans = run.members := by
  rw [itemOf]
  split
  · next hmore =>
    rw [Run.members, hmore]
    rfl
  · rfl

/-- The compressed list is one of its renderings. -/
theorem renders_compressed (vlans : List ℕ) : Renders vlans (compressed vlans) := by
  have hruns : ((compress vlans).map itemOf).flatMap VlanItem.vlans = vlans := by
    rw [List.flatMap_map]
    simp only [vlans_itemOf]
    exact flatMap_compress vlans
  have hrenders := renders_intercalate (c := ',') (by decide) ((compress vlans).map itemOf)
  rw [hruns, List.map_map] at hrenders
  exact hrenders

/-- What the device shows is read back in order, without repetitions. -/
theorem parse_shownVlans (h : ∀ vlan ∈ vlans, vlan < 2 ^ 16) :
    parseVlanList (shownVlans vlans) = vlans.dedup.insertionSort (· ≤ ·) := by
  apply (renders_compressed _).parse
  intro vlan hvlan
  rw [List.mem_insertionSort, List.mem_dedup] at hvlan
  exact h vlan hvlan

/-- The VLANs that the commands for a port allow. -/
def allowedVlans (port : Port) : List ℕ :=
  match port.inferredMode with
  | .access => [port.vlan]
  | .trunk => port.taggedVlans

theorem set_mem_block {table field : String} {args : List Arg} {body : List Line} :
    .set field args ∈ block table body ↔ .set field args ∈ body := by
  simp [block]

theorem set_mem_entry {key : Arg} {field : String} {args : List Arg} {body : List Line} :
    .set field args ∈ entry key body ↔ .set field args ∈ body := by
  simp [entry]

/-- The settings of a port allow its list of VLANs, and no other. -/
theorem allowed_mem_vlanSettings {port : Port} {args : List Arg} :
    .set "allowed-vlans" args ∈ vlanSettings port ↔ args = (allowedVlans port).map .number := by
  unfold vlanSettings allowedVlans
  cases hmode : port.inferredMode with
  | access => simp
  | trunk =>
    -- a trunk is a port with tagged VLANs
    have htagged : port.taggedVlans.isEmpty = false := by
      rw [Port.inferredMode] at hmode
      split at hmode
      · cases hmode
      · next hempty => rwa [Bool.not_eq_true] at hempty
    simp [htagged]

/-- The entry of a port has one such line, with its list. -/
theorem allowed_mem_portInterfaceCommands {port : Port} {args : List Arg} :
    .set "allowed-vlans" args ∈ portInterfaceCommands port ↔
      args = (allowedVlans port).map .number := by
  rw [portInterfaceCommands, set_mem_entry, List.mem_append, allowed_mem_vlanSettings]
  simp

/-- Where the commands for ports set a list of VLANs, it is that of one of the ports. -/
theorem allowed_mem_generatePortCommands {ports : List Port} {args : List Arg} :
    .set "allowed-vlans" args ∈ generatePortCommands ports ↔
      ∃ port ∈ ports, args = (allowedVlans port).map .number := by
  have hphysical : ¬.set "allowed-vlans" args ∈
      block "switch physical-port" (ports.flatMap physicalPortCommands) := by
    rw [set_mem_block, List.mem_flatMap]
    rintro ⟨port, _, hmem⟩
    rw [physicalPortCommands, set_mem_entry] at hmem
    simp at hmem
  rw [generatePortCommands, List.mem_append, or_iff_left hphysical, set_mem_block,
    List.mem_flatMap]
  simp only [allowed_mem_portInterfaceCommands]

/-- Every port has its entry. -/
theorem portInterfaceCommands_stands {ports : List Port} {port : Port} (h : port ∈ ports) :
    portInterfaceCommands port <:+: generatePortCommands ports := by
  obtain ⟨before, after, rfl⟩ := List.append_of_mem h
  refine ⟨.config "switch interface" :: before.flatMap portInterfaceCommands,
    after.flatMap portInterfaceCommands ++ [.close] ++
      block "switch physical-port" ((before ++ port :: after).flatMap physicalPortCommands), ?_⟩
  simp only [generatePortCommands, block, List.flatMap_append, List.flatMap_cons, List.cons_append,
    List.append_assoc, List.nil_append]

/-- The VLANs of a port are in range if its own are. -/
theorem allowedVlans_lt {port : Port} (hvlan : port.vlan < 2 ^ 16)
    (htagged : ∀ vlan ∈ port.taggedVlans, vlan < 2 ^ 16) :
    ∀ vlan ∈ allowedVlans port, vlan < 2 ^ 16 := by
  unfold allowedVlans
  cases port.inferredMode with
  | access => simpa using hvlan
  | trunk => exact htagged

/-- A list of VLANs is read back from every text that renders it. So is what the commands for ports
set, which is the list of each port in the port's own entry and no other list: as it was sent, and
as the same set from whatever the switch shows of it. -/
theorem vlan_lists_read_back :
    (∀ (vlans : List ℕ) (text : List Char), (∀ vlan ∈ vlans, vlan < 2 ^ 16) →
      Renders vlans text → parseVlanList text = vlans) ∧
    ∀ (ports : List Port),
      (∀ port ∈ ports, port.vlan < 2 ^ 16 ∧ ∀ vlan ∈ port.taggedVlans, vlan < 2 ^ 16) →
      (∀ port ∈ ports, portInterfaceCommands port <:+: generatePortCommands ports ∧
        (∀ args, .set "allowed-vlans" args ∈ portInterfaceCommands port ↔
          args = (allowedVlans port).map .number) ∧
        parseVlanList (render ((allowedVlans port).map .number)).toList = allowedVlans port ∧
        (∀ vlan, vlan ∈ parseVlanList (shownVlans (allowedVlans port)) ↔
          vlan ∈ allowedVlans port) ∧
        ∀ (shown : List ℕ) (text : List Char),
          (∀ vlan, vlan ∈ shown ↔ vlan ∈ allowedVlans port) → Renders shown text →
          ∀ vlan, vlan ∈ parseVlanList text ↔ vlan ∈ allowedVlans port) ∧
      ∀ args, .set "allowed-vlans" args ∈ generatePortCommands ports ↔
        ∃ port ∈ ports, args = (allowedVlans port).map .number := by
  refine ⟨fun vlans text hvlans hrenders => hrenders.parse hvlans, fun ports hports => ?_⟩
  refine ⟨fun port hport => ?_, fun args => allowed_mem_generatePortCommands⟩
  have hvlans := allowedVlans_lt (hports port hport).1 (hports port hport).2
  refine ⟨portInterfaceCommands_stands hport, fun args => allowed_mem_portInterfaceCommands,
    (renders_numbers _).parse hvlans, ?_, ?_⟩
  · intro vlan
    rw [parse_shownVlans hvlans, List.mem_insertionSort, List.mem_dedup]
  · intro shown text hshown hrenders vlan
    have hbound : ∀ vlan ∈ shown, vlan < 2 ^ 16 :=
      fun vlan hmem => hvlans vlan ((hshown vlan).mp hmem)
    rw [hrenders.parse hbound, hshown]

/-- A trunk and an access port. -/
def patchPorts : List Port :=
  [{ portId := "port1", vlan := 1, taggedVlans := [12, 10, 20, 11] },
    { portId := "port2", vlan := 20 }]

/-- A list with a range of one id, and separators of several kinds; and what a trunk allows, in the
entry of the trunk, from the short form that is shown of it. -/
theorem vlan_lists_read_back_mixed :
    parseVlanList " 42-42,\t101-103 104 , 501".toList = [42, 101, 102, 103, 104, 501] ∧
      ∀ port ∈ patchPorts, portInterfaceCommands port <:+: generatePortCommands patchPorts ∧
        .set "allowed-vlans" ((allowedVlans port).map .number) ∈ portInterfaceCommands port ∧
        ∀ vlan, vlan ∈ parseVlanList (shownVlans (allowedVlans port)) ↔
          vlan ∈ allowedVlans port := by
  constructor
  · have htext : " 42-42,\t101-103 104 , 501".toList =
        ' ' :: ("42-42".toList ++ ',' :: '\t' :: ("101-103".toList ++ ' ' ::
          ("104".toList ++ ' ' :: ',' :: ' ' :: "501".toList))) := by decide
    apply vlan_lists_read_back.1
    · decide
    · refine ⟨[.range ⟨42, 0⟩, .range ⟨101, 2⟩, .id 104, .id 501], by decide, ?_⟩
      rw [htext]
      apply Spells.separator _ (by decide)
      apply Spells.item "42-42".toList (by decide) (by decide) _ (by decide)
      apply Spells.separator _ (by decide)
      apply Spells.item "101-103".toList (by decide) (by decide) _ (by decide)
      apply Spells.item "104".toList (by decide) (by decide) _ (by decide)
      apply Spells.separator _ (by decide)
      apply Spells.separator _ (by decide)
      exact Spells.last "501".toList (by decide) (by decide)
  · intro port hport
    obtain ⟨hentry, hline, -, hshown, -⟩ :=
      (vlan_lists_read_back.2 patchPorts (by decide)).1 port hport
    exact ⟨hentry, (hline _).mpr rfl, hshown⟩

end Written

end SwitchConfigurator.Fortiswitch
