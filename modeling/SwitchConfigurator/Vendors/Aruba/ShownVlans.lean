import SwitchConfigurator.Vendors.Aruba.VlanDevice

/-!
# VLANs as they are shown

`parse_current_state` on what the reference switch prints.
-/

namespace SwitchConfigurator.Aruba

open BlockWalk Cli

/-! ## Addresses -/

section Address

variable {address : List Char}

theorem isIpv4_chars (h : isIpv4 address = true) : ∀ c ∈ address, c.isDigit = true ∨ c = '.' := by
  simp only [isIpv4, Bool.and_eq_true, List.all_eq_true] at h
  have hjoined : ['.'].intercalate (address.splitOn '.') = address := List.intercalate_splitOn '.'
  rw [← hjoined]
  refine (forall_mem_intercalate (by simp)).mpr fun part hpart c hc => ?_
  exact Or.inl ((h.2 part hpart).1 c hc)

/-- An address is one word. -/
theorem isWord_of_isIpv4 (h : isIpv4 address = true) : IsWord address := by
  constructor
  · rintro rfl
    revert h
    decide
  · intro c hc
    rcases isIpv4_chars h c hc with hdigit | rfl
    · exact isWhitespace_of_isDigit hdigit
    · decide

/-- It is made of digits and dots. -/
theorem not_mem_of_isIpv4 (h : isIpv4 address = true) {c : Char} (hdigit : c.isDigit = false)
    (hdot : c ≠ '.') : c ∉ address := by
  intro hmem
  rcases isIpv4_chars h c hmem with hc | hc
  · rw [hc] at hdigit
    cases hdigit
  · exact hdot hc

end Address

/-! ## The lines of a VLAN -/

section Lines

variable {name : List Char} {ipConfig : VlanIpConfig} {vlan : DeviceVlan}

/-- Only the name can have escape sequences in it. -/
theorem stripAnsi_nameLine : stripAnsi (nameLine name) = nameLine (stripAnsi name) := by
  have hopen : nameLine name = "name ".toList ++ '"' :: (name ++ '"' :: []) := rfl
  rw [hopen, stripAnsi_quoted]
  rfl

theorem stripAnsi_indented {line : List Char} :
    stripAnsi (indented line) = indented (stripAnsi line) := rfl

/-- Indentation is trimmed. -/
theorem trim_indented {line : List Char} : trim (indented line) = trim line :=
  trim_blanks (by decide)

theorem trim_nameLine : trim (nameLine name) = nameLine name := by
  refine trim_eq_self ?_ ?_
  · rintro _ ⟨⟩
    decide
  · rw [nameLine_eq, ← List.append_assoc, List.getLast?_concat]
    rintro _ ⟨⟩
    decide

theorem trim_ipLine (h : IpAccepted ipConfig) : trim (ipLine ipConfig) = ipLine ipConfig := by
  cases ipConfig with
  | none => decide
  | dhcp => decide
  | static address netmask =>
    have hhead : (ipLine (.static address netmask)).head? = some 'i' := rfl
    refine trim_eq_self ?_ ?_
    · rw [hhead]
      rintro _ ⟨⟩
      decide
    · obtain ⟨hne, hword⟩ := isWord_of_isIpv4 h.2
      intro c hc
      rw [ipLine_static, List.getLast?_append_of_ne_nil _ (by simp),
        List.getLast?_append_of_ne_nil _ (by simp), List.getLast?_cons] at hc
      rw [List.getLast?_eq_some_getLast hne] at hc
      obtain rfl := Option.some.inj hc
      exact hword _ (List.getLast_mem hne)

/-- The line of an address has no escape. -/
theorem escape_notMem_ipLine (h : IpAccepted ipConfig) : escape ∉ ipLine ipConfig := by
  cases ipConfig with
  | none => decide
  | dhcp => decide
  | static address netmask =>
    have hdigit : escape.isDigit = false := by decide
    have hdot : escape ≠ '.' := by decide
    rw [ipLine_static, List.mem_append, List.mem_append, List.mem_cons, not_or, not_or, not_or]
    exact ⟨by decide, not_mem_of_isIpv4 h.1 hdigit hdot, by decide,
      not_mem_of_isIpv4 h.2 hdigit hdot⟩

/-- It is one line. -/
theorem ipLine_oneLine (h : IpAccepted ipConfig) : '\n' ∉ ipLine ipConfig := by
  cases ipConfig with
  | none => decide
  | dhcp => decide
  | static address netmask =>
    have hdigit : '\n'.isDigit = false := by decide
    have hdot : '\n' ≠ '.' := by decide
    rw [ipLine_static, List.mem_append, List.mem_append, List.mem_cons, not_or, not_or, not_or]
    exact ⟨by decide, not_mem_of_isIpv4 h.1 hdigit hdot, by decide,
      not_mem_of_isIpv4 h.2 hdigit hdot⟩

/-- The name that is read back. -/
def nameRead (name : List Char) : List Char := trimQuotes (stripAnsi (stripAnsi name))

/-- The quotes around a name come off, with those at its ends. -/
theorem trimQuotes_wrap : trimQuotes ('"' :: (name ++ ['"'])) = trimQuotes name := by
  rw [trimQuotes, List.dropWhile_cons_of_pos rfl, trimQuotes, List.dropWhile_append]
  split
  · next hempty =>
    rw [List.isEmpty_iff.mp hempty]
    rfl
  · exact List.rdropWhile_concat_pos _ _ _ rfl

/-- The line of a name is read without its indentation. -/
theorem innerLine_nameLine :
    innerLine (indented (nameLine name)) = nameLine (stripAnsi name) := by
  rw [innerLine, stripAnsi_indented, stripAnsi_nameLine, trim_indented, trim_nameLine]

/-- So is that of an address. -/
theorem innerLine_ipLine (h : IpAccepted ipConfig) :
    innerLine (indented (ipLine ipConfig)) = ipLine ipConfig := by
  rw [innerLine, stripAnsi_indented, stripAnsi_of_not_mem (escape_notMem_ipLine h), trim_indented,
    trim_ipLine h]

variable {block : VlanBlock}

/-- A block takes the name. -/
theorem line_nameLine : block.line (indented (nameLine name)) =
    { block with vlan := { block.vlan with
        name := String.ofList (trimQuotes (stripAnsi name)) } } := by
  have hname : stripPrefix "name " (nameLine (stripAnsi name)) =
      some ('"' :: (stripAnsi name ++ ['"'])) := rfl
  rw [VlanBlock.line, innerLine_nameLine]
  dsimp only
  rw [hname]
  dsimp only
  rw [trimQuotes_wrap]

/-- A block takes the address. -/
theorem line_ipLine (h : IpAccepted ipConfig) :
    block.line (indented (ipLine ipConfig)) = block.setIp ipConfig := by
  rw [VlanBlock.line, innerLine_ipLine h]
  cases ipConfig with
  | none => rfl
  | dhcp => rfl
  | static address netmask =>
    have hwords : splitWhitespace (address.toList ++ ' ' :: netmask.toList) =
        [address.toList, netmask.toList] := by
      rw [splitWhitespace_cons (isWord_of_isIpv4 h.1), splitWhitespace_word (isWord_of_isIpv4 h.2)]
    have hinfo : stripPrefix "ip address " (ipLine (.static address netmask)) =
        some (address.toList ++ ' ' :: netmask.toList) := rfl
    -- the printed address is not the DHCP line, whose last word has no blank in it
    have hdhcp : isText "ip address dhcp-bootp" (ipLine (.static address netmask)) = false := by
      rw [isText, beq_eq_false_iff_ne, ipLine_static]
      intro heq
      have hrest : address.toList ++ ' ' :: netmask.toList = "dhcp-bootp".toList :=
        List.append_cancel_left heq
      have hblank : ' ' ∈ "dhcp-bootp".toList := hrest ▸ by simp
      revert hblank
      decide
    have hname : stripPrefix "name " (ipLine (.static address netmask)) = none := rfl
    have huntagged : stripPrefix "untagged " (ipLine (.static address netmask)) = none := rfl
    have htagged : stripPrefix "tagged " (ipLine (.static address netmask)) = none := rfl
    dsimp only
    rw [hname]
    dsimp only
    rw [huntagged]
    dsimp only
    rw [htagged]
    dsimp only
    rw [hdhcp, hinfo, if_neg Bool.false_ne_true]
    dsimp only
    rw [hwords]
    dsimp only
    rw [String.ofList_toList, String.ofList_toList]

end Lines

/-! ## The blocks of a config -/

section Blocks

variable {poe : Bool} {vlan : DeviceVlan} {device : VlanDevice}

theorem trim_vlanLine (id : ℕ) : trim (vlanLine id) = vlanLine id := by
  have hhead : (vlanLine id).head? = some 'v' := rfl
  refine trim_eq_self ?_ ?_
  · rw [hhead]
    rintro _ ⟨⟩
    decide
  · obtain ⟨hne, hword⟩ := isWord_toString id
    intro c hc
    rw [vlanLine_eq, List.getLast?_append_of_ne_nil _ hne, List.getLast?_eq_some_getLast hne] at hc
    obtain rfl := Option.some.inj hc
    exact hword _ (List.getLast_mem hne)

/-- A VLAN's line is read as its header. -/
theorem vlanHeader_vlanLine {id : ℕ} (h : id < 2 ^ 16) :
    vlanHeader (vlanLine id) = some { vlan := { id, name := s!"VLAN{id}" } } := by
  have hid : stripPrefix "vlan " (vlanLine id) = some (toString id).toList := rfl
  rw [vlanHeader, trim_vlanLine, hid, Option.bind_some, trim_of_forall (isWord_toString id).2,
    parseUint_toString h, Option.map_some]

/-- A line inside of a block of the config: it neither ends nor opens one. -/
theorem endsBlock_nameLine {name : List Char} : endsBlock (indented (nameLine name)) = false := by
  rw [endsBlock, innerLine_nameLine]
  rfl

theorem endsBlock_ipLine {ipConfig : VlanIpConfig} (h : IpAccepted ipConfig) :
    endsBlock (indented (ipLine ipConfig)) = false := by
  rw [endsBlock, innerLine_ipLine h]
  cases ipConfig <;> rfl

/-- A name opens no block. -/
theorem openBlock_nameLine {name : List Char} :
    openBlock poe (indented (nameLine name)) = none := by
  rw [openBlock, interfaceHeader, interfacePort, vlanHeader, trim_indented, trim_nameLine]
  rfl

/-- Nor does an address. -/
theorem openBlock_ipLine {ipConfig : VlanIpConfig} (h : IpAccepted ipConfig) :
    openBlock poe (indented (ipLine ipConfig)) = none := by
  rw [openBlock, interfaceHeader, interfacePort, vlanHeader, trim_indented, trim_ipLine h]
  cases ipConfig <;> rfl

/-- The lines of a VLAN, as the loop goes through them. -/
def shownBlock (poe : Bool) (vlan : DeviceVlan) : ConfigBlock poe where
  header := vlanLine vlan.id
  body := [indented (nameLine (stripAnsi vlan.name)), indented (ipLine vlan.ipConfig)]
  closing := some (indented "exit".toList)
  header_exits := by
    show isExit (vlanLine vlan.id) = false
    rw [isExit, trim_vlanLine]
    rfl
  body_ends := by
    simp only [List.forall_mem_cons, List.not_mem_nil, false_implies, implies_true, and_true]
    exact ⟨endsBlock_nameLine, endsBlock_ipLine vlan.ip_accepted⟩
  body_opens := by
    simp only [List.forall_mem_cons, List.not_mem_nil, false_implies, implies_true, and_true]
    exact ⟨openBlock_nameLine, openBlock_ipLine vlan.ip_accepted⟩
  closing_exits := by
    rintro _ ⟨⟩
    exact (by decide : isExit (indented "exit".toList) = true)

/-- What stands before the VLANs. -/
def firstBlock (poe : Bool) : ConfigBlock poe where
  header := "Running configuration:".toList
  body := [[]]
  header_exits := (by decide : isExit "Running configuration:".toList = false)
  body_ends := by
    rw [List.forall_mem_singleton]
    exact (by decide : endsBlock [] = false)
  body_opens := by
    rw [List.forall_mem_singleton]
    rfl
  closing_exits := closing_none poe

def shownBlocks (poe : Bool) (device : VlanDevice) : List (ConfigBlock poe) :=
  firstBlock poe :: device.vlans.map (shownBlock poe)

theorem printable_indented {line : List Char} (h : Legible line) (hne : line ≠ []) :
    '\n' ∉ indented line ∧ (indented line).getLast? ≠ some '\r' := by
  rw [indented, List.mem_append, not_or, List.getLast?_append_of_ne_nil _ hne]
  exact ⟨⟨by decide, h.printable.1⟩, h.printable.2⟩

/-- Every line that is shown is printed as one. -/
theorem printable_of_mem_text : ∀ line ∈ text (shownBlocks poe device),
    '\n' ∉ line ∧ line.getLast? ≠ some '\r' := by
  rw [text, shownBlocks, List.forall_mem_flatMap, List.forall_mem_cons, List.forall_mem_map]
  refine ⟨?_, fun vlan _ => ?_⟩
  · show ∀ line ∈ ["Running configuration:".toList, []], _
    decide
  · have hname : Legible (nameLine (stripAnsi vlan.name)) := by
      refine ⟨?_, trim_nameLine⟩
      rw [nameLine_eq, List.mem_append, List.mem_append, not_or, not_or]
      exact ⟨by decide, fun hmem => vlan.name_oneLine (stripAnsi_sublist.subset hmem), by decide⟩
    have hip : Legible (ipLine vlan.ipConfig) :=
      ⟨ipLine_oneLine vlan.ip_accepted, trim_ipLine vlan.ip_accepted⟩
    have hid : Legible (vlanLine vlan.id) := by
      refine ⟨?_, trim_vlanLine vlan.id⟩
      rw [vlanLine_eq, List.mem_append, not_or]
      exact ⟨by decide, fun hmem => absurd (isDigit_of_mem_toString hmem) (by decide)⟩
    have hne : ipLine vlan.ipConfig ≠ [] := by
      cases vlan.ipConfig <;> exact List.cons_ne_nil _ _
    show ∀ line ∈ [vlanLine vlan.id, indented (nameLine (stripAnsi vlan.name)),
      indented (ipLine vlan.ipConfig), indented "exit".toList], _
    simp only [List.forall_mem_cons, List.not_mem_nil, false_implies, implies_true, and_true]
    exact ⟨hid.printable, printable_indented hname (List.cons_ne_nil _ _),
      printable_indented hip hne, by decide⟩

/-- The lines that are read are those that are shown. -/
theorem configLines_runningConfig :
    configLines (runningConfig device) = text (shownBlocks poe device) := by
  have hvlan (vlan : DeviceVlan) :
      (shownVlan vlan).map stripAnsi = (shownBlock poe vlan).lines := by
    have hid : stripAnsi (vlanLine vlan.id) = vlanLine vlan.id := by
      refine stripAnsi_of_not_mem ?_
      rw [vlanLine_eq, List.mem_append, not_or]
      exact ⟨by decide, fun hmem => absurd (isDigit_of_mem_toString hmem) (by decide)⟩
    have hip := stripAnsi_of_not_mem (escape_notMem_ipLine vlan.ip_accepted)
    simp only [shownVlan, List.map_cons, List.map_nil, stripAnsi_indented, stripAnsi_nameLine, hid,
      hip]
    rfl
  have hlines : (["Running configuration:".toList, []] ++
      device.vlans.flatMap shownVlan).map stripAnsi = text (shownBlocks poe device) := by
    rw [List.map_append, List.map_flatMap, text, shownBlocks, List.flatMap_cons, List.flatMap_map]
    exact congrArg₂ (· ++ ·) rfl (List.flatMap_congr fun vlan _ => hvlan vlan)
  rw [configLines, runningConfig, stripAnsi_printed, hlines]
  exact strLines_printed_of_ends printable_of_mem_text

/-- A VLAN as it is read back. -/
def DeviceVlan.read (vlan : DeviceVlan) : Vlan where
  id := vlan.id
  name := String.ofList (nameRead vlan.name)
  ipConfig := vlan.ipConfig

/-- The block of a VLAN is read as the VLAN. -/
theorem taken_shownBlock : (shownBlock poe vlan).taken = some (.vlan { vlan := vlan.read }) := by
  have hopen : openBlock poe (vlanLine vlan.id) =
      some (.vlan { vlan := { id := vlan.id, name := s!"VLAN{vlan.id}" } }) := by
    rw [openBlock, vlanHeader_vlanLine vlan.id_lt, interfaceHeader, interfacePort, trim_vlanLine]
    rfl
  have hbody (block : VlanBlock) : (shownBlock poe vlan).body.foldl Reading.line (.vlan block) =
      .vlan ((block.line (indented (nameLine (stripAnsi vlan.name)))).line
        (indented (ipLine vlan.ipConfig))) := rfl
  have hheader : (shownBlock poe vlan).header = vlanLine vlan.id := rfl
  rw [taken_def, hheader, hopen, Option.map_some, hbody, line_nameLine,
    line_ipLine vlan.ip_accepted]
  rfl

/-- Each VLAN has its `exit`, so that all of them are read. -/
theorem readConfig_runningConfig : readConfig poe (configLines (runningConfig device)) =
    device.vlans.map fun vlan => .vlan { vlan := vlan.read } := by
  have hintact : Intact (shownBlocks poe device) := by
    intro before b after heq htaken hclosing
    have hmem : b ∈ shownBlocks poe device := heq ▸ List.mem_append_right _ List.mem_cons_self
    rcases List.mem_cons.mp hmem with rfl | hmem
    · cases htaken
    · obtain ⟨vlan, -, rfl⟩ := List.mem_map.mp hmem
      cases hclosing
  have hown : (shownBlocks poe device).flatMap Block.own =
      device.vlans.map fun vlan => .vlan { vlan := vlan.read } := by
    have hfirst : (firstBlock poe).own = [] := rfl
    rw [shownBlocks, List.flatMap_cons, hfirst, List.flatMap_map, List.nil_append]
    exact (List.flatMap_congr fun vlan _ => own_of_taken taken_shownBlock).trans
      List.map_eq_flatMap.symm
  rw [configLines_runningConfig, readConfig, ((lossless_iff _).mpr hintact).readings, hown]

end Blocks

/-! ## The state -/

def Reading.vlans : Reading → List Vlan
  | .vlan block => [block.vlan]
  | _ => []

theorem vlans_withPort {portId : String} {change : PortVlanInfo → PortVlanInfo}
    {found : Collected} : (found.withPort portId change).vlans = found.vlans := rfl

theorem vlans_record {found : Collected} {reading : Reading} :
    (found.record reading).vlans = found.vlans ++ reading.vlans := by
  cases reading with
  | mirrorDestination port => exact (List.append_nil _).symm
  | interface block =>
    have hvlans : (Reading.interface block).vlans = [] := rfl
    rw [Collected.record, Collected.withInterface, vlans_withPort, hvlans, List.append_nil]
    cases block.description <;> rfl
  | vlan block =>
    have hports {change : PortVlanInfo → PortVlanInfo} (ports : List String) (found : Collected) :
        (ports.foldl (fun found portId => found.withPort portId change) found).vlans =
          found.vlans := by
      induction ports generalizing found with
      | nil => rfl
      | cons portId ports ih => exact ih _
    rw [Collected.record, Collected.withVlan, hports, hports]
    rfl

/-- The VLANs of a text are those of its readings. -/
theorem vlans_collect {readings : List Reading} :
    (collect readings).vlans = readings.flatMap Reading.vlans := by
  have h (found : Collected) : (readings.foldl Collected.record found).vlans =
      found.vlans ++ readings.flatMap Reading.vlans := by
    induction readings generalizing found with
    | nil => exact (List.append_nil _).symm
    | cons reading readings ih =>
      rw [List.foldl_cons, ih, vlans_record, List.flatMap_cons, List.append_assoc]
  exact h {}

/-- The VLANs that are read from what the switch prints. -/
theorem vlans_of_runningConfig {switch : ArubaSwitch} {hardwareWarnings : List Char → List String}
    {linkChange macNotify : Bool} {device : VlanDevice} :
    (parseCurrentState switch hardwareWarnings linkChange macNotify
      (runningConfig device)).vlans = device.vlans.map DeviceVlan.read := by
  rw [vlans_parseCurrentState, readConfig_runningConfig, vlans_collect, List.flatMap_map]
  exact List.map_eq_flatMap.symm

end SwitchConfigurator.Aruba
