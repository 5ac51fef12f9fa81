import SwitchConfigurator.Vendors.Fortiswitch.SystemInterface

/-!
# A text without levels

`parse_management_vlan` counts the depth of blocks and reads their lines at any depth, so what it
sees of a text is stretches: the `edit` of a VLAN and the lines up to the next `next`.
-/

namespace SwitchConfigurator.Fortiswitch

open Cli

/-! ## Stretches -/

/-- Neither a `next` nor the `edit` of a VLAN. -/
def ShownLine.GoesOn : ShownLine → Bool
  | next => false
  | line => line.vlanId.isNone

/-- A line that the reader takes for such a setting. -/
def ShownLine.Shows (kind : List Char → Bool) : ShownLine → Bool
  | own setting => kind setting.text
  | _ => false

/-- Lines that are enough behind the `edit` of a VLAN, whatever their levels: an address and access
in front of the first `next`, with no `edit` of a VLAN between, or an address and no more lines. -/
def Suffices (lines : List ShownLine) : Bool :=
  (lines.takeWhile ShownLine.GoesOn).any (ShownLine.Shows configuresIp) &&
    match (lines.dropWhile ShownLine.GoesOn).head? with
    | some .next => (lines.takeWhile ShownLine.GoesOn).any (ShownLine.Shows allowsManagement)
    | some _ => false
    | none => true

/-- The VLANs with an `edit`, at any level, that has enough behind it. -/
def given : List ShownLine → List ℕ
  | [] => []
  | line :: rest =>
    match line.vlanId with
    | some vlan => if Suffices rest then vlan :: given rest else given rest
    | none => given rest

/-! ## A reader without levels -/

/-- The VLAN that is open, and what has been seen of it. -/
structure OpenVlan where
  vlan : ℕ
  hasIp : Bool := false
  hasAllowaccess : Bool := false

/-- The loop without depth. -/
def readLine (state : Option OpenVlan) : ShownLine → Except (Option ℕ) (Option OpenVlan)
  | .edit key =>
    match key.vlanId with
    | some vlan => .ok (some { vlan })
    | none => .ok state
  | .next =>
    match state with
    | some seen =>
      if seen.hasIp && seen.hasAllowaccess then .error (some seen.vlan) else .ok none
    | none => .ok none
  | .own setting => .ok (state.map fun seen =>
    { seen with
      hasIp := seen.hasIp || configuresIp setting.text
      hasAllowaccess := seen.hasAllowaccess || allowsManagement setting.text })
  | .config _ => .ok state
  | .close => .ok state

def readLines (state : Option OpenVlan) (lines : List ShownLine) :
    Except (Option ℕ) (Option OpenVlan) := lines.foldlM readLine state

def outcome : Except (Option ℕ) (Option OpenVlan) → Option ℕ
  | .error found => found
  | .ok (some seen) => if seen.hasIp then some seen.vlan else none
  | .ok none => none

section Levels

variable {state : Option OpenVlan} {lines lines' : List ShownLine} {line : ShownLine}

/-- The reader that is in such a state, at a depth. -/
def readerAt (depth : ℕ) (state : Option OpenVlan) : ManagementReader :=
  match state with
  | none => { inSystemInterface := true, nestingDepth := depth }
  | some seen =>
    { inSystemInterface := true
      inVlanInterface := true
      currentVlanId := some seen.vlan
      hasIp := seen.hasIp
      hasAllowaccess := seen.hasAllowaccess
      nestingDepth := depth }

/-- A quoted name is read between its quotes. -/
theorem quotedVlan_quoted {name : List Char} (h : '"' ∉ name) :
    quotedVlan ('"' :: (name ++ ['"'])) = (stripPrefix "vlan" name).bind (parseUint 16) := by
  have hvlan (rest : List Char) : stripPrefix "\"vlan" ('"' :: rest) = stripPrefix "vlan" rest :=
    rfl
  rw [quotedVlan, hvlan, stripPrefix_concat (by decide)]
  cases hstart : stripPrefix "vlan" name with
  | none => rfl
  | some digits =>
    have hname := text_of_stripPrefix hstart
    have hdigits : '"' ∉ digits := fun hc => h (hname ▸ List.mem_append_right _ hc)
    have htake : (digits ++ ['"']).takeWhile (· ≠ '"') = digits := by
      rw [List.takeWhile_append_of_pos]
      · exact List.append_nil digits
      · rintro c hc
        simp only [ne_eq, decide_eq_true_eq]
        rintro rfl
        exact hdigits hc
    rw [Option.map_some, Option.bind_some, Option.bind_some, htake, if_pos (by simp)]

/-- An `edit` of a VLAN opens it, and no other one does. -/
theorem tableLine_edit {reader : ManagementReader} (key : EntryName) :
    reader.tableLine ("edit ".toList ++ key.text) =
      match key.vlanId with
      | some vlan => .ok (reader.enter vlan)
      | none => .ok reader := by
  obtain ⟨name, quoted, hword, hquote⟩ := key
  rw [EntryName.vlanId, EntryName.text]
  dsimp only
  cases quoted with
  | false =>
    have hbare (name : List Char) : stripPrefix "edit vlan" ("edit ".toList ++ name) =
        stripPrefix "vlan" name := rfl
    have hedit (name : List Char) : stripPrefix "edit " ("edit ".toList ++ name) = some name := rfl
    rw [if_neg Bool.false_ne_true, ManagementReader.tableLine, hbare]
    cases hvlan : stripPrefix "vlan" name with
    | some digits =>
      dsimp only [Option.bind_some]
      obtain rfl : "vlan".toList ++ digits = name :=
        text_of_stripPrefix hvlan
      by_cases hne : digits = []
      · rw [hne]
        rfl
      · have hdigits : IsWord digits :=
          ⟨hne, fun c hc => (hword rfl).2 c (List.mem_append_right _ hc)⟩
        rw [splitWhitespace_word hdigits]
        rfl
    | none =>
      -- a bare name holds no quote, so the second test does not apply
      have hplain : quotedVlan name = none := by
        rw [quotedVlan]
        cases hstart : stripPrefix "\"vlan" name with
        | none => rfl
        | some rest =>
          have hname := text_of_stripPrefix hstart
          refine absurd ?_ hquote
          rw [← hname]
          exact List.mem_append_left _ (by decide)
      rw [hedit]
      dsimp only
      rw [hplain]
      rfl
  | true =>
    have hbare (rest : List Char) : stripPrefix "edit vlan" ("edit ".toList ++ '"' :: rest) =
        none := rfl
    have hedit (rest : List Char) : stripPrefix "edit " ("edit ".toList ++ '"' :: rest) =
        some ('"' :: rest) := rfl
    rw [if_pos rfl, ManagementReader.tableLine, hbare, hedit]
    dsimp only
    exact quotedVlan_quoted hquote ▸ rfl

theorem configuresIp_allowaccess (rest : List Char) :
    configuresIp ("set allowaccess ".toList ++ rest) = false := rfl

/-- A line that is no word of the blocks. -/
theorem tableLine_own {reader : ManagementReader} (setting : Setting) :
    reader.tableLine setting.text = .ok (if reader.inVlanInterface then
      { reader with
        hasIp := reader.hasIp || configuresIp setting.text
        hasAllowaccess := reader.hasAllowaccess || allowsManagement setting.text }
      else reader) := by
  rw [ManagementReader.tableLine, setting.not_edit_vlan, setting.not_edit]
  dsimp only
  by_cases hin : reader.inVlanInterface = true
  · rw [if_pos hin, if_pos hin, ManagementReader.setting]
    by_cases hip : configuresIp setting.text = true
    · have haccess : allowsManagement setting.text = false := by
        rw [allowsManagement]
        cases hrest : stripPrefix "set allowaccess " setting.text with
        | none => rfl
        | some rest =>
          have htext := text_of_stripPrefix hrest
          rw [← htext, configuresIp_allowaccess] at hip
          cases hip
      rw [if_pos hip, hip, haccess, Bool.or_true, Bool.or_false]
    · rw [if_neg hip, Bool.eq_false_iff.mpr hip, Bool.or_false, if_neg setting.not_next]
      split
      · rfl
      · next haccess =>
        rw [allowsManagement, Bool.eq_false_iff.mpr haccess, Bool.false_and, Bool.or_false]
  · rw [if_neg hin, if_neg hin]

/-- A `next` ends the search if the open VLAN suffices, and closes it. -/
theorem tableLine_next {reader : ManagementReader} : reader.tableLine "next".toList =
    if reader.inVlanInterface then
      if reader.hasIp && reader.hasAllowaccess && reader.currentVlanId.isSome then
        .error reader.currentVlanId
      else .ok reader.leave
    else .ok reader := by
  have hvlan : stripPrefix "edit vlan" "next".toList = none := by decide
  have hedit : stripPrefix "edit " "next".toList = none := by decide
  have hip : configuresIp "next".toList = false := by decide
  have haccess : stripPrefix "set allowaccess " "next".toList = none := by decide
  rw [ManagementReader.tableLine, hvlan, hedit, ManagementReader.setting, hip, haccess,
    if_neg Bool.false_ne_true, if_pos rfl]
  rfl

/-- A plain line is read as if there were no levels. -/
theorem step_plain {depth : ℕ} (h : line.IsPlain) :
    (readerAt depth state).step line.text = (readLine state line).map (readerAt depth) := by
  have hin : (readerAt depth state).inSystemInterface = true := by cases state <;> rfl
  have htable : (readerAt depth state).step line.text =
      (readerAt depth state).tableLine line.text := by
    obtain ⟨hconfig, hend⟩ := h.not_word
    have hhead : line.text ≠ "config system interface".toList := by
      intro heq
      rw [heq] at hconfig
      cases hconfig
    rw [ManagementReader.step, if_neg hhead, hin, if_neg (by decide), hconfig,
      if_neg (by decide), if_neg hend]
  rw [htable]
  -- by the kind of the line; a plain one opens and closes no table
  cases line with
  | config name => cases h
  | close => cases h
  | next =>
    rw [ShownLine.text_next, tableLine_next]
    cases state with
    | none => rfl
    | some seen =>
      -- `next` asks whether an address and an access were seen
      rcases seen with ⟨vlan, _ | _, _ | _⟩ <;> rfl
  | edit key =>
    rw [ShownLine.text_edit, tableLine_edit, readLine]
    cases key.vlanId with
    | none => rfl
    | some vlan => cases state <;> rfl
  | own setting =>
    rw [ShownLine.text_own, tableLine_own, readLine]
    cases state with
    | none =>
      have hout : (readerAt depth none).inVlanInterface = false := rfl
      rw [hout, if_neg Bool.false_ne_true]
      rfl
    | some seen =>
      have hinside : (readerAt depth (some seen)).inVlanInterface = true := rfl
      rw [hinside, if_pos rfl]
      rfl

/-- A block goes one level down. -/
theorem step_config {depth : ℕ} (name : BlockName) :
    (readerAt depth state).step (ShownLine.config name).text = .ok (readerAt (depth + 1) state) :=
      by
  have hconfig : stripPrefix "config " (ShownLine.config name).text = some name.text := rfl
  rw [ManagementReader.step, if_neg (ShownLine.config_ne_table name), hconfig]
  cases state <;> rfl

/-- Its end goes one level up. -/
theorem step_close {depth : ℕ} :
    (readerAt (depth + 2) state).step ShownLine.close.text = .ok (readerAt (depth + 1) state) := by
  cases state <;> rfl

/-- The lines are read as if there were no levels, and lead from one depth to another. -/
def LeadsTo (depth depth' : ℕ) (lines : List ShownLine) : Prop :=
  ∀ state, (lines.map ShownLine.text).foldlM ManagementReader.step (readerAt depth state) =
    (readLines state lines).map (readerAt depth')

theorem readLines_append : readLines state (lines ++ lines') =
    (readLines state lines).bind fun state => readLines state lines' := List.foldlM_append

theorem LeadsTo.nil {depth : ℕ} : LeadsTo depth depth [] := fun _ => rfl

theorem LeadsTo.append {depth depth' depth'' : ℕ} (h : LeadsTo depth depth' lines)
    (h' : LeadsTo depth' depth'' lines') : LeadsTo depth depth'' (lines ++ lines') := by
  intro state
  rw [List.map_append, List.foldlM_append, h state, readLines_append]
  cases readLines state lines with
  | error found => rfl
  | ok state => exact h' state

theorem LeadsTo.one {depth depth' : ℕ} (h : ∀ state, (readerAt depth state).step line.text =
    (readLine state line).map (readerAt depth')) : LeadsTo depth depth' [line] := by
  intro state
  rw [List.map_singleton, List.foldlM_cons, h state, readLines, List.foldlM_cons]
  cases readLine state line <;> rfl

end Levels

section Table

variable {table : InterfaceTable} {state : Option OpenVlan} {raw : List (List Char)}

/-- What a line of a stretch adds to what has been seen of it. -/
def OpenVlan.add (line : ShownLine) (seen : OpenVlan) : OpenVlan :=
  { seen with
    hasIp := seen.hasIp || line.Shows configuresIp
    hasAllowaccess := seen.hasAllowaccess || line.Shows allowsManagement }

section Stretches

variable {seen : OpenVlan} {line : ShownLine} {lines : List ShownLine}

end Stretches

end Table

end SwitchConfigurator.Fortiswitch
