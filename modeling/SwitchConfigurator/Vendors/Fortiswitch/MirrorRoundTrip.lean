import SwitchConfigurator.Vendors.Fortiswitch.MirrorShown

/-!
# Mirrors there and back

The commands of a mirror diff, what the reference table makes of them, and what is read of it
afterwards. A command writes the lists of the new direction; the list of the other one stays.
-/

namespace SwitchConfigurator.Fortiswitch

open Cli Diff Keyed

/-! ## Ports -/

/-- `is_numbered_port`. -/
def isNumberedPort (interface : String) : Bool :=
  match stripPrefix "port" interface.toList with
  | some rest => !rest.isEmpty && rest.all Char.isDigit
  | none => false

/-- A spelling of a front-panel port: "port1", "1" or "1/0/1". -/
def IsPort (portId : String) : Prop := isNumberedPort (normalizePortId portId) = true

section Ports

variable {portId : String}

/-- A port is named by its digits. -/
theorem IsPort.exists_digits (h : IsPort portId) : ∃ digits : List Char, digits ≠ [] ∧
    (∀ c ∈ digits, c.isDigit = true) ∧
      (normalizePortId portId).toList = "port".toList ++ digits := by
  unfold IsPort isNumberedPort at h
  split at h
  · next digits hdigits =>
    simp only [Bool.and_eq_true, Bool.not_eq_true', List.isEmpty_eq_false_iff,
      List.all_eq_true] at h
    exact ⟨digits, h.1, h.2, (List.isPrefixOf?_eq_some_iff_append_eq.mp hdigits).symm⟩
  · cases h

/-- Its name is one word. -/
theorem isWord_port (h : IsPort portId) : IsWord (normalizePortId portId).toList := by
  obtain ⟨digits, -, hdigits, htext⟩ := h.exists_digits
  rw [htext]
  refine ⟨List.append_ne_nil_of_left_ne_nil (by decide) _, ?_⟩
  rw [List.forall_mem_append]
  exact ⟨by decide, fun c hc => isWhitespace_of_isDigit (hdigits c hc)⟩

/-- A number becomes the port of that number. -/
theorem normalizePortId_digits {digits : List Char} (h : ∀ c ∈ digits, c.isDigit = true) :
    normalizePortId (String.ofList digits) = "port" ++ String.ofList digits := by
  have hstart : ¬(String.ofList digits).startsWith "port" = true := by
    rw [String.startsWith_string_iff, @String.toList_ofList digits]
    intro hport
    exact absurd (h 'p' (hport.subset (by decide : 'p' ∈ "port".toList))) (by decide)
  have hlast : digits.rtakeWhile (· != '/') = digits := by
    rw [List.rtakeWhile_eq_self_iff]
    intro c hc
    rw [bne_iff_ne]
    rintro rfl
    exact absurd (h _ hc) (by decide)
  rw [normalizePortId, if_neg hstart, String.toList_ofList, hlast]

/-- The spelling that is read names the port that was meant. -/
theorem normalizePortId_denormalizePortId (h : IsPort portId) :
    normalizePortId (denormalizePortId (normalizePortId portId)) = normalizePortId portId := by
  obtain ⟨digits, -, hdigits, htext⟩ := h.exists_digits
  have hread : denormalizePortId (normalizePortId portId) = String.ofList digits := by
    rw [denormalizePortId, htext]
    rfl
  rw [hread, normalizePortId_digits hdigits]
  refine String.toList_injective ?_
  rw [htext, String.toList_append, @String.toList_ofList digits]

/-- Digits are a port. -/
theorem isPort_digits {digits : List Char} (hne : digits ≠ [])
    (h : ∀ c ∈ digits, c.isDigit = true) : IsPort (String.ofList digits) := by
  have hstrip : stripPrefix "port" ("port" ++ String.ofList digits).toList = some digits := by
    rw [String.toList_append, @String.toList_ofList digits]
    rfl
  rw [IsPort, normalizePortId_digits h, isNumberedPort, hstrip]
  simp only [Bool.and_eq_true, Bool.not_eq_true', List.isEmpty_eq_false_iff, List.all_eq_true]
  exact ⟨hne, h⟩

end Ports

/-! ## Settings -/

section Settings

variable {entry : MirrorEntry} {name : String} {names : List String}

/-- Names that are words are taken as they are. -/
theorem interfaceNames_words (h : ∀ name ∈ names, IsWord name.toList) :
    ∃ taken, interfaceNames (names.map .bare) = some taken ∧
      taken.map InterfaceName.text = names := by
  induction names with
  | nil => exact ⟨[], rfl, rfl⟩
  | cons name names ih =>
    obtain ⟨hname, hnames⟩ := List.forall_mem_cons.mp h
    obtain ⟨taken, htaken, htexts⟩ := ih hnames
    have hwords : deviceWords ((name :: names).map .bare) =
        name.toList :: deviceWords (names.map .bare) := by
      rw [List.map_cons, deviceWords, List.flatMap_cons]
      dsimp only
      rw [splitWhitespace_word hname]
      rfl
    refine ⟨⟨String.ofList name.toList, by rwa [String.toList_ofList]⟩ :: taken, ?_, ?_⟩
    · rw [interfaceNames, hwords, List.mapM_cons, dif_pos hname]
      rw [interfaceNames] at htaken
      rw [htaken]
      rfl
    · rw [List.map_cons, htexts]
      exact congrArg (· :: names) String.ofList_toList

/-- The destination is set. -/
theorem set_dst (h : IsWord name.toList) :
    ∃ taken : InterfaceName, entry.set "dst" [.bare name] = { entry with dst := some taken } ∧
      taken.text = name := by
  obtain ⟨taken, htaken, htexts⟩ := @interfaceNames_words [name] (by simpa using h)
  obtain ⟨one, rfl, hone⟩ := List.map_eq_singleton_iff.mp htexts
  refine ⟨one, ?_, hone⟩
  rw [List.map_singleton] at htaken
  unfold MirrorEntry.set
  rw [htaken]
  rfl

/-- The sources of one direction are set. -/
theorem set_ingress (hne : names ≠ []) (h : ∀ name ∈ names, IsWord name.toList) :
    ∃ taken, entry.set "src-ingress" (names.map .bare) = { entry with ingress := taken } ∧
      taken.map InterfaceName.text = names := by
  obtain ⟨taken, htaken, htexts⟩ := interfaceNames_words h
  refine ⟨taken, ?_, htexts⟩
  cases taken with
  | nil => exact absurd htexts.symm hne
  | cons one others =>
    unfold MirrorEntry.set
    rw [htaken]
    rfl

/-- So are those of the other. -/
theorem set_egress (hne : names ≠ []) (h : ∀ name ∈ names, IsWord name.toList) :
    ∃ taken, entry.set "src-egress" (names.map .bare) = { entry with egress := taken } ∧
      taken.map InterfaceName.text = names := by
  obtain ⟨taken, htaken, htexts⟩ := interfaceNames_words h
  refine ⟨taken, ?_, htexts⟩
  cases taken with
  | nil => exact absurd htexts.symm hne
  | cons one others =>
    unfold MirrorEntry.set
    rw [htaken]
    rfl

theorem set_status : entry.set "status" [.bare "active"] = entry := by
  unfold MirrorEntry.set
  split <;> first | rfl | (next h _ => exact absurd h (by decide))

end Settings

/-! ## The table, session by session -/

namespace MirrorTable

section Find

variable {table : MirrorTable} {mirror : MirrorEntry} {session key field : String}
variable {args : List Arg}

/-- A session that is put is found under its key. -/
theorem find_put : (table.put mirror).find key =
    if mirror.session = key then some mirror else table.find key := lookup_upsert

/-- A session that is removed is found no more. -/
theorem find_remove : (table.remove session).find key =
    if key = session then none else table.find key := by
  rw [find, remove, lookup_erase]
  simp only [List.mem_singleton]
  rfl

theorem session_of_find (h : table.find key = some mirror) : mirror.session = key :=
  key_of_lookup h

theorem session_getD {h : IsSession session.toList} :
    ((table.find session).getD { session, session_typed := h }).session = session := by
  cases hfind : table.find session with
  | none => rfl
  | some mirror => exact session_of_find hfind

/-- A session that is opened is there. -/
theorem find_openEntry (h : IsSession session.toList) : (table.openEntry session).find key =
    if session = key then some ((table.find session).getD { session, session_typed := h })
    else table.find key := by
  rw [openEntry, dif_pos h, find_put, session_getD]

theorem session_set : (mirror.set field args).session = mirror.session := by
  unfold MirrorEntry.set
  split <;> rfl

/-- A field is set for its session only. -/
theorem find_setField : (table.setField session field args).find key =
    if session = key then (table.find session).map (·.set field args) else table.find key := by
  rw [setField]
  cases hfind : table.find session with
  | none =>
    by_cases heq : session = key
    · rw [if_pos heq, ← heq, hfind]
      rfl
    · rw [if_neg heq]
  | some mirror =>
    dsimp only
    rw [find_put, session_set, session_of_find hfind]
    rfl

/-- The entries are what is found under some key. -/
theorem mem_entries_iff : mirror ∈ table.entries ↔ table.find mirror.session = some mirror :=
  (lookup_eq_some_iff table.nodup).symm

end Find

section Settings

variable {table : MirrorTable} {session key : String} {settings : List (String × List Arg)}

def assigns (session : String) (settings : List (String × List Arg)) : List Effect :=
  settings.map fun setting => .assign [(mirrorTable, session)] setting.1 setting.2

/-- So are several. -/
theorem find_assigns : (table.applyAll (assigns session settings)).find key =
    if session = key then (table.find session).map fun mirror =>
      settings.foldl (fun mirror setting => mirror.set setting.1 setting.2) mirror
    else table.find key := by
  induction settings generalizing table with
  | nil =>
    by_cases heq : session = key
    · rw [if_pos heq, ← heq]
      exact Option.map_id'.symm
    · rw [if_neg heq]
      rfl
  | cons setting settings ih =>
    have hstep : table.applyAll (assigns session (setting :: settings)) =
        (table.setField session setting.1 setting.2).applyAll (assigns session settings) := rfl
    rw [hstep, ih, find_setField, find_setField, if_pos rfl]
    by_cases heq : session = key
    · rw [if_pos heq, if_pos heq, Option.map_map]
      rfl
    · rw [if_neg heq, if_neg heq, if_neg heq]

end Settings

end MirrorTable

/-! ## What is sent -/

/-- What a mirror is set to, in the order that it is sent. -/
def mirrorSettings (mirror : PortMirror) : List (String × List Arg) :=
  let sources := sourceArgs mirror.sourcePorts
  [("status", [.bare "active"]), ("dst", [.bare (normalizePortId mirror.destinationPort)])] ++
    match mirror.direction with
    | .rx => [("src-ingress", sources)]
    | .tx => [("src-egress", sources)]
    | .both => [("src-ingress", sources), ("src-egress", sources)]

/-- An entry that has been set to a mirror: of the two lists only those of the direction. -/
structure WrittenMirror (mirror : PortMirror) (old new : MirrorEntry) : Prop where
  session : new.session = old.session
  dst : new.dst.map InterfaceName.text = some (normalizePortId mirror.destinationPort)
  ingress : new.ingress.map InterfaceName.text =
    if mirror.direction = .tx then old.ingress.map InterfaceName.text
    else mirror.sourcePorts.map normalizePortId
  egress : new.egress.map InterfaceName.text =
    if mirror.direction = .rx then old.egress.map InterfaceName.text
    else mirror.sourcePorts.map normalizePortId

/-- Mirrors that a switch can be asked for. -/
structure Wanted (mirrors : List PortMirror) : Prop where
  unique : (mirrors.map PortMirror.sessionId).Nodup
  sources : ∀ mirror ∈ mirrors, mirror.sourcePorts ≠ []
  destination : ∀ mirror ∈ mirrors, IsPort mirror.destinationPort
  source : ∀ mirror ∈ mirrors, ∀ port ∈ mirror.sourcePorts, IsPort port

section Write

variable {mirror : PortMirror} {mirrors : List PortMirror} {old : MirrorEntry}
variable {table : MirrorTable}

/-- The settings of a mirror write it over what was there. -/
theorem written_settings (hne : mirror.sourcePorts ≠ []) (hdst : IsPort mirror.destinationPort)
    (hsources : ∀ port ∈ mirror.sourcePorts, IsPort port) :
    WrittenMirror mirror old ((mirrorSettings mirror).foldl
      (fun entry setting => entry.set setting.1 setting.2) old) := by
  have hwords : ∀ name ∈ mirror.sourcePorts.map normalizePortId, IsWord name.toList :=
    List.forall_mem_map.mpr fun port hport => isWord_port (hsources port hport)
  have hnames : mirror.sourcePorts.map normalizePortId ≠ [] := by simpa using hne
  have hargs : sourceArgs mirror.sourcePorts =
      (mirror.sourcePorts.map normalizePortId).map Arg.bare := by
    rw [sourceArgs, if_neg (by simpa using hne), List.map_map]
    rfl
  rw [mirrorSettings, hargs, List.foldl_append, List.foldl_cons, List.foldl_cons, List.foldl_nil,
    set_status]
  obtain ⟨destination, hset, htext⟩ := @set_dst old _ (isWord_port hdst)
  rw [hset]
  have hsome : (some destination).map InterfaceName.text =
      some (normalizePortId mirror.destinationPort) := congrArg some htext
  -- only the lists of this direction are written; the other one stays as it was
  cases hdirection : mirror.direction with
  | rx =>
    obtain ⟨taken, hingress, htaken⟩ :=
      @set_ingress { old with dst := some destination } _ hnames hwords
    rw [List.foldl_cons, List.foldl_nil, hingress]
    exact ⟨rfl, hsome, by simpa [hdirection] using htaken, by simp [hdirection]⟩
  | tx =>
    obtain ⟨taken, hegress, htaken⟩ :=
      @set_egress { old with dst := some destination } _ hnames hwords
    rw [List.foldl_cons, List.foldl_nil, hegress]
    exact ⟨rfl, hsome, by simp [hdirection], by simpa [hdirection] using htaken⟩
  | both =>
    obtain ⟨taken, hingress, htaken⟩ :=
      @set_ingress { old with dst := some destination } _ hnames hwords
    obtain ⟨taken', hegress, htaken'⟩ :=
      @set_egress { old with dst := some destination, ingress := taken } _ hnames hwords
    rw [List.foldl_cons, List.foldl_cons, List.foldl_nil, hingress, hegress]
    exact ⟨rfl, hsome, by simpa [hdirection] using htaken, by simpa [hdirection] using htaken'⟩

/-- The commands of a mirror make its session and set its fields. -/
theorem effects_mirrorCommands :
    effects [⟨mirrorTable, none⟩] (mirrorCommands mirror) =
      .create [(mirrorTable, mirror.sessionId)] ::
        MirrorTable.assigns mirror.sessionId (mirrorSettings mirror) := by
  rw [mirrorCommands, mirrorSettings]
  cases mirror.direction <;> rfl

/-- The commands of one mirror act on its session only. -/
theorem find_mirrorCommands (h : IsSession mirror.sessionId.toList) {key : String} :
    (table.applyAll (effects [⟨mirrorTable, none⟩] (mirrorCommands mirror))).find key =
      if mirror.sessionId = key then
        some ((mirrorSettings mirror).foldl (fun entry setting => entry.set setting.1 setting.2)
          ((table.find mirror.sessionId).getD { session := mirror.sessionId, session_typed := h }))
      else table.find key := by
  have hrun : table.applyAll (effects [⟨mirrorTable, none⟩] (mirrorCommands mirror)) =
      (table.openEntry mirror.sessionId).applyAll
        (MirrorTable.assigns mirror.sessionId (mirrorSettings mirror)) := by
    rw [effects_mirrorCommands]
    rfl
  rw [hrun, MirrorTable.find_assigns, MirrorTable.find_openEntry h, if_pos rfl]
  by_cases heq : mirror.sessionId = key
  · rw [if_pos heq, if_pos heq, Option.map_some]
  · rw [if_neg heq, if_neg heq, MirrorTable.find_openEntry h, if_neg heq]

/-- Several mirrors are set one after another. -/
theorem execute_generateMirrorCommands : table.execute (generateMirrorCommands mirrors) =
    table.applyAll (mirrors.flatMap fun mirror =>
      effects [⟨mirrorTable, none⟩] (mirrorCommands mirror)) := by
  have henter (mirror : PortMirror) :
      enter [⟨mirrorTable, none⟩] (mirrorCommands mirror) = [⟨mirrorTable, none⟩] := by
    rw [mirrorCommands]
    cases mirror.direction <;> rfl
  exact congrArg table.applyAll (effects_block_flatMap fun mirror _ => henter mirror)

/-- Other sessions stay as they are. -/
theorem find_generate_of_notMem (h : ∀ mirror ∈ mirrors, IsSession mirror.sessionId.toList)
    {key : String} (hkey : key ∉ mirrors.map PortMirror.sessionId) :
    (table.execute (generateMirrorCommands mirrors)).find key = table.find key := by
  rw [execute_generateMirrorCommands]
  induction mirrors generalizing table with
  | nil => rfl
  | cons mirror mirrors ih =>
    obtain ⟨hmirror, hmirrors⟩ := List.forall_mem_cons.mp h
    rw [List.map_cons, List.mem_cons, not_or] at hkey
    have hone := @find_mirrorCommands mirror table hmirror key
    rw [if_neg (Ne.symm hkey.1)] at hone
    rw [List.flatMap_cons, MirrorTable.applyAll, List.foldl_append]
    exact (ih hmirrors hkey.2).trans hone

/-- Each of them is there afterwards, written over what was. -/
theorem find_generate_of_mem (h : ∀ mirror ∈ mirrors, IsSession mirror.sessionId.toList)
    (hwanted : Wanted mirrors) (hmem : mirror ∈ mirrors) :
    ∃ new, (table.execute (generateMirrorCommands mirrors)).find mirror.sessionId = some new ∧
      WrittenMirror mirror ((table.find mirror.sessionId).getD
        { session := mirror.sessionId, session_typed := h mirror hmem }) new := by
  obtain ⟨before, after, rfl⟩ := List.append_of_mem hmem
  have hunique := hwanted.unique
  rw [List.map_append, List.map_cons, List.nodup_append] at hunique
  have hbefore : mirror.sessionId ∉ before.map PortMirror.sessionId := fun hin =>
    hunique.2.2 _ hin _ List.mem_cons_self rfl
  have hafter : mirror.sessionId ∉ after.map PortMirror.sessionId :=
    (List.nodup_cons.mp hunique.2.1).1
  have htyped {other : PortMirror} (hother : other ∈ before ∨ other ∈ after) :
      IsSession other.sessionId.toList := by
    refine h other (List.mem_append.mpr ?_)
    exact hother.imp_right (List.mem_cons_of_mem _)
  -- the mirrors before it, the mirror, and the mirrors behind it
  have hkept := @find_generate_of_notMem before table (fun other hother => htyped (.inl hother)) _
    hbefore
  have hone := @find_mirrorCommands mirror (table.execute (generateMirrorCommands before))
    (h mirror hmem) mirror.sessionId
  rw [if_pos rfl, hkept] at hone
  have hrun : table.execute (generateMirrorCommands (before ++ mirror :: after)) =
      ((table.execute (generateMirrorCommands before)).applyAll
        (effects [⟨mirrorTable, none⟩] (mirrorCommands mirror))).execute
          (generateMirrorCommands after) := by
    simp only [execute_generateMirrorCommands, List.flatMap_append, List.flatMap_cons,
      MirrorTable.applyAll, List.foldl_append]
  refine ⟨_, ?_, written_settings (hwanted.sources mirror hmem) (hwanted.destination mirror hmem)
    (hwanted.source mirror hmem)⟩
  rw [hrun, find_generate_of_notMem (fun other hother => htyped (.inr hother)) hafter, hone]

end Write

/-! ## There and back -/

def readMirrors (table : MirrorTable) : List PortMirror :=
  parseSwitchMirrors (strLines table.shown)

/-- The steps of a diff that are about mirrors. -/
def mirrorSteps (diff : StateDiff) : Steps Line :=
  Steps.ifAny diff.mirrorsToRemove generateRemoveMirrorCommands ++
    Steps.ifAny diff.mirrorsToAdd generateMirrorCommands ++
    Steps.ifAny diff.mirrorsToUpdate generateMirrorCommands

/-- One mirror as two writings of it: the ports may be spelled otherwise, and in another order. -/
structure SameMirror (read desired : PortMirror) : Prop where
  session : read.sessionId = desired.sessionId
  destination : normalizePortId read.destinationPort = normalizePortId desired.destinationPort
  sources : ∀ port, port ∈ read.sourcePorts.map normalizePortId ↔
    port ∈ desired.sourcePorts.map normalizePortId
  direction : read.direction = desired.direction

section RoundTrip

variable (table : MirrorTable) (current : SwitchState) (config : SwitchConfig)

/-- The table once the commands of the diff have been executed. -/
def mirrorsAfter : MirrorTable :=
  table.execute (mirrorSteps (diffMirrors current config {})).sent

/-- The mirrors that are wanted are read afterwards, each once, and no others. -/
structure MirrorsRoundTrip : Prop where
  back : ∀ desired ∈ config.portMirrors,
    ∃ read ∈ readMirrors (mirrorsAfter table current config), SameMirror read desired
  only : ∀ read ∈ readMirrors (mirrorsAfter table current config),
    ∃ desired ∈ config.portMirrors, SameMirror read desired
  unique : ((readMirrors (mirrorsAfter table current config)).map PortMirror.sessionId).Nodup

/-- Sessions have names that can be typed, and none holds sources of a direction that is to go. -/
structure MirrorsFit (mirrors : List PortMirror) : Prop where
  sessions : ∀ mirror ∈ mirrors, IsSession mirror.sessionId.toList
  directions : ∀ mirror ∈ mirrors, ∀ entry ∈ table.entries, entry.session = mirror.sessionId →
    (mirror.direction = .rx → entry.egress = []) ∧ (mirror.direction = .tx → entry.ingress = [])

end RoundTrip

section Read

variable {table : MirrorTable} {entry : MirrorEntry} {mirror read : PortMirror}

/-- The mirrors that are read are those of the entries. -/
theorem mem_readMirrors : read ∈ readMirrors table ↔
    ∃ entry ∈ table.entries, entry.read = some read := by
  rw [readMirrors, parseSwitchMirrors_shown, List.mem_filterMap]

theorem sessionId_of_read (h : entry.read = some read) : read.sessionId = entry.session := by
  obtain ⟨_, _, _, rfl⟩ := read_eq_some_iff.mp h
  rfl

/-- Each has its entry. -/
theorem find_of_mem_readMirrors (h : read ∈ readMirrors table) :
    ∃ entry, table.find read.sessionId = some entry ∧ entry.read = some read := by
  obtain ⟨entry, hentry, hread⟩ := mem_readMirrors.mp h
  rw [sessionId_of_read hread]
  exact ⟨entry, MirrorTable.mem_entries_iff.mp hentry, hread⟩

theorem mem_readMirrors_of_find {key : String} (h : table.find key = some entry)
    (hread : entry.read = some read) : read ∈ readMirrors table :=
  mem_readMirrors.mpr ⟨entry, mem_of_lookup h, hread⟩

/-- No session is read twice. -/
theorem nodup_readMirrors : ((readMirrors table).map PortMirror.sessionId).Nodup := by
  have hsub : ∀ entries : List MirrorEntry,
      ((entries.filterMap MirrorEntry.read).map PortMirror.sessionId).Sublist
        (entries.map MirrorEntry.session) := by
    intro entries
    induction entries with
    | nil => exact List.Sublist.refl _
    | cons entry entries ih =>
      cases hread : entry.read with
      | none =>
        rw [List.filterMap_cons_none hread, List.map_cons]
        exact ih.cons _
      | some read =>
        rw [List.filterMap_cons_some hread, List.map_cons, List.map_cons, sessionId_of_read hread]
        exact ih.cons_cons _
  rw [readMirrors, parseSwitchMirrors_shown]
  exact table.nodup.sublist (hsub table.entries)

/-- The direction that is read is that of a list that is there. -/
theorem egress_of_read_rx (h : entry.read = some read) (hrx : read.direction = .rx) :
    entry.egress = [] := by
  obtain ⟨_, _, _, rfl⟩ := read_eq_some_iff.mp h
  cases hegress : entry.egress with
  | nil => rfl
  | cons name names =>
    rw [hegress] at hrx
    cases hingress : entry.ingress <;> rw [hingress] at hrx <;> cases hrx

/-- Where only sent frames are mirrored, no source of received ones is there. -/
theorem ingress_of_read_tx (h : entry.read = some read) (htx : read.direction = .tx) :
    entry.ingress = [] := by
  obtain ⟨_, _, _, rfl⟩ := read_eq_some_iff.mp h
  cases hingress : entry.ingress with
  | nil => rfl
  | cons name names =>
    rw [hingress] at htx
    cases hegress : entry.egress <;> rw [hegress] at htx <;> cases htx

end Read

section After

variable {table : MirrorTable} {current : SwitchState} {config : SwitchConfig} {key : String}

theorem MirrorTable.execute_append {lines lines' : List Line} (h : enter [] lines = []) :
    table.execute (lines ++ lines') = (table.execute lines).execute lines' := by
  rw [MirrorTable.execute, effects_append, h, MirrorTable.applyAll, List.foldl_append]
  rfl

/-- The removed sessions are gone, and no other. -/
theorem find_generateRemove {sessions : List String} :
    (table.execute (generateRemoveMirrorCommands sessions)).find key =
      if key ∈ sessions then none else table.find key := by
  rw [MirrorTable.execute, generateRemoveMirrorCommands, effects_block_deletes]
  induction sessions generalizing table with
  | nil => rfl
  | cons session sessions ih =>
    have hone : MirrorTable.apply (.remove [("switch mirror", session)]) table =
        table.remove session := rfl
    rw [List.map_cons, MirrorTable.applyAll, List.foldl_cons, hone]
    refine (@ih (table.remove session)).trans ?_
    rw [MirrorTable.find_remove]
    by_cases heq : key = session <;> by_cases hin : key ∈ sessions <;> simp [heq, hin]

/-- A step that is left out would have done nothing. -/
theorem execute_ifAny {α : Type} {l : List α} {commands : List α → List Line}
    (h : l = [] → table.execute (commands l) = table) :
    table.execute (if l.isEmpty then [] else commands l) = table.execute (commands l) := by
  cases l with
  | nil => exact (h rfl).symm
  | cons a l => rfl

theorem mirrorsAfter_eq : mirrorsAfter table current config =
    ((table.execute (generateRemoveMirrorCommands
        (removed PortMirror.sessionId current.portMirrors config.portMirrors))).execute
      (generateMirrorCommands
        (added PortMirror.sessionId current.portMirrors config.portMirrors))).execute
      (generateMirrorCommands
        (updated PortMirror.sessionId (· == ·) current.portMirrors config.portMirrors)) := by
  have hbalanced (mirrors : List PortMirror) :
      enter [] (if mirrors.isEmpty then [] else generateMirrorCommands mirrors) = [] := by
    split
    · rfl
    · exact (Balanced.flatMap fun _ _ => balanced_mirrorCommands).enter_block _ _
  have hbalancedRemove (sessions : List String) :
      enter [] (if sessions.isEmpty then [] else generateRemoveMirrorCommands sessions) = [] := by
    split
    · rfl
    · exact (Balanced.of_plain (by simp [Line.IsPlain])).enter_block _ _
  have hnone (table : MirrorTable) (mirrors : List PortMirror) (h : mirrors = []) :
      table.execute (generateMirrorCommands mirrors) = table := by
    rw [h]
    rfl
  rw [mirrorsAfter, mirrorSteps, List.append_assoc, Steps.sent_ifAny_append,
    Steps.sent_ifAny_append, ← List.append_nil (Steps.ifAny _ _), Steps.sent_ifAny_append,
    Steps.sent_nil, List.append_nil, MirrorTable.execute_append (hbalancedRemove _),
    MirrorTable.execute_append (hbalanced _), execute_ifAny (hnone _ _), execute_ifAny (hnone _ _),
    execute_ifAny ?_]
  · rfl
  · intro h
    rw [h]
    rfl

/-- Some of the wanted mirrors are wanted. -/
theorem Wanted.sub {mirrors part : List PortMirror} (h : Wanted mirrors) (hsub : part ⊆ mirrors)
    (hunique : (part.map PortMirror.sessionId).Nodup) : Wanted part :=
  ⟨hunique, fun mirror hmem => h.sources mirror (hsub hmem),
    fun mirror hmem => h.destination mirror (hsub hmem),
    fun mirror hmem => h.source mirror (hsub hmem)⟩

/-- What is added is desired. -/
theorem added_sub {mirrors mirrors' : List PortMirror} :
    added PortMirror.sessionId mirrors mirrors' ⊆ mirrors' := fun _ hmem =>
  mem_of_lookup (mem_added.mp hmem).1

/-- What is updated is desired. -/
theorem updated_sub {mirrors mirrors' : List PortMirror} :
    updated PortMirror.sessionId (· == ·) mirrors mirrors' ⊆ mirrors' := fun _ hmem =>
  mem_of_lookup (mem_updated.mp hmem).1

/-- A session that is wanted is written, or is there already as it is wanted. -/
theorem find_after_of_mem (hcurrent : current.portMirrors = readMirrors table)
    (hwanted : Wanted config.portMirrors)
    (htyped : ∀ mirror ∈ config.portMirrors, IsSession mirror.sessionId.toList)
    {desired : PortMirror} (hmem : desired ∈ config.portMirrors) :
    ∃ entry, (mirrorsAfter table current config).find desired.sessionId = some entry ∧
      (table.find desired.sessionId = some entry ∧ entry.read = some desired ∨
        WrittenMirror desired ((table.find desired.sessionId).getD
          { session := desired.sessionId, session_typed := htyped desired hmem }) entry) := by
  have hlookup := lookup_of_mem hwanted.unique hmem
  have hkept : desired.sessionId ∉
      removed PortMirror.sessionId current.portMirrors config.portMirrors := by
    rw [mem_removed, hlookup]
    exact fun h => nomatch h.2
  have hremove := @find_generateRemove table desired.sessionId
    (removed PortMirror.sessionId current.portMirrors config.portMirrors)
  rw [if_neg hkept] at hremove
  have hadded : ∀ mirror ∈ added PortMirror.sessionId current.portMirrors config.portMirrors,
      IsSession mirror.sessionId.toList := fun mirror h => htyped mirror (added_sub h)
  have hupdated : ∀ mirror ∈ updated PortMirror.sessionId (· == ·) current.portMirrors
      config.portMirrors, IsSession mirror.sessionId.toList :=
    fun mirror h => htyped mirror (updated_sub h)
  rw [mirrorsAfter_eq]
  cases hread : lookup PortMirror.sessionId desired.sessionId current.portMirrors with
  | none =>
    -- the session was not read, so it is added
    have hin := mem_added.mpr ⟨hlookup, hread⟩
    have hout : desired.sessionId ∉ (updated PortMirror.sessionId (· == ·) current.portMirrors
        config.portMirrors).map PortMirror.sessionId := by
      rw [mem_map_updated, hread]
      rintro ⟨_, _, h, -⟩
      cases h
    obtain ⟨new, hnew, hwritten⟩ := @find_generate_of_mem _ _ (table.execute
      (generateRemoveMirrorCommands _)) hadded (hwanted.sub added_sub nodup_added) hin
    refine ⟨new, (find_generate_of_notMem hupdated hout).trans hnew, .inr ?_⟩
    simpa only [hremove] using hwritten
  | some read =>
    have hout : desired.sessionId ∉ (added PortMirror.sessionId current.portMirrors
        config.portMirrors).map PortMirror.sessionId := by
      rw [mem_map_added]
      obtain ⟨hmemRead, hkey⟩ := lookup_some hread
      exact fun h => h.2 (hkey ▸ List.mem_map_of_mem hmemRead)
    have hadd := @find_generate_of_notMem _ (table.execute (generateRemoveMirrorCommands
      (removed PortMirror.sessionId current.portMirrors config.portMirrors))) hadded _ hout
    rw [hremove] at hadd
    by_cases hsame : read = desired
    · -- the session is read as it is wanted, so nothing is sent
      subst hsame
      have hnone : read.sessionId ∉ (updated PortMirror.sessionId (· == ·) current.portMirrors
          config.portMirrors).map PortMirror.sessionId := by
        rw [mem_map_updated, hread, hlookup]
        rintro ⟨_, _, ⟨⟩, ⟨⟩, h⟩
        simp at h
      have hthere := mem_of_lookup hread
      rw [hcurrent] at hthere
      obtain ⟨entry, hentry, hentryRead⟩ := find_of_mem_readMirrors hthere
      exact ⟨entry, (find_generate_of_notMem hupdated hnone).trans (hadd.trans hentry),
        .inl ⟨hentry, hentryRead⟩⟩
    · have hin := mem_updated.mpr ⟨hlookup, read, hread, beq_false_of_ne hsame⟩
      obtain ⟨new, hnew, hwritten⟩ := @find_generate_of_mem _ _ ((table.execute
        (generateRemoveMirrorCommands _)).execute (generateMirrorCommands _)) hupdated
          (hwanted.sub updated_sub nodup_updated) hin
      refine ⟨new, hnew, .inr ?_⟩
      simpa only [hadd] using hwritten

/-- A session that is not wanted is not read any more. -/
theorem find_after_of_notMem (hcurrent : current.portMirrors = readMirrors table)
    (htyped : ∀ mirror ∈ config.portMirrors, IsSession mirror.sessionId.toList)
    (hkey : key ∉ config.portMirrors.map PortMirror.sessionId) {entry : MirrorEntry}
    (h : (mirrorsAfter table current config).find key = some entry) : entry.read = none := by
  have hadded : key ∉ (added PortMirror.sessionId current.portMirrors
      config.portMirrors).map PortMirror.sessionId := fun hin =>
    hkey (List.map_subset _ added_sub hin)
  have hupdated : key ∉ (updated PortMirror.sessionId (· == ·) current.portMirrors
      config.portMirrors).map PortMirror.sessionId := fun hin =>
    hkey (List.map_subset _ updated_sub hin)
  rw [mirrorsAfter_eq, find_generate_of_notMem (fun mirror h => htyped mirror (updated_sub h))
    hupdated, find_generate_of_notMem (fun mirror h => htyped mirror (added_sub h)) hadded,
    find_generateRemove] at h
  split at h
  · cases h
  · next hkept =>
    cases hread : entry.read with
    | none => rfl
    | some read =>
      have hthere := mem_readMirrors_of_find h hread
      have hsession : read.sessionId = key :=
        (sessionId_of_read hread).trans (MirrorTable.session_of_find h)
      rw [← hcurrent] at hthere
      have hin : key ∈ current.portMirrors.map PortMirror.sessionId := by
        rw [← hsession]
        exact List.mem_map_of_mem hthere
      have hgone : key ∈ removed PortMirror.sessionId current.portMirrors config.portMirrors :=
        mem_removed_iff.mpr ⟨hin, hkey⟩
      exact absurd hgone hkept

end After

section Main

variable {table : MirrorTable} {current : SwitchState} {config : SwitchConfig}
variable {desired : PortMirror} {old new : MirrorEntry}

/-- Ports are read back as they were written. -/
theorem map_normalizePortId_read {ports : List String} (h : ∀ port ∈ ports, IsPort port) :
    ((ports.map normalizePortId).map denormalizePortId).map normalizePortId =
      ports.map normalizePortId := by
  rw [List.map_map, List.map_map]
  refine List.map_congr_left fun port hport => ?_
  simp only [Function.comp_apply]
  rw [normalizePortId_denormalizePortId (h port hport)]

/-- What was written is read, unless the list of the other direction was there before. -/
theorem WrittenMirror.read (h : WrittenMirror desired old new) (hsession : old.session = desired.sessionId)
    (hne : desired.sourcePorts ≠ []) (hdestination : IsPort desired.destinationPort)
    (hsources : ∀ port ∈ desired.sourcePorts, IsPort port)
    (hrx : desired.direction = .rx → old.egress = [])
    (htx : desired.direction = .tx → old.ingress = []) :
    ∃ read, new.read = some read ∧ SameMirror read desired := by
  obtain ⟨destination, hdst, hname⟩ := Option.map_eq_some_iff.mp h.dst
  have hnames : desired.sourcePorts.map normalizePortId ≠ [] := by simpa using hne
  have hsource (names : List InterfaceName)
      (heq : names.map InterfaceName.text = desired.sourcePorts.map normalizePortId) :
      names ≠ [] := by
    rintro rfl
    exact hnames heq.symm
  have hingress := h.ingress
  have hegress := h.egress
  -- the switch shows no direction: the reader infers it from the two lists
  have hdirection {names : List InterfaceName} (hnames : names ≠ []) :
      readDirection (names.map InterfaceName.text) [] = .rx ∧
        readDirection [] (names.map InterfaceName.text) = .tx ∧
        ∀ {names' : List InterfaceName}, names' ≠ [] → readDirection
          (names.map InterfaceName.text) (names'.map InterfaceName.text) = .both := by
    obtain ⟨name, names, rfl⟩ := List.exists_cons_of_ne_nil hnames
    refine ⟨rfl, rfl, fun hnames' => ?_⟩
    obtain ⟨name', names', rfl⟩ := List.exists_cons_of_ne_nil hnames'
    rfl
  obtain ⟨hthere, hpicked, hread⟩ : (new.ingress ≠ [] ∨ new.egress ≠ []) ∧
      (if new.ingress ≠ [] then new.ingress else new.egress).map InterfaceName.text =
        desired.sourcePorts.map normalizePortId ∧
      readDirection (new.ingress.map InterfaceName.text) (new.egress.map InterfaceName.text) =
        desired.direction := by
    cases hwanted : desired.direction with
    | rx =>
      rw [if_neg (by simp [hwanted])] at hingress
      rw [if_pos hwanted, hrx hwanted] at hegress
      have hne := hsource _ hingress
      rw [if_pos hne, hegress]
      exact ⟨.inl hne, hingress, (hdirection hne).1⟩
    | tx =>
      rw [if_pos hwanted, htx hwanted] at hingress
      rw [if_neg (by simp [hwanted])] at hegress
      have hne := hsource _ hegress
      rw [List.map_eq_nil_iff.mp hingress, if_neg (by simp)]
      exact ⟨.inr hne, hegress, (hdirection hne).2.1⟩
    | both =>
      rw [if_neg (by simp [hwanted])] at hingress hegress
      have hne := hsource _ hingress
      rw [if_pos hne]
      exact ⟨.inl hne, hingress, (hdirection hne).2.2 (hsource _ hegress)⟩
  refine ⟨_, read_eq_some_iff.mpr ⟨destination, hdst, hthere, rfl⟩, ?_, ?_, ?_, hread⟩
  · exact h.session.trans hsession
  · dsimp only
    rw [hname, normalizePortId_denormalizePortId hdestination]
  · intro port
    dsimp only
    -- the names are read back as ids, which undoes how they were written
    rw [hpicked, map_normalizePortId_read hsources]

/-- Mirrors that come back fit. -/
theorem MirrorsRoundTrip.fit (hwanted : Wanted config.portMirrors)
    (hcurrent : current.portMirrors = readMirrors table)
    (h : MirrorsRoundTrip table current config) : MirrorsFit table config.portMirrors := by
  have htyped : ∀ mirror ∈ config.portMirrors, IsSession mirror.sessionId.toList := by
    intro mirror hmem
    obtain ⟨read, hread, hsame⟩ := h.back mirror hmem
    obtain ⟨entry, hentry, -⟩ := find_of_mem_readMirrors hread
    rw [← hsame.session, ← MirrorTable.session_of_find hentry]
    exact entry.session_typed
  refine ⟨htyped, fun mirror hmem entry hentry hsession => ?_⟩
  obtain ⟨read, hread, hsame⟩ := h.back mirror hmem
  obtain ⟨after, hafter, hafterRead⟩ := find_of_mem_readMirrors hread
  obtain ⟨new, hnew, hcases⟩ := find_after_of_mem hcurrent hwanted htyped hmem
  rw [hsame.session, hnew, Option.some.injEq] at hafter
  subst hafter
  have hfind : table.find mirror.sessionId = some entry := by
    rw [← hsession]
    exact MirrorTable.mem_entries_iff.mp hentry
  rw [hfind, Option.getD_some] at hcases
  constructor
  · intro hrx
    -- it reads back as one direction, so the other list was empty before
    have hnone := egress_of_read_rx hafterRead (hsame.direction.trans hrx)
    rcases hcases with ⟨heq, -⟩ | hwritten
    · rw [Option.some.inj heq, hnone]
    · have hegress := hwritten.egress
      rw [if_pos hrx, hnone] at hegress
      exact List.map_eq_nil_iff.mp hegress.symm
  · intro htx
    have hnone := ingress_of_read_tx hafterRead (hsame.direction.trans htx)
    rcases hcases with ⟨heq, -⟩ | hwritten
    · rw [Option.some.inj heq, hnone]
    · have hingress := hwritten.ingress
      rw [if_pos htx, hnone] at hingress
      exact List.map_eq_nil_iff.mp hingress.symm

/-- Mirrors that fit come back. -/
theorem MirrorsFit.roundTrip (hwanted : Wanted config.portMirrors)
    (hcurrent : current.portMirrors = readMirrors table)
    (h : MirrorsFit table config.portMirrors) : MirrorsRoundTrip table current config := by
  have hback : ∀ mirror ∈ config.portMirrors, ∃ entry read,
      (mirrorsAfter table current config).find mirror.sessionId = some entry ∧
        entry.read = some read ∧ SameMirror read mirror := by
    intro mirror hmem
    obtain ⟨entry, hentry, hcases⟩ := find_after_of_mem hcurrent hwanted h.sessions hmem
    rcases hcases with ⟨-, hread⟩ | hwritten
    · exact ⟨entry, mirror, hentry, hread, rfl, rfl, fun _ => Iff.rfl, rfl⟩
    · have hdirections := h.directions mirror hmem
      -- A session the table does not hold starts with no sources at all.
      have hother (hsession : IsSession mirror.sessionId.toList) :
          let held := (table.find mirror.sessionId).getD
            { session := mirror.sessionId, session_typed := hsession }
          (mirror.direction = .rx → held.egress = []) ∧
            (mirror.direction = .tx → held.ingress = []) := by
        cases hfind : table.find mirror.sessionId with
        | none => exact ⟨fun _ => rfl, fun _ => rfl⟩
        | some held =>
          exact hdirections held (mem_of_lookup hfind) (MirrorTable.session_of_find hfind)
      obtain ⟨read, hread, hsame⟩ := hwritten.read MirrorTable.session_getD
        (hwanted.sources mirror hmem) (hwanted.destination mirror hmem)
        (hwanted.source mirror hmem) (hother _).1 (hother _).2
      exact ⟨entry, read, hentry, hread, hsame⟩
  refine ⟨fun mirror hmem => ?_, fun read hread => ?_, nodup_readMirrors⟩
  · obtain ⟨entry, read, hentry, hread, hsame⟩ := hback mirror hmem
    exact ⟨read, mem_readMirrors_of_find hentry hread, hsame⟩
  · obtain ⟨entry, hentry, hentryRead⟩ := find_of_mem_readMirrors hread
    by_cases hin : read.sessionId ∈ config.portMirrors.map PortMirror.sessionId
    · obtain ⟨mirror, hmem, hsession⟩ := List.mem_map.mp hin
      obtain ⟨again, read', hagain, hread', hsame⟩ := hback mirror hmem
      rw [hsession, hentry, Option.some.injEq] at hagain
      rw [← hagain, hentryRead, Option.some.injEq] at hread'
      exact ⟨mirror, hmem, hread' ▸ hsame⟩
    · rw [find_after_of_notMem hcurrent h.sessions hin hentry] at hentryRead
      cases hentryRead

/-- Mirrors come back exactly if their sessions can be typed, and no session to be mirrored in one
direction holds sources of the other. -/
theorem mirrors_round_trip_iff (hwanted : Wanted config.portMirrors)
    (hcurrent : current.portMirrors = readMirrors table) :
    MirrorsRoundTrip table current config ↔ MirrorsFit table config.portMirrors :=
  ⟨fun h => h.fit hwanted hcurrent, fun h => h.roundTrip hwanted hcurrent⟩

def receivedMirror : PortMirror where
  sessionId := "1"
  sourcePorts := ["15"]
  destinationPort := "22"
  direction := .rx

def bothMirror : PortMirror where
  sessionId := "3"
  sourcePorts := ["port4", "15"]
  destinationPort := "23"
  direction := .both

theorem isPort_fifteen : IsPort "15" := @isPort_digits ['1', '5'] (by decide) (by decide)

theorem isPort_twentyTwo : IsPort "22" := @isPort_digits ['2', '2'] (by decide) (by decide)

theorem wanted_receivedMirror : Wanted [receivedMirror] := by
  refine ⟨by decide, ?_, ?_, ?_⟩ <;> simp [receivedMirror, isPort_fifteen, isPort_twentyTwo]

/-- A session that has another source and destination, and one that is not wanted any more. -/
def heldMirrors : MirrorTable where
  entries :=
    [{ session := "1"
       dst := some ⟨"port9", by decide⟩
       ingress := [⟨"port3", by decide⟩]
       session_typed := by decide },
     { session := "2"
       dst := some ⟨"port10", by decide⟩
       egress := [⟨"port5", by decide⟩, ⟨"port6", by decide⟩]
       session_typed := by decide }]
  nodup := by decide

/-- One session is changed, one is removed, and one of its own is made. -/
theorem mirrors_round_trip_iff_received :
    MirrorsRoundTrip heldMirrors { portMirrors := readMirrors heldMirrors }
      { id := "sw1", portMirrors := [receivedMirror, bothMirror] } := by
  have hnamed : isNumberedPort (normalizePortId "port4") = true := by decide +kernel
  have hports : IsPort "port4" ∧ IsPort "23" :=
    ⟨hnamed, @isPort_digits ['2', '3'] (by decide) (by decide)⟩
  have hwanted : Wanted [receivedMirror, bothMirror] := by
    refine ⟨by decide, ?_, ?_, ?_⟩ <;>
      simp [receivedMirror, bothMirror, isPort_fifteen, isPort_twentyTwo, hports]
  refine (mirrors_round_trip_iff hwanted rfl).mpr ⟨?_, ?_⟩
  · exact List.forall_mem_cons.mpr ⟨by decide, List.forall_mem_singleton.mpr (by decide)⟩
  · intro mirror hmirror entry hentry hsession
    rcases List.mem_pair.mp hmirror with rfl | rfl <;>
      rcases List.mem_pair.mp hentry with rfl | rfl
    · exact ⟨fun _ => rfl, fun hdirection => by cases hdirection⟩
    all_goals exact absurd hsession (by decide)

/-- A session that mirrored what its source sent mirrors both directions once it is to mirror what
the source receives. -/
theorem sent_stays_mirrored : ¬∀ (table : MirrorTable) (current : SwitchState)
    (config : SwitchConfig), Wanted config.portMirrors →
      current.portMirrors = readMirrors table → MirrorsRoundTrip table current config := by
  let held : MirrorEntry :=
    { session := "1"
      dst := some ⟨"port22", by decide⟩
      egress := [⟨"port15", by decide⟩]
      session_typed := by decide }
  let table : MirrorTable := { entries := [held], nodup := List.nodup_singleton _ }
  intro h
  have hfit := (h table { portMirrors := readMirrors table }
    { id := "sw1", portMirrors := [receivedMirror] } wanted_receivedMirror rfl).fit wanted_receivedMirror rfl
  have hnone := (hfit.directions receivedMirror List.mem_cons_self held List.mem_cons_self rfl).1 rfl
  cases hnone

end Main

end SwitchConfigurator.Fortiswitch
