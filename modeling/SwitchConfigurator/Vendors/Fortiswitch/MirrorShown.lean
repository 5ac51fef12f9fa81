import SwitchConfigurator.Vendors.Fortiswitch.MirrorTable

/-!
# The mirror table as it is read

Each entry that is shown gives at most one mirror, and nothing else of the text gives one.
-/

namespace SwitchConfigurator.Fortiswitch

open Cli Keyed

/-- What an entry says to the parser. -/
def MirrorEntry.reader (mirror : MirrorEntry) : MirrorReader where
  inBlock := true
  depth := 1
  sessionId := some mirror.session
  dst := mirror.dst.map InterfaceName.text
  ingress := mirror.ingress.map InterfaceName.text
  egress := mirror.egress.map InterfaceName.text

/-- An entry as it is read: a mirror once it has a destination and a source. -/
def MirrorEntry.read (mirror : MirrorEntry) : Option PortMirror := mirror.reader.session

section Lines

variable {mirror : MirrorEntry} {names : List InterfaceName} {field : String}

theorem text_edit_bare (key : String) :
    (Line.edit (.bare key)).text.toList = "edit ".toList ++ key.toList := by
  simp [Line.text, Line.words, render, Arg.text]

/-- A setting: its field, and its words with blanks between them. -/
theorem text_set (field : String) (arg : Arg) (args : List Arg) :
    (Line.set field (arg :: args)).text.toList = "set ".toList ++ (field.toList ++
      ' ' :: [' '].intercalate ((arg :: args).map fun arg => arg.text.toList)) := by
  rw [Line.text, Line.words, render, String.toList_intercalate]
  simp [List.intercalate_cons_cons, Arg.text, Function.comp_def]

theorem legible_interfaceLine (hfield : IsWord field.toList) :
    Legible (Line.set field (interfaceArgs names)).text.toList := by
  refine legible_render (by simp [Line.words]) ?_
  simp only [Line.words, interfaceArgs, List.forall_mem_cons, List.forall_mem_map]
  exact ⟨by decide, legibleArg_bare hfield, fun name _ => legibleArg_bare name.word⟩

theorem legible_sourceLines (hfield : IsWord field.toList) :
    ∀ line ∈ sourceLines field names, Legible line.text.toList := by
  rw [sourceLines]
  split
  · exact List.forall_mem_nil _
  · exact List.forall_mem_singleton.mpr (legible_interfaceLine hfield)

/-- The lines of a session can be read. -/
theorem legible_mirrorLines : ∀ line ∈ mirror.lines, Legible line.text.toList := by
  have hedit : Legible (Line.edit (.bare mirror.session)).text.toList := by
    refine legible_render (by simp [Line.words]) ?_
    simp only [Line.words, List.forall_mem_cons, List.not_mem_nil, false_imp_iff, implies_true,
      and_true]
    exact ⟨by decide, legibleArg_bare mirror.session_typed.1⟩
  have hdst (name : InterfaceName) : Legible (Line.set "dst" [.bare name.text]).text.toList :=
    @legible_interfaceLine [name] "dst" (by decide)
  have hingress := @legible_sourceLines mirror.ingress "src-ingress" (by decide)
  have hegress := @legible_sourceLines mirror.egress "src-egress" (by decide)
  simp only [MirrorEntry.lines, entry, List.forall_mem_cons, List.forall_mem_append,
    List.forall_mem_map, List.not_mem_nil, false_imp_iff, implies_true, and_true]
  exact ⟨hedit, ⟨⟨⟨by decide, fun name _ => hdst name⟩, hingress⟩, hegress⟩, by decide⟩

/-- So can those of the table. -/
theorem legible_mirrorTable {table : MirrorTable} :
    ∀ line ∈ table.lines, Legible line.text.toList := by
  simp only [MirrorTable.lines, block, List.forall_mem_cons, List.forall_mem_append,
    List.forall_mem_flatMap]
  exact ⟨by decide, fun mirror _ => legible_mirrorLines, by decide, List.forall_mem_nil _⟩

/-- The lines that are shown reach the parser as they are. -/
theorem map_trim_mirrors {table : MirrorTable} :
    (strLines table.shown).map trim = table.lines.map fun line => line.text.toList := by
  have hlegible : ∀ text ∈ table.lines.map (fun line => line.text.toList), Legible text :=
    List.forall_mem_map.mpr legible_mirrorTable
  rw [MirrorTable.shown, strLines_printed hlegible]
  exact (List.map_congr_left fun text htext => (hlegible text htext).trimmed).trans (List.map_id _)

end Lines

/-! ## One entry -/

namespace MirrorReader

/-- A session is open in the table. -/
structure InSession (reader : MirrorReader) : Prop where
  inBlock : reader.inBlock = true
  depth : reader.depth = 1
  session : reader.sessionId.isSome = true

variable {reader : MirrorReader} {trimmed : List Char} {names : List InterfaceName}

/-- A line that opens and closes no table. -/
theorem step_inner (hblock : reader.inBlock = true) (hdepth : reader.depth = 1)
    (hconfig : stripPrefix "config " trimmed = none) (hend : trimmed ≠ "end".toList) :
    reader.step trimmed = match stripPrefix "edit " trimmed with
      | some rest =>
        { reader.flush with sessionId := some (String.ofList (trimQuotes (trim rest))) }
      | none => if reader.sessionId.isNone then reader else reader.sessionLine trimmed := by
  have htable : trimmed ≠ "config switch mirror".toList := by
    rintro rfl
    cases hconfig
  rw [MirrorReader.step, if_neg htable, hblock, if_neg (by decide), hconfig, if_neg (by decide),
    if_neg hend, hdepth]
  exact if_neg (by decide)

/-- In a session, other lines are settings. -/
theorem InSession.step (h : reader.InSession) (hconfig : stripPrefix "config " trimmed = none)
    (hend : trimmed ≠ "end".toList) (hedit : stripPrefix "edit " trimmed = none) :
    reader.step trimmed = reader.sessionLine trimmed := by
  have hopen : reader.sessionId.isNone = false := by
    rw [← Option.not_isSome, h.session]
    rfl
  rw [step_inner h.inBlock h.depth hconfig hend, hedit]
  dsimp only
  rw [hopen, if_neg Bool.false_ne_true]

/-- The destination is read. -/
theorem InSession.step_dst (h : reader.InSession) (name : InterfaceName) :
    reader.step (Line.set "dst" [.bare name.text]).text.toList =
      { reader with dst := some name.text } := by
  have hstrip (rest : List Char) : stripPrefix "set dst "
      ("set ".toList ++ ("dst".toList ++ ' ' :: rest)) = some rest := rfl
  have hone : [' '].intercalate ([Arg.bare name.text].map fun arg => arg.text.toList) =
      name.text.toList := by simp [Arg.text]
  rw [text_set, h.step rfl (by simp) rfl, sessionLine, hstrip, hone]
  dsimp only
  rw [trim_of_forall name.word.2, String.ofList_toList]

/-- The names of interfaces are read as words. -/
theorem splitWhitespace_names : (splitWhitespace ([' '].intercalate
    ((interfaceArgs names).map fun arg => arg.text.toList))).map String.ofList =
      names.map InterfaceName.text := by
  have hwords : (interfaceArgs names).map (fun arg => arg.text.toList) =
      names.map fun name => name.text.toList := by
    rw [interfaceArgs, List.map_map]
    rfl
  rw [hwords, splitWhitespace_intercalate (List.forall_mem_map.mpr fun name _ => name.word),
    List.map_map]
  exact List.map_congr_left fun name _ => String.ofList_toList

/-- The sources of one direction are read. -/
theorem InSession.fold_ingress (h : reader.InSession) (hnone : reader.ingress = []) :
    ((sourceLines "src-ingress" names).map fun line => line.text.toList).foldl
        MirrorReader.step reader = { reader with ingress := names.map InterfaceName.text } := by
  cases names with
  | nil =>
    cases reader
    simp_all [sourceLines]
  | cons name names =>
    have hdst (rest : List Char) : stripPrefix "set dst "
        ("set ".toList ++ ("src-ingress".toList ++ ' ' :: rest)) = none := rfl
    have hstrip (rest : List Char) : stripPrefix "set src-ingress "
        ("set ".toList ++ ("src-ingress".toList ++ ' ' :: rest)) = some rest := rfl
    have hargs : interfaceArgs (name :: names) = .bare name.text :: interfaceArgs names := rfl
    rw [sourceLines, List.isEmpty_cons, if_neg Bool.false_ne_true, List.map_singleton,
      List.foldl_cons, List.foldl_nil, hargs, text_set, h.step rfl (by simp) rfl, sessionLine, hdst,
      hstrip, ← hargs]
    dsimp only
    rw [splitWhitespace_names]

/-- So are those of the other. -/
theorem InSession.fold_egress (h : reader.InSession) (hnone : reader.egress = []) :
    ((sourceLines "src-egress" names).map fun line => line.text.toList).foldl
        MirrorReader.step reader = { reader with egress := names.map InterfaceName.text } := by
  cases names with
  | nil =>
    cases reader
    simp_all [sourceLines]
  | cons name names =>
    have hdst (rest : List Char) : stripPrefix "set dst "
        ("set ".toList ++ ("src-egress".toList ++ ' ' :: rest)) = none := rfl
    have hingress (rest : List Char) : stripPrefix "set src-ingress "
        ("set ".toList ++ ("src-egress".toList ++ ' ' :: rest)) = none := rfl
    have hstrip (rest : List Char) : stripPrefix "set src-egress "
        ("set ".toList ++ ("src-egress".toList ++ ' ' :: rest)) = some rest := rfl
    have hargs : interfaceArgs (name :: names) = .bare name.text :: interfaceArgs names := rfl
    rw [sourceLines, List.isEmpty_cons, if_neg Bool.false_ne_true, List.map_singleton,
      List.foldl_cons, List.foldl_nil, hargs, text_set, h.step rfl (by simp) rfl, sessionLine, hdst,
      hingress, hstrip, ← hargs]
    dsimp only
    rw [splitWhitespace_names]

/-- In the table, and no session open. -/
def atTable (mirrors : List PortMirror) : MirrorReader where
  mirrors := mirrors
  inBlock := true
  depth := 1

/-- At the start of a session. -/
def opened (mirrors : List PortMirror) (session : String) : MirrorReader where
  mirrors := mirrors
  inBlock := true
  depth := 1
  sessionId := some session

theorem step_edit (mirrors : List PortMirror) (mirror : MirrorEntry) :
    (atTable mirrors).step (Line.edit (.bare mirror.session)).text.toList =
      opened mirrors mirror.session := by
  have hstrip (rest : List Char) : stripPrefix "edit " ("edit ".toList ++ rest) = some rest := rfl
  obtain ⟨hword, hquote⟩ := mirror.session_typed
  have hends : trimQuotes mirror.session.toList = mirror.session.toList :=
    trimQuotes_eq_self_iff.mpr ⟨fun hhead => hquote (List.mem_of_mem_head? hhead),
      fun hlast => hquote (List.mem_of_mem_getLast? hlast)⟩
  rw [text_edit_bare, step_inner rfl rfl rfl (by simp), hstrip]
  dsimp only
  rw [trim_of_forall hword.2, hends, String.ofList_toList, flush, session, atTable, opened]
  simp

/-- The lines of an entry. -/
theorem fold_mirror (mirrors : List PortMirror) (mirror : MirrorEntry) :
    (mirror.lines.map fun line => line.text.toList).foldl MirrorReader.step (atTable mirrors) =
      atTable (mirrors ++ mirror.read.toList) := by
  have hin (reader : MirrorReader) (hblock : reader.inBlock = true) (hdepth : reader.depth = 1)
      (hsession : reader.sessionId = some mirror.session) : reader.InSession :=
    ⟨hblock, hdepth, by rw [hsession]; rfl⟩
  have hstatus : ([Line.set "status" [.bare "active"]].map fun line => line.text.toList).foldl
      MirrorReader.step (opened mirrors mirror.session) = opened mirrors mirror.session := by
    rw [List.map_singleton, List.foldl_cons, List.foldl_nil,
      (hin _ rfl rfl rfl).step (by decide) (by decide) (by decide)]
    rfl
  have hdst : ((mirror.dst.toList.map fun name => Line.set "dst" [.bare name.text]).map
      fun line => line.text.toList).foldl MirrorReader.step (opened mirrors mirror.session) =
        { opened mirrors mirror.session with dst := mirror.dst.map InterfaceName.text } := by
    cases mirror.dst with
    | none => rfl
    | some name =>
      rw [Option.toList_some, List.map_singleton, List.map_singleton, List.foldl_cons,
        (hin _ rfl rfl rfl).step_dst, List.foldl_nil, Option.map_some]
  have hnext (reader : MirrorReader) (h : reader.InSession) :
      ([Line.next].map fun line => line.text.toList).foldl MirrorReader.step reader =
        reader.flush := by
    rw [List.map_singleton, List.foldl_cons, List.foldl_nil,
      h.step (by decide) (by decide) (by decide)]
    rfl
  rw [MirrorEntry.lines, entry, List.map_cons, List.foldl_cons, step_edit, List.map_append,
    List.map_append, List.map_append, List.map_append, List.foldl_append, List.foldl_append,
    List.foldl_append, List.foldl_append, hstatus, hdst, (hin _ rfl rfl rfl).fold_ingress rfl,
    (hin _ rfl rfl rfl).fold_egress rfl, hnext _ (hin _ rfl rfl rfl)]
  rfl

/-- The sessions of a table are read one after another. -/
theorem fold_mirrors (mirrors : List PortMirror) (entries : List MirrorEntry) :
    ((entries.flatMap MirrorEntry.lines).map fun line => line.text.toList).foldl
        MirrorReader.step (atTable mirrors) =
      atTable (mirrors ++ entries.filterMap MirrorEntry.read) := by
  induction entries generalizing mirrors with
  | nil =>
    rw [List.filterMap_nil, List.append_nil]
    rfl
  | cons mirror entries ih =>
    rw [List.flatMap_cons, List.map_append, List.foldl_append, fold_mirror, ih, List.append_assoc]
    cases hread : mirror.read <;> simp [hread]

end MirrorReader

/-- Every entry is read, and nothing else. -/
theorem parseSwitchMirrors_shown (table : MirrorTable) :
    parseSwitchMirrors (strLines table.shown) = table.entries.filterMap MirrorEntry.read := by
  have hopen : MirrorReader.step {} (Line.config mirrorTable).text.toList =
      MirrorReader.atTable [] := rfl
  have hclose (mirrors : List PortMirror) :
      ((MirrorReader.atTable mirrors).step Line.close.text.toList).flush.mirrors = mirrors :=
    (List.append_nil _).trans (List.append_nil _)
  rw [parseSwitchMirrors, map_trim_mirrors, MirrorTable.lines, block, List.map_cons,
    List.foldl_cons, hopen, List.map_append, List.foldl_append, MirrorReader.fold_mirrors,
    List.map_singleton, List.foldl_cons, List.foldl_nil, hclose, List.nil_append]

/-- The mirror of an entry, and when there is one. -/
theorem read_eq_some_iff {mirror : MirrorEntry} {read : PortMirror} : mirror.read = some read ↔
    ∃ destination, mirror.dst = some destination ∧ (mirror.ingress ≠ [] ∨ mirror.egress ≠ []) ∧
      read = { sessionId := mirror.session
               sourcePorts := ((if mirror.ingress ≠ [] then mirror.ingress else mirror.egress).map
                 InterfaceName.text).map denormalizePortId
               destinationPort := denormalizePortId destination.text
               direction := readDirection (mirror.ingress.map InterfaceName.text)
                 (mirror.egress.map InterfaceName.text) } := by
  rw [MirrorEntry.read, MirrorEntry.reader, MirrorReader.session]
  cases mirror.dst with
  | none => exact iff_of_false nofun nofun
  | some destination =>
    dsimp only [Option.map_some]
    cases hingress : mirror.ingress with
    | nil =>
      cases hegress : mirror.egress with
      | nil => exact iff_of_false nofun (by simp)
      | cons name names => simp [eq_comm]
    | cons name names => simp [eq_comm]

end SwitchConfigurator.Fortiswitch
