import SwitchConfigurator.Vendors.Fortiswitch.SnmpReader

/-!
# The community table as it is read

What the two parsers make of a table as `show` prints it: each finds in it what the table says.
-/

namespace SwitchConfigurator.Fortiswitch

open Cli

section Shown

variable {table : SnmpTable} {community : SnmpEntry} {host : SnmpHost}

theorem isWord_of_isIpv4 {text : List Char} (h : isIpv4 text = true) : IsWord text := by
  refine ⟨?_, fun c hc => isWhitespace_addrChar (isIpv4_chars h c hc)⟩
  rintro rfl
  exact absurd h (by decide)

theorem legible_set_ip :
    Legible (Line.set "ip" [.bare host.ip.address, .bare host.ip.netmask]).text.toList := by
  refine legible_render (by simp [Line.words]) ?_
  simp only [Line.words, List.forall_mem_cons, List.not_mem_nil, false_imp_iff, implies_true,
    and_true]
  exact ⟨by decide, by decide, legibleArg_bare (isWord_of_isIpv4 host.ip.valid.1),
    legibleArg_bare (isWord_of_isIpv4 host.ip.valid.2)⟩

theorem legible_edit (n : ℕ) : Legible (Line.edit (.number n)).text.toList := by
  refine legible_render (by simp [Line.words]) ?_
  simp only [Line.words, List.forall_mem_cons, List.not_mem_nil, false_imp_iff, implies_true,
    and_true]
  exact ⟨by decide, legibleArg_number n⟩

/-- The lines of a host can be read. -/
theorem legible_host : ∀ line ∈ host.lines, Legible line.text.toList := by
  simp only [SnmpHost.lines, entry, List.singleton_append, List.forall_mem_cons, List.not_mem_nil,
    false_imp_iff, implies_true, and_true]
  exact ⟨legible_edit _, legible_set_ip, by decide⟩

/-- So can those of an entry. -/
theorem legible_entry : ∀ line ∈ community.lines, Legible line.text.toList := by
  have hname (name : CommunityName) :
      Legible (Line.set "name" [.quoted name.text]).text.toList := by
    refine legible_render (by simp [Line.words]) ?_
    simp only [Line.words, List.forall_mem_cons, List.not_mem_nil, false_imp_iff, implies_true,
      and_true]
    exact ⟨by decide, by decide, legibleArg_quoted fun hmem => (name.plain _ hmem).2 rfl⟩
  have hevents : Legible
      (Line.set "events" (community.events.map fun event => .bare event.text)).text.toList := by
    refine legible_render (by simp [Line.words]) ?_
    simp only [Line.words, List.forall_mem_cons, List.forall_mem_map]
    exact ⟨by decide, by decide, fun event _ => legibleArg_bare event.word⟩
  have hstatus (field : String) (enabled : Bool)
      (hfield : field = "trap-v1-status" ∨ field = "trap-v2c-status") :
      Legible (Line.set field [statusArg enabled]).text.toList := by
    rcases hfield with rfl | rfl <;> cases enabled <;> decide
  simp only [SnmpEntry.lines, entry, List.forall_mem_cons, List.forall_mem_append,
    List.forall_mem_map]
  refine ⟨legible_edit _,
    ⟨⟨⟨fun name _ => hname name, hstatus _ _ (.inl rfl), hstatus _ _ (.inr rfl),
    List.forall_mem_nil _⟩, ?_⟩, ?_⟩, by decide, List.forall_mem_nil _⟩
  · split
    · exact List.forall_mem_nil _
    · exact List.forall_mem_singleton.mpr hevents
  · split
    · exact List.forall_mem_nil _
    · simp only [block, List.forall_mem_cons, List.forall_mem_append, List.forall_mem_flatMap]
      exact ⟨by decide, fun host _ => legible_host, by decide, List.forall_mem_nil _⟩

/-- So can those of the table. -/
theorem legible_lines : ∀ line ∈ table.lines, Legible line.text.toList := by
  simp only [SnmpTable.lines, block, List.forall_mem_cons, List.forall_mem_append,
    List.forall_mem_flatMap]
  exact ⟨by decide, fun entry _ => legible_entry, by decide, List.forall_mem_nil _⟩

/-- The lines that are shown reach the readers as they are. -/
theorem map_trim_shown :
    (strLines table.shown).map trim = table.lines.map fun line => line.text.toList := by
  have hlegible : ∀ text ∈ table.lines.map (fun line => line.text.toList), Legible text :=
    List.forall_mem_map.mpr legible_lines
  rw [SnmpTable.shown, strLines_printed hlegible]
  exact (List.map_congr_left fun text htext => (hlegible text htext).trimmed).trans (List.map_id _)

end Shown

section ReadBack

variable {reader : SnmpReader} {table : SnmpTable} {community : SnmpEntry} {host : SnmpHost}
variable {trimmed : List Char}

theorem text_edit (n : ℕ) :
    (Line.edit (.number n)).text.toList = "edit ".toList ++ (toString n).toList := by
  simp [Line.text, Line.words, render, Arg.text, Arg.number]

theorem text_set_name (name : String) : (Line.set "name" [.quoted name]).text.toList =
    "set name ".toList ++ '"' :: (name.toList ++ ['"']) := by
  simp [Line.text, Line.words, render, Arg.text]

theorem text_set_ip : (Line.set "ip" [.bare host.ip.address, .bare host.ip.netmask]).text.toList =
    "set ip ".toList ++ host.text := by
  simp [Line.text, Line.words, render, Arg.text, SnmpHost.text]

theorem text_set_events (event : Arg) (events : List Arg) :
    (Line.set "events" (event :: events)).text.toList =
    "set events ".toList ++
      [' '].intercalate ((event :: events).map fun arg => arg.text.toList) := by
  rw [Line.text, Line.words, render, String.toList_intercalate]
  simp [List.intercalate_cons_cons, Arg.text, Function.comp_def]

theorem trim_text : trim host.text = host.text := by
  have hrender : (render [.bare host.ip.address, .bare host.ip.netmask]).toList = host.text := by
    simp [render, Arg.text, SnmpHost.text]
  rw [← hrender]
  refine (legible_render (List.cons_ne_nil _ _) ?_).trimmed
  simp only [List.forall_mem_cons, List.not_mem_nil, false_imp_iff, implies_true, and_true]
  exact ⟨legibleArg_bare (isWord_of_isIpv4 host.ip.valid.1),
    legibleArg_bare (isWord_of_isIpv4 host.ip.valid.2)⟩

namespace SnmpReader

/-- A line that opens and closes no table. -/
theorem step_of_plain (hblock : reader.inBlock = true)
    (hconfig : stripPrefix "config " trimmed = none) (hend : trimmed ≠ "end".toList) :
    reader.step trimmed = if reader.inHosts then reader.hostLine trimmed
      else if reader.depth != 1 then reader
      else if (stripPrefix "edit " trimmed).isSome then
        { reader with
          inCommunity := true
          communityName := none
          hosts := []
          trapV1Disabled := false
          trapV2cDisabled := false }
      else if !reader.inCommunity then reader
      else reader.entryLine trimmed := by
  have htable : trimmed ≠ "config system snmp community".toList := by
    rintro rfl
    cases hconfig
  have hhosts : trimmed ≠ "config hosts".toList := by
    rintro rfl
    cases hconfig
  rw [step, if_neg htable, hblock, if_neg (by decide), if_neg hhosts, hconfig,
    if_neg (by decide), if_neg hend]

/-- In the community table, outside of its entries' hosts. -/
def AtTable (reader : SnmpReader) : Prop :=
  reader.inBlock = true ∧ reader.depth = 1 ∧ reader.inHosts = false ∧ reader.currentHost = none

/-- In an entry, outside of its hosts. -/
def InEntry (reader : SnmpReader) : Prop := reader.AtTable ∧ reader.inCommunity = true

/-- A line that opens and closes no table, outside of the hosts. -/
theorem AtTable.step_plain (h : reader.AtTable) (hconfig : stripPrefix "config " trimmed = none)
    (hend : trimmed ≠ "end".toList) :
    reader.step trimmed = if (stripPrefix "edit " trimmed).isSome then
        { reader with
          inCommunity := true
          communityName := none
          hosts := []
          trapV1Disabled := false
          trapV2cDisabled := false }
      else if !reader.inCommunity then reader
      else reader.entryLine trimmed := by
  obtain ⟨hblock, hdepth, hhosts, -⟩ := h
  rw [step_of_plain hblock hconfig hend, hhosts, if_neg (by decide), hdepth, if_neg (by decide)]

/-- An `edit` opens the entry of its index. -/
theorem AtTable.step_edit (h : reader.AtTable) (n : ℕ) :
    reader.step (Line.edit (.number n)).text.toList =
      { reader with
        inCommunity := true
        communityName := none
        hosts := []
        trapV1Disabled := false
        trapV2cDisabled := false } := by
  rw [text_edit, h.step_plain rfl (by simp)]
  rfl

/-- In an entry, other lines are settings. -/
theorem InEntry.step_line (h : reader.InEntry) (hconfig : stripPrefix "config " trimmed = none)
    (hend : trimmed ≠ "end".toList) (hedit : stripPrefix "edit " trimmed = none) :
    reader.step trimmed = reader.entryLine trimmed := by
  rw [h.1.step_plain hconfig hend, hedit, if_neg (by decide), h.2,
    if_neg (by decide)]

/-- The name is read. -/
theorem InEntry.step_name (h : reader.InEntry) (name : CommunityName) :
    reader.step (Line.set "name" [.quoted name.text]).text.toList =
      { reader with communityName := some name.text } := by
  have hquote : '"' ∉ name.text.toList := fun hmem => (name.plain _ hmem).1 rfl
  have hname : trimQuotes ('"' :: (name.text.toList ++ ['"'])) = name.text.toList :=
    trimQuotes_quoted hquote
  have hstrip (rest : List Char) :
    stripPrefix "set name " ("set name ".toList ++ rest) = some rest := rfl
  rw [text_set_name, h.step_line rfl (by simp) rfl, entryLine, hstrip]
  dsimp only
  rw [hname, String.ofList_toList]

/-- The states of traps say nothing of the communities. -/
theorem InEntry.fold_status (h : reader.InEntry) (enabled enabled' : Bool) :
    ([Line.set "trap-v1-status" [statusArg enabled],
        .set "trap-v2c-status" [statusArg enabled']].map
      fun line => line.text.toList).foldl step reader =
      { reader with
        trapV1Disabled := reader.trapV1Disabled || !enabled
        trapV2cDisabled := reader.trapV2cDisabled || !enabled' } := by
  have hv1 : reader.step (Line.set "trap-v1-status" [statusArg enabled]).text.toList =
      { reader with trapV1Disabled := reader.trapV1Disabled || !enabled } := by
    cases enabled
    · rw [h.step_line (by decide) (by decide) (by decide)]
      simp
      rfl
    · rw [h.step_line (by decide) (by decide) (by decide)]
      simp
      rfl
  have hv2 (reader : SnmpReader) (h : reader.InEntry) :
      reader.step (Line.set "trap-v2c-status" [statusArg enabled']).text.toList =
        { reader with trapV2cDisabled := reader.trapV2cDisabled || !enabled' } := by
    cases enabled'
    · rw [h.step_line (by decide) (by decide) (by decide)]
      simp
      rfl
    · rw [h.step_line (by decide) (by decide) (by decide)]
      simp
      rfl
  rw [List.map_cons, List.map_singleton, List.foldl_cons, hv1, List.foldl_cons, hv2 _ (by exact h)]
  rfl

/-- The events are read. -/
theorem InEntry.fold_events (h : reader.InEntry) :
    ((if community.events.isEmpty then []
        else [Line.set "events" (community.events.map fun event => .bare event.text)]).map
      fun line => line.text.toList).foldl step reader =
      { reader with enabledTraps := community.readTraps reader.enabledTraps } := by
  cases hevents : community.events with
  | nil => simp [SnmpEntry.readTraps, hevents]
  | cons event events =>
    have hstrip (rest : List Char) :
      stripPrefix "set events " ("set events ".toList ++ rest) = some rest := rfl
    have hname (rest : List Char) :
      stripPrefix "set name " ("set events ".toList ++ rest) = none := rfl
    have hwords : splitWhitespace ([' '].intercalate
        (((event :: events).map fun event : EventName => Arg.bare event.text).map
          fun arg => arg.text.toList)) = (event :: events).map fun event => event.text.toList := by
      rw [List.map_map]
      exact splitWhitespace_intercalate (List.forall_mem_map.mpr fun event _ => event.word)
    rw [List.isEmpty_cons, if_neg (by decide), List.map_singleton, List.foldl_cons, List.foldl_nil,
      List.map_cons, text_set_events, h.step_line rfl (by simp) rfl, entryLine, hname, hstrip]
    dsimp only
    rw [← List.map_cons (f := fun event : EventName => Arg.bare event.text), hwords,
      List.filterMap_map, SnmpEntry.readTraps, hevents, List.isEmpty_cons, if_neg (by decide)]
    rfl

/-- A line of a host that opens and closes no table. -/
theorem step_hostLine (hblock : reader.inBlock = true) (hhosts : reader.inHosts = true)
    (hconfig : stripPrefix "config " trimmed = none) (hend : trimmed ≠ "end".toList) :
    reader.step trimmed = reader.hostLine trimmed := by
  rw [step_of_plain hblock hconfig hend, hhosts, if_pos rfl]

/-- A host is read. -/
theorem fold_host (hblock : reader.inBlock = true) (hhosts : reader.inHosts = true) :
    (host.lines.map fun line => line.text.toList).foldl step reader =
      { reader with hosts := reader.hosts ++ [host.text], currentHost := none } := by
  have hedit : reader.step (Line.edit (.number host.index)).text.toList = reader := by
    rw [text_edit, step_hostLine hblock hhosts rfl (by simp), hostLine, if_neg (by simp)]
    rfl
  have hip : reader.step
      (Line.set "ip" [.bare host.ip.address, .bare host.ip.netmask]).text.toList =
      { reader with currentHost := some host.text } := by
    have hstrip (rest : List Char) :
      stripPrefix "set ip " ("set ip ".toList ++ rest) = some rest := rfl
    rw [text_set_ip, step_hostLine hblock hhosts rfl (by simp), hostLine, hstrip]
    dsimp only
    rw [trim_text]
  have hnext : ({ reader with currentHost := some host.text } : SnmpReader).step
      (Line.next).text.toList =
      { reader with hosts := reader.hosts ++ [host.text], currentHost := none } := by
    rw [step_hostLine (by exact hblock) (by exact hhosts) (by decide) (by decide)]
    rfl
  rw [SnmpHost.lines, entry, List.singleton_append, List.map_cons, List.map_cons,
    List.map_singleton, List.foldl_cons, hedit, List.foldl_cons, hip, List.foldl_cons, hnext,
    List.foldl_nil]

/-- The hosts of an entry, in the table that they are listed in. -/
theorem fold_hosts {hosts : List SnmpHost} (hblock : reader.inBlock = true)
    (hhosts : reader.inHosts = true) (hcurrent : reader.currentHost = none) :
    ((hosts.flatMap SnmpHost.lines).map fun line => line.text.toList).foldl step reader =
      { reader with hosts := reader.hosts ++ hosts.map SnmpHost.text, currentHost := none } := by
  induction hosts generalizing reader with
  | nil =>
    cases reader
    simp_all
  | cons host hosts ih =>
    rw [List.flatMap_cons, List.map_append, List.foldl_append, fold_host hblock hhosts,
      ih (by exact hblock) (by exact hhosts) rfl]
    simp

/-- The hosts of an entry are read. -/
theorem InEntry.fold_block (h : reader.InEntry) :
    ((if community.hosts.isEmpty then []
      else block "hosts" (community.hosts.flatMap SnmpHost.lines)).map
      fun line => line.text.toList).foldl step reader =
      { reader with hosts := reader.hosts ++ community.hosts.map SnmpHost.text } := by
  by_cases hempty : community.hosts.isEmpty = true
  · rw [if_pos hempty, List.isEmpty_iff.mp hempty]
    simp
  · obtain ⟨⟨hblock, hdepth, hhosts, hcurrent⟩, -⟩ := h
    have hopen : reader.step (Line.config "hosts").text.toList =
        { reader with inHosts := true, depth := 2 } := by
      rw [step, if_neg (by decide), hblock, if_neg (by decide), if_pos (by decide), hdepth]
    have hclose (r : SnmpReader) (hb : r.inBlock = true) (hd : r.depth = 2)
        (hh : r.inHosts = true) : r.step (Line.close).text.toList =
        { r with inHosts := false, depth := 1 } := by
      rw [step, if_neg (by decide), hb, if_neg (by decide), if_neg (by decide),
        if_neg (by decide), if_pos (by decide), hd, hh]
      rfl
    rw [if_neg hempty, block, List.map_cons, List.map_append, List.foldl_cons, hopen,
      List.foldl_append, fold_hosts (by exact hblock) rfl (by exact hcurrent), List.map_singleton,
      List.foldl_cons, List.foldl_nil, hclose _ (by exact hblock) rfl rfl]
    cases reader
    simp_all

/-- An entry has one name at most. -/
theorem InEntry.fold_names (h : reader.InEntry) (hname : reader.communityName = none) :
    ((community.name.toList.map fun name => Line.set "name" [.quoted name.text]).map
      fun line => line.text.toList).foldl step reader =
      { reader with communityName := community.name.map CommunityName.text } := by
  cases community.name with
  | none =>
    cases reader
    simp_all
  | some name =>
    rw [Option.toList_some, List.map_singleton, List.map_singleton, List.foldl_cons, h.step_name,
      List.foldl_nil, Option.map_some]

theorem AtTable.atTable_leaveEntry (h : reader.AtTable) : reader.leaveEntry.AtTable := by
  rw [SnmpReader.leaveEntry]
  split
  · exact h
  · split
    · exact h
    · exact h

/-- What the lines of one entry add. -/
theorem AtTable.fold_entry (h : reader.AtTable) :
    ∃ reader' : SnmpReader, reader'.AtTable ∧
      (community.lines.map fun line => line.text.toList).foldl step reader = reader' ∧
      reader'.communities = reader.communities ++ community.community.toList ∧
      reader'.trapReceivers = reader.trapReceivers ++ community.receivers ∧
      reader'.enabledTraps = community.readTraps reader.enabledTraps := by
  -- the entry is open and has been read, its `next` is to follow
  let inside : SnmpReader :=
    { reader with
      inCommunity := true
      communityName := community.name.map CommunityName.text
      hosts := community.hosts.map SnmpHost.text
      trapV1Disabled := !community.trapV1
      trapV2cDisabled := !community.trapV2c
      enabledTraps := community.readTraps reader.enabledTraps }
  have hinside : inside.InEntry := ⟨h, rfl⟩
  have hnext : (community.lines.map fun line => line.text.toList).foldl step reader =
      inside.leaveEntry := by
    rw [SnmpEntry.lines, entry, List.map_cons, List.map_append, List.map_append, List.map_append,
      List.map_append, List.foldl_cons, h.step_edit, List.foldl_append,
      List.foldl_append, List.foldl_append, List.foldl_append,
      InEntry.fold_names ⟨by exact h, rfl⟩ rfl,
      InEntry.fold_status ⟨by exact h, rfl⟩, InEntry.fold_events ⟨by exact h, rfl⟩,
      InEntry.fold_block ⟨by exact h, rfl⟩, List.map_singleton, List.foldl_cons, List.foldl_nil]
    exact (hinside.step_line (by decide) (by decide) (by decide)).trans rfl
  refine ⟨inside.leaveEntry, AtTable.atTable_leaveEntry h, hnext, ?_⟩
  cases hname : community.name with
  | none => simp [leaveEntry, inside, hname, SnmpEntry.community, SnmpEntry.receivers]
  | some name =>
    by_cases hallow : community.isAllowList = true
    · have hdisabled : (!community.trapV1 && !community.trapV2c) = true := hallow
      simp [leaveEntry, inside, hname, hdisabled, hallow, SnmpEntry.community, SnmpEntry.receivers,
        SnmpEntry.allowedHosts]
    · have henabled : (!community.trapV1 && !community.trapV2c) = false :=
        eq_false_of_ne_true hallow
      simp [leaveEntry, inside, hname, henabled, hallow, SnmpEntry.community, SnmpEntry.receivers,
        SnmpEntry.allowedHosts]

/-- The entries of a table are read one after another. -/
theorem AtTable.fold_table (h : reader.AtTable) :
    ∃ reader' : SnmpReader, reader'.AtTable ∧
      ((table.flatMap SnmpEntry.lines).map fun line => line.text.toList).foldl step reader =
        reader' ∧
      reader'.communities = reader.communities ++ table.communities ∧
      reader'.trapReceivers = reader.trapReceivers ++ table.receivers ∧
      reader'.enabledTraps = table.foldl SnmpEntry.readTraps reader.enabledTraps := by
  induction table generalizing reader with
  | nil => exact ⟨reader, h, rfl, (List.append_nil _).symm, (List.append_nil _).symm, rfl⟩
  | cons community table ih =>
    obtain ⟨middle, hmiddle, hfold, hcommunities, hreceivers, htraps⟩ :=
      @AtTable.fold_entry _ community h
    obtain ⟨last, hlast, hrest, hcommunities', hreceivers', htraps'⟩ := ih hmiddle
    refine ⟨last, hlast, ?_, ?_, ?_, ?_⟩
    · rw [List.flatMap_cons, List.map_append, List.foldl_append, hfold, hrest]
    · rw [hcommunities', hcommunities, List.append_assoc, SnmpTable.communities,
        SnmpTable.communities]
      cases hc : community.community <;> simp [hc]
    · rw [hreceivers', hreceivers, List.append_assoc]
      rfl
    · rw [htraps', htraps, List.foldl_cons]

end SnmpReader

/-- The parser reads a table as it is shown. -/
theorem parseSnmpCommunity_shown : parseSnmpCommunity (strLines table.shown) = table.read := by
  have hopen : ({} : SnmpReader).step (Line.config communityTable).text.toList =
      { inBlock := true, depth := 1 } := by
    rw [SnmpReader.step, if_pos (by decide)]
  obtain ⟨reader, ⟨hblock, -, hhosts, -⟩, hfold, hcommunities, hreceivers, htraps⟩ :=
    @SnmpReader.AtTable.fold_table { inBlock := true, depth := 1 } table ⟨rfl, rfl, rfl, rfl⟩
  have hclose : (reader.step (Line.close).text.toList).result = reader.result := by
    rw [SnmpReader.step, if_neg (by decide), hblock, if_neg (by decide), if_neg (by decide),
      if_neg (by decide), if_pos (by decide), hhosts, if_neg (by simp)]
    rfl
  rw [parseSnmpCommunity, map_trim_shown, SnmpTable.lines, block, List.map_cons, List.foldl_cons,
    hopen, List.map_append, List.foldl_append, hfold, List.map_singleton, List.foldl_cons,
    List.foldl_nil, hclose, SnmpReader.result, hcommunities, hreceivers, htraps]
  rfl

/-! ### Indices -/

namespace IndexReader

/-- In the community table, outside of its entries' hosts. -/
def AtTable (reader : IndexReader) : Prop :=
  reader.inBlock = true ∧ reader.depth = 1 ∧ reader.inHosts = false

variable {reader : IndexReader}

/-- A line that opens and closes no table. -/
theorem AtTable.step_plain (h : reader.AtTable) (hconfig : stripPrefix "config " trimmed = none)
    (hend : trimmed ≠ "end".toList) :
    reader.step trimmed = match stripPrefix "edit " trimmed with
    | some key => { reader with currentIndex := parseUint 16 (trim key) }
    | none =>
      match stripPrefix "set name " trimmed, reader.currentIndex with
      | some name, some index =>
        { reader with indices := put (String.ofList (trimQuotes name)) index reader.indices }
      | some _, none => reader
      | none, _ =>
        if trimmed = "next".toList then { reader with currentIndex := none } else reader := by
  have htable : trimmed ≠ "config system snmp community".toList := by
    rintro rfl
    cases hconfig
  have hhosts : trimmed ≠ "config hosts".toList := by
    rintro rfl
    cases hconfig
  obtain ⟨hblock, hdepth, hin⟩ := h
  rw [step, if_neg htable, hblock, if_neg (by decide), if_neg hhosts, hconfig,
    if_neg (by decide), if_neg hend, hin, hdepth]
  exact if_neg (by decide)

theorem AtTable.step_edit (h : reader.AtTable) {n : ℕ} (hn : n < 2 ^ 16) :
    reader.step (Line.edit (.number n)).text.toList = { reader with currentIndex := some n } := by
  have hstrip : stripPrefix "edit " ("edit ".toList ++ (toString n).toList) =
      some (toString n).toList := rfl
  rw [text_edit, h.step_plain rfl (by simp), hstrip]
  dsimp only
  rw [trim_of_forall (isWord_toString n).2, parseUint_toString hn]

theorem AtTable.fold_names (h : reader.AtTable) {n : ℕ} (hindex : reader.currentIndex = some n) :
    ((community.name.toList.map fun name => Line.set "name" [.quoted name.text]).map
      fun line => line.text.toList).foldl step reader =
      { reader with
        indices := community.name.elim reader.indices fun name =>
          put name.text n reader.indices } := by
  cases community.name with
  | none =>
    cases reader
    simp_all
  | some name =>
    have hquote : '"' ∉ name.text.toList := fun hmem => (name.plain _ hmem).1 rfl
    have hname : trimQuotes ('"' :: (name.text.toList ++ ['"'])) = name.text.toList :=
      trimQuotes_quoted hquote
    have hstrip (rest : List Char) :
      stripPrefix "set name " ("set name ".toList ++ rest) = some rest := rfl
    have hedit (rest : List Char) : stripPrefix "edit " ("set name ".toList ++ rest) = none := rfl
    rw [Option.toList_some, List.map_singleton, List.map_singleton, List.foldl_cons,
      List.foldl_nil, text_set_name, h.step_plain rfl (by simp),
      hedit, hstrip, hindex]
    dsimp only
    rw [hname, String.ofList_toList]
    rfl

/-- Lines that change nothing: settings but that of the name, and the hosts. -/
theorem AtTable.step_other (h : reader.AtTable) (hconfig : stripPrefix "config " trimmed = none)
    (hend : trimmed ≠ "end".toList) (hedit : stripPrefix "edit " trimmed = none)
    (hname : stripPrefix "set name " trimmed = none) (hnext : trimmed ≠ "next".toList) :
    reader.step trimmed = reader := by
  rw [h.step_plain hconfig hend, hedit, hname, if_neg hnext]

/-- The other settings of an entry. -/
theorem AtTable.fold_settings (h : reader.AtTable) :
    (([Line.set "trap-v1-status" [statusArg community.trapV1],
        .set "trap-v2c-status" [statusArg community.trapV2c]] ++
      (if community.events.isEmpty then []
        else [Line.set "events" (community.events.map fun event => .bare event.text)])).map
      fun line : Line => line.text.toList).foldl step reader = reader := by
  have hstatus (field : String) (enabled : Bool)
      (hfield : field = "trap-v1-status" ∨ field = "trap-v2c-status") :
      reader.step (Line.set field [statusArg enabled]).text.toList = reader := by
    rcases hfield with rfl | rfl <;> cases enabled <;>
      exact h.step_other (by decide) (by decide) (by decide) (by decide) (by decide)
  rw [List.map_append, List.foldl_append, List.map_cons, List.map_singleton, List.foldl_cons,
    hstatus _ _ (.inl rfl), List.foldl_cons, hstatus _ _ (.inr rfl), List.foldl_nil]
  cases community.events with
  | nil => rfl
  | cons event events =>
    rw [List.isEmpty_cons, if_neg (by decide), List.map_singleton, List.foldl_cons, List.foldl_nil,
      List.map_cons, text_set_events, h.step_other rfl (by simp) rfl rfl (by simp)]

theorem step_host (hblock : reader.inBlock = true) (hhosts : reader.inHosts = true)
    (hconfig : stripPrefix "config " trimmed = none) (hend : trimmed ≠ "end".toList) :
    reader.step trimmed = reader := by
  have htable : trimmed ≠ "config system snmp community".toList := by
    rintro rfl
    cases hconfig
  have hne : trimmed ≠ "config hosts".toList := by
    rintro rfl
    cases hconfig
  rw [step, if_neg htable, hblock, if_neg (by decide), if_neg hne, hconfig, if_neg (by decide),
    if_neg hend, hhosts, Bool.true_or, if_pos rfl]

/-- Hosts say nothing of indices. -/
theorem fold_hosts {hosts : List SnmpHost} (hblock : reader.inBlock = true)
    (hhosts : reader.inHosts = true) :
    ((hosts.flatMap SnmpHost.lines).map fun line => line.text.toList).foldl step reader =
      reader := by
  induction hosts with
  | nil => rfl
  | cons host hosts ih =>
    rw [List.flatMap_cons, SnmpHost.lines, entry, List.singleton_append, List.map_append,
      List.foldl_append, List.map_cons,
      List.map_cons, List.map_singleton, List.foldl_cons, text_edit,
      step_host hblock hhosts rfl (by simp), List.foldl_cons, text_set_ip,
      step_host hblock hhosts rfl (by simp), List.foldl_cons,
      step_host hblock hhosts (by decide) (by decide), List.foldl_nil, ih]

theorem AtTable.fold_block (h : reader.AtTable) :
    ((if community.hosts.isEmpty then []
      else block "hosts" (community.hosts.flatMap SnmpHost.lines)).map
      fun line => line.text.toList).foldl step reader = reader := by
  by_cases hempty : community.hosts.isEmpty = true
  · rw [if_pos hempty]
    rfl
  · obtain ⟨hblock, hdepth, hhosts⟩ := h
    have hopen : reader.step (Line.config "hosts").text.toList =
        { reader with inHosts := true, depth := 2 } := by
      rw [step, if_neg (by decide), hblock, if_neg (by decide), if_pos (by decide), hdepth]
    have hclose : ({ reader with inHosts := true, depth := 2 } : IndexReader).step
        (Line.close).text.toList = reader := by
      rw [step, if_neg (by decide), hblock, if_neg (by decide), if_neg (by decide),
        if_neg (by decide), if_pos (by decide)]
      cases reader
      simp_all
    rw [if_neg hempty, block, List.map_cons, List.map_append, List.foldl_cons, hopen,
      List.foldl_append, fold_hosts (by exact hblock) rfl, List.map_singleton, List.foldl_cons,
      List.foldl_nil, hclose]

/-- An entry is read as its index and name. -/
theorem AtTable.fold_entry (h : reader.AtTable) (hindex : community.index < 2 ^ 16) :
    (community.lines.map fun line => line.text.toList).foldl step reader =
      { reader with
        currentIndex := none
        indices := community.name.elim reader.indices fun name =>
          put name.text community.index reader.indices } := by
  rw [SnmpEntry.lines, entry, List.map_cons, List.map_append, List.map_append, List.foldl_cons,
    h.step_edit hindex, List.foldl_append, List.foldl_append, List.append_assoc, List.map_append,
    List.foldl_append, AtTable.fold_names (by exact h) rfl, AtTable.fold_settings (by exact h),
    AtTable.fold_block (by exact h), List.map_singleton, List.foldl_cons, List.foldl_nil,
    AtTable.step_plain (by exact h) (by decide) (by decide)]
  rfl

theorem AtTable.fold_table (h : reader.AtTable) (hindices : ∀ entry ∈ table, entry.index < 2 ^ 16) :
    ∃ reader' : IndexReader, reader'.AtTable ∧
      ((table.flatMap SnmpEntry.lines).map fun line => line.text.toList).foldl step reader =
        reader' ∧
      reader'.indices = table.foldl (fun indices entry => entry.name.elim indices fun name =>
        put name.text entry.index indices) reader.indices := by
  induction table generalizing reader with
  | nil => exact ⟨reader, h, rfl, rfl⟩
  | cons community table ih =>
    obtain ⟨hfirst, hrest⟩ := List.forall_mem_cons.mp hindices
    let middle : IndexReader :=
      { reader with
        currentIndex := none
        indices := community.name.elim reader.indices fun name =>
          put name.text community.index reader.indices }
    have hmiddle : middle.AtTable := h
    obtain ⟨last, hlast, hfold, hresult⟩ := ih hmiddle hrest
    refine ⟨last, hlast, ?_, hresult⟩
    rw [List.flatMap_cons, List.map_append, List.foldl_append, h.fold_entry hfirst, hfold]

end IndexReader

/-- The other parser finds the index of each name. -/
theorem parseSnmpCommunityIndices_shown (hindices : ∀ entry ∈ table, entry.index < 2 ^ 16) :
    parseSnmpCommunityIndices (strLines table.shown) = table.indices := by
  have hopen : ({} : IndexReader).step (Line.config communityTable).text.toList =
      { inBlock := true, depth := 1 } := by
    rw [IndexReader.step, if_pos (by decide)]
  obtain ⟨reader, ⟨hblock, -, -⟩, hfold, hresult⟩ :=
    @IndexReader.AtTable.fold_table table { inBlock := true, depth := 1 } ⟨rfl, rfl, rfl⟩ hindices
  have hclose : (reader.step (Line.close).text.toList).indices = reader.indices := by
    rw [IndexReader.step, if_neg (by decide), hblock, if_neg (by decide), if_neg (by decide),
      if_neg (by decide), if_pos (by decide)]
  rw [parseSnmpCommunityIndices, map_trim_shown, SnmpTable.lines, block, List.map_cons,
    List.foldl_cons,
    hopen, List.map_append, List.foldl_append, hfold, List.map_singleton, List.foldl_cons,
    List.foldl_nil, hclose, hresult]
  rfl

end ReadBack

end SwitchConfigurator.Fortiswitch
