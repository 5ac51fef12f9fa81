import SwitchConfigurator.Config.Validate
import SwitchConfigurator.Vendors.Fortiswitch.CommunityBlock

/-!
# The communities of a FortiSwitch

The community block of `apply_snmp_diff` against the table that it was computed from: which entries
are written, which stay, and what is read of the table that results.
-/

namespace SwitchConfigurator.Fortiswitch

open Cli RelatedLists Keyed SnmpTable

/-! ## What is written and read back -/

/-- A community as it is read from the entry that is written for it. -/
def readBack (community : SnmpCommunity) : Option SnmpCommunity := (entryOf 0 community).community

section ReadBack

variable {community old : SnmpCommunity} {entry : SnmpEntry}

/-- An entry that was written is read back as the community. -/
theorem community_entryOf (index : ℕ) : (entryOf index community).community = readBack community :=
  rfl

/-- A name is taken unless a quote or a line feed is in it. -/
theorem name_of (text : String) : (CommunityName.of text).map CommunityName.text =
    if ∀ c ∈ text.toList, c ≠ '"' ∧ c ≠ '\n' then some text else none := by
  rw [CommunityName.of]
  split <;> rfl

/-- What is read back has its name. -/
theorem name_readBack (h : readBack community = some old) : old.name = community.name := by
  obtain ⟨name, hname, rfl⟩ := Option.map_eq_some_iff.mp h
  have hof : (CommunityName.of community.name).map CommunityName.text = some name.text :=
    congrArg (Option.map CommunityName.text) hname
  rw [name_of] at hof
  split at hof
  · exact (Option.some.inj hof).symm
  · cases hof

/-- What is read of any entry has a name of one line, and plain managers. -/
theorem plain_community (h : entry.community = some old) :
    '\n' ∉ old.name.toList ∧ ∀ host ∈ old.allowedHosts, isPlain host = true := by
  obtain ⟨name, -, rfl⟩ := Option.map_eq_some_iff.mp h
  refine ⟨fun hmem => (name.plain _ hmem).2 rfl, fun manager hmanager => ?_⟩
  rw [SnmpEntry.allowedHosts] at hmanager
  split at hmanager
  · obtain ⟨host, -, hread⟩ := List.mem_filterMap.mp hmanager
    rw [SnmpHost.text, readManager_pair host.ip.valid.1 host.ip.valid.2] at hread
    exact isPlain_of_hostFromFortios hread
  · exact absurd hmanager List.not_mem_nil

/-- The managers that are written are read back where they are plain. -/
theorem allowedHosts_entryOf (hhosts :
    ∃ hosts, community.allowedHosts.mapM hostToFortios = .ok hosts)
    (hplain : ∀ host ∈ community.allowedHosts, isPlain host = true) :
    (entryOf 0 community).allowedHosts = community.allowedHosts := by
  obtain ⟨hosts, hhosts⟩ := hhosts
  have hrelated := mapM_ok_iff.mp hhosts
  -- each manager is written as a pair and read back from it
  have hread : hosts.filterMap (fun host => readManager (host.1.toList ++ ' ' :: host.2.toList)) =
      community.allowedHosts := by
    clear hhosts
    generalize community.allowedHosts = managers at hrelated hplain
    induction hrelated with
    | nil => rfl
    | cons hmanager _ ih =>
      obtain ⟨hfirst, hrest⟩ := List.forall_mem_cons.mp hplain
      obtain ⟨read, hread, heq⟩ := readManager_hostToFortios hmanager
      rw [List.filterMap_cons, hread, heq.mpr hfirst]
      exact congrArg _ (ih hrest)
  have hpairs : ∀ host ∈ hosts, isIpv4 host.1.toList = true ∧ isIpv4 host.2.toList = true := by
    intro host hhost
    obtain ⟨manager, -, hmanager⟩ := exists_of_mem_right hrelated hhost
    exact isIpv4_of_hostToFortios hmanager
  have hentry : (entryOf 0 community).allowedHosts =
      if (!hosts.isEmpty && !hosts.isEmpty) then (hosts.mapIdx fun n host =>
        ({ index := n + 1 } : SnmpHost).set "ip"
          [.bare host.1, .bare host.2]).filterMap fun host => readManager host.text else [] := by
    rw [entryOf, hhosts]
    rfl
  rw [hentry, ← hread]
  cases hosts with
  | nil => rfl
  | cons first rest =>
    refine (if_pos rfl).trans (filterMap_mapIdx fun host hhost n => ?_)
    obtain ⟨haddress, hmask⟩ := hpairs host hhost
    have hwords : deviceWords [.bare host.1, .bare host.2] = [host.1.toList, host.2.toList] := by
      simp [deviceWords, splitWhitespace_word (isWord_of_isIpv4 haddress),
        splitWhitespace_word (isWord_of_isIpv4 hmask)]
    obtain ⟨ip, hip, hipAddress, hipMask⟩ := HostAddress.of_pair hwords haddress hmask
    rw [SnmpHost.text, SnmpHost.set, if_pos rfl, hip, Option.getD_some, hipAddress, hipMask]

/-- A plain community is read back. -/
theorem readBack_of_plain (hquote :
    '"' ∉ community.name.toList) (hline : '\n' ∉ community.name.toList)
    (hhosts : ∃ hosts, community.allowedHosts.mapM hostToFortios = .ok hosts)
    (hplain : ∀ host ∈ community.allowedHosts, isPlain host = true) :
    readBack community = some { name := community.name, allowedHosts :=
      community.allowedHosts } := by
  have hclean : ∀ c ∈ community.name.toList, c ≠ '"' ∧ c ≠ '\n' := by
    intro c hc
    exact ⟨fun heq => hquote (heq ▸ hc), fun heq => hline (heq ▸ hc)⟩
  have hname : (entryOf 0 community).name = some ⟨community.name, hclean⟩ := dif_pos hclean
  rw [readBack, SnmpEntry.community, hname, allowedHosts_entryOf hhosts hplain]
  rfl

end ReadBack

/-! ## After the community block -/

/-- The community block of `apply_snmp_diff`, for a table as it was read. -/
def readCommunityCommands (config : SwitchConfig) (table : SnmpTable) :
    Except VendorError (List Line) :=
  communityCommands (parseSnmpCommunityIndices (strLines table.shown)) (readSnmpDiff config table)

/-- What the community block is to bring about: each community that is written has an entry of its
own, the others stay as they are, and there is nothing left to do. -/
structure Settles (config : SwitchConfig) (table : SnmpTable) (lines : List Line) : Prop where
  separate : ((effects [] lines).filterMap editedIndex).Nodup
  untouched : ∀ entry ∈ staying (readSnmpDiff config table) table, entry ∈ table.execute lines
  converged :
    (readSnmpDiff config (table.execute lines)).communitiesToAdd = [] ∧
      (readSnmpDiff config (table.execute lines)).communitiesToRemove = [] ∧
      (readSnmpDiff config (table.execute lines)).communitiesToUpdate = []

section Settle

variable {config : SwitchConfig} {desired : SnmpConfig} {table : SnmpTable} {diff : SnmpStateDiff}

/-- The difference to the table can be applied to it. -/
theorem CommunityDiff.applicable
    (hdiff : CommunityDiff (table.communities.map (adopted desired)) desired.communities diff) :
    Applicable table.communities desired.communities diff where
  add := fun community hmem => ((hdiff.mem_add community).mp hmem).1
  remove := fun name hmem => by
    have hnames := (hdiff.mem_remove name).mp hmem
    rwa [names_adopted] at hnames
  update := fun community hmem => by
    obtain ⟨hcommunity, old, hold, hname, -⟩ := (hdiff.mem_update community).mp hmem
    have hthere := List.mem_map_of_mem (f := SnmpCommunity.name) hold
    rw [names_adopted, hname] at hthere
    exact ⟨hcommunity, hthere⟩
  nodup_update := hdiff.nodup_update

/-! ### The communities of the table that results -/

/-- Entries that were written are read back, each under its index. -/
theorem communities_zipWith {indices : List ℕ} {communities : List SnmpCommunity}
    (h : indices.length = communities.length) :
    SnmpTable.communities (List.zipWith entryOf indices communities) =
      communities.filterMap readBack := by
  induction communities generalizing indices with
  | nil => rw [List.zipWith_nil_right]; rfl
  | cons community communities ih =>
    cases indices with
    | nil => cases h
    | cons i indices =>
      have hrest := ih (Nat.succ.inj h)
      rw [SnmpTable.communities] at hrest ⊢
      rw [List.zipWith_cons_cons, List.filterMap_cons, List.filterMap_cons, hrest,
        community_entryOf]

/-- After the apply the table has what stays and what was written. -/
theorem communities_settled (htable : table.WellFormed)
    (hdiff : CommunityDiff (table.communities.map (adopted desired)) desired.communities diff) :
    (settled diff table).communities = (staying diff table).communities ++
      diff.communitiesToUpdate.filterMap readBack ++ diff.communitiesToAdd.filterMap readBack := by
  have hupdated := length_updatedIndices htable hdiff.applicable
  have hadded : (addedIndices table diff).length = diff.communitiesToAdd.length :=
    length_freeIndices _ _
  rw [← communities_zipWith hupdated, ← communities_zipWith hadded, settled]
  simp only [SnmpTable.communities, List.filterMap_append]

/-- No name is read that was not written. -/
theorem names_filterMap_readBack (communities : List SnmpCommunity) :
    ((communities.filterMap readBack).map SnmpCommunity.name).Sublist
      (communities.map SnmpCommunity.name) := by
  induction communities with
  | nil => exact .slnil
  | cons community communities ih =>
    rw [List.filterMap_cons]
    cases hread : readBack community with
    | none => exact ih.cons _
    | some old =>
      rw [List.map_cons, List.map_cons, name_readBack hread]
      exact ih.cons_cons _

/-- What stays is neither removed nor updated. -/
theorem mem_names_staying {text : String}
    (h : text ∈ (staying diff table).communities.map SnmpCommunity.name) :
    text ∈ table.communities.map SnmpCommunity.name ∧ text ∉ diff.communitiesToRemove ∧
      text ∉ diff.communitiesToUpdate.map SnmpCommunity.name := by
  rw [SnmpTable.names_communities] at h
  obtain ⟨name, hname, rfl⟩ := List.mem_map.mp h
  obtain ⟨entry, hentry, hname⟩ := List.mem_filterMap.mp hname
  obtain ⟨hentry, hstays⟩ := List.mem_filter.mp hentry
  rw [SnmpTable.names_communities]
  exact ⟨List.mem_map_of_mem (List.mem_filterMap.mpr ⟨entry, hentry, hname⟩),
    of_decide_eq_true hstays name hname⟩

/-- The names of the table that results are distinct. -/
theorem nodup_settled (htable : table.WellFormed)
    (hdiff : CommunityDiff (table.communities.map (adopted desired)) desired.communities diff) :
    ((settled diff table).communities.map SnmpCommunity.name).Nodup := by
  have hstaying : ((staying diff table).communities.map SnmpCommunity.name).Nodup := by
    rw [SnmpTable.names_communities]
    exact (htable.names.sublist (List.filter_sublist.filterMap _)).map text_injective
  have hall : ((staying diff table).communities.map SnmpCommunity.name ++
      diff.communitiesToUpdate.map SnmpCommunity.name ++
      diff.communitiesToAdd.map SnmpCommunity.name).Nodup := by
    simp only [List.nodup_append', hstaying, hdiff.nodup_update, hdiff.nodup_add, true_and,
      List.disjoint_left, List.mem_append]
    refine ⟨fun text htext => (mem_names_staying htext).2.2, ?_⟩
    intro text hcurrent hadd
    obtain ⟨community, hcommunity, rfl⟩ := List.mem_map.mp hadd
    obtain ⟨-, hnew⟩ := (hdiff.mem_add community).mp hcommunity
    rw [names_adopted] at hnew
    rcases hcurrent with hstays | hupdated
    · exact hnew (mem_names_staying hstays).1
    · obtain ⟨other, hother, heq⟩ := List.mem_map.mp hupdated
      obtain ⟨-, old, hold, hname, -⟩ := (hdiff.mem_update other).mp hother
      have hmem := List.mem_map_of_mem (f := SnmpCommunity.name) hold
      rw [names_adopted, hname, heq] at hmem
      exact hnew hmem
  rw [communities_settled htable hdiff, List.map_append, List.map_append]
  exact hall.sublist ((List.Sublist.refl _).append (names_filterMap_readBack _) |>.append
    (names_filterMap_readBack _))

variable {community old : SnmpCommunity}

/-- A community that is read back as it was written is the same as the desired one. -/
theorem sameCommunity_adopted (hnames : (desired.communities.map SnmpCommunity.name).Nodup)
    (hcommunity : community ∈ desired.communities) :
    Diff.sameCommunity (adopted desired
      { name := community.name, allowedHosts := community.allowedHosts }) community = true := by
  have hfind : desired.communities.find? (·.name == community.name) = some community := by
    cases hfind : desired.communities.find? (·.name == community.name) with
    | none => exact absurd (beq_self_eq_true _) (List.find?_eq_none.mp hfind _ hcommunity)
    | some other =>
      have hname := List.find?_some hfind
      exact congrArg some (List.inj_on_of_nodup_map hnames (List.mem_of_find?_eq_some hfind)
        hcommunity (eq_of_beq hname))
  rw [Diff.sameCommunity_iff, allowedHosts_adopted, Diff.sameHosts_iff, adopted, hfind]
  exact ⟨rfl, List.Perm.refl _⟩

/-- What is read of a table can only be the same as a community that is plain itself. -/
theorem plain_of_sameCommunity (hfit : hostsFit community = true)
    (hold : old ∈ table.communities) (hname : old.name = community.name)
    (hsame : Diff.sameCommunity (adopted desired old) community = true) :
    '\n' ∉ community.name.toList ∧ ∀ host ∈ community.allowedHosts, isPlain host = true := by
  obtain ⟨entry, -, hread⟩ := List.mem_filterMap.mp hold
  obtain ⟨hline, hplain⟩ := plain_community hread
  rw [Diff.sameCommunity_iff, allowedHosts_adopted, Diff.sameHosts_iff] at hsame
  refine ⟨hname ▸ hline, fun host hhost => ?_⟩
  obtain ⟨other, hother, htext⟩ := List.mem_map.mp
    (hsame.2.mem_iff.mpr (List.mem_map_of_mem (f := AllowedHost.toText) hhost))
  have hok := List.all_eq_true.mp hfit host hhost
  have hplainOther := hplain other hother
  cases host with
  | auto => cases hok
  | network text =>
    cases other with
    | auto => cases hplainOther
    | network text' =>
      obtain rfl : text' = text := htext
      exact hplainOther

/-- Within the limits the hosts of every community fit. -/
theorem hostsFit_of_limits (h : checkSnmpLimits desired = .ok ()) :
    ∀ community ∈ desired.communities, hostsFit community = true := by
  rw [checkSnmpLimits] at h
  split at h
  · cases h
  · intro community hcommunity
    have hblock := forM_ok_iff.mp h community hcommunity
    rw [← exists_snmpCommunityBlock_iff 0]
    cases hlines : snmpCommunityBlock 0 community with
    | error e =>
      rw [hlines] at hblock
      cases hblock
    | ok lines => exact ⟨lines, rfl⟩

/-- No name is left that is not desired. -/
theorem name_settled_desired (htable : table.WellFormed)
    (hdiff : CommunityDiff (table.communities.map (adopted desired)) desired.communities diff)
    (hold : old ∈ (settled diff table).communities) :
    old.name ∈ desired.communities.map SnmpCommunity.name := by
  rw [communities_settled htable hdiff, List.mem_append, List.mem_append] at hold
  rcases hold with (hstays | hupdated) | hadded
  · obtain ⟨htable, hremove, -⟩ := mem_names_staying (List.mem_map_of_mem hstays)
    by_contra hnot
    refine hremove ((hdiff.mem_remove _).mpr ⟨?_, hnot⟩)
    rwa [names_adopted]
  · obtain ⟨community, hcommunity, hread⟩ := List.mem_filterMap.mp hupdated
    rw [name_readBack hread]
    exact List.mem_map_of_mem ((hdiff.mem_update community).mp hcommunity).1
  · obtain ⟨community, hcommunity, hread⟩ := List.mem_filterMap.mp hadded
    rw [name_readBack hread]
    exact List.mem_map_of_mem ((hdiff.mem_add community).mp hcommunity).1

/-- A desired community that is read back as it was written is there, written or left alone. -/
theorem exists_settled (htable : table.WellFormed)
    (hnames : (desired.communities.map SnmpCommunity.name).Nodup)
    (hcurrent : ((table.communities.map (adopted desired)).map SnmpCommunity.name).Nodup)
    (hdiff : CommunityDiff (table.communities.map (adopted desired)) desired.communities diff)
    (hcommunity : community ∈ desired.communities)
    (hback : readBack community =
      some { name := community.name, allowedHosts := community.allowedHosts }) :
    ∃ old ∈ (settled diff table).communities.map (adopted desired),
      old.name = community.name ∧ Diff.sameCommunity old community = true := by
  -- either it is written by this apply
  have hwritten : community ∈ diff.communitiesToUpdate ∨ community ∈ diff.communitiesToAdd →
      ∃ old ∈ (settled diff table).communities.map (adopted desired),
        old.name = community.name ∧ Diff.sameCommunity old community = true := by
    intro hmem
    refine ⟨adopted desired { name := community.name, allowedHosts := community.allowedHosts },
      List.mem_map_of_mem ?_, name_adopted _, sameCommunity_adopted hnames hcommunity⟩
    rw [communities_settled htable hdiff, List.append_assoc, ← List.filterMap_append]
    exact List.mem_append_right _
      (List.mem_filterMap.mpr ⟨community, List.mem_append.mpr hmem, hback⟩)
  -- or its name was shown already: it differs and is updated, or its entry stays
  by_cases hthere :
    community.name ∈ (table.communities.map (adopted desired)).map SnmpCommunity.name
  · obtain ⟨old, hold, hname⟩ := List.mem_map.mp hthere
    cases hsame : Diff.sameCommunity old community with
    | false => exact hwritten (.inl ((hdiff.mem_update community).mpr
        ⟨hcommunity, old, hold, hname, hsame⟩))
    | true =>
      obtain ⟨parsed, hparsed, rfl⟩ := List.mem_map.mp hold
      refine ⟨adopted desired parsed, List.mem_map_of_mem ?_, hname, hsame⟩
      rw [name_adopted] at hname
      obtain ⟨entry, hentry, hread⟩ := List.mem_filterMap.mp hparsed
      have hremove : community.name ∉ diff.communitiesToRemove := fun hmem =>
        ((hdiff.mem_remove _).mp hmem).2 (List.mem_map_of_mem hcommunity)
      have hupdate : community.name ∉ diff.communitiesToUpdate.map SnmpCommunity.name := by
        intro hmem
        obtain ⟨other, hother, heq⟩ := List.mem_map.mp hmem
        obtain ⟨hwanted, old, hold, holdname, hdiffers⟩ := (hdiff.mem_update other).mp hother
        obtain rfl := List.inj_on_of_nodup_map hnames hwanted hcommunity heq
        obtain rfl := List.inj_on_of_nodup_map hcurrent hold (List.mem_map_of_mem hparsed)
          (holdname.trans (hname.symm.trans (name_adopted parsed).symm))
        rw [hsame] at hdiffers
        cases hdiffers
      have hstays : entry ∈ staying diff table := by
        refine List.mem_filter.mpr ⟨hentry, decide_eq_true fun name hmem => ?_⟩
        obtain ⟨name', hname', rfl⟩ := Option.map_eq_some_iff.mp hread
        obtain rfl : name' = name := Option.some.inj (hname'.symm.trans hmem)
        have htext : name'.text = community.name := hname
        rw [htext]
        exact ⟨hremove, hupdate⟩
      rw [communities_settled htable hdiff, List.append_assoc]
      exact List.mem_append_left _ (List.mem_filterMap.mpr ⟨entry, hstays, hread⟩)
  · exact hwritten (.inr ((hdiff.mem_add community).mpr ⟨hcommunity, hthere⟩))

/-- The community block settles a table exactly when each desired community has a name of one line,
and managers that are spelled as they are read. -/
theorem settles_iff (hdesired : effectiveSnmp config = some desired)
    (hlimits : checkSnmpLimits desired = .ok ())
    (hnames : (desired.communities.map SnmpCommunity.name).Nodup)
    (hquotes : ∀ community ∈ desired.communities, '"' ∉ community.name.toList)
    (htable : table.WellFormed) :
    (∃ lines, readCommunityCommands config table = .ok lines ∧ Settles config table lines) ↔
      ∀ community ∈ desired.communities, '\n' ∉ community.name.toList ∧
        ∀ host ∈ community.allowedHosts, isPlain host = true := by
  have hfit := hostsFit_of_limits hlimits
  have htexts : (table.communities.map SnmpCommunity.name).Nodup := by
    rw [SnmpTable.names_communities]
    exact htable.names.map text_injective
  have hdiff := communityDiff_read hdesired hnames htexts
  obtain ⟨lines, hlines⟩ := exists_communityCommands_iff.mpr fun community hmem =>
    hfit community (hdiff.applicable.written hmem)
  obtain ⟨hedited, hexecute⟩ := effects_communityCommands htable hdiff.applicable hlines
  have hread : readCommunityCommands config table = .ok lines := by
    rw [readCommunityCommands, parseSnmpCommunityIndices_shown htable.small, hlines]
  -- the names stay distinct after the apply, so a second diff finds each at most once
  have hsettled := nodup_settled htable hdiff
  have hconverged := (communityDiff_read hdesired hnames hsettled).unchanged_iff
    (by rwa [names_adopted])
  constructor
  · rintro ⟨lines', hlines', hsettles⟩ community hcommunity
    -- read back equal, so the written hosts were in the spelling the switch prints
    obtain rfl : lines = lines' := Except.ok.inj (hread.symm.trans hlines')
    have hunchanged := hsettles.converged
    rw [hexecute] at hunchanged
    obtain ⟨-, hthere⟩ := hconverged.mp hunchanged
    obtain ⟨old, hold, hname, hsame⟩ := hthere community hcommunity
    obtain ⟨parsed, hparsed, rfl⟩ := List.mem_map.mp hold
    rw [name_adopted] at hname
    exact plain_of_sameCommunity (hfit community hcommunity) hparsed hname hsame
  · intro hplain
    refine ⟨lines, hread, ?_, ?_, ?_⟩
    -- the edited indices are distinct: the updated ones are taken, the added ones free
    · rw [hedited]
      obtain ⟨hnodup, hfresh⟩ :=
        freeIndices_fresh _ (occupiedAfter table (readSnmpDiff config table))
      refine List.nodup_append'.mpr ⟨htable.nodup_indicesOf hdiff.nodup_update, hnodup, ?_⟩
      exact fun i hi hadded => hfresh i hadded (updatedIndices_occupied htable hdiff.applicable i hi)
    · intro entry hentry
      rw [hexecute, settled, List.append_assoc]
      exact List.mem_append_left _ hentry
    · rw [hexecute]
      refine hconverged.mpr ⟨fun old hold => ?_, fun community hcommunity => ?_⟩
      · obtain ⟨parsed, hparsed, rfl⟩ := List.mem_map.mp hold
        rw [name_adopted]
        exact name_settled_desired htable hdiff hparsed
      · obtain ⟨hline, hhosts⟩ := hplain community hcommunity
        have hback := readBack_of_plain (hquotes community hcommunity) hline
          (hostsFit_iff.mp (hfit community hcommunity)) hhosts
        exact exists_settled htable hnames (by rwa [names_adopted]) hdiff hcommunity hback

end Settle

/-- A community with one manager, in the form that `AllowedHost::try_from` gives it. -/
def managedConfig (manager : String) : SwitchConfig where
  id := "sw1"
  hostname := some "office"
  model := some .fortiswitch124F_FPOE
  managementIp := some "192.0.2.10"
  credentials := some { username := "admin" }
  snmp := some { communities := [{ name := "lab", allowedHosts := [.network manager] }] }

/-- A community that is on the device and not desired. -/
def retiredTable : SnmpTable := [{ index := 1, name := CommunityName.of "retired" }]

theorem retiredTable_wellFormed : retiredTable.WellFormed :=
  ⟨by decide, by decide, by decide, by decide⟩

/-- A prefix length with a leading zero is accepted, and never read back as it is. -/
theorem settles_fails : Accepted (managedConfig "192.0.2.0/024") ∧
    AllowedHost.tryFrom "192.0.2.0/024" = .ok (.network "192.0.2.0/024") ∧
    (∃ desired, effectiveSnmp (managedConfig "192.0.2.0/024") = some desired ∧
      checkSnmpLimits desired = .ok () ∧ (desired.communities.map SnmpCommunity.name).Nodup ∧
      (∀ community ∈ desired.communities, '"' ∉ community.name.toList) ∧
      desired.trapReceivers = []) ∧
    retiredTable.WellFormed ∧
    ¬∃ lines, readCommunityCommands (managedConfig "192.0.2.0/024") retiredTable = .ok lines ∧
      Settles (managedConfig "192.0.2.0/024") retiredTable lines := by
  refine ⟨⟨plainEnvironment, managedConfig "192.0.2.0/024", rfl⟩, by decide +kernel,
    ⟨_, rfl, by decide +kernel, by decide, by decide, rfl⟩, retiredTable_wellFormed, ?_⟩
  rintro ⟨lines, hlines, hsettles⟩
  have hleft : ∃ lines, readCommunityCommands (managedConfig "192.0.2.0/024") retiredTable =
      .ok lines ∧ (readSnmpDiff (managedConfig "192.0.2.0/024")
        (SnmpTable.execute lines retiredTable)).communitiesToUpdate ≠ [] :=
    ⟨_, rfl, by decide +kernel⟩
  obtain ⟨lines', hlines', hleft⟩ := hleft
  obtain rfl := Except.ok.inj (hlines.symm.trans hlines')
  exact hleft hsettles.converged.2.2

theorem settles_iff_retired :
    ∃ lines, readCommunityCommands (managedConfig "192.0.2.0/24") retiredTable = .ok lines ∧
      Settles (managedConfig "192.0.2.0/24") retiredTable lines :=
  (settles_iff rfl (by decide +kernel) (by decide) (by decide) retiredTable_wellFormed).mpr
    (by decide +kernel)

end SwitchConfigurator.Fortiswitch
