import SwitchConfigurator.Vendors.Fortiswitch.Managers
import SwitchConfigurator.Vendors.Fortiswitch.SnmpSent
import SwitchConfigurator.SnmpDiff

/-!
# The SNMP state of a FortiSwitch

What `parse_current_state` makes of the community table, the diff that it leads to, and the index
that each community is known by.
-/

namespace SwitchConfigurator.Fortiswitch

open Cli RelatedLists Keyed SnmpTable

/-- The communities of a diff, where names are distinct on both sides. -/
structure CommunityDiff (current desired : List SnmpCommunity) (diff : SnmpStateDiff) : Prop where
  mem_add : ∀ community, community ∈ diff.communitiesToAdd ↔
    community ∈ desired ∧ community.name ∉ current.map SnmpCommunity.name
  mem_remove : ∀ name, name ∈ diff.communitiesToRemove ↔
    name ∈ current.map SnmpCommunity.name ∧ name ∉ desired.map SnmpCommunity.name
  mem_update : ∀ community, community ∈ diff.communitiesToUpdate ↔
    community ∈ desired ∧ ∃ old ∈ current, old.name = community.name ∧
      Diff.sameCommunity old community = false
  nodup_add : (diff.communitiesToAdd.map SnmpCommunity.name).Nodup
  nodup_update : (diff.communitiesToUpdate.map SnmpCommunity.name).Nodup

section Diff

variable {current desired : List SnmpCommunity} {diff : SnmpStateDiff}

/-- The difference does not depend on the order of the lists. -/
theorem communityDiff_of_perm
    (hcurrent : (current.map SnmpCommunity.name).Nodup)
    (hdesired : (desired.map SnmpCommunity.name).Nodup)
    (hadd : diff.communitiesToAdd.Perm (added SnmpCommunity.name current desired))
    (hremove : diff.communitiesToRemove.Perm (removed SnmpCommunity.name current desired))
    (hupdate : diff.communitiesToUpdate.Perm
      (updated SnmpCommunity.name Diff.sameCommunity current desired)) :
    CommunityDiff current desired diff where
  mem_add := by
    intro community
    rw [hadd.mem_iff, mem_added, lookup_eq_some_iff hdesired, lookup_eq_none_iff]
    simp
  mem_remove := by
    intro name
    rw [hremove.mem_iff, removed, List.mem_filter, decide_eq_true_eq, mem_keys_iff, mem_keys_iff]
  mem_update := by
    intro community
    rw [hupdate.mem_iff, mem_updated, lookup_eq_some_iff hdesired]
    apply and_congr_right
    intro _
    constructor
    · rintro ⟨old, hold, hsame⟩
      exact ⟨old, mem_of_lookup hold, key_of_lookup hold, hsame⟩
    · rintro ⟨old, hold, hname, hsame⟩
      exact ⟨old, hname ▸ lookup_of_mem hcurrent hold, hsame⟩
  nodup_add := (hadd.map _).nodup_iff.mpr nodup_added
  nodup_update := (hupdate.map _).nodup_iff.mpr nodup_updated

/-- Nothing is left to do exactly when each side has the communities of the other. -/
theorem CommunityDiff.unchanged_iff (h : CommunityDiff current desired diff)
    (hcurrent : (current.map SnmpCommunity.name).Nodup) :
    (diff.communitiesToAdd = [] ∧ diff.communitiesToRemove = [] ∧ diff.communitiesToUpdate = []) ↔
      (∀ old ∈ current, old.name ∈ desired.map SnmpCommunity.name) ∧
      ∀ community ∈ desired, ∃ old ∈ current, old.name = community.name ∧
        Diff.sameCommunity old community = true := by
  simp only [List.eq_nil_iff_forall_not_mem, h.mem_add, h.mem_remove, h.mem_update]
  constructor
  · rintro ⟨hadd, hremove, hupdate⟩
    refine ⟨fun old hold => ?_, fun community hcommunity => ?_⟩
    · by_contra hnot
      exact hremove old.name ⟨List.mem_map_of_mem hold, hnot⟩
    · have hthere : community.name ∈ current.map SnmpCommunity.name := by
        by_contra hnot
        exact hadd community ⟨hcommunity, hnot⟩
      obtain ⟨old, hold, hname⟩ := List.mem_map.mp hthere
      refine ⟨old, hold, hname, ?_⟩
      by_contra hsame
      exact hupdate community ⟨hcommunity, old, hold, hname, eq_false_of_ne_true hsame⟩
  · rintro ⟨hnames, hsame⟩
    refine ⟨fun community ⟨hcommunity, hnot⟩ => ?_, fun name ⟨hname, hnot⟩ => ?_,
      fun community ⟨hcommunity, other, hother, hname, hdiff⟩ => ?_⟩
    · obtain ⟨old, hold, hname, -⟩ := hsame community hcommunity
      exact hnot (hname ▸ List.mem_map_of_mem hold)
    · obtain ⟨old, hold, rfl⟩ := List.mem_map.mp hname
      exact hnot (hnames old hold)
    · obtain ⟨old, hold, hname', htrue⟩ := hsame community hcommunity
      have heq : old = other :=
        List.inj_on_of_nodup_map hcurrent hold hother (hname'.trans hname.symm)
      rw [heq, hdiff] at htrue
      cases htrue

end Diff

/-! ## The table as `parse_current_state` reads it -/

/-- The SNMP part of `parse_current_state`. -/
def readSnmp (config : SwitchConfig) (table : SnmpTable) : Option SnmpConfig :=
  match parseSnmpCommunity (strLines table.shown), effectiveSnmp config with
  | some parsed, some desired => some (adoptDesiredAccess parsed desired)
  | parsed, _ => parsed

/-- The diff that the table gives as it is read. -/
def readSnmpDiff (config : SwitchConfig) (table : SnmpTable) : SnmpStateDiff :=
  ((Diff.diffSnmp { snmp := readSnmp config table } config {}).snmpDiff).getD {}

/-- A parsed community with the access that is desired of its name. -/
def adopted (desired : SnmpConfig) (community : SnmpCommunity) : SnmpCommunity :=
  match desired.communities.find? (·.name == community.name) with
  | some wanted => { community with access := wanted.access }
  | none => community

section Read

variable {config : SwitchConfig} {desired : SnmpConfig} {table : SnmpTable}

/-- The communities that are read are those of the table, as they are adopted. -/
theorem communities_readSnmp (hdesired : effectiveSnmp config = some desired) :
    ((readSnmp config table).getD {}).communities = table.communities.map (adopted desired) := by
  rw [readSnmp, parseSnmpCommunity_shown, hdesired, SnmpTable.read]
  by_cases hempty : (table.communities.isEmpty && table.receivers.isEmpty) = true
  · rw [if_pos hempty]
    rw [Bool.and_eq_true, List.isEmpty_iff] at hempty
    rw [hempty.1]
    rfl
  · rw [if_neg hempty]
    rfl

@[simp] theorem name_adopted (community : SnmpCommunity) :
    (adopted desired community).name = community.name := by
  rw [adopted]
  split <;> rfl

@[simp] theorem allowedHosts_adopted (community : SnmpCommunity) :
    (adopted desired community).allowedHosts = community.allowedHosts := by
  rw [adopted]
  split <;> rfl

/-- Adopting keeps the names. -/
theorem names_adopted (communities : List SnmpCommunity) :
    (communities.map (adopted desired)).map SnmpCommunity.name =
      communities.map SnmpCommunity.name := by
  rw [List.map_map]
  exact List.map_congr_left fun community _ => name_adopted community

/-- What changes is the difference between the table and what is desired. -/
theorem communityDiff_read (hdesired : effectiveSnmp config = some desired)
    (hnames : (desired.communities.map SnmpCommunity.name).Nodup)
    (htable : (table.communities.map SnmpCommunity.name).Nodup) :
    CommunityDiff (table.communities.map (adopted desired)) desired.communities
      (readSnmpDiff config table) := by
  have hcurrent := @communities_readSnmp _ _ table hdesired
  have hnodup : ((table.communities.map (adopted desired)).map SnmpCommunity.name).Nodup := by
    rwa [names_adopted]
  -- an empty table reads as no section at all: everything desired is added
  cases hread : readSnmp config table with
  | none =>
    have hdiff : readSnmpDiff config table =
        { communitiesToAdd := desired.communities
          trapReceiversToAdd := desired.trapReceivers
          trapsToEnable := desired.enabledTraps } := by
      rw [readSnmpDiff, Diff.diffSnmp, hread, hdesired]
      rfl
    rw [hread] at hcurrent
    have hnil : table.communities.map (adopted desired) = [] := hcurrent.symm
    rw [hdiff, hnil]
    refine communityDiff_of_perm List.nodup_nil hnames ?_ .nil .nil
    refine (List.perm_ext_iff_of_nodup hnames.of_map nodup_added.of_map).mpr fun community => ?_
    rw [mem_added, lookup_eq_some_iff hnames]
    exact (and_iff_left rfl).symm
  | some current =>
    have hdiff : readSnmpDiff config table = Diff.computeSnmpDiff current desired := by
      rw [readSnmpDiff, Diff.diffSnmp, hread, hdesired]
      rfl
    rw [hread] at hcurrent
    have heq : table.communities.map (adopted desired) = current.communities := hcurrent.symm
    rw [heq] at hnodup
    rw [hdiff, heq]
    exact communityDiff_of_perm hnodup hnames (List.perm_insertionSort _ _)
      (List.perm_insertionSort _ _) (List.perm_insertionSort _ _)

end Read

/-! ## Names and indices -/

/-- A table as a device holds it: each entry has an index and a name of its own. -/
structure SnmpTable.WellFormed (table : SnmpTable) : Prop where
  named : ∀ entry ∈ table, entry.name.isSome
  names : (table.filterMap SnmpEntry.name).Nodup
  indices : (table.map SnmpEntry.index).Nodup
  small : ∀ entry ∈ table, entry.index < 2 ^ 16

section Indices

variable {table : SnmpTable} {entry : SnmpEntry} {name : CommunityName}

theorem text_injective : Function.Injective CommunityName.text := by
  rintro ⟨text, _⟩ ⟨text', _⟩ rfl
  rfl

/-- Under distinct names, the index parser lists the entries in their order. -/
theorem SnmpTable.indices_eq (h : (table.filterMap SnmpEntry.name).Nodup) :
    table.indices =
      table.filterMap fun entry => entry.name.map fun name => (name.text, entry.index) := by
  -- the map is filled entry by entry; with distinct names nothing is replaced
  have hfold (table : SnmpTable) (before : List (String × ℕ))
      (hnodup : (before.map Prod.fst ++
        (table.filterMap SnmpEntry.name).map CommunityName.text).Nodup) :
      table.foldl (fun indices entry => entry.name.elim indices fun name =>
        put name.text entry.index indices) before =
      before ++ table.filterMap fun entry => entry.name.map fun name =>
        (name.text, entry.index) := by
    induction table generalizing before with
    | nil => exact (List.append_nil _).symm
    | cons entry table ih =>
      cases hname : entry.name with
      | none =>
        rw [List.filterMap_cons, hname] at hnodup
        rw [List.foldl_cons, hname, List.filterMap_cons, hname]
        exact ih before hnodup
      | some name =>
        rw [List.filterMap_cons, hname] at hnodup
        dsimp only at hnodup
        rw [List.map_cons] at hnodup
        have hnew : name.text ∉ before.map Prod.fst := by
          intro hmem
          exact (List.nodup_append.mp hnodup).2.2 _ hmem _ List.mem_cons_self rfl
        have hput : put name.text entry.index before = before ++ [(name.text, entry.index)] :=
          put_of_not_mem hnew
        rw [List.foldl_cons, hname, List.filterMap_cons, hname, Option.elim_some, hput, ih]
        · rw [List.append_assoc]
          rfl
        · rwa [List.map_append, List.append_assoc]
  exact hfold table [] (by simpa using h.map text_injective)

/-- A name has the index of the one entry that bears it. -/
theorem SnmpTable.WellFormed.lookup_iff (h : table.WellFormed) {text : String} {index : ℕ} :
    table.indices.lookup text = some index ↔
      ∃ entry ∈ table, entry.name.map CommunityName.text = some text ∧ entry.index = index := by
  have hindices := SnmpTable.indices_eq h.names
  constructor
  · intro hlookup
    have hmem : (text, index) ∈ table.indices := by
      obtain ⟨before, after, heq, -⟩ := List.lookup_eq_some_iff.mp hlookup
      rw [heq]
      exact List.mem_append_right _ List.mem_cons_self
    rw [hindices] at hmem
    obtain ⟨entry, hentry, hpair⟩ := List.mem_filterMap.mp hmem
    obtain ⟨name, hname, hpair⟩ := Option.map_eq_some_iff.mp hpair
    obtain ⟨rfl, rfl⟩ := Prod.mk.inj hpair
    exact ⟨entry, hentry, by rw [hname]; rfl, rfl⟩
  · rintro ⟨entry, hentry, htext, rfl⟩
    obtain ⟨name, hname, rfl⟩ := Option.map_eq_some_iff.mp htext
    have hfst : table.indices.map Prod.fst =
        (table.filterMap SnmpEntry.name).map CommunityName.text := by
      rw [hindices, List.map_filterMap, List.map_filterMap]
      apply List.filterMap_congr
      intro entry _
      cases entry.name <;> rfl
    apply lookup_of_pair_mem
    · rw [hfst]
      exact h.names.map text_injective
    · rw [hindices]
      exact List.mem_filterMap.mpr ⟨entry, hentry, by rw [hname]; rfl⟩

/-- An entry goes with a list of names exactly when its own is among them. -/
theorem SnmpTable.WellFormed.mem_indicesOf (h : table.WellFormed) (hentry : entry ∈ table)
    (hname : entry.name = some name) (names : List String) :
    entry.index ∈ indicesOf table.indices names ↔ name.text ∈ names := by
  rw [indicesOf, List.mem_filterMap]
  constructor
  · rintro ⟨text, htext, hlookup⟩
    obtain ⟨other, hother, hothername, hindex⟩ := h.lookup_iff.mp hlookup
    -- indices are distinct, so it is the entry itself
    obtain rfl := List.inj_on_of_nodup_map h.indices hother hentry hindex
    rw [hname] at hothername
    rwa [Option.some.inj hothername]
  · intro htext
    exact ⟨name.text, htext, h.lookup_iff.mpr ⟨entry, hentry, by rw [hname]; rfl, rfl⟩⟩

/-- The names that are read are those of the entries. -/
theorem SnmpTable.names_communities (table : SnmpTable) :
    table.communities.map SnmpCommunity.name =
      (table.filterMap SnmpEntry.name).map CommunityName.text := by
  rw [SnmpTable.communities, List.map_filterMap, List.map_filterMap]
  apply List.filterMap_congr
  intro entry _
  rw [SnmpEntry.community]
  cases entry.name <;> rfl

/-- Distinct names have distinct indices. -/
theorem SnmpTable.WellFormed.nodup_indicesOf (h : table.WellFormed) {names : List String}
    (hnames : names.Nodup) : (indicesOf table.indices names).Nodup := by
  refine hnames.filterMap fun text text' index htext htext' => ?_
  obtain ⟨entry, hentry, hname, hindex⟩ := h.lookup_iff.mp htext
  obtain ⟨entry', hentry', hname', hindex'⟩ := h.lookup_iff.mp htext'
  obtain rfl := List.inj_on_of_nodup_map h.indices hentry hentry' (hindex.trans hindex'.symm)
  exact Option.some.inj (hname.symm.trans hname')

/-- A name that was read has an index. -/
theorem SnmpTable.WellFormed.exists_lookup (h : table.WellFormed) {text : String}
    (htext : text ∈ table.communities.map SnmpCommunity.name) :
    ∃ index, table.indices.lookup text = some index := by
  rw [SnmpTable.names_communities] at htext
  obtain ⟨name, hname, rfl⟩ := List.mem_map.mp htext
  obtain ⟨entry, hentry, hname⟩ := List.mem_filterMap.mp hname
  exact ⟨entry.index, h.lookup_iff.mpr ⟨entry, hentry, by rw [hname]; rfl, rfl⟩⟩

/-- Every entry's index is known by its name. -/
theorem SnmpTable.WellFormed.mem_indices (h : table.WellFormed) (hentry : entry ∈ table) :
    entry.index ∈ table.indices.map Prod.snd := by
  obtain ⟨name, hname⟩ := Option.isSome_iff_exists.mp (h.named entry hentry)
  rw [SnmpTable.indices_eq h.names]
  refine List.mem_map.mpr ⟨(name.text, entry.index), List.mem_filterMap.mpr ⟨entry, hentry, ?_⟩,
    rfl⟩
  rw [hname]
  rfl

end Indices

end SwitchConfigurator.Fortiswitch
