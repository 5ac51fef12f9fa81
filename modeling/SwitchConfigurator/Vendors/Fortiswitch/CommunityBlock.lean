import SwitchConfigurator.Vendors.Fortiswitch.SnmpState

/-!
# The community block

The commands that carry out a diff of the communities of a table: the entries that they open, and
the table that they lead to.
-/

namespace SwitchConfigurator.Fortiswitch

open Cli RelatedLists SnmpTable

/-- A diff that can be carried out: it removes and updates what is there, each once, and what it
writes is desired. -/
structure Applicable (current desired : List SnmpCommunity) (diff : SnmpStateDiff) : Prop where
  add : ∀ community ∈ diff.communitiesToAdd, community ∈ desired
  remove : ∀ name ∈ diff.communitiesToRemove,
    name ∈ current.map SnmpCommunity.name ∧ name ∉ desired.map SnmpCommunity.name
  update : ∀ community ∈ diff.communitiesToUpdate,
    community ∈ desired ∧ community.name ∈ current.map SnmpCommunity.name
  nodup_update : (diff.communitiesToUpdate.map SnmpCommunity.name).Nodup

/-- The entries that the diff leaves alone. -/
def staying (diff : SnmpStateDiff) (table : SnmpTable) : SnmpTable :=
  table.filter fun entry => ∀ name ∈ entry.name,
    name.text ∉ diff.communitiesToRemove ∧
      name.text ∉ diff.communitiesToUpdate.map SnmpCommunity.name

def updatedIndices (table : SnmpTable) (diff : SnmpStateDiff) : List ℕ :=
  indicesOf table.indices (diff.communitiesToUpdate.map SnmpCommunity.name)

/-- The indices that are not freed by the removals. -/
def occupiedAfter (table : SnmpTable) (diff : SnmpStateDiff) : List ℕ :=
  (table.indices.map Prod.snd).filter (· ∉ indicesOf table.indices diff.communitiesToRemove)

def addedIndices (table : SnmpTable) (diff : SnmpStateDiff) : List ℕ :=
  freeIndices diff.communitiesToAdd (occupiedAfter table diff)

/-- The table that the community block leads to. -/
def settled (diff : SnmpStateDiff) (table : SnmpTable) : SnmpTable :=
  staying diff table ++
    List.zipWith entryOf (updatedIndices table diff) diff.communitiesToUpdate ++
    List.zipWith entryOf (addedIndices table diff) diff.communitiesToAdd

section Block

variable {desired : List SnmpCommunity} {table : SnmpTable} {diff : SnmpStateDiff}
variable {lines : List Line}

/-- What stays can be found by its index. -/
theorem staying_eq (htable : table.WellFormed) :
    (table.filter (·.index ∉ indicesOf table.indices diff.communitiesToRemove)).filter
      (·.index ∉ indicesOf table.indices (diff.communitiesToUpdate.map SnmpCommunity.name)) =
      staying diff table := by
  rw [List.filter_filter, staying]
  apply List.filter_congr
  intro entry hentry
  obtain ⟨name, hname⟩ := Option.isSome_iff_exists.mp (htable.named entry hentry)
  rw [hname]
  simp only [htable.mem_indicesOf hentry hname, Option.mem_some_iff, forall_eq']
  rw [Bool.and_comm, Bool.decide_and]

theorem index_mem_of_mem_zipWith {indices : List ℕ} {communities : List SnmpCommunity}
    {entry : SnmpEntry} (h : entry ∈ List.zipWith entryOf indices communities) :
    entry.index ∈ indices := by
  induction indices generalizing communities with
  | nil => cases h
  | cons i indices ih =>
    cases communities with
    | nil => cases h
    | cons community communities =>
      rcases List.mem_cons.mp h with rfl | h
      · exact List.mem_cons_self
      · exact List.mem_cons_of_mem _ (ih h)

theorem length_freeIndices (communities : List SnmpCommunity) (occupied : List ℕ) :
    (freeIndices communities occupied).length = communities.length := by
  induction communities generalizing occupied with
  | nil => rfl
  | cons community rest ih => rw [freeIndices, List.length_cons, List.length_cons, ih]

/-- What is written is desired. -/
theorem Applicable.written {current : List SnmpCommunity} {community : SnmpCommunity}
    (h : Applicable current desired diff)
    (hmem : community ∈ diff.communitiesToUpdate ++ diff.communitiesToAdd) :
    community ∈ desired := by
  rcases List.mem_append.mp hmem with hupdate | hadd
  · exact (h.update community hupdate).1
  · exact h.add community hadd

/-- What is updated has an index. -/
theorem exists_index_of_update (htable : table.WellFormed)
    (hdiff : Applicable table.communities desired diff) :
    ∀ community ∈ diff.communitiesToUpdate,
      ∃ i, table.indices.lookup community.name = some i := by
  exact fun community hcommunity => htable.exists_lookup (hdiff.update community hcommunity).2

theorem length_updatedIndices (htable : table.WellFormed)
    (hdiff : Applicable table.communities desired diff) :
    (updatedIndices table diff).length = diff.communitiesToUpdate.length := by
  have hindices := exists_index_of_update htable hdiff
  rw [updatedIndices, indicesOf, List.filterMap_map]
  generalize diff.communitiesToUpdate = communities at hindices
  induction communities with
  | nil => rfl
  | cons community rest ih =>
    obtain ⟨⟨i, hi⟩, hrest⟩ := List.forall_mem_cons.mp hindices
    rw [List.filterMap_cons, Function.comp_apply, hi, List.length_cons, List.length_cons, ih hrest]

/-- A community of an update is read from an entry, whose index is not freed. -/
theorem updatedIndices_occupied (htable : table.WellFormed)
    (hdiff : Applicable table.communities desired diff) :
    ∀ i ∈ updatedIndices table diff, i ∈ occupiedAfter table diff := by
  intro i hi
  obtain ⟨text, htext, hlookup⟩ := List.mem_filterMap.mp hi
  obtain ⟨entry, hentry, hname, rfl⟩ := htable.lookup_iff.mp hlookup
  obtain ⟨name, hentryName, rfl⟩ := Option.map_eq_some_iff.mp hname
  obtain ⟨community, hcommunity, heq⟩ := List.mem_map.mp htext
  obtain ⟨hwanted, -⟩ := hdiff.update community hcommunity
  refine List.mem_filter.mpr ⟨htable.mem_indices hentry, decide_eq_true ?_⟩
  rw [htable.mem_indicesOf hentry hentryName]
  intro hremoved
  exact (hdiff.remove _ hremoved).2 (heq ▸ List.mem_map_of_mem hwanted)

/-- The indices of what stays are occupied. -/
theorem staying_occupied (htable : table.WellFormed) :
    ∀ entry ∈ staying diff table, entry.index ∈ occupiedAfter table diff := by
  intro entry hentry
  rw [← staying_eq htable] at hentry
  obtain ⟨hentry, hremoved⟩ := List.mem_filter.mp (List.mem_filter.mp hentry).1
  exact List.mem_filter.mpr ⟨htable.mem_indices hentry, hremoved⟩

/-- The entries that the community block opens, and the table that it leads to. -/
theorem effects_communityCommands (htable : table.WellFormed)
    (hdiff : Applicable table.communities desired diff)
    (hlines : communityCommands table.indices diff = .ok lines) :
    (effects [] lines).filterMap editedIndex =
        updatedIndices table diff ++ addedIndices table diff ∧
      table.execute lines = settled diff table := by
  -- what is removed or updated has a recorded index, since it was read from the table
  have hremove : ∀ name ∈ diff.communitiesToRemove, ∃ i, table.indices.lookup name = some i :=
    fun name hname => htable.exists_lookup (hdiff.remove name hname).1
  have hupdate := exists_index_of_update htable hdiff
  rw [communityCommands, removeCommunities_eq hremove] at hlines
  obtain ⟨⟨updates, occupied⟩, hupdates, hlines⟩ := bind_ok_iff.mp hlines
  obtain ⟨adds, hadds, hresult⟩ := bind_ok_iff.mp hlines
  obtain ⟨hocc, henter, hedited, hsent⟩ := @sent_updateCommunities
    (table.filter (·.index ∉ indicesOf table.indices diff.communitiesToRemove)) _ _ _ _
    hupdates hupdate (htable.nodup_indicesOf hdiff.nodup_update)
  dsimp only at hocc henter hedited hsent
  subst hocc
  rw [staying_eq htable] at hsent
  -- nothing that stays or is updated has an index of the added ones
  have hoccupied : ∀ entry ∈ staying diff table ++
      List.zipWith entryOf (updatedIndices table diff) diff.communitiesToUpdate,
      entry.index ∈ occupiedAfter table diff := by
    rw [List.forall_mem_append]
    exact ⟨staying_occupied htable, fun entry hentry =>
      updatedIndices_occupied htable hdiff _ (index_mem_of_mem_zipWith hentry)⟩
  obtain ⟨heditedAdds, hsentAdds⟩ := sent_addCommunities hadds hoccupied
  -- the block: deletions first, then updates, then additions
  let deletes := (indicesOf table.indices diff.communitiesToRemove).map fun n =>
    Line.delete (toString n)
  have hdeletes : enter [⟨communityTable, none⟩] deletes = [⟨communityTable, none⟩] :=
    enter_of_stays (by simp [deletes, Line.enter])
  have hlines : block communityTable (deletes ++ (updates ++ adds)) = lines := by
    rw [← List.append_assoc]
    exact Except.ok.inj hresult
  refine ⟨?_, ?_⟩
  · rw [← hlines, effects_communityBlock]
    refine (edited_append hdeletes).trans ?_
    have hnone : edited deletes = [] := by
      have hkeys := edited_deletes ((indicesOf table.indices diff.communitiesToRemove).map toString)
      rwa [List.map_map] at hkeys
    rw [hnone, List.nil_append, edited_append henter, hedited, heditedAdds]
    rfl
  · rw [← hlines, execute_block, sent_append hdeletes, sent_deletes, sent_append henter, hsent]
    exact hsentAdds

end Block

end SwitchConfigurator.Fortiswitch
