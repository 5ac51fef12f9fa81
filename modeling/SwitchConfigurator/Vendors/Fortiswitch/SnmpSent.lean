import SwitchConfigurator.Vendors.Fortiswitch.SnmpTable

/-!
# What the community commands do to the table

The community block is three loops: entries are removed by the index that was read, rewritten at
it, and added where an index is free. Each leaves a table that can be written down at once.
-/

namespace SwitchConfigurator.Fortiswitch

open Cli RelatedLists

/-- The entry that `snmp_community_block` writes where none is. -/
def writtenEntry (index : ℕ) (name : String) (hosts : List (String × String)) : SnmpEntry where
  index := index
  name := CommunityName.of name
  trapV1 := hosts.isEmpty
  trapV2c := hosts.isEmpty
  hosts := hosts.mapIdx fun n host =>
    ({ index := n + 1 : SnmpHost }).set "ip" [.bare host.1, .bare host.2]

theorem SnmpEntry.index_set (field : String) (args : List Arg) (community : SnmpEntry) :
    (community.set field args).index = community.index := by
  unfold SnmpEntry.set
  split <;> rfl

/-- The settings of an entry, in the order that they are sent. -/
def entrySettings (name : String) (hosts : List (String × String)) : List (String × List Arg) :=
  let traps := if hosts.isEmpty then "enable" else "disable"
  [("name", [.quoted name]), ("status", [.bare "enable"]), ("query-v1-status", [.bare "enable"]),
    ("query-v2c-status", [.bare "enable"]), ("trap-v1-status", [.bare traps]),
    ("trap-v2c-status", [.bare traps])]

theorem SnmpHost.index_set (field : String) (args : List Arg) (host : SnmpHost) :
    (host.set field args).index = host.index := by
  unfold SnmpHost.set
  split <;> rfl

theorem SnmpEntry.index_openHost (index : ℕ) (community : SnmpEntry) :
    (community.openHost index).index = community.index := by
  unfold SnmpEntry.openHost
  split <;> rfl

/-- A host that was not there is added at the end. -/
theorem SnmpEntry.mapHost_openHost {index : ℕ} {community : SnmpEntry} {f : SnmpHost → SnmpHost}
    (h : index ∉ community.hosts.map SnmpHost.index) :
    (community.openHost index).mapHost index f =
      { community with hosts := community.hosts ++ [f { index := index }] } := by
  have hothers : ∀ host ∈ community.hosts, host.index ≠ index := fun host hhost heq =>
    h (List.mem_map.mpr ⟨host, hhost, heq⟩)
  have hmap : (community.hosts.map fun host => if host.index = index then f host else host) =
      community.hosts :=
    (List.map_congr_left fun host hhost => if_neg (hothers host hhost)).trans (List.map_id _)
  rw [openHost, if_neg h, mapHost, List.map_append, hmap, List.map_singleton, if_pos rfl]

namespace SnmpTable

/-- Lines that are sent while the community table is open. -/
def sent (lines : List Line) (table : SnmpTable) : SnmpTable :=
  table.applyAll (effects [⟨communityTable, none⟩] lines)

section Sent

variable {table : SnmpTable} {lines lines' : List Line} {index host : ℕ} {community : SnmpEntry}
variable {f : SnmpEntry → SnmpEntry}

/-- A number is read as the index of its entry. -/
theorem keyIndex_toString (n : ℕ) : keyIndex (toString n) = some n := by
  have hdigits : (toString n).toList.all Char.isDigit = true :=
    List.all_eq_true.mpr fun c hc => isDigit_of_mem_toString hc
  rw [keyIndex, if_pos ⟨toString_ne_nil n, hdigits⟩, digitsValue_toString]

/-- An entry of the table is found by its path. -/
theorem place_entry (n : ℕ) : place [(communityTable, toString n)] = some (n, none) := by
  rw [place, if_pos rfl, keyIndex_toString, Option.map_some]

/-- So is a host in one. -/
theorem place_host (n h : ℕ) :
    place [("hosts", toString h), (communityTable, toString n)] = some (n, some h) := by
  rw [place, if_pos ⟨rfl, rfl⟩, keyIndex_toString, keyIndex_toString]
  rfl

section Apply

variable {n h : ℕ} {field : String} {args : List Arg}

@[simp] theorem apply_create :
    table.apply (.create [(communityTable, toString n)]) = table.openEntry n := by
  simp only [apply, Effect.loc, place_entry]

@[simp] theorem apply_assign : table.apply (.assign [(communityTable, toString n)] field args) =
    table.mapEntry n (·.set field args) := by
  simp only [apply, Effect.loc, place_entry]

@[simp] theorem apply_remove :
    table.apply (.remove [(communityTable, toString n)]) = table.filter (·.index ≠ n) := by
  simp only [apply, Effect.loc, place_entry]

@[simp] theorem apply_create_host :
    table.apply (.create [("hosts", toString h), (communityTable, toString n)]) =
      table.mapEntry n (·.openHost h) := by
  simp only [apply, Effect.loc, place_host]

@[simp] theorem apply_assign_host :
    table.apply (.assign [("hosts", toString h), (communityTable, toString n)] field args) =
      table.mapEntry n (·.mapHost h (·.set field args)) := by
  simp only [apply, Effect.loc, place_host]

end Apply

@[simp] theorem applyAll_nil : table.applyAll [] = table := rfl

@[simp] theorem applyAll_cons (effect : Effect) (effects : List Effect) :
    table.applyAll (effect :: effects) = (table.apply effect).applyAll effects := rfl

theorem applyAll_append (effects effects' : List Effect) :
    table.applyAll (effects ++ effects') = (table.applyAll effects).applyAll effects' :=
  List.foldl_append

/-- Balanced parts are sent one after another. -/
theorem sent_append (h : enter [⟨communityTable, none⟩] lines = [⟨communityTable, none⟩]) :
    table.sent (lines ++ lines') = (table.sent lines).sent lines' := by
  rw [sent, effects_append, h, applyAll_append]
  rfl

/-- The table is opened, worked in and closed. -/
theorem effects_communityBlock :
    effects [] (block communityTable lines) = effects [⟨communityTable, none⟩] lines := by
  have hclose (frames : List Frame) : effects frames [Line.close] = [] := by cases frames <;> rfl
  rw [block, effects_cons, effects_append, hclose, List.append_nil]
  rfl

/-- A block is executed as its lines are sent. -/
theorem execute_block : table.execute (block communityTable lines) = table.sent lines :=
  congrArg table.applyAll effects_communityBlock

theorem sent_delete (n : ℕ) : table.sent [.delete (toString n)] = table.filter (·.index ≠ n) := by
  have heffects : effects [⟨communityTable, none⟩] [.delete (toString n)] =
      [.remove [(communityTable, toString n)]] := rfl
  rw [sent, heffects, applyAll_cons, apply_remove, applyAll_nil]

/-- A change of a new entry leaves the others alone. -/
theorem mapEntry_concat (hfresh : index ∉ table.map SnmpEntry.index) (hindex :
    community.index = index) :
    SnmpTable.mapEntry index f (table ++ [community]) = table ++ [f community] := by
  have hothers : ∀ entry ∈ table, entry.index ≠ index := fun entry hentry heq =>
    hfresh (List.mem_map.mpr ⟨entry, hentry, heq⟩)
  rw [mapEntry, List.map_append, List.map_singleton, if_pos hindex]
  congr 1
  refine (List.map_congr_left fun entry hentry => ?_).trans (List.map_id _)
  rw [if_neg (hothers entry hentry)]
  rfl

/-- Settings of the entry that was opened last. -/
theorem applyAll_assigns (hfresh : index ∉ table.map SnmpEntry.index) (hindex :
    community.index = index)
    (settings : List (String × List Arg)) :
    SnmpTable.applyAll (settings.map fun setting =>
      .assign [(communityTable, toString index)] setting.1 setting.2)
      (table ++ [community]) =
      table ++ [settings.foldl (fun entry setting => entry.set setting.1 setting.2) community] := by
  induction settings generalizing community with
  | nil => rfl
  | cons setting settings ih =>
    rw [List.map_cons, applyAll_cons, apply_assign, mapEntry_concat hfresh hindex]
    exact ih ((SnmpEntry.index_set _ _ _).trans hindex)

/-- An entry of a fresh index goes to the end. -/
theorem openEntry_fresh (hfresh : index ∉ table.map SnmpEntry.index) :
    table.openEntry index = table ++ [{ index := index }] := if_neg hfresh

/-- The hosts of the entry that was opened last, listed below it from the next index on. -/
theorem applyAll_hosts (hfresh : index ∉ table.map SnmpEntry.index) (hindex :
    community.index = index)
    (hosts : List (String × String)) {k : ℕ} (hk : ∀ host ∈ community.hosts, host.index ≤ k) :
    SnmpTable.applyAll (effects [⟨"hosts", none⟩, ⟨communityTable, some (toString index)⟩]
      (hosts.mapIdx fun n host => hostCommands (k + n) host).flatten) (table ++ [community]) =
      table ++ [{ community with hosts := community.hosts ++ hosts.mapIdx fun n host =>
        ({ index := k + n + 1 : SnmpHost }).set "ip" [.bare host.1,
          .bare host.2] }] := by
  -- on the hosts; each one gets the index after the last, so `k` moves along
  induction hosts generalizing community k with
  | nil =>
    simp [applyAll]
  | cons host hosts ih =>
    have hnew : k + 1 ∉ community.hosts.map SnmpHost.index := by
      intro hmem
      obtain ⟨other, hother, heq⟩ := List.mem_map.mp hmem
      have := hk other hother
      omega
    have hfirst :
      effects [⟨"hosts", none⟩, ⟨communityTable, some (toString index)⟩] (hostCommands k host) =
        [.create [("hosts", toString (k + 1)), (communityTable, toString index)],
          .assign [("hosts", toString (k + 1)), (communityTable, toString index)] "ip"
            [.bare host.1, .bare host.2]] := rfl
    have henter :
      enter [⟨"hosts", none⟩, ⟨communityTable, some (toString index)⟩] (hostCommands k host) =
        [⟨"hosts", none⟩, ⟨communityTable, some (toString index)⟩] := rfl
    -- the remaining hosts count on from the next index
    have hshift : (hosts.mapIdx fun n host => hostCommands (k + (n + 1)) host) =
        hosts.mapIdx fun n host => hostCommands (k + 1 + n) host := by
      congr 1
      funext n host
      rw [Nat.add_right_comm, Nat.add_assoc]
    rw [List.mapIdx_cons, List.flatten_cons, Nat.add_zero, effects_append, henter, hfirst,
      applyAll_append, applyAll_cons, apply_create_host, mapEntry_concat hfresh hindex,
        applyAll_cons,
      apply_assign_host, mapEntry_concat hfresh ((SnmpEntry.index_openHost _ _).trans hindex),
      applyAll_nil, SnmpEntry.mapHost_openHost hnew, hshift, ih (by exact hindex)]
    · have hlater : (hosts.mapIdx fun n host => ({ index := k + (n + 1) + 1 : SnmpHost }).set "ip" [.bare host.1, .bare host.2]) =
          hosts.mapIdx fun n host => ({ index := k + 1 + n + 1 : SnmpHost }).set "ip" [.bare host.1, .bare host.2] := by
        congr 1
        funext n host
        rw [Nat.add_right_comm k 1 n, Nat.add_assoc k n 1]
      rw [List.mapIdx_cons, hlater, List.append_assoc, List.singleton_append]
    · rw [List.forall_mem_append, List.forall_mem_singleton]
      refine ⟨fun host hhost => (hk host hhost).trans (Nat.le_succ k), ?_⟩
      rw [SnmpHost.index_set]

/-- What the lines of an entry do: open it, change its settings, list its hosts. -/
theorem effects_communityEntry (index : ℕ) (name : String) (hosts : List (String × String)) :
    effects [⟨communityTable, none⟩] (communityEntry index name hosts) =
      .create [(communityTable, toString index)] ::
        (((entrySettings name hosts).map fun setting =>
          .assign [(communityTable, toString index)] setting.1 setting.2) ++
        effects [⟨"hosts", none⟩, ⟨communityTable, some (toString index)⟩]
          (hosts.mapIdx hostCommands).flatten) := by
  have hnext (frames : List Frame) : effects frames [Line.next] = [] := by cases frames <;> rfl
  have hclose (frames : List Frame) : effects frames [Line.close] = [] := by cases frames <;> rfl
  by_cases hempty : hosts.isEmpty = true
  · rw [List.isEmpty_iff.mp hempty]
    rfl
  · have hentry : communityEntry index name hosts = entry (.number index)
        (((entrySettings name hosts).map fun setting => .set setting.1 setting.2) ++
          block "hosts" (hosts.mapIdx hostCommands).flatten) := by
      simp [communityEntry, entrySettings, hempty]
    rw [hentry, entry, effects_cons, effects_append, hnext, List.append_nil, effects_append,
      block, effects_cons, effects_append, hclose, List.append_nil]
    rfl

/-- An entry of `snmp_community_block` at an index that is free. -/
theorem sent_communityEntry (hfresh : index ∉ table.map SnmpEntry.index) (name : String)
    (hosts : List (String × String)) :
    table.sent (communityEntry index name hosts) = table ++ [writtenEntry index name hosts] := by
  let named : SnmpEntry :=
    { index := index
      name := CommunityName.of name
      trapV1 := hosts.isEmpty
      trapV2c := hosts.isEmpty }
  have hnamed : ((entrySettings name hosts).foldl
      (fun entry setting => entry.set setting.1 setting.2) ({ index := index } : SnmpEntry)) =
      named := by
    by_cases hempty : hosts.isEmpty = true <;>
      simp [entrySettings, SnmpEntry.set, named, hempty, Arg.value]
  have hstart : (hosts.mapIdx fun n host => hostCommands (0 + n) host) =
      hosts.mapIdx hostCommands := by
    congr 1
    funext n host
    rw [Nat.zero_add]
  rw [sent, effects_communityEntry, applyAll_cons, apply_create, openEntry_fresh hfresh,
    applyAll_append, applyAll_assigns hfresh rfl, hnamed, ← hstart,
    applyAll_hosts hfresh rfl hosts (by simp [named])]
  simp [writtenEntry, named]

/-! ### The entries that are opened -/

/-- The entry of the table that an effect opens. -/
def editedIndex : Effect → Option ℕ
  | .create loc =>
    match place loc with
    | some (index, none) => some index
    | _ => none
  | _ => none

/-- The entries that lines open while the table is. -/
def edited (lines : List Line) : List ℕ :=
  (effects [⟨communityTable, none⟩] lines).filterMap editedIndex

/-- What is edited is edited part by part. -/
theorem edited_append (h : enter [⟨communityTable, none⟩] lines = [⟨communityTable, none⟩]) :
    edited (lines ++ lines') = edited lines ++ edited lines' := by
  rw [edited, effects_append, h, List.filterMap_append]
  rfl

theorem edited_deletes (keys : List String) : edited (keys.map .delete) = [] := by
  induction keys with
  | nil => rfl
  | cons key keys ih => exact ih

theorem edited_communityEntry (index : ℕ) (name : String) (hosts : List (String × String)) :
    edited (communityEntry index name hosts) = [index] := by
  have hcreate : editedIndex (.create [(communityTable, toString index)]) = some index := by
    simp only [editedIndex, place_entry]
  have hsettings : ((entrySettings name hosts).map fun setting =>
      Effect.assign [(communityTable, toString index)] setting.1 setting.2).filterMap editedIndex =
      [] := by
    rw [List.filterMap_map]
    exact List.filterMap_eq_nil_iff.mpr fun _ _ => rfl
  -- hosts are opened below the entry
  have hhosts : (effects [⟨"hosts", none⟩, ⟨communityTable, some (toString index)⟩]
      (hosts.mapIdx hostCommands).flatten).filterMap editedIndex = [] := by
    have hpieces : ∀ lines ∈ hosts.mapIdx hostCommands,
        enter [⟨"hosts", none⟩, ⟨communityTable, some (toString index)⟩] lines =
          [⟨"hosts", none⟩, ⟨communityTable, some (toString index)⟩] := by
      intro lines hlines
      obtain ⟨n, hn, rfl⟩ := List.mem_mapIdx.mp hlines
      rfl
    rw [List.flatten_eq_flatMap, effects_flatMap (f := id) hpieces, List.filterMap_flatMap]
    refine List.flatMap_eq_nil_iff.mpr fun lines hlines => ?_
    obtain ⟨n, hn, rfl⟩ := List.mem_mapIdx.mp hlines
    have hlines : effects [⟨"hosts", none⟩, ⟨communityTable, some (toString index)⟩]
        (hostCommands n hosts[n]) =
        [.create [("hosts", toString (n + 1)), (communityTable, toString index)],
          .assign [("hosts", toString (n + 1)), (communityTable, toString index)] "ip"
            [.bare hosts[n].1, .bare hosts[n].2]] := rfl
    have hnone : editedIndex
        (.create [("hosts", toString (n + 1)), (communityTable, toString index)]) = none := by
      simp only [editedIndex, place_host]
    rw [id, hlines, List.filterMap_cons, hnone]
    rfl
  rw [edited, effects_communityEntry, List.filterMap_cons, hcreate]
  dsimp only
  rw [List.filterMap_append, hsettings, hhosts]
  rfl

/-- A community edits its own entry only. -/
theorem edited_snmpCommunityBlock {community : SnmpCommunity}
    (h : snmpCommunityBlock index community = .ok lines) : edited lines = [index] := by
  obtain ⟨hosts, -, rfl⟩ := snmpCommunityBlock_ok_iff.mp h
  exact edited_communityEntry index community.name hosts

/-! ### The three loops -/

/-- The entry of a community that is written at an index. -/
def entryOf (index : ℕ) (community : SnmpCommunity) : SnmpEntry :=
  writtenEntry index community.name
    ((community.allowedHosts.mapM hostToFortios).toOption.getD [])

/-- A community under a fresh index is added to the table. -/
theorem sent_snmpCommunityBlock {community : SnmpCommunity}
    (h : snmpCommunityBlock index community = .ok lines)
    (hfresh : index ∉ table.map SnmpEntry.index) :
    table.sent lines = table ++ [entryOf index community] := by
  obtain ⟨hosts, hhosts, rfl⟩ := snmpCommunityBlock_ok_iff.mp h
  rw [sent_communityEntry hfresh, entryOf, hhosts]
  rfl

theorem enter_snmpCommunityBlock {community : SnmpCommunity}
    (h : snmpCommunityBlock index community = .ok lines) :
    enter [⟨communityTable, none⟩] lines = [⟨communityTable, none⟩] := by
  obtain ⟨hosts, -, rfl⟩ := snmpCommunityBlock_ok_iff.mp h
  obtain ⟨body, hbody, hentry⟩ := @exists_communityEntry index community.name hosts
  rw [hentry]
  exact hbody.enter_entry _ _ _ _

/-- The indices of the names that have one. -/
def indicesOf (indices : List (String × ℕ)) (names : List String) : List ℕ :=
  names.filterMap fun name => indices.lookup name

/-- The entries that are deleted are gone. -/
theorem sent_deletes (ns : List ℕ) : table.sent (ns.map fun n => .delete (toString n)) =
    table.filter (·.index ∉ ns) := by
  induction ns generalizing table with
  | nil => exact (List.filter_eq_self.mpr fun _ _ => by simp).symm
  | cons n ns ih =>
    have hsplit : ((n :: ns).map fun n => Line.delete (toString n)) =
        [Line.delete (toString n)] ++ ns.map fun n => .delete (toString n) := rfl
    rw [hsplit, sent_append rfl, sent_delete, ih, List.filter_filter]
    apply List.filter_congr
    intro entry _
    simp only [List.mem_cons, not_or, Bool.decide_and, Bool.and_comm]

/-- Names that have an index are deleted by it, and their indices are free again. -/
theorem removeCommunities_eq {indices : List (String × ℕ)} {names : List String}
    {occupied : List ℕ} (h : ∀ name ∈ names, ∃ i, indices.lookup name = some i) :
    removeCommunities indices names occupied =
      ((indicesOf indices names).map fun n => .delete (toString n),
        occupied.filter (· ∉ indicesOf indices names)) := by
  induction names generalizing occupied with
  | nil => simp [removeCommunities, indicesOf]
  | cons name names ih =>
    obtain ⟨⟨i, hi⟩, hnames⟩ := List.forall_mem_cons.mp h
    have hcons : indicesOf indices (name :: names) = i :: indicesOf indices names := by
      rw [indicesOf, List.filterMap_cons, hi]
      rfl
    rw [removeCommunities, hi, hcons]
    simp only [ih hnames]
    rw [List.map_cons, List.filter_filter]
    congr 1
    apply List.filter_congr
    intro n _
    rw [Bool.and_comm]
    simp [bne, beq_eq_decide]

/-- The rewrites of communities that have an index: their entries move to the end of the table. -/
theorem sent_updateCommunities {indices : List (String × ℕ)} {communities : List SnmpCommunity}
    {occupied : List ℕ} {result : List Line × List ℕ}
    (hresult : updateCommunities indices communities occupied = .ok result)
    (h : ∀ community ∈ communities, ∃ i, indices.lookup community.name = some i)
    (hnodup : (indicesOf indices (communities.map SnmpCommunity.name)).Nodup) :
    result.2 = occupied ∧ enter [⟨communityTable, none⟩] result.1 = [⟨communityTable, none⟩] ∧
      edited result.1 = indicesOf indices (communities.map SnmpCommunity.name) ∧
      table.sent result.1 =
        table.filter (·.index ∉ indicesOf indices (communities.map SnmpCommunity.name)) ++
          List.zipWith entryOf (indicesOf indices (communities.map SnmpCommunity.name))
            communities := by
  -- on the communities; the table changes under each, so it is general
  induction communities generalizing table result with
  | nil =>
    obtain rfl := Except.ok.inj hresult
    refine ⟨rfl, rfl, rfl, ?_⟩
    simp [indicesOf, sent]
  | cons community rest ih =>
    obtain ⟨⟨i, hi⟩, hrest⟩ := List.forall_mem_cons.mp h
    have hcons : indicesOf indices ((community :: rest).map SnmpCommunity.name) =
        i :: indicesOf indices (rest.map SnmpCommunity.name) := by
      rw [indicesOf, List.map_cons, List.filterMap_cons, hi]
      rfl
    rw [hcons, List.nodup_cons] at hnodup
    rw [updateCommunities, hi] at hresult
    obtain ⟨commands, hcommands, hresult⟩ := bind_ok_iff.mp hresult
    obtain ⟨⟨others, occupied'⟩, hothers, hresult⟩ := bind_ok_iff.mp hresult
    obtain rfl := Except.ok.inj hresult
    -- the entry was deleted just before, so its index is free
    have hfresh : i ∉ (table.filter (·.index ≠ i)).map SnmpEntry.index := by simp
    obtain ⟨hocc, henter, hedited, hsent⟩ :=
      @ih (table.filter (·.index ≠ i) ++ [entryOf i community]) _ hothers hrest hnodup.2
    have hsplit : Line.delete (toString i) :: commands ++ others =
        [Line.delete (toString i)] ++ (commands ++ others) := rfl
    refine ⟨hocc, ?_, ?_, ?_⟩
    · rw [hsplit, enter_append, enter_append]
      exact (congrArg (enter · others) (enter_snmpCommunityBlock hcommands)).trans henter
    · rw [hsplit, edited_append rfl, edited_append (enter_snmpCommunityBlock hcommands),
        edited_snmpCommunityBlock hcommands, hedited, hcons]
      rfl
    · have hkept : (entryOf i community).index = i := rfl
      rw [hsplit, sent_append rfl, sent_delete, sent_append (enter_snmpCommunityBlock hcommands),
        sent_snmpCommunityBlock hcommands hfresh, hsent, hcons, List.filter_append,
        List.filter_filter, List.filter_singleton, hkept, decide_eq_true hnodup.1,
        cond_true, List.append_assoc, List.zipWith_cons_cons, List.singleton_append]
      congr 1
      apply List.filter_congr
      intro entry _
      simp only [List.mem_cons, not_or, Bool.decide_and, Bool.and_comm]

/-- Some index from 100 up is free. -/
theorem freeSnmpIndex_not_mem (occupied : List ℕ) : freeSnmpIndex occupied ∉ occupied := by
  have hexists : ∃ n ∈ List.range' 100 (occupied.length + 1), n ∉ occupied := by
    by_contra hall
    push Not at hall
    have hnodup : (List.range' 100 (occupied.length + 1)).Nodup := List.nodup_range'
    have hlength := (List.subperm_of_subset hnodup hall).length_le
    rw [List.length_range'] at hlength
    omega
  rw [freeSnmpIndex]
  cases hfind : (List.range' 100 (occupied.length + 1)).find? (· ∉ occupied) with
  | none =>
    obtain ⟨n, hn, hfree⟩ := hexists
    exact absurd (decide_eq_true hfree) (List.find?_eq_none.mp hfind n hn)
  | some n =>
    have hfree := List.find?_some hfind
    exact of_decide_eq_true hfree

/-- The indices that new communities take, one after the other. -/
def freeIndices : List SnmpCommunity → List ℕ → List ℕ
  | [], _ => []
  | _ :: rest, occupied =>
    freeSnmpIndex occupied :: freeIndices rest (freeSnmpIndex occupied :: occupied)

/-- Free indices are new, and no two are the same. -/
theorem freeIndices_fresh (communities : List SnmpCommunity) (occupied : List ℕ) :
    (freeIndices communities occupied).Nodup ∧
      ∀ n ∈ freeIndices communities occupied, n ∉ occupied := by
  induction communities generalizing occupied with
  | nil => exact ⟨List.nodup_nil, fun n hn => absurd hn List.not_mem_nil⟩
  | cons community rest ih =>
    obtain ⟨hnodup, hfresh⟩ := ih (freeSnmpIndex occupied :: occupied)
    rw [freeIndices, List.nodup_cons, List.forall_mem_cons]
    refine ⟨⟨fun hmem => hfresh _ hmem List.mem_cons_self, hnodup⟩, freeSnmpIndex_not_mem occupied,
      fun n hn hmem => hfresh n hn (List.mem_cons_of_mem _ hmem)⟩

/-- New communities are appended. -/
theorem sent_addCommunities {communities : List SnmpCommunity} {occupied : List ℕ}
    (h : addCommunities communities occupied = .ok lines)
    (hoccupied : ∀ entry ∈ table, entry.index ∈ occupied) :
    edited lines = freeIndices communities occupied ∧
      table.sent lines =
        table ++ List.zipWith entryOf (freeIndices communities occupied) communities := by
  induction communities generalizing table occupied lines with
  | nil =>
    obtain rfl := Except.ok.inj h
    exact ⟨rfl, (List.append_nil _).symm⟩
  | cons community rest ih =>
    obtain ⟨commands, hcommands, h⟩ := bind_ok_iff.mp h
    obtain ⟨others, hothers, h⟩ := bind_ok_iff.mp h
    obtain rfl := Except.ok.inj h
    -- an index that is free among the occupied ones is new to the table
    have hfresh : freeSnmpIndex occupied ∉ table.map SnmpEntry.index := by
      intro hmem
      obtain ⟨entry, hentry, heq⟩ := List.mem_map.mp hmem
      exact freeSnmpIndex_not_mem occupied (heq ▸ hoccupied entry hentry)
    have hlater : ∀ entry ∈ table ++ [entryOf (freeSnmpIndex occupied) community],
        entry.index ∈ freeSnmpIndex occupied :: occupied := by
      rw [List.forall_mem_append, List.forall_mem_singleton]
      exact ⟨fun entry hentry => List.mem_cons_of_mem _ (hoccupied entry hentry),
        List.mem_cons_self⟩
    obtain ⟨hedited, hsent⟩ := ih hothers hlater
    rw [freeIndices]
    constructor
    · rw [edited_append (enter_snmpCommunityBlock hcommands), edited_snmpCommunityBlock hcommands,
        hedited]
      rfl
    · rw [sent_append (enter_snmpCommunityBlock hcommands),
        sent_snmpCommunityBlock hcommands hfresh, hsent, List.zipWith_cons_cons, List.append_assoc,
        List.singleton_append]

end Sent

end SnmpTable

end SwitchConfigurator.Fortiswitch
