import SwitchConfigurator.SnmpDiff
import SwitchConfigurator.Vendors.Fortiswitch.Communities

/-!
# Trap receivers of a FortiSwitch

Trap receivers and managers share the `config hosts` table of a community, and the receivers of a
diff all go to entry 1. What `apply_snmp_diff` makes of them depends on what that entry is.
-/

namespace SwitchConfigurator.Fortiswitch

open Cli RelatedLists Keyed SnmpTable

/-! ## The host of a receiver -/

/-- A receiver as it is read: an address, or an address and a netmask that is not that of a single
host. -/
def isReceiverPlain (host : String) : Bool :=
  match host.toList.splitOn ' ' with
  | [address] => isIpv4 address
  | [address, mask] => isIpv4 address && isIpv4 mask && mask != "255.255.255.255".toList
  | _ => false

section Host

variable {host : String} {address mask : List Char}

theorem not_mem_blank (h : IsWord address) : ' ' ∉ address := fun hmem =>
  absurd (h.2 ' ' hmem) (by decide)

/-- An address and its mask are split at the blank. -/
theorem splitOn_pair (haddress : IsWord address) (hmask : IsWord mask) :
    (address ++ ' ' :: mask).splitOn ' ' = [address, mask] := by
  have hchars {text : List Char} (h : IsWord text) : ∀ c ∈ text, (c == ' ') = false := fun c hc =>
    beq_false_of_ne fun heq => not_mem_blank h (heq ▸ hc)
  rw [List.splitOn_eq_splitOnP,
    List.splitOnP_append_cons_of_forall_mem (hchars haddress) ' ' rfl,
    List.splitOnP_eq_singleton (hchars hmask)]

theorem splitOn_word (haddress : IsWord address) : address.splitOn ' ' = [address] := by
  rw [List.splitOn_eq_splitOnP]
  exact List.splitOnP_eq_singleton fun c hc =>
    beq_false_of_ne fun heq => not_mem_blank haddress (heq ▸ hc)

/-- The mask of a single host goes, another one stays. -/
theorem receiverHost_pair (hmask : IsWord mask) :
    receiverHost (address ++ ' ' :: mask) = String.ofList
      (if mask = "255.255.255.255".toList then address else address ++ ' ' :: mask) := by
  have hsuffix : " 255.255.255.255".toList <:+ address ++ ' ' :: mask ↔
      mask = "255.255.255.255".toList := by
    constructor
    · rintro ⟨front, hfront⟩
      have hlast {text : List Char} (before : List Char) (h : ' ' ∉ text) :
          (before ++ ' ' :: text).rtakeWhile (· != ' ') = text := by
        rw [List.rtakeWhile, List.reverse_append, List.reverse_cons, List.append_assoc,
          List.takeWhile_append_of_pos, List.singleton_append,
            List.takeWhile_cons_of_neg (by decide),
          List.append_nil, List.reverse_reverse]
        intro c hc
        exact bne_iff_ne.mpr fun heq => h (List.mem_reverse.mp (heq ▸ hc))
      rw [← hlast address (not_mem_blank hmask), ← hfront]
      have hdots : ' ' ∉ "255.255.255.255".toList := by decide
      exact hlast front hdots
    · rintro rfl
      exact List.suffix_append _ _
  rw [receiverHost]
  by_cases hsingle : mask = "255.255.255.255".toList
  · rw [if_pos (hsuffix.mpr hsingle), if_pos hsingle, hsingle]
    simp
  · rw [if_neg fun h => hsingle (hsuffix.mp h), if_neg hsingle]

/-- Whatever host is there, it is read as a plain one. -/
theorem isReceiverPlain_text (host : SnmpHost) :
    isReceiverPlain (receiverHost host.text) = true := by
  have haddress := isWord_of_isIpv4 host.ip.valid.1
  have hmask := isWord_of_isIpv4 host.ip.valid.2
  rw [SnmpHost.text, receiverHost_pair hmask, isReceiverPlain, String.toList_ofList]
  by_cases hsingle : host.ip.netmask.toList = "255.255.255.255".toList
  · rw [if_pos hsingle, splitOn_word haddress]
    exact host.ip.valid.1
  · rw [if_neg hsingle, splitOn_pair haddress hmask]
    simp only [host.ip.valid.1, host.ip.valid.2, Bool.true_and, bne_iff_ne, ne_eq]
    exact hsingle

/-- A plain receiver is taken, and read back as it was written. -/
theorem exists_of_isReceiverPlain (h : isReceiverPlain host = true) :
    ∃ ip, HostAddress.of [.bare host] = some ip ∧
      ∀ index, receiverHost (SnmpHost.text { index := index, ip := ip }) = host := by
  have hjoin : [' '].intercalate (host.toList.splitOn ' ') = host.toList :=
    List.intercalate_splitOn ' '
  -- a full mask is not shown, any other one is
  have hback {ip : HostAddress} {address mask : List Char} (haddress : ip.address.toList = address)
      (hmask : ip.netmask.toList = mask) (index : ℕ) :
      receiverHost (SnmpHost.text { index := index, ip := ip }) = String.ofList
        (if mask = "255.255.255.255".toList then address else address ++ ' ' :: mask) := by
    rw [SnmpHost.text, receiverHost_pair (isWord_of_isIpv4 ip.valid.2), haddress, hmask]
  rw [isReceiverPlain] at h
  split at h
  · next address heq =>
    have hhost : host.toList = address := by
      rw [← hjoin, heq]
      simp
    have hwords : deviceWords [.bare host] = [address] := by
      simp [deviceWords, hhost, splitWhitespace_word (isWord_of_isIpv4 h)]
    obtain ⟨ip, hip, haddress, hmask⟩ := HostAddress.of_single hwords h
    refine ⟨ip, hip, fun index => ?_⟩
    rw [hback haddress hmask, if_pos rfl, ← hhost, String.ofList_toList]
  · next address mask heq =>
    rw [Bool.and_eq_true, Bool.and_eq_true, bne_iff_ne] at h
    obtain ⟨⟨haddress, hmask⟩, hsingle⟩ := h
    have hhost : host.toList = address ++ ' ' :: mask := by
      rw [← hjoin, heq]
      simp [List.intercalate_cons_cons]
    have hwords : deviceWords [.bare host] = [address, mask] := by
      simp [deviceWords, hhost, splitWhitespace_cons (isWord_of_isIpv4 haddress),
        splitWhitespace_word (isWord_of_isIpv4 hmask)]
    obtain ⟨ip, hip, hipAddress, hipMask⟩ := HostAddress.of_pair hwords haddress hmask
    refine ⟨ip, hip, fun index => ?_⟩
    rw [hback hipAddress hipMask, if_neg hsingle, ← hhost, String.ofList_toList]
  · cases h

end Host

/-! ## What the diff leaves alone -/

/-- The configuration that a table is read as, with the access that is desired. -/
def SnmpTable.state (desired : SnmpConfig) (table : SnmpTable) : SnmpConfig where
  communities := table.communities.map (adopted desired)
  trapReceivers := table.receivers
  enabledTraps := table.traps

/-- A community that is desired as it is. -/
def keeps (desired : SnmpConfig) (entry : SnmpEntry) : Bool :=
  entry.community.any fun community =>
    (lookup SnmpCommunity.name community.name desired.communities).any
      (Diff.sameCommunity (adopted desired community))

section Keeps

variable {config : SwitchConfig} {desired : SnmpConfig} {table : SnmpTable} {entry : SnmpEntry}

theorem communities_ne_nil (htable : table.WellFormed) (hne : table ≠ []) :
    table.communities ≠ [] := by
  obtain ⟨entry, hentry⟩ := List.exists_mem_of_ne_nil table hne
  obtain ⟨name, hname⟩ := Option.isSome_iff_exists.mp (htable.named entry hentry)
  have hread : entry.community =
      some { name := name.text, allowedHosts := entry.allowedHosts } := by
    rw [SnmpEntry.community, hname, Option.map_some]
  exact List.ne_nil_of_mem (List.mem_filterMap.mpr ⟨entry, hentry, hread⟩)

/-- A table that is not empty is read as its state. -/
theorem readSnmp_eq (hdesired : effectiveSnmp config = some desired) (htable : table.WellFormed)
    (hne : table ≠ []) : readSnmp config table = some (table.state desired) := by
  have hread : table.read = some
      { communities := table.communities
        trapReceivers := table.receivers
        enabledTraps := table.traps } := by
    rw [SnmpTable.read, if_neg]
    rw [Bool.and_eq_true, List.isEmpty_iff]
    exact fun h => communities_ne_nil htable hne h.1
  rw [readSnmp, parseSnmpCommunity_shown, hread, hdesired]
  rfl

theorem readSnmpDiff_eq (hdesired : effectiveSnmp config = some desired) (htable : table.WellFormed)
    (hne : table ≠ []) :
    readSnmpDiff config table = Diff.computeSnmpDiff (table.state desired) desired := by
  rw [readSnmpDiff, Diff.diffSnmp, readSnmp_eq hdesired htable hne, hdesired]
  rfl

/-- Against an empty table all that is desired is added. -/
theorem readSnmpDiff_nil (hdesired : effectiveSnmp config = some desired) :
    readSnmpDiff config [] =
      { communitiesToAdd := desired.communities
        trapReceiversToAdd := desired.trapReceivers
        trapsToEnable := desired.enabledTraps } := by
  have hread : readSnmp config [] = none := by
    rw [readSnmp, parseSnmpCommunity_shown]
    rfl
  rw [readSnmpDiff, Diff.diffSnmp, hread, hdesired]
  rfl

/-- A community of the table is found under its name. -/
theorem lookup_current (htable : table.WellFormed) {name : CommunityName} (hentry : entry ∈ table)
    (hname : entry.name = some name) :
    lookup SnmpCommunity.name name.text (table.communities.map (adopted desired)) =
      some (adopted desired { name := name.text, allowedHosts := entry.allowedHosts }) := by
  have hnodup : ((table.communities.map (adopted desired)).map SnmpCommunity.name).Nodup := by
    rw [names_adopted, SnmpTable.names_communities]
    exact htable.names.map text_injective
  have hmem : adopted desired { name := name.text, allowedHosts := entry.allowedHosts } ∈
      table.communities.map (adopted desired) := by
    refine List.mem_map_of_mem (List.mem_filterMap.mpr ⟨entry, hentry, ?_⟩)
    rw [SnmpEntry.community, hname, Option.map_some]
  have hlookup := lookup_of_mem hnodup hmem
  rwa [name_adopted] at hlookup

/-- The difference to the table can be applied to it. -/
theorem applicable_read (hdesired : effectiveSnmp config = some desired)
    (htable : table.WellFormed) :
    Applicable table.communities desired.communities (readSnmpDiff config table) := by
  by_cases hne : table = []
  · subst hne
    rw [readSnmpDiff_nil hdesired]
    exact ⟨fun _ hmem => hmem, fun _ hmem => absurd hmem List.not_mem_nil,
      fun _ hmem => absurd hmem List.not_mem_nil, List.nodup_nil⟩
  · rw [readSnmpDiff_eq hdesired htable hne]
    refine ⟨fun community hmem => ?_, fun name hmem => ?_, fun community hmem => ?_, ?_⟩
    · rw [Diff.computeSnmpDiff, List.mem_insertionSort] at hmem
      exact mem_of_lookup (mem_added.mp hmem).1
    · rw [Diff.computeSnmpDiff, List.mem_insertionSort, removed, List.mem_filter, decide_eq_true_eq,
        mem_keys_iff, mem_keys_iff, SnmpTable.state, names_adopted] at hmem
      exact hmem
    · rw [Diff.computeSnmpDiff, List.mem_insertionSort] at hmem
      obtain ⟨hlookup, old, hold, -⟩ := mem_updated.mp hmem
      refine ⟨mem_of_lookup hlookup, ?_⟩
      have hthere := List.mem_map_of_mem (f := SnmpCommunity.name) (mem_of_lookup hold)
      rwa [key_of_lookup hold, SnmpTable.state, names_adopted] at hthere
    · exact ((List.perm_insertionSort _ _).map _).nodup_iff.mpr nodup_updated

/-- The diff leaves alone what is desired as it is. -/
theorem staying_eq_keeps (hdesired : effectiveSnmp config = some desired)
    (htable : table.WellFormed) :
    staying (readSnmpDiff config table) table = table.filter (keeps desired) := by
  by_cases hne : table = []
  · subst hne
    rfl
  · rw [readSnmpDiff_eq hdesired htable hne, staying]
    apply List.filter_congr
    intro entry hentry
    obtain ⟨name, hname⟩ := Option.isSome_iff_exists.mp (htable.named entry hentry)
    have hcurrent : lookup SnmpCommunity.name name.text
        (table.communities.map (adopted desired)) = some _ := lookup_current htable hentry hname
    -- an entry stays where its name is neither removed nor updated
    have hremoved :
        name.text ∈ (Diff.computeSnmpDiff (table.state desired) desired).communitiesToRemove ↔
          lookup SnmpCommunity.name name.text desired.communities = none := by
      rw [Diff.computeSnmpDiff, List.mem_insertionSort, mem_removed]
      exact and_iff_right ⟨_, hcurrent⟩
    rw [Bool.eq_iff_iff]
    refine decide_eq_true_iff.trans ?_
    rw [keeps, SnmpEntry.community, hname, Option.map_some, Option.any_some]
    simp only [Option.mem_some_iff, forall_eq', hremoved]
    cases hdesired : lookup SnmpCommunity.name name.text desired.communities with
    | none => simp
    | some wanted =>
      rw [Option.any_some, Diff.computeSnmpDiff, List.mem_map]
      simp only [List.mem_insertionSort, mem_updated]
      constructor
      · rintro ⟨-, hnot⟩
        by_contra hdiffers
        refine hnot ⟨wanted, ?_, key_of_lookup hdesired⟩
        rw [key_of_lookup hdesired]
        exact ⟨hdesired, _, hcurrent, eq_false_of_ne_true hdiffers⟩
      · intro hsame
        refine ⟨by simp, ?_⟩
        rintro ⟨other, ⟨hother, old, hold, hdiffers⟩, heq⟩
        rw [heq] at hother hold
        obtain rfl := Option.some.inj (hdesired.symm.trans hother)
        obtain rfl := Option.some.inj (hcurrent.symm.trans hold)
        rw [hsame] at hdiffers
        cases hdiffers

end Keeps

/-! ## What the receiver commands do -/

/-- Receivers of the entry, under indices that count up. -/
def writeReceivers : ℕ → List String → SnmpEntry → SnmpEntry
  | _, [], entry => entry
  | index, host :: hosts, entry =>
    writeReceivers (index + 1) hosts
      ((entry.openHost index).mapHost index (·.set "ip" [.bare host]))

section Write

variable {index : ℕ} {host : String} {hosts : List String} {entry : SnmpEntry}

/-- Only the hosts of an entry are written. -/
theorem writeReceivers_eq (index : ℕ) (hosts : List String) (entry : SnmpEntry) :
    writeReceivers index hosts entry =
      { entry with hosts := (writeReceivers index hosts entry).hosts } := by
  induction hosts generalizing index entry with
  | nil => rfl
  | cons host hosts ih =>
    rw [writeReceivers, ih]
    have hopen (index : ℕ) :
        entry.openHost index = { entry with hosts := (entry.openHost index).hosts } := by
      rw [SnmpEntry.openHost]
      split <;> rfl
    rw [hopen index]
    rfl

/-- A host that is opened is there. -/
theorem exists_openHost (index : ℕ) (entry : SnmpEntry) :
    ∃ base ∈ (entry.openHost index).hosts, base.index = index := by
  rw [SnmpEntry.openHost]
  split
  · next hmem =>
    obtain ⟨base, hbase, hindex⟩ := List.mem_map.mp hmem
    exact ⟨base, hbase, hindex⟩
  · exact ⟨{ index := index }, List.mem_append_right _ List.mem_cons_self, rfl⟩

/-- The other hosts are as they were. -/
theorem mem_openHost {listed : SnmpHost} (hne : listed.index ≠ index) :
    listed ∈ (entry.openHost index).hosts ↔ listed ∈ entry.hosts := by
  rw [SnmpEntry.openHost]
  split
  · rfl
  · rw [List.mem_append, List.mem_singleton]
    refine or_iff_left fun heq => hne ?_
    rw [heq]

/-- The hosts of an entry after one was written. -/
theorem mem_writeHost {listed : SnmpHost} {args : List Arg} :
    listed ∈ ((entry.openHost index).mapHost index (·.set "ip" args)).hosts ↔
      (listed ∈ entry.hosts ∧ listed.index ≠ index) ∨
        ∃ base ∈ (entry.openHost index).hosts,
          base.index = index ∧ listed = base.set "ip" args := by
  rw [SnmpEntry.mapHost, List.mem_map]
  constructor
  · rintro ⟨base, hbase, rfl⟩
    by_cases hindex : base.index = index
    · rw [if_pos hindex]
      exact .inr ⟨base, hbase, hindex, rfl⟩
    · rw [if_neg hindex]
      exact .inl ⟨(mem_openHost hindex).mp hbase, hindex⟩
  · rintro (⟨hlisted, hindex⟩ | ⟨base, hbase, hindex, rfl⟩)
    · exact ⟨listed, (mem_openHost hindex).mpr hlisted, if_neg hindex⟩
    · exact ⟨base, hbase, if_pos hindex⟩

/-- A plain receiver takes the place of what was at its index. -/
theorem texts_writeHost (hplain : isReceiverPlain host = true) {text : String} {p : ℕ → Prop} :
    (∃ listed ∈ ((entry.openHost index).mapHost index (·.set "ip" [.bare host])).hosts,
      p listed.index ∧ receiverHost listed.text = text) ↔
      (p index ∧ text = host) ∨ ∃ listed ∈ entry.hosts,
        (listed.index ≠ index ∧ p listed.index) ∧ receiverHost listed.text = text := by
  obtain ⟨ip, hip, hread⟩ := exists_of_isReceiverPlain hplain
  have hset (base : SnmpHost) : receiverHost (base.set "ip" [.bare host]).text = host := by
    rw [SnmpHost.set, if_pos rfl, hip]
    exact hread base.index
  simp only [mem_writeHost]
  constructor
  · rintro ⟨listed, ⟨hlisted, hindex⟩ | ⟨base, -, rfl, rfl⟩, hp, rfl⟩
    · exact .inr ⟨listed, hlisted, ⟨hindex, hp⟩, rfl⟩
    · rw [SnmpHost.index_set] at hp
      exact .inl ⟨hp, hset base⟩
  · rintro (⟨hp, rfl⟩ | ⟨listed, hlisted, ⟨hindex, hp⟩, rfl⟩)
    · obtain ⟨base, hbase, hindex⟩ := exists_openHost index entry
      refine ⟨_, .inr ⟨base, hbase, hindex, rfl⟩, ?_, hset base⟩
      rwa [SnmpHost.index_set, hindex]
    · exact ⟨listed, .inl ⟨hlisted, hindex⟩, hp, rfl⟩

/-- What is read of the hosts of an entry after plain receivers were written to it. -/
theorem texts_writeReceivers (hplain : ∀ host ∈ hosts, isReceiverPlain host = true)
    {text : String} :
    (∃ listed ∈ (writeReceivers index hosts entry).hosts, receiverHost listed.text = text) ↔
      text ∈ hosts ∨ ∃ listed ∈ entry.hosts,
        (listed.index < index ∨ index + hosts.length ≤ listed.index) ∧
          receiverHost listed.text = text := by
  induction hosts generalizing index entry with
  | nil =>
    simp only [writeReceivers, List.not_mem_nil, false_or, List.length_nil, Nat.add_zero]
    refine exists_congr fun listed => and_congr_right fun _ => ?_
    exact (and_iff_right (Nat.lt_or_ge _ _)).symm
  | cons host hosts ih =>
    obtain ⟨hfirst, hrest⟩ := List.forall_mem_cons.mp hplain
    have hstep := @texts_writeHost index host entry hfirst text fun n =>
      n < index + 1 ∨ index + 1 + hosts.length ≤ n
    rw [writeReceivers, ih hrest, hstep, and_iff_right (.inl (Nat.lt_succ_self index)), ← or_assoc,
      List.mem_cons, @or_comm (text ∈ hosts)]
    refine or_congr_right (exists_congr fun listed => and_congr_right fun _ => and_congr_left' ?_)
    rw [List.length_cons]
    omega

end Write

namespace SnmpTable

variable {table : SnmpTable} {index : ℕ}

/-- Two changes of an entry are one. -/
theorem mapEntry_mapEntry {f g : SnmpEntry → SnmpEntry}
    (hf : ∀ entry, (f entry).index = entry.index) :
    SnmpTable.mapEntry index g (SnmpTable.mapEntry index f table) =
      SnmpTable.mapEntry index (fun entry => g (f entry)) table := by
  rw [mapEntry, mapEntry, mapEntry, List.map_map]
  apply List.map_congr_left
  intro entry _
  by_cases hindex : entry.index = index
  · rw [Function.comp_apply, if_pos hindex, if_pos ((hf entry).trans hindex), if_pos hindex]
  · rw [Function.comp_apply, if_neg hindex, if_neg hindex, if_neg hindex]

theorem mapEntry_id : SnmpTable.mapEntry index (fun entry => entry) table = table := by
  rw [mapEntry]
  refine (List.map_congr_left fun entry _ => ?_).trans (List.map_id _)
  split <;> rfl

/-- Closed parts are executed one after another. -/
theorem execute_append {lines lines' : List Line} (h : Closed lines) :
    table.execute (lines ++ lines') = (table.execute lines).execute lines' := by
  rw [execute, h.effects_append, applyAll_append]
  rfl

/-- What acts in other tables leaves this one as it is. -/
theorem execute_other {tables : List String} {lines : List Line} (h : ActsIn tables lines)
    (hother : communityTable ∉ tables) : table.execute lines = table := by
  have hplace {effect : Effect} {other : String} (hroot : effect.root = some other)
      (hne : other ≠ communityTable) : place effect.loc = none := by
    rw [Effect.root] at hroot
    unfold place
    split
    · next table key heq =>
      rw [heq] at hroot
      exact if_neg fun h => hne (Option.some.inj hroot ▸ h)
    · next inner hostKey table key heq =>
      rw [heq] at hroot
      exact if_neg fun h => hne (Option.some.inj hroot ▸ h.1)
    · rfl
  have hall := h.root
  rw [execute]
  generalize effects [] lines = effects at hall
  induction effects with
  | nil => rfl
  | cons effect effects ih =>
    obtain ⟨⟨other, hmem, hroot⟩, hrest⟩ := List.forall_mem_cons.mp hall
    have hnone := hplace hroot fun heq => hother (heq ▸ hmem)
    have hsame : table.apply effect = table := by
      unfold SnmpTable.apply
      rw [hnone]
    rw [applyAll_cons, hsame]
    exact ih hrest

/-- Lines in the hosts of entry 1. -/
theorem execute_inFirstHosts {body : List Line} (table : SnmpTable) :
    table.execute (inFirstHosts body) = (table.openEntry 1).applyAll
      (effects [⟨"hosts", none⟩, ⟨communityTable, some (toString 1)⟩] body) := by
  have hnext (frames : List Frame) : effects frames [Line.next] = [] := by cases frames <;> rfl
  have hclose (frames : List Frame) : effects frames [Line.close] = [] := by cases frames <;> rfl
  have hsent : table.execute (inFirstHosts body) =
      table.sent (entry (.number 1) (block "hosts" body)) := execute_block
  have heffects : effects [⟨communityTable, none⟩] (entry (.number 1) (block "hosts" body)) =
      .create [(communityTable, toString 1)] ::
        effects [⟨"hosts", none⟩, ⟨communityTable, some (toString 1)⟩] body := by
    rw [entry, effects_cons, effects_append, hnext, List.append_nil, block, effects_cons,
      effects_append, hclose, List.append_nil]
    rfl
  rw [hsent, sent, heffects, applyAll_cons, apply_create]

/-- The receivers that are added. -/
theorem applyAll_receivers (receivers : List SnmpTrapReceiver) (start : ℕ) (table : SnmpTable) :
    table.applyAll (effects [⟨"hosts", none⟩, ⟨communityTable, some (toString 1)⟩]
      (receivers.mapIdx fun i receiver => receiverCommands (start + i) receiver).flatten) =
      table.mapEntry 1 (writeReceivers start (receivers.map SnmpTrapReceiver.host)) := by
  induction receivers generalizing start table with
  | nil => exact mapEntry_id.symm
  | cons receiver receivers ih =>
    have hfirst : effects [⟨"hosts", none⟩, ⟨communityTable, some (toString 1)⟩]
        (receiverCommands start receiver) =
        [.create [("hosts", toString start), (communityTable, toString 1)],
          .assign [("hosts", toString start), (communityTable, toString 1)] "ip"
            [.bare receiver.host],
          .assign [("hosts", toString start), (communityTable, toString 1)] "interface"
            [.bare "internal"]] := rfl
    have henter : enter [⟨"hosts", none⟩, ⟨communityTable, some (toString 1)⟩]
        (receiverCommands start receiver) =
        [⟨"hosts", none⟩, ⟨communityTable, some (toString 1)⟩] := rfl
    have hshift : (receivers.mapIdx fun i receiver => receiverCommands (start + (i + 1)) receiver) =
        receivers.mapIdx fun i receiver => receiverCommands (start + 1 + i) receiver := by
      congr 1
      funext i receiver
      rw [Nat.add_right_comm, Nat.add_assoc]
    -- the interface of a receiver is no setting of the table
    have hinterface (entry : SnmpEntry) :
        entry.mapHost start (·.set "interface" [.bare "internal"]) = entry := by
      rw [SnmpEntry.mapHost]
      have hmap : (entry.hosts.map fun host =>
          if host.index = start then host.set "interface" [.bare "internal"] else host) =
          entry.hosts := by
        refine (List.map_congr_left fun host _ => ?_).trans (List.map_id _)
        split <;> rfl
      rw [hmap]
    rw [List.mapIdx_cons, List.flatten_cons, Nat.add_zero, effects_append, henter, hfirst,
      applyAll_append, applyAll_cons, apply_create_host, applyAll_cons, apply_assign_host,
      applyAll_cons, apply_assign_host, applyAll_nil, hshift, ih, mapEntry_mapEntry,
      mapEntry_mapEntry, mapEntry_mapEntry]
    · simp only [hinterface]
      rfl
    · exact fun entry => SnmpEntry.index_openHost start entry
    · exact fun entry => rfl
    · exact fun entry => rfl

/-- A receiver is deleted by what is no key of the table. -/
theorem keyIndex_receiverHost (host : SnmpHost) :
    keyIndex (receiverHost host.text) = none := by
  have hdot : '.' ∈ host.ip.address.toList := by
    by_contra hnot
    have hvalid := host.ip.valid.1
    have hone : host.ip.address.toList.splitOn '.' = [host.ip.address.toList] := by
      rw [List.splitOn_eq_splitOnP]
      exact List.splitOnP_eq_singleton fun c hc => beq_false_of_ne fun heq => hnot (heq ▸ hc)
    rw [isIpv4, hone] at hvalid
    cases hvalid
  have hmem : '.' ∈ (receiverHost host.text).toList := by
    rw [SnmpHost.text, receiverHost_pair (isWord_of_isIpv4 host.ip.valid.2), String.toList_ofList]
    split
    · exact hdot
    · exact List.mem_append_left _ hdot
  rw [keyIndex, if_neg]
  rintro ⟨-, hall⟩
  exact absurd (List.all_eq_true.mp hall _ hmem) (by decide)

/-- An entry that is there is not made again. -/
theorem openEntry_of_mem (h : index ∈ table.map SnmpEntry.index) : table.openEntry index = table :=
  if_pos h

theorem mem_openEntry : index ∈ (table.openEntry index).map SnmpEntry.index := by
  rw [openEntry]
  split
  · next h => exact h
  · simp

/-- A change of entries keeps their indices. -/
theorem indices_mapEntry {f : SnmpEntry → SnmpEntry} (hf : ∀ entry, (f entry).index = entry.index) :
    (SnmpTable.mapEntry index f table).map SnmpEntry.index = table.map SnmpEntry.index := by
  rw [mapEntry, List.map_map]
  apply List.map_congr_left
  intro entry _
  rw [Function.comp_apply]
  split
  · exact hf entry
  · rfl

/-- The removals open entry 1 and do nothing in it. -/
theorem execute_removals {hosts : List String} (h : ∀ host ∈ hosts, keyIndex host = none) :
    table.execute (hosts.flatMap fun host => inFirstHosts [.delete host]) =
      if hosts = [] then table else table.openEntry 1 := by
  have hone {host : String} (table : SnmpTable) (h : keyIndex host = none) :
      table.execute (inFirstHosts [.delete host]) = table.openEntry 1 := by
    have heffects : effects [⟨"hosts", none⟩, ⟨communityTable, some (toString 1)⟩] [.delete host] =
        [.remove [("hosts", host), (communityTable, toString 1)]] := rfl
    have hplace : place [("hosts", host), (communityTable, toString 1)] = none := by
      rw [place, if_pos ⟨rfl, rfl⟩, keyIndex_toString, h]
      rfl
    rw [execute_inFirstHosts, heffects, applyAll_cons, applyAll_nil]
    unfold SnmpTable.apply
    simp only [Effect.loc, hplace]
  induction hosts generalizing table with
  | nil => rfl
  | cons host hosts ih =>
    obtain ⟨hhost, hhosts⟩ := List.forall_mem_cons.mp h
    have hclosed : Closed (inFirstHosts [.delete host]) :=
      (acts_inFirstHosts (show Balanced [Line.delete host] from .plain trivial .nil)).closed
    rw [List.flatMap_cons, execute_append hclosed, hone table hhost, ih hhosts,
      if_neg (List.cons_ne_nil _ _)]
    split
    · rfl
    · exact openEntry_of_mem mem_openEntry

/-- The table after the receivers of a diff. -/
def received (diff : SnmpStateDiff) (table : SnmpTable) : SnmpTable :=
  if diff.trapReceiversToAdd = [] ∧ diff.trapReceiversToRemove = [] then table
  else (table.openEntry 1).mapEntry 1
    (writeReceivers 100 (diff.trapReceiversToAdd.map SnmpTrapReceiver.host))

/-- Changes of receivers are made one after another. -/
theorem execute_receiverChanges {diff : SnmpStateDiff}
    (h : ∀ host ∈ diff.trapReceiversToRemove, keyIndex host = none) :
    table.execute (receiverChanges diff) = received diff table := by
  have hclosed : Closed (inFirstHosts (diff.trapReceiversToAdd.mapIdx fun i receiver =>
      receiverCommands (100 + i) receiver).flatten) :=
    (acts_inFirstHosts (balanced_indexed fun _ _ => balanced_receiverCommands)).closed
  rw [receiverChanges, received]
  by_cases hadd : diff.trapReceiversToAdd = []
  · rw [hadd, List.isEmpty_nil, if_pos rfl, List.nil_append, execute_removals h]
    by_cases hremove : diff.trapReceiversToRemove = []
    · rw [if_pos hremove, if_pos ⟨rfl, hremove⟩]
    · have hchanges : ¬([] = ([] : List SnmpTrapReceiver) ∧ diff.trapReceiversToRemove = []) :=
        fun h => hremove h.2
      rw [if_neg hremove, if_neg hchanges]
      exact mapEntry_id.symm
  · have hchanges : ¬(diff.trapReceiversToAdd = [] ∧ diff.trapReceiversToRemove = []) :=
      fun h => hadd h.1
    rw [if_neg (by simpa using hadd), execute_append hclosed, execute_inFirstHosts,
      applyAll_receivers, execute_removals h, if_neg hchanges]
    split
    · rfl
    · refine openEntry_of_mem ?_
      rw [indices_mapEntry fun entry => by rw [writeReceivers_eq]]
      exact mem_openEntry

end SnmpTable

/-! ## What is read afterwards -/

/-- The desired receivers that the table does not have. -/
def newReceivers (desired : SnmpConfig) (table : SnmpTable) : List String :=
  (desired.trapReceivers.map SnmpTrapReceiver.host).dedup.filter
    (· ∉ table.receivers.map SnmpTrapReceiver.host)

/-- Is an entry for trap receivers once its community is as desired? -/
def takesReceivers (desired : SnmpConfig) (entry : SnmpEntry) : Bool :=
  if keeps desired entry then !entry.isAllowList
  else entry.community.any fun community =>
    (lookup SnmpCommunity.name community.name desired.communities).any (·.allowedHosts.isEmpty)

/-- An entry less the hosts whose indices new receivers take. -/
def lessOverwritten (count : ℕ) (entry : SnmpEntry) : SnmpEntry :=
  if entry.index = 1 then
    { entry with hosts := entry.hosts.filter fun host =>
        host.index < 100 ∨ 100 + count ≤ host.index }
  else entry

/-- The receivers that are left of those in the table. -/
def keptReceivers (desired : SnmpConfig) (table : SnmpTable) : List String :=
  (table.filter (keeps desired)).flatMap fun entry =>
    (lessOverwritten (newReceivers desired table).length entry).receivers.map SnmpTrapReceiver.host

section Readings

variable {config : SwitchConfig} {desired : SnmpConfig} {table : SnmpTable} {diff : SnmpStateDiff}
variable {text : String} {entry : SnmpEntry}

/-- The receivers of an entry are its hosts, unless they are those allowed to read. -/
theorem mem_receivers : text ∈ entry.receivers.map SnmpTrapReceiver.host ↔
    (entry.name.isSome ∧ entry.isAllowList = false) ∧
      ∃ host ∈ entry.hosts, receiverHost host.text = text := by
  rw [SnmpEntry.receivers]
  cases entry.name with
  | none => simp
  | some name =>
    rw [Option.elim_some]
    by_cases hallow : entry.isAllowList = true
    · rw [if_pos hallow]
      simp [hallow]
    · rw [if_neg hallow, List.map_map]
      simp [hallow]

/-- The receivers of a table are those of its entries. -/
theorem mem_table_receivers : text ∈ table.receivers.map SnmpTrapReceiver.host ↔
    ∃ entry ∈ table, text ∈ entry.receivers.map SnmpTrapReceiver.host := by
  rw [SnmpTable.receivers, List.map_flatMap, List.mem_flatMap]

/-- A community that was written receives nothing. -/
theorem receivers_entryOf (index : ℕ) (community : SnmpCommunity) :
    (entryOf index community).receivers = [] := by
  have hallow : (entryOf index community).isAllowList =
      !((community.allowedHosts.mapM hostToFortios).toOption.getD []).isEmpty := Bool.and_self _
  rw [SnmpEntry.receivers]
  cases (entryOf index community).name with
  | none => rfl
  | some name =>
    rw [Option.elim_some, hallow]
    cases hhosts : (community.allowedHosts.mapM hostToFortios).toOption.getD [] with
    | cons _ _ => rfl
    | nil =>
      have hnone : (entryOf index community).hosts = [] := by
        rw [entryOf, hhosts]
        rfl
      rw [hnone]
      rfl

/-- What is read of the receivers after those of a diff were sent. -/
theorem mem_received (table : SnmpTable) :
    text ∈ (received diff table).receivers.map SnmpTrapReceiver.host ↔
    ∃ entry ∈ table, (entry.name.isSome ∧ entry.isAllowList = false) ∧
      ∃ host ∈ (if entry.index = 1 then
          writeReceivers 100 (diff.trapReceiversToAdd.map SnmpTrapReceiver.host) entry
        else entry).hosts, receiverHost host.text = text := by
  have hwritten (entry : SnmpEntry) : text ∈ (if entry.index = 1 then
      writeReceivers 100 (diff.trapReceiversToAdd.map SnmpTrapReceiver.host) entry
        else entry).receivers.map SnmpTrapReceiver.host ↔
      (entry.name.isSome ∧ entry.isAllowList = false) ∧
      ∃ host ∈ (if entry.index = 1 then
          writeReceivers 100 (diff.trapReceiversToAdd.map SnmpTrapReceiver.host) entry
        else entry).hosts, receiverHost host.text = text := by
    rw [mem_receivers]
    apply and_congr_left'
    split
    · rw [writeReceivers_eq]
      rfl
    · rfl
  rw [mem_table_receivers, received]
  split
  · next hnone =>
    rw [hnone.1]
    simp only [mem_receivers, List.map_nil, writeReceivers, ite_self]
  · simp only [← hwritten]
    rw [SnmpTable.mapEntry]
    refine (exists_congr fun written => and_congr_left' List.mem_map).trans ?_
    rw [exists_exists_and_eq_and, SnmpTable.openEntry]
    split
    · rfl
    · simp only [List.mem_append, or_and_right, exists_or]
      -- an entry opened just for the receivers has no name, so it shows none
      refine or_iff_left ?_
      rintro ⟨entry, hentry, hmem⟩
      rw [List.mem_singleton.mp hentry, hwritten] at hmem
      cases hmem.1.1

/-- An entry that the community block writes for an update, where the community was. -/
theorem mem_updatedEntries (htable : table.WellFormed)
    (hdiff : Applicable table.communities desired.communities diff) :
    entry ∈ List.zipWith entryOf (updatedIndices table diff) diff.communitiesToUpdate ↔
      ∃ community ∈ diff.communitiesToUpdate, ∃ old ∈ table,
        old.name.map CommunityName.text = some community.name ∧
          entry = entryOf old.index community := by
  have hindex := exists_index_of_update htable hdiff
  rw [updatedIndices, indicesOf, List.filterMap_map]
  generalize diff.communitiesToUpdate = communities at hindex
  induction communities with
  | nil => simp
  | cons community rest ih =>
    obtain ⟨⟨i, hi⟩, hrest⟩ := List.forall_mem_cons.mp hindex
    rw [List.filterMap_cons, Function.comp_apply, hi]
    dsimp only
    rw [List.zipWith_cons_cons, List.mem_cons]
    refine (or_congr_right (ih hrest)).trans ?_
    simp only [List.mem_cons, or_and_right, exists_or, exists_eq_left]
    apply or_congr_left
    obtain ⟨old, hold, hname, rfl⟩ := htable.lookup_iff.mp hi
    constructor
    · rintro rfl
      exact ⟨old, hold, hname, rfl⟩
    · rintro ⟨other, hother, hothername, rfl⟩
      have hlookup := htable.lookup_iff.mpr ⟨other, hother, hothername, rfl⟩
      rw [Option.some.inj (hi.symm.trans hlookup)]

theorem le_freeIndices {communities : List SnmpCommunity} {occupied : List ℕ} :
    ∀ i ∈ freeIndices communities occupied, 100 ≤ i := by
  induction communities generalizing occupied with
  | nil => exact fun i hi => absurd hi List.not_mem_nil
  | cons community rest ih =>
    rw [freeIndices, List.forall_mem_cons]
    exact ⟨le_freeSnmpIndex occupied, ih⟩

theorem exists_of_mem_zipWith {indices : List ℕ} {communities : List SnmpCommunity}
    (h : entry ∈ List.zipWith entryOf indices communities) :
    ∃ index community, entry = entryOf index community := by
  induction indices generalizing communities with
  | nil => cases h
  | cons i indices ih =>
    cases communities with
    | nil => cases h
    | cons community communities =>
      rcases List.mem_cons.mp h with rfl | h
      · exact ⟨_, _, rfl⟩
      · exact ih h

/-- What is updated is the desired community of its name. -/
theorem lookup_of_mem_update (hdesired : effectiveSnmp config = some desired)
    (htable : table.WellFormed) {community : SnmpCommunity}
    (h : community ∈ (readSnmpDiff config table).communitiesToUpdate) :
    lookup SnmpCommunity.name community.name desired.communities = some community := by
  by_cases hne : table = []
  · subst hne
    rw [readSnmpDiff_nil hdesired] at h
    cases h
  · rw [readSnmpDiff_eq hdesired htable hne, Diff.computeSnmpDiff, List.mem_insertionSort] at h
    exact (mem_updated.mp h).1

/-- Its hosts are those allowed to read. -/
theorem isAllowList_entryOf {index : ℕ} {community : SnmpCommunity}
    (hfit : hostsFit community = true) :
    (entryOf index community).isAllowList = !community.allowedHosts.isEmpty := by
  obtain ⟨hosts, hhosts⟩ := hostsFit_iff.mp hfit
  have hlength := (mapM_ok_iff.mp hhosts).length_eq
  have hallow : (entryOf index community).isAllowList = !hosts.isEmpty := by
    rw [entryOf, hhosts]
    exact Bool.and_self _
  rw [hallow, Bool.eq_iff_iff, Bool.not_eq_true', Bool.not_eq_true', List.isEmpty_eq_false_iff,
    List.isEmpty_eq_false_iff, ← List.length_pos_iff, ← List.length_pos_iff, hlength]

/-- Entry 1, if there is one once the communities are as desired, was in the table before. -/
theorem exists_origin (hdesired : effectiveSnmp config = some desired)
    (htable : table.WellFormed) {lines : List Line}
    (hlines : communityCommands table.indices (readSnmpDiff config table) = .ok lines)
    (hentry : entry ∈ settled (readSnmpDiff config table) table) (hindex : entry.index = 1) :
    ∃ old ∈ table, old.index = 1 ∧
      (takesReceivers desired old = true ↔ entry.name.isSome ∧ entry.isAllowList = false) := by
  have hdiff := applicable_read hdesired htable
  have hfit := exists_communityCommands_iff.mp ⟨lines, hlines⟩
  simp only [settled, staying_eq_keeps hdesired htable, List.mem_append,
    mem_updatedEntries htable hdiff] at hentry
  rcases hentry with (hkept | ⟨community, hcommunity, old, hold, hname, rfl⟩) | hadded
  · obtain ⟨hentry, hkeeps⟩ := List.mem_filter.mp hkept
    refine ⟨entry, hentry, hindex, ?_⟩
    rw [takesReceivers, if_pos hkeeps, Bool.not_eq_true']
    exact (and_iff_right (htable.named entry hentry)).symm
  · refine ⟨old, hold, hindex, ?_⟩
    obtain ⟨name, holdName, htext⟩ := Option.map_eq_some_iff.mp hname
    -- it is updated, so it was not kept
    have hnot : keeps desired old = false := by
      by_contra hkeeps
      have hstays : old ∈ staying (readSnmpDiff config table) table := by
        rw [staying_eq_keeps hdesired htable]
        exact List.mem_filter.mpr ⟨hold, eq_true_of_ne_false hkeeps⟩
      have hfree := of_decide_eq_true (List.mem_filter.mp hstays).2 name holdName
      exact hfree.2 (htext ▸ List.mem_map_of_mem hcommunity)
    have hnamed : (entryOf old.index community).name.isSome := by
      have hof : (entryOf old.index community).name = CommunityName.of community.name := rfl
      rw [hof, ← htext, CommunityName.of, dif_pos name.plain]
      rfl
    rw [takesReceivers, hnot, if_neg (by decide), SnmpEntry.community, holdName, Option.map_some,
      Option.any_some, htext, lookup_of_mem_update hdesired htable hcommunity, Option.any_some,
      isAllowList_entryOf (hfit _ (List.mem_append_left _ hcommunity)), Bool.not_eq_false']
    exact (and_iff_right hnamed).symm
  -- an added entry has a free index, and those start above this one
  · have hlarge := le_freeIndices _ (index_mem_of_mem_zipWith hadded)
    rw [hindex] at hlarge
    omega

/-- Is there an entry for trap receivers once the communities are as desired? -/
theorem exists_target_iff (hdesired : effectiveSnmp config = some desired)
    (htable : table.WellFormed) {lines : List Line}
    (hlines : communityCommands table.indices (readSnmpDiff config table) = .ok lines) :
    (∃ entry ∈ settled (readSnmpDiff config table) table,
      (entry.name.isSome ∧ entry.isAllowList = false) ∧ entry.index = 1) ↔
      ∃ entry ∈ table, entry.index = 1 ∧ takesReceivers desired entry = true := by
  have hdiff := applicable_read hdesired htable
  have hfit := exists_communityCommands_iff.mp ⟨lines, hlines⟩
  constructor
  · rintro ⟨entry, hentry, hopen, hindex⟩
    obtain ⟨old, hold, hfirst, htakes⟩ := exists_origin hdesired htable hlines hentry hindex
    exact ⟨old, hold, hfirst, htakes.mpr hopen⟩
  · rintro ⟨entry, hentry, hindex, htakes⟩
    simp only [settled, staying_eq_keeps hdesired htable, List.mem_append,
      mem_updatedEntries htable hdiff]
    rw [takesReceivers] at htakes
    -- an entry is kept as it stands or written anew; either can take the receivers
    by_cases hkeeps : keeps desired entry = true
    · rw [if_pos hkeeps] at htakes
      exact ⟨entry, .inl (.inl (List.mem_filter.mpr ⟨hentry, hkeeps⟩)),
        ⟨htable.named entry hentry, by simpa using htakes⟩, hindex⟩
    · obtain ⟨name, hname⟩ := Option.isSome_iff_exists.mp (htable.named entry hentry)
      rw [if_neg hkeeps, SnmpEntry.community, hname, Option.map_some, Option.any_some] at htakes
      cases hlookup : lookup SnmpCommunity.name name.text desired.communities with
      | none =>
        rw [hlookup] at htakes
        cases htakes
      | some community =>
        rw [hlookup, Option.any_some, List.isEmpty_iff] at htakes
        -- it is not kept, yet wanted: so it is among the updates, under its old index
        have hupdated : community ∈ (readSnmpDiff config table).communitiesToUpdate := by
          by_contra hnot
          refine hkeeps ?_
          have hstays : entry ∈ staying (readSnmpDiff config table) table := by
            refine List.mem_filter.mpr ⟨hentry, decide_eq_true fun name' hname' => ?_⟩
            obtain rfl := Option.some.inj (hname.symm.trans hname')
            constructor
            · intro hremoved
              refine (hdiff.remove _ hremoved).2 ?_
              rw [← key_of_lookup hlookup]
              exact List.mem_map_of_mem (mem_of_lookup hlookup)
            · intro hupdated
              obtain ⟨other, hother, heq⟩ := List.mem_map.mp hupdated
              have hwanted := lookup_of_mem_update hdesired htable hother
              rw [heq] at hwanted
              obtain rfl := Option.some.inj (hlookup.symm.trans hwanted)
              exact hnot hother
          rw [staying_eq_keeps hdesired htable] at hstays
          exact (List.mem_filter.mp hstays).2
        have htext : entry.name.map CommunityName.text = some community.name := by
          rw [hname, key_of_lookup hlookup]
          rfl
        refine ⟨entryOf entry.index community,
          .inl (.inr ⟨community, hupdated, entry, hentry, htext, rfl⟩), ⟨?_, ?_⟩, hindex⟩
        · have hof : (entryOf entry.index community).name = CommunityName.of community.name := rfl
          rw [hof, key_of_lookup hlookup, CommunityName.of, dif_pos name.plain]
          rfl
        · rw [isAllowList_entryOf (hfit _ (List.mem_append_left _ hupdated)), htakes]
          rfl

/-- The receivers that the diff adds are those that the table does not have. -/
theorem mem_added_receivers (hdesired : effectiveSnmp config = some desired)
    (htable : table.WellFormed) :
    text ∈ (readSnmpDiff config table).trapReceiversToAdd.map SnmpTrapReceiver.host ↔
      text ∈ newReceivers desired table := by
  rw [newReceivers, List.mem_filter, List.mem_dedup, decide_eq_true_eq]
  by_cases hne : table = []
  · subst hne
    rw [readSnmpDiff_nil hdesired]
    exact (and_iff_left List.not_mem_nil).symm
  · rw [readSnmpDiff_eq hdesired htable hne]
    change text ∈ (added SnmpTrapReceiver.host table.receivers desired.trapReceivers).map _ ↔ _
    rw [List.mem_map]
    constructor
    · rintro ⟨receiver, hreceiver, rfl⟩
      obtain ⟨hlookup, hnew⟩ := mem_added.mp hreceiver
      refine ⟨List.mem_map_of_mem (mem_of_lookup hlookup), fun hmem => ?_⟩
      rw [lookup_eq_none_iff] at hnew
      obtain ⟨other, hother, heq⟩ := List.mem_map.mp hmem
      exact hnew other hother heq
    · rintro ⟨hwanted, hnew⟩
      obtain ⟨receiver, hreceiver, rfl⟩ := List.mem_map.mp hwanted
      obtain ⟨first, hfirst⟩ := @exists_lookup_of_mem _ _ _ SnmpTrapReceiver.host _ _ hreceiver
      refine ⟨first, mem_added.mpr ⟨?_, ?_⟩, key_of_lookup hfirst⟩
      · rwa [key_of_lookup hfirst]
      · rw [key_of_lookup hfirst, lookup_eq_none_iff]
        exact fun other hother heq => hnew (heq ▸ List.mem_map_of_mem hother)

/-- As many receivers are added as are missing. -/
theorem length_added_receivers (hdesired : effectiveSnmp config = some desired)
    (htable : table.WellFormed) (hne : table ≠ []) :
    ((readSnmpDiff config table).trapReceiversToAdd.map SnmpTrapReceiver.host).length =
      (newReceivers desired table).length := by
  have hadded :
      ((readSnmpDiff config table).trapReceiversToAdd.map SnmpTrapReceiver.host).Nodup := by
    rw [readSnmpDiff_eq hdesired htable hne]
    exact nodup_added
  have hnew : (newReceivers desired table).Nodup := (List.nodup_dedup _).filter _
  apply List.Perm.length_eq
  rw [List.perm_ext_iff_of_nodup hadded hnew]
  exact fun text => mem_added_receivers hdesired htable

/-- Some of the receivers are written over. -/
theorem mem_lessOverwritten {count : ℕ} :
    text ∈ (lessOverwritten count entry).receivers.map SnmpTrapReceiver.host ↔
      (entry.name.isSome ∧ entry.isAllowList = false) ∧ ∃ host ∈ entry.hosts,
        (entry.index = 1 → host.index < 100 ∨ 100 + count ≤ host.index) ∧
          receiverHost host.text = text := by
  rw [mem_receivers, lessOverwritten]
  split
  · next hindex =>
    apply and_congr_right'
    simp only [List.mem_filter, decide_eq_true_eq, hindex, true_implies, and_assoc]
  · next hindex =>
    apply and_congr_right'
    refine exists_congr fun host => and_congr_right fun _ => ?_
    exact (and_iff_right fun heq => absurd heq hindex).symm

/-- What is read of an entry after plain receivers went to entry 1. -/
theorem mem_written {hosts : List String} (hplain : ∀ host ∈ hosts, isReceiverPlain host = true) :
    ((entry.name.isSome ∧ entry.isAllowList = false) ∧ ∃ host ∈ (if entry.index = 1 then
        writeReceivers 100 hosts entry else entry).hosts, receiverHost host.text = text) ↔
      ((entry.name.isSome ∧ entry.isAllowList = false) ∧ entry.index = 1 ∧ text ∈ hosts) ∨
        text ∈ (lessOverwritten hosts.length entry).receivers.map SnmpTrapReceiver.host := by
  rw [mem_lessOverwritten, ← and_or_left]
  apply and_congr_right'
  by_cases hindex : entry.index = 1
  · simp only [hindex, if_true, true_and, true_implies]
    exact texts_writeReceivers hplain
  · simp only [hindex, if_false, false_and, false_or, false_implies, true_and]

/-- What is read of the receivers in the end, where all new ones are plain. -/
theorem mem_received_settled (hdesired : effectiveSnmp config = some desired)
    (htable : table.WellFormed)
    (hplain : ∀ host ∈ newReceivers desired table, isReceiverPlain host = true) :
    text ∈ (received (readSnmpDiff config table)
        (settled (readSnmpDiff config table) table)).receivers.map SnmpTrapReceiver.host ↔
      (text ∈ newReceivers desired table ∧
        ∃ entry ∈ settled (readSnmpDiff config table) table,
          (entry.name.isSome ∧ entry.isAllowList = false) ∧ entry.index = 1) ∨
        text ∈ keptReceivers desired table := by
  have hadded : ∀ host ∈ (readSnmpDiff config table).trapReceiversToAdd.map SnmpTrapReceiver.host,
      isReceiverPlain host = true := fun host hmem =>
    hplain host ((mem_added_receivers hdesired htable).mp hmem)
  rw [mem_received]
  refine (exists_congr fun entry => and_congr_right fun _ => mem_written hadded).trans ?_
  simp only [and_or_left, exists_or]
  apply or_congr
  · rw [← mem_added_receivers hdesired htable]
    constructor
    · rintro ⟨entry, hentry, hopen, hindex, htext⟩
      exact ⟨htext, entry, hentry, hopen, hindex⟩
    · rintro ⟨htext, entry, hentry, hopen, hindex⟩
      exact ⟨entry, hentry, hopen, hindex, htext⟩
  · rw [keptReceivers, List.mem_flatMap, ← staying_eq_keeps hdesired htable]
    constructor
    · rintro ⟨entry, hentry, hmem⟩
      rw [settled, List.append_assoc, List.mem_append, List.mem_append] at hentry
      rcases hentry with hstays | hwritten
      · have hne : table ≠ [] := List.ne_nil_of_mem (List.mem_filter.mp hstays).1
        rw [length_added_receivers hdesired htable hne] at hmem
        exact ⟨entry, hstays, hmem⟩
      · -- an entry that is written has managers only
        exfalso
        obtain ⟨index, community, rfl⟩ := hwritten.elim exists_of_mem_zipWith exists_of_mem_zipWith
        obtain ⟨hopen, host, hhost, -, hread⟩ := mem_lessOverwritten.mp hmem
        have hthere := mem_receivers.mpr ⟨hopen, host, hhost, hread⟩
        rw [receivers_entryOf] at hthere
        cases hthere
    · rintro ⟨entry, hentry, hmem⟩
      have hne : table ≠ [] := List.ne_nil_of_mem (List.mem_filter.mp hentry).1
      rw [← length_added_receivers hdesired htable hne] at hmem
      refine ⟨entry, ?_, hmem⟩
      rw [settled, List.append_assoc]
      exact List.mem_append_left _ hentry

/-- Entries without events add no traps. -/
theorem traps_append_silent {added : SnmpTable} (h : ∀ entry ∈ added, entry.events = []) :
    SnmpTable.traps (table ++ added) = table.traps := by
  rw [SnmpTable.traps, List.foldl_append, ← SnmpTable.traps]
  generalize table.traps = traps
  induction added with
  | nil => rfl
  | cons entry added ih =>
    obtain ⟨hentry, hadded⟩ := List.forall_mem_cons.mp h
    rw [List.foldl_cons, SnmpEntry.readTraps, hentry, List.isEmpty_nil, if_pos rfl]
    exact ih hadded

/-- A change that keeps the events keeps the traps. -/
theorem traps_mapEntry {index : ℕ} {f : SnmpEntry → SnmpEntry}
    (hf : ∀ entry, (f entry).events = entry.events) :
    SnmpTable.traps (table.mapEntry index f) = table.traps := by
  have hread (traps : List TrapType) (entry : SnmpEntry) :
      SnmpEntry.readTraps traps (if entry.index = index then f entry else entry) =
        SnmpEntry.readTraps traps entry := by
    split
    · rw [SnmpEntry.readTraps, hf, ← SnmpEntry.readTraps]
    · rfl
  rw [SnmpTable.traps, SnmpTable.mapEntry, List.foldl_map]
  simp only [hread]
  rfl

/-- The traps in the end are those of the communities that are left alone. -/
theorem traps_received (hdesired : effectiveSnmp config = some desired)
    (htable : table.WellFormed) :
    SnmpTable.traps (received (readSnmpDiff config table)
      (settled (readSnmpDiff config table) table)) =
      SnmpTable.traps (table.filter (keeps desired)) := by
  have hsettled : SnmpTable.traps (settled (readSnmpDiff config table) table) =
      SnmpTable.traps (table.filter (keeps desired)) := by
    rw [settled, List.append_assoc, staying_eq_keeps hdesired htable]
    refine traps_append_silent fun entry hentry => ?_
    obtain ⟨index, community, rfl⟩ := (List.mem_append.mp hentry).elim exists_of_mem_zipWith
      exists_of_mem_zipWith
    rfl
  rw [received]
  split
  · exact hsettled
  · rw [traps_mapEntry fun entry => by rw [writeReceivers_eq], SnmpTable.openEntry]
    split
    · exact hsettled
    · rw [traps_append_silent (by simp), hsettled]

/-- What the parser makes of the receivers and traps of a table. -/
theorem parsed_receivers (htable : table.communities = [] → table.traps = []) :
    ((parseSnmpCommunity (strLines table.shown)).getD {}).trapReceivers = table.receivers ∧
      ((parseSnmpCommunity (strLines table.shown)).getD {}).enabledTraps = table.traps := by
  rw [parseSnmpCommunity_shown, SnmpTable.read]
  split
  · next hempty =>
    rw [Bool.and_eq_true, List.isEmpty_iff, List.isEmpty_iff] at hempty
    rw [hempty.2, htable hempty.1]
    exact ⟨rfl, rfl⟩
  · exact ⟨rfl, rfl⟩

end Readings

/-! ## When receivers and traps converge -/

/-- What `apply_snmp_diff` needs for its receivers and traps: entry 1 is for receivers where there
are new ones, these are spelled as they are read, nothing is to be removed of what stays and nothing
desired goes with a community that is written anew, and the communities that stay set the traps. -/
structure ReceiversFit (desired : SnmpConfig) (table : SnmpTable) : Prop where
  target : newReceivers desired table ≠ [] →
    ∃ entry ∈ table, entry.index = 1 ∧ takesReceivers desired entry = true
  plain : ∀ host ∈ newReceivers desired table, isReceiverPlain host = true
  kept : ∀ host, host ∈ keptReceivers desired table ↔
    host ∈ desired.trapReceivers.map SnmpTrapReceiver.host ∧
      host ∈ table.receivers.map SnmpTrapReceiver.host
  traps : ∀ trap, trap ∈ SnmpTable.traps (table.filter (keeps desired)) ↔
    trap ∈ desired.enabledTraps

/-- The receivers and traps that are read afterwards are the desired ones, and no allow-list that
the receivers find is another after them. -/
structure ReceiversConverge (desired : SnmpConfig) (before after : SnmpTable) : Prop where
  receivers : ∀ host, host ∈ ((parseSnmpCommunity (strLines after.shown)).getD {}).trapReceivers.map
    SnmpTrapReceiver.host ↔ host ∈ desired.trapReceivers.map SnmpTrapReceiver.host
  traps : ∀ trap, trap ∈ ((parseSnmpCommunity (strLines after.shown)).getD {}).enabledTraps ↔
    trap ∈ desired.enabledTraps
  allowLists : ∀ entry ∈ before, entry.isAllowList = true →
    ∃ entry' ∈ after, entry'.index = entry.index ∧
      ∀ ip, ip ∈ entry'.hosts.map SnmpHost.ip ↔ ip ∈ entry.hosts.map SnmpHost.ip

section Converge

variable {config : SwitchConfig} {desired : SnmpConfig} {table : SnmpTable} {diff : SnmpStateDiff}
variable {switch : FortiswitchSwitch} {lines communities : List Line}

/-- The receivers that are to be removed are no keys of the table. -/
theorem keyIndex_removed (hdesired : effectiveSnmp config = some desired)
    (htable : table.WellFormed) :
    ∀ host ∈ (readSnmpDiff config table).trapReceiversToRemove, keyIndex host = none := by
  intro host hhost
  by_cases hne : table = []
  · subst hne
    rw [readSnmpDiff_nil hdesired] at hhost
    cases hhost
  · rw [readSnmpDiff_eq hdesired htable hne] at hhost
    obtain ⟨⟨receiver, hreceiver⟩, -⟩ := mem_removed.mp hhost
    have hmem := List.mem_map_of_mem (f := SnmpTrapReceiver.host) (mem_of_lookup hreceiver)
    rw [key_of_lookup hreceiver] at hmem
    obtain ⟨entry, -, hmem⟩ := mem_table_receivers.mp hmem
    obtain ⟨-, listed, -, rfl⟩ := mem_receivers.mp hmem
    exact keyIndex_receiverHost listed

/-- The table after all commands of the diff. -/
theorem execute_applySnmpDiff (hdesired : effectiveSnmp switch.config = some desired)
    (htable : table.WellFormed) (hindices : switch.snmpCommunityIndices = table.indices)
    (hlines : applySnmpDiff switch (readSnmpDiff switch.config table) = .ok lines) :
    table.execute lines = received (readSnmpDiff switch.config table)
      (settled (readSnmpDiff switch.config table) table) := by
  have hdiff := applicable_read hdesired htable
  rw [applySnmpDiff] at hlines
  split at hlines
  · -- nothing to do: the communities all stay, and no receiver is sent
    next hnone =>
    rw [Bool.not_eq_true', SnmpStateDiff.hasChanges_eq_false] at hnone
    obtain ⟨⟨hadd, hremove, hupdate⟩, ⟨haddReceivers, hremoveReceivers⟩, -⟩ := hnone
    have hstaying : staying (readSnmpDiff switch.config table) table = table := by
      rw [staying, hremove, hupdate]
      exact List.filter_eq_self.mpr fun entry _ =>
        decide_eq_true fun name _ => ⟨List.not_mem_nil, List.not_mem_nil⟩
    have hsettled : settled (readSnmpDiff switch.config table) table = table := by
      rw [settled, hstaying, hadd, hupdate, List.zipWith_nil_right, List.zipWith_nil_right,
        List.append_nil, List.append_nil]
    rw [← Except.ok.inj hlines, hsettled, received, if_pos ⟨haddReceivers, hremoveReceivers⟩]
    rfl
  · obtain ⟨_, -, h⟩ := bind_ok_iff.mp hlines
    obtain ⟨communities, hcommunities, h⟩ := bind_ok_iff.mp h
    rw [hindices] at hcommunities
    obtain ⟨-, hsettled⟩ := effects_communityCommands htable hdiff hcommunities
    have hclosed : Closed communities := (acts_communityCommands hcommunities).closed
    have hprerequisites : ActsIn ["system snmp sysinfo", "system interface"]
        (if (readSnmpDiff switch.config table).communitiesToAdd.isEmpty &&
          (readSnmpDiff switch.config table).communitiesToUpdate.isEmpty then []
        else snmpPrerequisiteCommands switch.snmpSysinfoEnabled switch.mgmtAccess) := by
      split
      · exact .nil
      · exact acts_snmpPrerequisiteCommands
    rw [← Except.ok.inj h, execute_append (hprerequisites.closed.append hclosed),
      execute_append hprerequisites.closed, execute_other hprerequisites (by decide), hsettled,
      execute_receiverChanges (keyIndex_removed hdesired htable)]

/-- An entry after the receivers. -/
theorem mem_received_of_mem {entry : SnmpEntry} (h : entry ∈ table) :
    (if entry.index = 1 then
      writeReceivers 100 (diff.trapReceiversToAdd.map SnmpTrapReceiver.host) entry else entry) ∈
      received diff table := by
  rw [received]
  split
  · next hnone =>
    rw [hnone.1]
    simpa only [List.map_nil, writeReceivers, ite_self] using h
  · refine List.mem_map.mpr ⟨entry, ?_, rfl⟩
    rw [openEntry]
    split
    · exact h
    · exact List.mem_append_left _ h

/-- Whatever receivers are left, they are plain. -/
theorem plain_of_mem_received {text : String}
    (h : text ∈ (received diff table).receivers.map SnmpTrapReceiver.host) :
    isReceiverPlain text = true := by
  obtain ⟨entry, -, -, host, -, rfl⟩ := (mem_received table).mp h
  exact isReceiverPlain_text host

/-- What is kept was there. -/
theorem keptReceivers_subset {text : String} (h : text ∈ keptReceivers desired table) :
    text ∈ table.receivers.map SnmpTrapReceiver.host := by
  obtain ⟨entry, hentry, hmem⟩ := List.mem_flatMap.mp h
  obtain ⟨hopen, host, hhost, -, hread⟩ := mem_lessOverwritten.mp hmem
  exact mem_table_receivers.mpr ⟨entry, (List.mem_filter.mp hentry).1,
    mem_receivers.mpr ⟨hopen, host, hhost, hread⟩⟩

/-- Without communities there are no traps in the end. -/
theorem traps_of_communities_nil (hdesired : effectiveSnmp config = some desired)
    (htable : table.WellFormed)
    (h : SnmpTable.communities (received (readSnmpDiff config table)
      (settled (readSnmpDiff config table) table)) = []) :
    SnmpTable.traps (received (readSnmpDiff config table)
      (settled (readSnmpDiff config table) table)) = [] := by
  have hnone : table.filter (keeps desired) = [] := by
    rw [← staying_eq_keeps hdesired htable]
    by_contra hne
    obtain ⟨entry, hentry⟩ := List.exists_mem_of_ne_nil _ hne
    have hnamed : entry.name.isSome := htable.named entry (List.mem_filter.mp hentry).1
    -- the receivers do not change the name of an entry
    have hwritten : ∃ entry' ∈ received (readSnmpDiff config table)
        (settled (readSnmpDiff config table) table), entry'.name = entry.name := by
      have hsettled : entry ∈ settled (readSnmpDiff config table) table := by
        rw [settled, List.append_assoc]
        exact List.mem_append_left _ hentry
      refine ⟨_, mem_received_of_mem hsettled, ?_⟩
      split
      · rw [writeReceivers_eq]
      · rfl
    obtain ⟨entry', hmem, hname⟩ := hwritten
    obtain ⟨name, hsome⟩ := Option.isSome_iff_exists.mp hnamed
    have hread : entry'.community =
        some { name := name.text, allowedHosts := entry'.allowedHosts } := by
      rw [SnmpEntry.community, hname, hsome, Option.map_some]
    exact absurd h (List.ne_nil_of_mem (List.mem_filterMap.mpr ⟨entry', hmem, hread⟩))
  rw [traps_received hdesired htable, hnone]
  rfl

/-- An allow-list is untouched where entry 1 is for receivers, or none is sent. -/
theorem allowLists_received (hdesired : effectiveSnmp config = some desired)
    (htable : table.WellFormed)
    (hlines : communityCommands table.indices (readSnmpDiff config table) = .ok lines)
    (htarget : newReceivers desired table ≠ [] →
      ∃ entry ∈ table, entry.index = 1 ∧ takesReceivers desired entry = true)
    {entry : SnmpEntry} (hentry : entry ∈ settled (readSnmpDiff config table) table)
    (hallow : entry.isAllowList = true) :
    entry ∈ received (readSnmpDiff config table) (settled (readSnmpDiff config table) table) := by
  have hsame : (if entry.index = 1 then
      writeReceivers 100 ((readSnmpDiff config table).trapReceiversToAdd.map SnmpTrapReceiver.host)
        entry else entry) = entry := by
    by_cases hnew : newReceivers desired table = []
    · have hnone : (readSnmpDiff config table).trapReceiversToAdd.map SnmpTrapReceiver.host = [] :=
        List.eq_nil_iff_forall_not_mem.mpr fun host hmem => by
          have hhost := (mem_added_receivers hdesired htable).mp hmem
          rw [hnew] at hhost
          cases hhost
      rw [hnone, writeReceivers, ite_self]
    · refine if_neg fun hindex => ?_
      obtain ⟨target, htable', hfirst, htakes⟩ := htarget hnew
      obtain ⟨old, hold, holdFirst, hiff⟩ := exists_origin hdesired htable hlines hentry hindex
      obtain rfl : old = target := List.inj_on_of_nodup_map htable.indices hold htable'
        (holdFirst.trans hfirst.symm)
      have hopen := (hiff.mp htakes).2
      rw [hallow] at hopen
      cases hopen
  have hmem := @mem_received_of_mem _ (readSnmpDiff config table) _ hentry
  rwa [hsame] at hmem

/-- Receivers and traps converge exactly where they fit. -/
theorem receiversConverge_iff (hdesired : effectiveSnmp switch.config = some desired)
    (hlimits : checkSnmpLimits desired = .ok ()) (htable : table.WellFormed)
    (hindices : switch.snmpCommunityIndices = parseSnmpCommunityIndices (strLines table.shown)) :
    (∃ communities lines, readCommunityCommands switch.config table = .ok communities ∧
        applySnmpDiff switch (readSnmpDiff switch.config table) = .ok lines ∧
        ReceiversConverge desired (table.execute communities) (table.execute lines)) ↔
      ReceiversFit desired table := by
  have hdiff := applicable_read hdesired htable
  have hfit := hostsFit_of_limits hlimits
  obtain ⟨communities, hcommunities⟩ := exists_communityCommands_iff.mpr fun community hmem =>
    hfit community (hdiff.written hmem)
  rw [parseSnmpCommunityIndices_shown htable.small] at hindices
  have hread : readCommunityCommands switch.config table = .ok communities := by
    rw [readCommunityCommands, parseSnmpCommunityIndices_shown htable.small, hcommunities]
  obtain ⟨lines, hlines⟩ : ∃ lines,
      applySnmpDiff switch (readSnmpDiff switch.config table) = .ok lines := by
    rw [applySnmpDiff, checkDesiredLimits, hdesired, hindices]
    dsimp only
    rw [hlimits, hcommunities]
    split
    · exact ⟨_, rfl⟩
    · exact ⟨_, rfl⟩
  have hafter := execute_applySnmpDiff hdesired htable hindices hlines
  obtain ⟨-, hbefore⟩ := effects_communityCommands htable hdiff hcommunities
  obtain ⟨hreceivers, htraps⟩ := @parsed_receivers (table.execute lines) <| by
    rw [hafter]
    exact traps_of_communities_nil hdesired htable
  have htarget := exists_target_iff hdesired htable hcommunities
  constructor
  · rintro ⟨communities', lines', hcommunities', hlines', hconverge⟩
    obtain rfl := Except.ok.inj (hlines.symm.trans hlines')
    -- the receivers the switch then shows decide all four conditions
    have hall := hconverge.receivers
    have halltraps := hconverge.traps
    rw [hreceivers, hafter] at hall
    rw [htraps, hafter, traps_received hdesired htable] at halltraps
    have hnew {host : String} (h : host ∈ newReceivers desired table) :
        host ∈ desired.trapReceivers.map SnmpTrapReceiver.host ∧
          host ∉ table.receivers.map SnmpTrapReceiver.host := by
      rwa [newReceivers, List.mem_filter, List.mem_dedup, decide_eq_true_eq] at h
    have hplain : ∀ host ∈ newReceivers desired table, isReceiverPlain host = true :=
      fun host hhost => plain_of_mem_received ((hall host).mpr (hnew hhost).1)
    have hsettled {host : String} := @mem_received_settled _ _ _ host hdesired htable hplain
    refine ⟨fun hne => ?_, hplain, fun host => ⟨fun hkept => ?_, fun h => ?_⟩, halltraps⟩
    · obtain ⟨host, hhost⟩ := List.exists_mem_of_ne_nil _ hne
      rcases hsettled.mp ((hall host).mpr (hnew hhost).1) with ⟨-, htarget'⟩ | hkept
      · exact htarget.mp htarget'
      -- a new host was not shown before, so it is not among the kept ones
      · exact absurd (keptReceivers_subset hkept) (hnew hhost).2
    · exact ⟨(hall host).mp (hsettled.mpr (.inr hkept)), keptReceivers_subset hkept⟩
    · rcases hsettled.mp ((hall host).mpr h.1) with ⟨hhost, -⟩ | hkept
      · exact absurd h.2 (hnew hhost).2
      · exact hkept
  · intro hconditions
    refine ⟨communities, lines, hread, hlines, ?_, ?_, ?_⟩
    · intro host
      rw [hreceivers, hafter, mem_received_settled hdesired htable hconditions.plain, htarget,
        hconditions.kept host]
      have hnew : host ∈ newReceivers desired table ↔
          host ∈ desired.trapReceivers.map SnmpTrapReceiver.host ∧
            host ∉ table.receivers.map SnmpTrapReceiver.host := by
        rw [newReceivers, List.mem_filter, List.mem_dedup, decide_eq_true_eq]
      constructor
      · rintro (⟨hhost, -⟩ | ⟨hwanted, -⟩)
        · exact (hnew.mp hhost).1
        · exact hwanted
      · intro hwanted
        -- a wanted receiver is either shown already or written under the first entry
        by_cases hthere : host ∈ table.receivers.map SnmpTrapReceiver.host
        · exact .inr ⟨hwanted, hthere⟩
        · have hhost := hnew.mpr ⟨hwanted, hthere⟩
          exact .inl ⟨hhost, hconditions.target (List.ne_nil_of_mem hhost)⟩
    · intro trap
      rw [htraps, hafter, traps_received hdesired htable]
      exact hconditions.traps trap
    · intro entry hentry hallow
      rw [hbefore] at hentry
      rw [hafter]
      exact ⟨entry, allowLists_received hdesired htable hcommunities hconditions.target hentry
        hallow, rfl, fun _ => Iff.rfl⟩

end Converge

/-- A community with an allow-list, a receiver and a trap. -/
def receiverConfig (allowedHosts : List AllowedHost) : SwitchConfig where
  id := "sw1"
  hostname := some "office"
  model := some .fortiswitch124F_FPOE
  managementIp := some "192.0.2.10"
  credentials := some { username := "admin" }
  snmp := some
    { communities := [{ name := "lab", allowedHosts := allowedHosts }]
      trapReceivers := [{ host := "192.0.2.9", community := "lab" }]
      enabledTraps := [.macNotify] }

/-- The community of `receiverConfig` as it is desired, but for the receiver. -/
def allowListTable : SnmpTable :=
  [{ index := 1
     name := CommunityName.of "lab"
     trapV1 := false
     trapV2c := false
     hosts := [{ index := 1, ip := ⟨"192.0.2.0", "255.255.255.0", by decide⟩ }] }]

theorem allowListTable_wellFormed : allowListTable.WellFormed :=
  ⟨by decide, by decide, by decide, by decide⟩

def receiverTable : SnmpTable :=
  [{ index := 1
     name := CommunityName.of "lab"
     events := [⟨"mac-notify", by decide⟩] }]

/-- A switch after its communities were read. -/
def readSwitch (config : SwitchConfig) (table : SnmpTable) : FortiswitchSwitch where
  config := config
  snmpCommunityIndices := parseSnmpCommunityIndices (strLines table.shown)

theorem indices_readSwitch (config : SwitchConfig) (table : SnmpTable) :
    (readSwitch config table).snmpCommunityIndices =
      parseSnmpCommunityIndices (strLines table.shown) :=
  rfl

/-- The receiver joins the allow-list of entry 1: another host may query, and none gets traps. -/
theorem receiversConverge_fails :
    Accepted (receiverConfig [.network "192.0.2.0/24"]) ∧ allowListTable.WellFormed ∧
    ∃ desired communities lines,
      effectiveSnmp (receiverConfig [.network "192.0.2.0/24"]) = some desired ∧
      checkSnmpLimits desired = .ok () ∧
      readCommunityCommands (receiverConfig [.network "192.0.2.0/24"]) allowListTable =
        .ok communities ∧
      applySnmpDiff (readSwitch (receiverConfig [.network "192.0.2.0/24"]) allowListTable)
        (readSnmpDiff (receiverConfig [.network "192.0.2.0/24"]) allowListTable) = .ok lines ∧
      ¬ReceiversConverge desired (SnmpTable.execute communities allowListTable)
        (SnmpTable.execute lines allowListTable) := by
  refine ⟨⟨plainEnvironment, receiverConfig [.network "192.0.2.0/24"], rfl⟩,
    allowListTable_wellFormed, _, _, _, rfl, by decide +kernel, rfl, rfl, ?_⟩
  intro hconverge
  obtain ⟨listed, hlisted, -, hips⟩ := hconverge.allowLists
    { index := 1
      name := CommunityName.of "lab"
      trapV1 := false
      trapV2c := false
      hosts := [{ index := 1, ip := ⟨"192.0.2.0", "255.255.255.0", by decide⟩ }] }
    (by decide +kernel) rfl
  have hwidened : (⟨"192.0.2.9", "255.255.255.255", by decide⟩ : HostAddress) ∈
      listed.hosts.map SnmpHost.ip := by
    clear hips
    revert listed
    decide +kernel
  have hbefore := (hips _).mp hwidened
  revert hbefore
  decide

theorem effectiveSnmp_receiverConfig (allowedHosts : List AllowedHost) :
    effectiveSnmp (receiverConfig allowedHosts) = some
      { communities := [{ name := "lab", allowedHosts := allowedHosts }]
        trapReceivers := [{ host := "192.0.2.9", community := "lab" }]
        enabledTraps := [.macNotify] } :=
  rfl

/-- Where entry 1 is for receivers, and the traps are those of the table. -/
theorem receiversConverge_iff_open :
    ∃ communities lines, readCommunityCommands (receiverConfig []) receiverTable = .ok communities ∧
      applySnmpDiff (readSwitch (receiverConfig []) receiverTable)
        (readSnmpDiff (receiverConfig []) receiverTable) = .ok lines ∧
      ReceiversConverge
        { communities := [{ name := "lab" }]
          trapReceivers := [{ host := "192.0.2.9", community := "lab" }]
          enabledTraps := [.macNotify] }
        (SnmpTable.execute communities receiverTable) (SnmpTable.execute lines receiverTable) := by
  refine (@receiversConverge_iff _ receiverTable (readSwitch (receiverConfig []) receiverTable)
    (effectiveSnmp_receiverConfig []) (by decide +kernel) ⟨by decide, by decide, by decide,
      by decide⟩ (indices_readSwitch _ _)).mpr ⟨?_, ?_, ?_, ?_⟩
  · intro _
    decide +kernel
  · decide +kernel
  · intro host
    have hnone : receiverTable.receivers.map SnmpTrapReceiver.host = [] := rfl
    constructor
    · intro hkept
      have hthere := keptReceivers_subset hkept
      rw [hnone] at hthere
      cases hthere
    · rintro ⟨-, hthere⟩
      rw [hnone] at hthere
      cases hthere
  · intro trap
    cases trap <;> decide +kernel

end SwitchConfigurator.Fortiswitch
