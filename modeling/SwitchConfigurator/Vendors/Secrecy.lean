import SwitchConfigurator.Vendors.Rename
import SwitchConfigurator.Vendors.SnmpLogs

/-!
# What redaction hides

Two switches that differ in the values of their community strings alone, and what is seen of the
SNMP commands for them once they are redacted, and in the log.
-/

namespace SwitchConfigurator

open Cli Keyed Redact

/-! ## What is seen -/

/-- What is seen of the SNMP commands for a switch, and of the log of its `apply_snmp_diff`. -/
structure SnmpOutput where
  full : List String
  granular : List String
  logs : List Message
  deriving DecidableEq, Repr

namespace VendorSwitch

def texts (switch : VendorSwitch) (request : Request) : List String :=
  (switch.commands request).map render

def applySnmpDiffLog (isWord : Char → Bool) (debug : List String → String) :
    VendorSwitch → SnmpStateDiff → List Message
  | aruba _, diff => Aruba.applySnmpDiffLog debug diff
  | cisco _, diff => Cisco.applySnmpDiffLog debug diff
  | fortiswitch switch, diff => Fortiswitch.applySnmpDiffLog isWord debug switch diff

def snmpOutput (isWord : Char → Bool) (debug : List String → String) (switch : VendorSwitch)
    (current : SwitchState) : SnmpOutput where
  full := redactCommands isWord ((effectiveSnmp switch.config).elim [] fun snmp =>
    switch.texts (.snmp snmp ((current.snmp.getD {}).enabledTraps)))
  granular := redactCommands isWord ((switch.snmpDiff current).elim [] fun diff =>
    switch.texts (.snmpDiff diff))
  logs := (switch.snmpDiff current).elim [] (switch.applySnmpDiffLog isWord debug)

/-- The entry of the device's table that a FortiSwitch has recorded for a community. -/
def recordedIndex : VendorSwitch → String → Option ℕ
  | aruba _, _ => none
  | cisco _, _ => none
  | fortiswitch switch, name => switch.snmpCommunityIndices.lookup name

/-- The diff without the values in it, and which entries of the device it is about. -/
def diffShape (switch : VendorSwitch) (current : SwitchState) :
    Option (SnmpStateDiff × List (Option ℕ) × List (Option ℕ)) :=
  (switch.snmpDiff current).map fun diff => (diff.rename blank,
    diff.communitiesToRemove.map switch.recordedIndex,
    diff.communitiesToUpdate.map (switch.recordedIndex ·.name))

/-- There is no community string to write: neither a community nor (but for FortiSwitch) a trap
receiver is wanted, and none is removed by its name. -/
def NoSecrets (switch : VendorSwitch) (current : SwitchState) : Prop :=
  let desired := (effectiveSnmp switch.config).getD {}
  desired.communities = [] ∧ match switch with
    | aruba _ | cisco _ => desired.trapReceivers = [] ∧ (current.snmp.getD {}).communities = []
    | fortiswitch _ => ∀ community ∈ (current.snmp.getD {}).communities,
        (switch.recordedIndex community.name).isSome = true

/-- Some word of the commands is the text. -/
def Writes (switch : VendorSwitch) (request : Request) (text : String) : Prop :=
  ∃ words ∈ switch.commands request, ∃ arg ∈ words, arg.value = text

end VendorSwitch

/-! ## A value that shows -/

/-- A community string that no pattern masks whole. -/
def leakName (n : ℕ) (name : String) : String := String.ofList (leak n) ++ name

/-- Names are kept apart, and in order, by the texts that leak them. -/
theorem leakName_strictMono (n : ℕ) : StrictMono (leakName n) := by
  intro a b h
  rw [String.lt_iff_toList_lt] at h ⊢
  rw [leakName, leakName, String.toList_append, String.toList_append]
  exact List.append_left_lt h

theorem leakName_ne_empty (n : ℕ) (name : String) : leakName n name ≠ "" := by
  intro h
  have hlength := congrArg (fun text : String => text.toList.length) h
  simp [leakName, leak] at hlength

/-- A name that is written is seen by its length. -/
theorem length_of_writes (isWord : Char → Bool) {switch : VendorSwitch} {request : Request} {n : ℕ}
    {name : String} (h : switch.Writes request (leakName n name)) :
    ∃ text ∈ redactCommands isWord (switch.texts request), n ≤ text.length := by
  obtain ⟨words, hwords, arg, harg, hvalue⟩ := h
  refine length_redactCommands isWord (List.mem_map_of_mem hwords) (List.IsInfix.trans ?_
    (value_infix_render harg))
  rw [hvalue, leakName, String.toList_append, String.toList_ofList]
  exact (List.prefix_append _ _).isInfix

/-- Texts of any length are not all in one list. -/
theorem exists_length_lt (texts : List String) : ∃ n, ∀ text ∈ texts, text.length < n := by
  induction texts with
  | nil => exact ⟨0, List.forall_mem_nil _⟩
  | cons first texts ih =>
    obtain ⟨n, hn⟩ := ih
    refine ⟨max (first.length + 1) n, List.forall_mem_cons.mpr ⟨by omega, fun text htext => ?_⟩⟩
    have htext := hn text htext
    omega

/-! ## Where community strings are written -/

section Writes

variable {switch : VendorSwitch} {snmp : SnmpConfig} {diff : SnmpStateDiff}
  {traps : List TrapType}

/-- A community that is configured is written. -/
theorem writes_community {community : SnmpCommunity} (h : community ∈ snmp.communities) :
    switch.Writes (.snmp snmp traps) community.name := by
  cases switch with
  | aruba switch =>
    refine ⟨(Aruba.communityCommand community).words, List.mem_map_of_mem ?_,
      .quoted community.name, by simp [Aruba.communityCommand, Aruba.Command.words], rfl⟩
    simp only [Aruba.generate, Aruba.generateSnmpCommands, Aruba.configured, List.mem_cons,
      List.mem_append]
    exact .inr (.inl (.inl (.inl (.inr (List.mem_map_of_mem h)))))
  | cisco switch =>
    refine ⟨(Cisco.communityCommand community).words, List.mem_map_of_mem ?_,
      .bare community.name, by simp [Cisco.communityCommand, Cisco.Command.words], rfl⟩
    simp only [Cisco.generate, Cisco.generateSnmpCommands, Cisco.configured, List.mem_cons,
      List.mem_append]
    exact .inr (.inl (.inl (.inl (List.mem_map_of_mem h))))
  -- the first community takes the receivers, the others follow as plain entries
  | fortiswitch switch =>
    refine ⟨(Line.set "name" [.quoted community.name]).words, List.mem_map_of_mem ?_,
      .quoted community.name, by simp [Line.words], rfl⟩
    have hplain (k : ℕ) (l : List SnmpCommunity) (hl : community ∈ l) :
        Line.set "name" [.quoted community.name] ∈
          (l.mapIdx fun i c => Fortiswitch.plainCommunity (i + k) c).flatten := by
      obtain ⟨i, hi, rfl⟩ := List.mem_iff_getElem.mp hl
      refine List.mem_flatten.mpr ⟨_, List.mem_mapIdx.mpr ⟨i, hi, rfl⟩, ?_⟩
      simp [Fortiswitch.plainCommunity, Fortiswitch.queryCommands, entry]
    rw [Fortiswitch.generate, Fortiswitch.generateSnmpCommands]
    cases hcommunities : snmp.communities with
    | nil =>
      rw [hcommunities] at h
      cases h
    | cons first rest =>
      rw [hcommunities] at h
      cases snmp.trapReceivers with
      | nil => simp only [block, List.mem_cons, List.mem_append, hplain 1 _ h, true_or, or_true]
      | cons receiver receivers =>
        rcases List.mem_cons.mp h with rfl | h
        · simp [block, entry, Fortiswitch.queryCommands]
        · simp only [block, List.mem_cons, List.mem_append, hplain 2 _ h, true_or, or_true]

/-- So is that of a receiver, except to a FortiSwitch. -/
theorem writes_receiver {receiver : SnmpTrapReceiver} (h : receiver ∈ snmp.trapReceivers)
    (hvendor : ∀ s, switch ≠ .fortiswitch s) :
    switch.Writes (.snmp snmp traps) receiver.community := by
  cases switch with
  | aruba switch =>
    refine ⟨(Aruba.receiverCommand receiver).words, List.mem_map_of_mem ?_,
      .quoted receiver.community, by simp [Aruba.receiverCommand, Aruba.Command.words], rfl⟩
    simp only [Aruba.generate, Aruba.generateSnmpCommands, Aruba.configured, List.mem_cons,
      List.mem_append]
    exact .inr (.inl (.inl (.inr (List.mem_map_of_mem h))))
  | cisco switch =>
    refine ⟨(Cisco.receiverCommand receiver).words, List.mem_map_of_mem ?_,
      .bare receiver.community, by simp [Cisco.receiverCommand, Cisco.Command.words], rfl⟩
    simp only [Cisco.generate, Cisco.generateSnmpCommands, Cisco.configured, List.mem_cons,
      List.mem_append]
    exact .inr (.inl (.inl (.inr (List.mem_map_of_mem h))))
  | fortiswitch switch => exact absurd rfl (hvendor switch)

theorem SnmpStateDiff.hasChanges_of_removed {name : String} (h : name ∈ diff.communitiesToRemove) :
    diff.hasChanges = true := by
  rw [SnmpStateDiff.hasChanges]
  cases hremove : diff.communitiesToRemove with
  | nil =>
    rw [hremove] at h
    cases h
  | cons first rest => simp

/-- Communities are removed by their index, or else by name. -/
theorem removeCommunities_eq {indices : List (String × ℕ)} {names : List String}
    {occupied : List ℕ} : (Fortiswitch.removeCommunities indices names occupied).1 =
      names.map fun name => .delete ((indices.lookup name).elim name toString) := by
  induction names generalizing occupied with
  | nil => rfl
  | cons name names ih =>
    rw [Fortiswitch.removeCommunities, List.map_cons]
    cases hindex : indices.lookup name <;> simp [ih]

theorem checkDesiredLimits_of_nil {config : SwitchConfig}
    (h : ((effectiveSnmp config).getD {}).communities = []) :
    Fortiswitch.checkDesiredLimits config = .ok () := by
  rw [Fortiswitch.checkDesiredLimits]
  cases heffective : effectiveSnmp config with
  | none => rfl
  | some desired =>
    rw [heffective, Option.getD_some] at h
    simp only [Fortiswitch.checkSnmpLimits, h]
    rfl

/-- Without communities to write, a FortiSwitch deletes entries and changes receivers. -/
theorem fortiswitch_applySnmpDiff {switch : Fortiswitch.FortiswitchSwitch}
    (hdesired : ((effectiveSnmp switch.config).getD {}).communities = [])
    (hadd : diff.communitiesToAdd = []) (hupdate : diff.communitiesToUpdate = [])
    (hchanges : diff.hasChanges = true) : Fortiswitch.applySnmpDiff switch diff =
      .ok (block "system snmp community" (diff.communitiesToRemove.map fun name =>
        .delete ((switch.snmpCommunityIndices.lookup name).elim name toString)) ++
        Fortiswitch.receiverChanges diff) := by
  rw [Fortiswitch.applySnmpDiff, hchanges, checkDesiredLimits_of_nil hdesired,
    Fortiswitch.communityCommands, hadd, hupdate]
  simp [removeCommunities_eq, Fortiswitch.updateCommunities, Fortiswitch.addCommunities, bind, Except.bind, pure,
    Except.pure]

/-- A community that is removed is written where it has no index. -/
theorem writes_removed {name : String} (h : name ∈ diff.communitiesToRemove)
    (hadd : diff.communitiesToAdd = []) (hupdate : diff.communitiesToUpdate = [])
    (hdesired : ((effectiveSnmp switch.config).getD {}).communities = [])
    (hindex : switch.recordedIndex name = none) : switch.Writes (.snmpDiff diff) name := by
  have hchanges := SnmpStateDiff.hasChanges_of_removed h
  cases switch with
  | aruba switch =>
    refine ⟨(Aruba.Command.noSnmpCommunity name).words, List.mem_map_of_mem ?_, .quoted name,
      by simp [Aruba.Command.words], rfl⟩
    simp [Aruba.generate, Aruba.applySnmpDiff, hchanges, Aruba.configured, h]
  | cisco switch =>
    refine ⟨(Cisco.Command.noSnmpCommunity name).words, List.mem_map_of_mem ?_, .bare name,
      by simp [Cisco.Command.words], rfl⟩
    simp [Cisco.generate, Cisco.applySnmpDiff, hchanges, Cisco.configured, h]
  | fortiswitch switch =>
    refine ⟨(Line.delete name).words, List.mem_map_of_mem ?_, .bare name, by simp [Line.words], rfl⟩
    rw [Fortiswitch.generate, fortiswitch_applySnmpDiff hdesired hadd hupdate hchanges]
    have hdelete : Line.delete name ∈ diff.communitiesToRemove.map fun name =>
        Line.delete ((switch.snmpCommunityIndices.lookup name).elim name toString) := by
      refine List.mem_map.mpr ⟨name, h, ?_⟩
      have hnone : switch.snmpCommunityIndices.lookup name = none := hindex
      rw [hnone]
      rfl
    simp only [Except.toOption, Option.getD_some, block, List.mem_append, List.mem_cons, hdelete,
      true_or, or_true]

end Writes

/-! ## What stays hidden -/

section Hidden

variable {isWord : Char → Bool} {debug : List String → String} {switch switch' : VendorSwitch}
  {current current' : SwitchState}

/-- Without a community in it, the effective SNMP configuration is the listed one. -/
theorem effectiveSnmp_communities_eq_nil_iff {config : SwitchConfig} :
    ((effectiveSnmp config).getD {}).communities = [] ↔
      readsEnabled config = false ∧ (config.snmp.getD {}).communities = [] := by
  rw [effectiveSnmp]
  cases hsnmp : config.snmp with
  | none => simp [readsEnabled, hsnmp]
  | some snmp =>
    by_cases henabled : readsEnabled config = true
    · have hmanaged : ∃ managed, snmp.reads.bind (·.community) = some managed := by
        rw [readsEnabled, hsnmp, Option.bind_some, Option.any_eq_true] at henabled
        obtain ⟨reads, hreads, henabled⟩ := henabled
        rw [Bool.and_eq_true] at henabled
        obtain ⟨managed, hmanaged⟩ := Option.isSome_iff_exists.mp henabled.2
        exact ⟨managed, Option.bind_eq_some_iff.mpr ⟨reads, hreads, hmanaged⟩⟩
      obtain ⟨managed, hmanaged⟩ := hmanaged
      simp only [henabled, Option.map_some, hmanaged, Option.getD_some, if_true, reduceCtorEq,
        false_and, iff_false]
      split
      · next hlisted =>
        intro hnil
        rw [hnil] at hlisted
        cases hlisted
      · simp
    · simp [henabled]

theorem effectiveSnmp_eq {config : SwitchConfig} (h : readsEnabled config = false) :
    effectiveSnmp config = config.snmp := by
  simp [effectiveSnmp, h]

/-- A diff without values is told by its shape. -/
theorem SnmpStateDiff.eq_of_rename {f : String → String} {diff diff' : SnmpStateDiff}
    (h : diff'.rename f = diff.rename f) (hadd : diff.communitiesToAdd = [])
    (hremove : diff.communitiesToRemove = []) (hupdate : diff.communitiesToUpdate = [])
    (hreceivers : diff.trapReceiversToAdd = []) : diff' = diff := by
  cases diff
  cases diff'
  simp only at hadd hremove hupdate hreceivers
  subst hadd hremove hupdate hreceivers
  simpa [rename] using h

/-- What a diff holds where no community is wanted. -/
structure RemovesOnly (current : SwitchState) (desired : SnmpConfig) (diff : SnmpStateDiff) :
    Prop where
  add : diff.communitiesToAdd = []
  update : diff.communitiesToUpdate = []
  remove : ∀ name, name ∈ diff.communitiesToRemove ↔
    name ∈ (current.snmp.getD {}).communities.map SnmpCommunity.name
  receivers : desired.trapReceivers = [] → diff.trapReceiversToAdd = []

/-- Where nothing is desired, communities are only removed. -/
theorem removesOnly {diff : SnmpStateDiff} (h : switch.snmpDiff current = some diff)
    (hdesired : ((effectiveSnmp switch.config).getD {}).communities = []) :
    RemovesOnly current ((effectiveSnmp switch.config).getD {}) diff := by
  rw [snmpDiff_eq, Diff.diffSnmp] at h
  -- nothing is desired, so a diff can only remove
  cases hcurrent : current.snmp with
  | none =>
    cases heffective : effectiveSnmp switch.config with
    | none =>
      rw [hcurrent, heffective] at h
      cases h
    | some desired =>
      rw [hcurrent, heffective] at h
      rw [heffective] at hdesired
      obtain rfl := Option.some.inj h
      exact ⟨hdesired, rfl, by simp [hcurrent], fun hreceivers => hreceivers⟩
  | some snmp =>
    cases heffective : effectiveSnmp switch.config with
    | none =>
      rw [hcurrent, heffective] at h
      obtain rfl := Option.some.inj h
      exact ⟨rfl, rfl, by simp [hcurrent], fun _ => rfl⟩
    | some desired =>
      rw [hcurrent, heffective] at h
      rw [heffective, Option.getD_some] at hdesired
      obtain rfl := Option.some.inj h
      refine ⟨?_, ?_, fun name => ?_, fun hreceivers => ?_⟩
      · simp [Diff.computeSnmpDiff, hdesired, added, keys]
      · simp [Diff.computeSnmpDiff, hdesired, updated, keys]
      · simp [Diff.computeSnmpDiff, hdesired, removed, keys, hcurrent]
      · rw [Option.getD_some] at hreceivers
        simp [Diff.computeSnmpDiff, hreceivers, added, keys]

/-- A switch that looks like a FortiSwitch is one. -/
theorem fortiswitch_of_rename {f : String → String} {s : Fortiswitch.FortiswitchSwitch}
    (h : switch'.rename f = (VendorSwitch.fortiswitch s).rename f) :
    ∃ s' : Fortiswitch.FortiswitchSwitch, switch' = .fortiswitch s' := by
  cases switch' with
  | aruba s' => cases h
  | cisco s' => cases h
  | fortiswitch s' => exact ⟨s', rfl⟩

/-- What is written of SNMP without secrets does not depend on names. -/
theorem texts_snmp_eq {snmp snmp' : SnmpConfig} {traps : List TrapType}
    (hswitch : switch'.rename blank = switch.rename blank)
    (hsnmp : snmp'.rename blank = snmp.rename blank) (hcommunities : snmp.communities = [])
    (hreceivers : snmp.trapReceivers = [] ∨ ∃ s, switch = .fortiswitch s) :
    switch'.texts (.snmp snmp' traps) = switch.texts (.snmp snmp traps) := by
  have hcommunities' : snmp'.communities = [] := by
    have h := congrArg SnmpConfig.communities hsnmp
    rwa [SnmpConfig.rename, SnmpConfig.rename, hcommunities, List.map_nil, List.map_eq_nil_iff] at h
  have htraps : snmp'.enabledTraps = snmp.enabledTraps :=
    congrArg (fun snmp => snmp.enabledTraps) hsnmp
  have hnone (h : snmp.trapReceivers = []) : snmp'.trapReceivers = [] := by
    have hlist := congrArg SnmpConfig.trapReceivers hsnmp
    rwa [SnmpConfig.rename, SnmpConfig.rename, h, List.map_nil, List.map_eq_nil_iff] at hlist
  cases switch with
  | aruba s =>
    -- this vendor would name a community with each receiver
    have hreceivers := hreceivers.resolve_right (by simp)
    cases switch' with
    | cisco s' => cases hswitch
    | fortiswitch s' => cases hswitch
    | aruba s' =>
      simp only [VendorSwitch.texts, VendorSwitch.commands, Aruba.generate,
        Aruba.generateSnmpCommands, hcommunities, hcommunities', htraps, hreceivers,
        hnone hreceivers]
  | cisco s =>
    have hreceivers := hreceivers.resolve_right (by simp)
    cases switch' with
    | aruba s' => cases hswitch
    | fortiswitch s' => cases hswitch
    | cisco s' =>
      simp only [VendorSwitch.texts, VendorSwitch.commands, Cisco.generate,
        Cisco.generateSnmpCommands, hcommunities, hcommunities', htraps, hreceivers,
        hnone hreceivers]
  | fortiswitch s =>
    obtain ⟨s', rfl⟩ := fortiswitch_of_rename hswitch
    have hbody (snmp : SnmpConfig) (h : snmp.communities = []) :
        Fortiswitch.generateSnmpCommands snmp = block "system snmp community" [] := by
      rw [Fortiswitch.generateSnmpCommands, h]
      cases snmp.trapReceivers <;> rfl
    simp only [VendorSwitch.texts, VendorSwitch.commands, Fortiswitch.generate,
      hbody snmp hcommunities, hbody snmp' hcommunities']

/-- Two removals of communities that cannot be told apart but for the values. -/
structure SameRemoval (diff diff' : SnmpStateDiff) : Prop where
  add : diff.communitiesToAdd = [] ∧ diff'.communitiesToAdd = []
  update : diff.communitiesToUpdate = [] ∧ diff'.communitiesToUpdate = []
  removed : diff'.communitiesToRemove.length = diff.communitiesToRemove.length
  hosts : diff'.trapReceiversToAdd.map (·.host) = diff.trapReceiversToAdd.map (·.host)
  receivers : diff'.trapReceiversToRemove = diff.trapReceiversToRemove
  enable : diff'.trapsToEnable = diff.trapsToEnable
  disable : diff'.trapsToDisable = diff.trapsToDisable

namespace SameRemoval

variable {diff diff' : SnmpStateDiff}

/-- Differences that look alike remove alike. -/
theorem of_rename (h : diff'.rename blank = diff.rename blank) (hadd : diff.communitiesToAdd = [])
    (hupdate : diff.communitiesToUpdate = []) : SameRemoval diff diff' := by
  rw [SnmpStateDiff.rename, SnmpStateDiff.rename, SnmpStateDiff.mk.injEq, hadd, hupdate] at h
  obtain ⟨hadd', hremove, hupdate', hreceivers, hreceiversRemoved, henable, hdisable⟩ := h
  rw [List.map_nil, List.map_eq_nil_iff] at hadd' hupdate'
  refine ⟨⟨hadd, hadd'⟩, ⟨hupdate, hupdate'⟩, ?_, ?_, hreceiversRemoved, henable, hdisable⟩
  · simpa using congrArg List.length hremove
  · have hhosts := congrArg (List.map fun receiver => receiver.host) hreceivers
    rwa [List.map_map, List.map_map] at hhosts

theorem hasChanges_eq (h : SameRemoval diff diff') : diff'.hasChanges = diff.hasChanges := by
  have hempty {α : Type} {l l' : List α} (hl : l'.length = l.length) : l'.isEmpty = l.isEmpty := by
    rw [Bool.eq_iff_iff, List.isEmpty_iff_length_eq_zero, List.isEmpty_iff_length_eq_zero, hl]
  have hlength : diff'.trapReceiversToAdd.length = diff.trapReceiversToAdd.length := by
    simpa using congrArg List.length h.hosts
  simp only [SnmpStateDiff.hasChanges, h.add.1, h.add.2, h.update.1, h.update.2,
    hempty h.removed, hempty hlength, h.receivers, h.enable, h.disable]

/-- Receivers are known by their hosts alone. -/
theorem receiverChanges_eq (h : SameRemoval diff diff') :
    Fortiswitch.receiverChanges diff' = Fortiswitch.receiverChanges diff := by
  let atHost (i : ℕ) (host : String) := Fortiswitch.receiverCommands (100 + i) { host, community := "" }
  have hbody (d : SnmpStateDiff) : Fortiswitch.receiverChanges d =
      (if (d.trapReceiversToAdd.map (·.host)).isEmpty then []
        else Fortiswitch.inFirstHosts ((d.trapReceiversToAdd.map (·.host)).mapIdx atHost).flatten) ++
      d.trapReceiversToRemove.flatMap fun host => Fortiswitch.inFirstHosts [.delete host] := by
    have hlines : (d.trapReceiversToAdd.map (·.host)).mapIdx atHost =
        d.trapReceiversToAdd.mapIdx fun i receiver =>
          Fortiswitch.receiverCommands (100 + i) receiver := by
      rw [List.mapIdx_eq_iff]
      intro i
      rw [List.getElem?_mapIdx, List.getElem?_map, Option.map_map]
      rfl
    rw [Fortiswitch.receiverChanges, List.isEmpty_map, hlines]
  rw [hbody, hbody, h.hosts, h.receivers]

/-- The number of changes is the same. -/
theorem changes_eq (h : SameRemoval diff diff') :
    Fortiswitch.changes diff' = Fortiswitch.changes diff := by
  let atHost (host : String) := Fortiswitch.receiverAdded { host, community := "" }
  have hbody (d : SnmpStateDiff) (hadd : d.communitiesToAdd = [])
      (hupdate : d.communitiesToUpdate = []) : Fortiswitch.changes d =
      List.replicate d.communitiesToRemove.length SnmpLog.communityRemoved ++
        (d.trapReceiversToAdd.map (·.host)).map atHost ++
        d.trapReceiversToRemove.map SnmpLog.receiverRemoved := by
    simp only [Fortiswitch.changes, Fortiswitch.writtenCommunities, hadd, hupdate, List.map_const',
      List.map_nil, List.append_nil, List.map_map]
    rfl
  rw [hbody diff' h.add.2 h.update.2, hbody diff h.add.1 h.update.1, h.removed, h.hosts,
    h.receivers]

variable {s s' : Fortiswitch.FortiswitchSwitch}

/-- What a FortiSwitch sends is told by the entries that are deleted. -/
theorem applySnmpDiff_eq (h : SameRemoval diff diff')
    (hdesired : ((effectiveSnmp s.config).getD {}).communities = [])
    (hdesired' : ((effectiveSnmp s'.config).getD {}).communities = [])
    (hentries : diff'.communitiesToRemove.map (fun name => s'.snmpCommunityIndices.lookup name) =
      diff.communitiesToRemove.map fun name => s.snmpCommunityIndices.lookup name)
    (hrecorded : ∀ name ∈ diff.communitiesToRemove,
      (s.snmpCommunityIndices.lookup name).isSome = true) :
    Fortiswitch.applySnmpDiff s' diff' = Fortiswitch.applySnmpDiff s diff := by
  have hdeletes : diff'.communitiesToRemove.map (fun name => Line.delete
        ((s'.snmpCommunityIndices.lookup name).elim name toString)) =
      diff.communitiesToRemove.map fun name => Line.delete
        ((s.snmpCommunityIndices.lookup name).elim name toString) := by
    apply List.ext_getElem
    · simpa using h.removed
    · intro i hi hi'
      rw [List.length_map] at hi hi'
      have hentry : s'.snmpCommunityIndices.lookup diff'.communitiesToRemove[i] =
          s.snmpCommunityIndices.lookup diff.communitiesToRemove[i] := by
        have hget := congrArg (·[i]?) hentries
        simpa [hi, hi'] using hget
      obtain ⟨index, hindex⟩ := Option.isSome_iff_exists.mp
        (hrecorded _ (List.getElem_mem hi'))
      simp only [List.getElem_map, hentry, hindex, Option.elim_some]
  by_cases hany : diff.hasChanges = true
  · rw [fortiswitch_applySnmpDiff hdesired h.add.1 h.update.1 hany,
      fortiswitch_applySnmpDiff hdesired' h.add.2 h.update.2 (h.hasChanges_eq.trans hany),
      hdeletes, h.receiverChanges_eq]
  · simp [Fortiswitch.applySnmpDiff, h.hasChanges_eq, hany]

/-- So is what is logged. -/
theorem log_eq (h : SameRemoval diff diff')
    (hdesired : ((effectiveSnmp s.config).getD {}).communities = [])
    (hdesired' : ((effectiveSnmp s'.config).getD {}).communities = [])
    (hcommands : Fortiswitch.applySnmpDiff s' diff' = Fortiswitch.applySnmpDiff s diff) :
    Fortiswitch.applySnmpDiffLog isWord debug s' diff' =
      Fortiswitch.applySnmpDiffLog isWord debug s diff := by
  have hmisfit (d : SnmpStateDiff) (hadd : d.communitiesToAdd = [])
      (hupdate : d.communitiesToUpdate = []) : Fortiswitch.changesUpToMisfit d =
      List.replicate d.communitiesToRemove.length SnmpLog.communityRemoved := by
    simp [Fortiswitch.changesUpToMisfit, Fortiswitch.writtenCommunities, hadd, hupdate]
  simp only [Fortiswitch.applySnmpDiffLog, h.hasChanges_eq, checkDesiredLimits_of_nil hdesired,
    checkDesiredLimits_of_nil hdesired', hcommands, h.changes_eq, hmisfit diff h.add.1 h.update.1,
    hmisfit diff' h.add.2 h.update.2, h.removed, h.add.1, h.add.2, h.update.1, h.update.2,
    List.isEmpty_nil, Bool.and_self, if_true]

end SameRemoval

/-- Where there is no community none is removed. -/
theorem noSecrets_removed {diff : SnmpStateDiff} (h : RemovesOnly current
      ((effectiveSnmp switch.config).getD {}) diff) (hnone : (current.snmp.getD {}).communities = []) :
    diff.communitiesToRemove = [] := by
  rw [List.eq_nil_iff_forall_not_mem]
  intro name hname
  rw [h.remove, hnone] at hname
  cases hname

/-- Where there is nothing to hide, other values change nothing. -/
theorem snmpOutput_eq (h : switch.NoSecrets current)
    (hswitch : switch'.rename blank = switch.rename blank)
    (hcurrent : current'.rename blank = current.rename blank)
    (hshape : switch'.diffShape current' = switch.diffShape current) :
    switch'.snmpOutput isWord debug current' = switch.snmpOutput isWord debug current := by
  obtain ⟨hdesired, hrest⟩ := h
  obtain ⟨hreads, hlisted⟩ := effectiveSnmp_communities_eq_nil_iff.mp hdesired
  have hconfig : switch'.config.rename blank = switch.config.rename blank := by
    rw [← VendorSwitch.config_rename, ← VendorSwitch.config_rename, hswitch]
  have hsnmp : switch'.config.snmp.map (·.rename blank) = switch.config.snmp.map (·.rename blank) :=
    congrArg SwitchConfig.snmp hconfig
  have hreads' : readsEnabled switch'.config = false := by
    rw [← readsEnabled_rename (f := blank), hconfig, readsEnabled_rename, hreads]
  have hlisted' : (switch'.config.snmp.getD {}).communities = [] := by
    cases hs : switch.config.snmp with
    | none =>
      rw [hs, Option.map_none, Option.map_eq_none_iff] at hsnmp
      rw [hsnmp]
      rfl
    | some snmp =>
      rw [hs, Option.map_some] at hsnmp
      obtain ⟨snmp', hs', heq⟩ := Option.map_eq_some_iff.mp hsnmp
      have hmap := congrArg SnmpConfig.communities heq
      rw [hs, Option.getD_some] at hlisted
      rw [SnmpConfig.rename, SnmpConfig.rename, hlisted, List.map_nil, List.map_eq_nil_iff] at hmap
      rw [hs']
      exact hmap
  have hdesired' : ((effectiveSnmp switch'.config).getD {}).communities = [] :=
    effectiveSnmp_communities_eq_nil_iff.mpr ⟨hreads', hlisted'⟩
  have htraps : (current'.snmp.getD {}).enabledTraps = (current.snmp.getD {}).enabledTraps := by
    have hstate := congrArg SwitchState.snmp hcurrent
    cases hs : current.snmp <;> cases hs' : current'.snmp <;>
      simp_all [SwitchState.rename, SnmpConfig.rename]
  -- Aruba and Cisco write the community of a receiver; FortiSwitch has a host list instead
  have hreceivers : ((effectiveSnmp switch.config).getD {}).trapReceivers = [] ∨
      ∃ s, switch = .fortiswitch s := by
    cases switch with
    | aruba s => exact .inl hrest.1
    | cisco s => exact .inl hrest.1
    | fortiswitch s => exact .inr ⟨s, rfl⟩
  -- what is sent where the whole configuration is written
  have hfull : (effectiveSnmp switch'.config).elim [] (fun snmp =>
        switch'.texts (.snmp snmp (current'.snmp.getD {}).enabledTraps)) =
      (effectiveSnmp switch.config).elim [] fun snmp =>
        switch.texts (.snmp snmp (current.snmp.getD {}).enabledTraps) := by
    rw [htraps, effectiveSnmp_eq hreads, effectiveSnmp_eq hreads']
    rw [effectiveSnmp_eq hreads] at hreceivers
    cases hs : switch.config.snmp with
    | none =>
      rw [hs, Option.map_none, Option.map_eq_none_iff] at hsnmp
      rw [hsnmp]
      rfl
    | some snmp =>
      rw [hs, Option.map_some] at hsnmp
      obtain ⟨snmp', hs', heq⟩ := Option.map_eq_some_iff.mp hsnmp
      rw [hs, Option.getD_some] at hlisted hreceivers
      rw [hs']
      exact texts_snmp_eq hswitch heq hlisted hreceivers
  -- what is sent and logged where only the changes are
  have hgranular : (switch'.snmpDiff current').elim [] (fun diff =>
        switch'.texts (.snmpDiff diff)) =
      (switch.snmpDiff current).elim [] (fun diff => switch.texts (.snmpDiff diff)) ∧
      (switch'.snmpDiff current').elim [] (switch'.applySnmpDiffLog isWord debug) =
        (switch.snmpDiff current).elim [] (switch.applySnmpDiffLog isWord debug) := by
    rw [VendorSwitch.diffShape, VendorSwitch.diffShape] at hshape
    cases hdiff : switch.snmpDiff current with
    | none =>
      rw [hdiff, Option.map_none, Option.map_eq_none_iff] at hshape
      rw [hshape]
      exact ⟨rfl, rfl⟩
    | some diff =>
      rw [hdiff, Option.map_some] at hshape
      obtain ⟨diff', hdiff', heq⟩ := Option.map_eq_some_iff.mp hshape
      rw [Prod.mk.injEq, Prod.mk.injEq] at heq
      obtain ⟨hvalues, hentries, -⟩ := heq
      have hremoves := removesOnly hdiff hdesired
      rw [hdiff']
      cases switch with
      | aruba s =>
        obtain ⟨hnoReceivers, hnone⟩ := hrest
        obtain rfl := SnmpStateDiff.eq_of_rename hvalues hremoves.add
          (noSecrets_removed hremoves hnone) hremoves.update (hremoves.receivers hnoReceivers)
        cases switch' with
        | aruba s' => exact ⟨rfl, rfl⟩
        | cisco s' => cases hswitch
        | fortiswitch s' => cases hswitch
      | cisco s =>
        obtain ⟨hnoReceivers, hnone⟩ := hrest
        obtain rfl := SnmpStateDiff.eq_of_rename hvalues hremoves.add
          (noSecrets_removed hremoves hnone) hremoves.update (hremoves.receivers hnoReceivers)
        cases switch' with
        | aruba s' => cases hswitch
        | cisco s' => exact ⟨rfl, rfl⟩
        | fortiswitch s' => cases hswitch
      | fortiswitch s =>
        obtain ⟨s', rfl⟩ := fortiswitch_of_rename hswitch
        have hsame := SameRemoval.of_rename hvalues hremoves.add hremoves.update
        -- a removal names the recorded index, so no name of the switch is printed
        have hrecorded : ∀ name ∈ diff.communitiesToRemove,
            (s.snmpCommunityIndices.lookup name).isSome = true := by
          intro name hname
          obtain ⟨community, hcommunity, rfl⟩ := List.mem_map.mp ((hremoves.remove name).mp hname)
          exact hrest community hcommunity
        have hcommands := hsame.applySnmpDiff_eq hdesired hdesired' hentries hrecorded
        refine ⟨?_, hsame.log_eq hdesired hdesired' hcommands⟩
        simp only [Option.elim_some, VendorSwitch.texts, VendorSwitch.commands,
          Fortiswitch.generate, hcommands]
  rw [VendorSwitch.snmpOutput, VendorSwitch.snmpOutput, SnmpOutput.mk.injEq]
  exact ⟨congrArg _ hfull, congrArg _ hgranular.1, hgranular.2⟩

/-- An index is recorded under the new name. -/
theorem recordedIndex_rename {f : String → String} (hf : Function.Injective f) (name : String) :
    (switch.rename f).recordedIndex (f name) = switch.recordedIndex name := by
  cases switch with
  | aruba s => rfl
  | cisco s => rfl
  | fortiswitch s =>
    rw [VendorSwitch.rename, VendorSwitch.recordedIndex, VendorSwitch.recordedIndex]
    generalize s.snmpCommunityIndices = indices
    induction indices with
    | nil => rfl
    | cons entry indices ih =>
      rw [List.map_cons, List.lookup_cons, List.lookup_cons, ih]
      by_cases hname : name = entry.1
      · simp [hname]
      · have hname' : ¬f name = f entry.1 := fun h => hname (hf h)
        simp [beq_eq_false_iff_ne.mpr hname, beq_eq_false_iff_ne.mpr hname']

theorem rename_blank {f : String → String} : blank ∘ f = blank := rfl

/-- The shape of a difference does not depend on names. -/
theorem diffShape_rename {f : String → String} (hf : StrictMono f) :
    (switch.rename f).diffShape (current.rename f) = switch.diffShape current := by
  rw [VendorSwitch.diffShape, VendorSwitch.diffShape, snmpDiff_rename hf, Option.map_map]
  congr 1
  funext diff
  rw [Function.comp_apply, SnmpStateDiff.rename_rename, rename_blank, SnmpStateDiff.rename,
    SnmpStateDiff.rename, List.map_map, List.map_map]
  refine Prod.ext rfl (Prod.ext ?_ ?_)
  · exact List.map_congr_left fun name _ => recordedIndex_rename hf.injective name
  · exact List.map_congr_left fun community _ => recordedIndex_rename hf.injective community.name

/-- Another configuration that is accepted, with the same diff but for its values, is seen as the
same. -/
def VendorSwitch.Hides (isWord : Char → Bool) (debug : List String → String)
    (switch : VendorSwitch) (current : SwitchState) : Prop :=
  ∀ (switch' : VendorSwitch) (current' : SwitchState), Accepted switch'.config → switch'.rename blank = switch.rename blank →
    current'.rename blank = current.rename blank →
    switch'.diffShape current' = switch.diffShape current →
    switch'.snmpOutput isWord debug current' = switch.snmpOutput isWord debug current

/-- Values that leak are seen as the values that are there. -/
theorem VendorSwitch.Hides.leakName (h : switch.Hides isWord debug current)
    (haccepted : Accepted switch.config) (hinline : switch.config.Inline) (n : ℕ) :
    (switch.rename (leakName n)).snmpOutput isWord debug (current.rename (leakName n)) =
      switch.snmpOutput isWord debug current := by
  refine h _ _ ?_ ?_ ?_ (diffShape_rename (leakName_strictMono n))
  · rw [config_rename]
    exact accepted_rename haccepted hinline (leakName_ne_empty n)
  · rw [rename_rename, rename_blank]
  · rw [SwitchState.rename_rename, rename_blank]

/-- A switch that hides its secrets in every run has none to send. -/
theorem noSecrets_of_hides (h : switch.Hides isWord debug current)
    (haccepted : Accepted switch.config) (hinline : switch.config.Inline) :
    switch.NoSecrets current := by
  have hshown := h.leakName haccepted hinline
  -- nothing that is written in full
  have hfull (names : SnmpConfig → List String)
      (hnames : ∀ (n : ℕ) (s : VendorSwitch) (snmp : SnmpConfig) (traps : List TrapType),
        (∃ f, s = switch.rename f) → ∀ name ∈ names snmp,
          s.Writes (.snmp (snmp.rename (leakName n)) traps) (leakName n name)) :
      names ((effectiveSnmp switch.config).getD {}) = [] ∨ effectiveSnmp switch.config = none := by
    cases heffective : effectiveSnmp switch.config with
    | none => exact .inr rfl
    | some snmp =>
      left
      rw [Option.getD_some, List.eq_nil_iff_forall_not_mem]
      intro name hname
      obtain ⟨n, hn⟩ := exists_length_lt (switch.snmpOutput isWord debug current).full
      obtain ⟨text, htext, hlength⟩ := length_of_writes isWord
        (hnames n (switch.rename (leakName n)) snmp
          ((current.rename (leakName n)).snmp.getD {}).enabledTraps ⟨_, rfl⟩ name hname)
      have hseen : text ∈ (switch.snmpOutput isWord debug current).full := by
        rw [← hshown n, VendorSwitch.snmpOutput, VendorSwitch.config_rename,
          effectiveSnmp_rename (leakName_strictMono n).injective, heffective]
        exact htext
      exact absurd (hn text hseen) (by omega)
  have hdesired : ((effectiveSnmp switch.config).getD {}).communities = [] := by
    have hcommunities := hfull (fun snmp => snmp.communities.map (·.name)) ?_
    · rcases hcommunities with hnil | hnone
      · exact List.map_eq_nil_iff.mp hnil
      · rw [hnone]
        rfl
    · rintro n s snmp traps - name hname
      obtain ⟨community, hcommunity, rfl⟩ := List.mem_map.mp hname
      have hmem : community.rename (leakName n) ∈ (snmp.rename (leakName n)).communities :=
        List.mem_map_of_mem hcommunity
      exact writes_community hmem
  have hreceivers (hvendor : ∀ s, switch ≠ .fortiswitch s) :
      ((effectiveSnmp switch.config).getD {}).trapReceivers = [] := by
    have hcommunities := hfull (fun snmp => snmp.trapReceivers.map (·.community)) ?_
    · rcases hcommunities with hnil | hnone
      · exact List.map_eq_nil_iff.mp hnil
      · rw [hnone]
        rfl
    · rintro n s snmp traps ⟨f, rfl⟩ name hname
      obtain ⟨receiver, hreceiver, rfl⟩ := List.mem_map.mp hname
      have hmem : receiver.rename (leakName n) ∈ (snmp.rename (leakName n)).trapReceivers :=
        List.mem_map_of_mem hreceiver
      refine writes_receiver hmem ?_
      cases switch with
      | aruba s => exact fun s' => by simp [VendorSwitch.rename]
      | cisco s => exact fun s' => by simp [VendorSwitch.rename]
      | fortiswitch s => exact absurd rfl (hvendor s)
  -- nor a community that is removed by its name
  have hremoved : ∀ community ∈ (current.snmp.getD {}).communities,
      switch.recordedIndex community.name ≠ none := by
    intro community hcommunity hindex
    obtain ⟨diff, hdiff⟩ : ∃ diff, switch.snmpDiff current = some diff := by
      rw [snmpDiff_eq, Diff.diffSnmp]
      cases hcurrent : current.snmp with
      | none =>
        rw [hcurrent] at hcommunity
        cases hcommunity
      | some snmp => cases effectiveSnmp switch.config <;> exact ⟨_, rfl⟩
    have hremoves := removesOnly hdiff hdesired
    obtain ⟨n, hn⟩ := exists_length_lt (switch.snmpOutput isWord debug current).granular
    have hwrites : (switch.rename (leakName n)).Writes (.snmpDiff (diff.rename (leakName n)))
        (leakName n community.name) := by
      apply writes_removed
      · exact List.mem_map_of_mem ((hremoves.remove _).mpr (List.mem_map_of_mem hcommunity))
      · rw [SnmpStateDiff.rename, hremoves.add]
        rfl
      · rw [SnmpStateDiff.rename, hremoves.update]
        rfl
      · rw [VendorSwitch.config_rename, effectiveSnmp_rename (leakName_strictMono n).injective]
        cases heffective : effectiveSnmp switch.config with
        | none => rfl
        | some snmp =>
          rw [heffective, Option.getD_some] at hdesired
          simp [SnmpConfig.rename, hdesired]
      · rw [recordedIndex_rename (leakName_strictMono n).injective, hindex]
    obtain ⟨text, htext, hlength⟩ := length_of_writes isWord hwrites
    have hseen : text ∈ (switch.snmpOutput isWord debug current).granular := by
      rw [← hshown n, VendorSwitch.snmpOutput, snmpDiff_rename (leakName_strictMono n), hdiff]
      exact htext
    exact absurd (hn text hseen) (by omega)
  refine ⟨hdesired, ?_⟩
  have hnone (hrecorded : ∀ name, switch.recordedIndex name = none) :
      (current.snmp.getD {}).communities = [] := by
    rw [List.eq_nil_iff_forall_not_mem]
    exact fun community hcommunity => hremoved community hcommunity (hrecorded _)
  cases switch with
  | aruba s => exact ⟨hreceivers (by simp), hnone fun _ => rfl⟩
  | cisco s => exact ⟨hreceivers (by simp), hnone fun _ => rfl⟩
  | fortiswitch s =>
    exact fun community hcommunity => Option.isSome_iff_ne_none.mpr (hremoved community hcommunity)

/-- Redaction and the log hide the community strings of a configuration exactly when there is no
community string to write. -/
theorem VendorSwitch.hides_iff (isWord : Char → Bool) (debug : List String → String)
    (switch : VendorSwitch) (current : SwitchState) (haccepted : Accepted switch.config)
    (hinline : switch.config.Inline) :
    switch.Hides isWord debug current ↔ switch.NoSecrets current := by
  constructor
  · intro h
    exact noSecrets_of_hides h haccepted hinline
  · intro h switch' current' _ hswitch hcurrent hshape
    exact snmpOutput_eq h hswitch hcurrent hshape

end Hidden

/-- A FortiSwitch whose configuration no longer has the two communities of the device. -/
def retired (first second : String) : VendorSwitch := .fortiswitch
  { config :=
      { id := "sw1"
        hostname := some "sw1"
        model := some .fortiswitch124F_FPOE
        managementIp := some "192.0.2.1"
        credentials := some { username := "admin" }
        vlans := [{ id := 10, name := "Office" }]
        snmp := some {} }
    snmpCommunityIndices := [(first, 100), (second, 102)] }

def heldCommunities (first second : String) : SwitchState :=
  { snmp := some { communities := [{ name := first }, { name := second, access := .operator }] } }

/-- The communities are removed by their indices, so that their names do not show: with two other
names all is seen as the same. -/
theorem hides_retired :
    (retired "billing" "monitoring").Hides Char.isAlphanum String.join
      (heldCommunities "billing" "monitoring") ∧
    (retired "lab" "office").snmpOutput Char.isAlphanum String.join
        (heldCommunities "lab" "office") =
      (retired "billing" "monitoring").snmpOutput Char.isAlphanum String.join
        (heldCommunities "billing" "monitoring") := by
  have hhides : (retired "billing" "monitoring").Hides Char.isAlphanum String.join
      (heldCommunities "billing" "monitoring") := by
    refine (VendorSwitch.hides_iff Char.isAlphanum String.join (retired "billing" "monitoring")
      (heldCommunities "billing" "monitoring")
      ⟨plainEnvironment, (retired "billing" "monitoring").config, rfl⟩ ?_).mpr ⟨rfl, ?_⟩
    · rintro snmp hsnmp entry hentry
      obtain rfl := Option.some.inj hsnmp
      cases hentry
    · intro community hcommunity
      rcases List.mem_pair.mp hcommunity with rfl | rfl <;> rfl
  exact ⟨hhides, hhides _ _ ⟨plainEnvironment, (retired "lab" "office").config, rfl⟩ rfl rfl
    (by decide +kernel)⟩

/-- A Catalyst with one community. -/
def monitored (community : String) : VendorSwitch := .cisco
  { config :=
      { id := "sw1"
        hostname := some "sw1"
        model := some .ciscoCatalyst9300_24P_UPOE
        managementIp := some "192.0.2.1"
        credentials := some { username := "admin" }
        vlans := [{ id := 10, name := "Office" }]
        snmp := some { communities := [{ name := community, access := .operator }] } } }

/-- Behind a blank, a community string is sent and printed as it is. -/
theorem hides_fails : Accepted (monitored "lab blue").config ∧
    (monitored "lab blue").config.Inline ∧
    ¬(monitored "lab blue").Hides Char.isAlphanum String.join {} := by
  refine ⟨⟨plainEnvironment, (monitored "lab blue").config, rfl⟩, ?_, fun h => ?_⟩
  · intro snmp hsnmp entry hentry
    obtain rfl := Option.some.inj hsnmp
    rw [List.mem_singleton.mp hentry]
    rfl
  · have houtput := h (monitored "lab green") {} ⟨plainEnvironment, (monitored "lab green").config,
      rfl⟩ rfl rfl rfl
    exact absurd houtput (by decide +kernel)

end SwitchConfigurator
