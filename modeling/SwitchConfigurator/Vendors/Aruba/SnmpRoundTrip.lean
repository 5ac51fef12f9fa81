import SwitchConfigurator.Config.LoadPaths
import SwitchConfigurator.Vendors.Aruba.SnmpDevice

/-!
# SNMP there and back

The first SNMP diff, what the reference switch makes of its commands, and what is read of it
afterwards.
-/

namespace SwitchConfigurator.Aruba

open Cli Diff Keyed

/-! ## The first diff -/

/-- The SNMP part of a diff. -/
def snmpDiffTo (current : SwitchState) (config : SwitchConfig) : SnmpStateDiff :=
  (diffSnmp current config {}).snmpDiff.getD {}

/-- Neither communities nor receivers were read. -/
structure NoSnmp (current : SwitchState) : Prop where
  communities : (current.snmp.getD {}).communities = []
  trapReceivers : (current.snmp.getD {}).trapReceivers = []

/-- Nothing is taken away, and of the entries under a key the last one is added. -/
structure FirstDiff (desired : SnmpConfig) (diff : SnmpStateDiff) : Prop where
  keepsCommunities : diff.communitiesToRemove = []
  updatesNone : diff.communitiesToUpdate = []
  keepsReceivers : diff.trapReceiversToRemove = []
  communities : ∀ name, lookup SnmpCommunity.name name diff.communitiesToAdd =
    lookup SnmpCommunity.name name desired.communities
  receivers : ∀ host, lookup SnmpTrapReceiver.host host diff.trapReceiversToAdd =
    lookup SnmpTrapReceiver.host host desired.trapReceivers
  communities_sub : diff.communitiesToAdd ⊆ desired.communities
  receivers_sub : diff.trapReceiversToAdd ⊆ desired.trapReceivers

section First

variable {current : SwitchState} {config : SwitchConfig} {desired : SnmpConfig}

/-- Where there was no SNMP, all that is desired is added. -/
theorem firstDiff (h : NoSnmp current) (hdesired : effectiveSnmp config = some desired) :
    FirstDiff desired (snmpDiffTo current config) := by
  obtain ⟨hcommunities, hreceivers⟩ := h
  unfold snmpDiffTo diffSnmp
  rw [hdesired]
  cases hsnmp : current.snmp with
  | none => exact ⟨rfl, rfl, rfl, fun _ => rfl, fun _ =>
    rfl, List.Subset.refl _, List.Subset.refl _⟩
  | some held =>
    rw [hsnmp, Option.getD_some] at hcommunities hreceivers
    dsimp only
    rw [Option.getD_some]
    refine ⟨?_, ?_, ?_, fun name => ?_, fun host => ?_, ?_, ?_⟩
    · rw [computeSnmpDiff, hcommunities]
      rfl
    · rw [computeSnmpDiff, hcommunities]
      rfl
    · rw [computeSnmpDiff, hreceivers]
      rfl
    · rw [computeSnmpDiff, hcommunities]
      dsimp only
      rw [← lookup_perm (List.perm_insertionSort _ _).symm nodup_added, lookup_added, lookup_nil,
        if_pos rfl]
    · rw [computeSnmpDiff, hreceivers]
      dsimp only
      rw [lookup_added, lookup_nil, if_pos rfl]
    · intro community hmem
      exact mem_of_lookup (mem_added.mp ((List.mem_insertionSort _).mp hmem)).1
    · intro receiver hmem
      exact mem_of_lookup (mem_added.mp hmem).1

end First

/-! ## What is sent -/

section Sent

variable {device : SnmpDevice} {name host community : String} {access : SnmpAccess}

/-- A command whose words can be read acts by what they stand for. -/
theorem SnmpDevice.step_of_readable {args : List Arg} (h : ∀ arg ∈ args, arg.Readable) :
    SnmpDevice.step (render args).toList device = device.execute (args.map Arg.value) := by
  rw [SnmpDevice.step, words_render h]
  dsimp only
  rw [List.map_map]
  congr 1
  exact List.map_congr_left fun arg _ => String.ofList_toList

/-- A host is sent as one word. -/
theorem readable_of_isHost (h : isHost host.toList = true) : (Arg.bare host).Readable := by
  refine readable_bare (isWord_of_isHost h) fun hquote => ?_
  exact not_mem_of_isHost h (by decide) (by decide) (List.mem_of_mem_head? hquote)

/-- The device takes a community from its command. -/
theorem step_snmpCommunity (h : IsCommunity name.toList) :
    SnmpDevice.step (Command.snmpCommunity name access).text.toList device =
      device.setCommunity ⟨name, access, h⟩ := by
  have hreadable : ∀ arg ∈ (Command.snmpCommunity name access).words, arg.Readable := by
    show ∀ arg ∈ [Arg.bare "snmp-server", .bare "community", .quoted name,
      .bare (accessText access)], arg.Readable
    simp only [List.forall_mem_cons, List.not_mem_nil, false_implies, implies_true, and_true]
    exact ⟨by decide, by decide, h.2, by cases access <;> decide⟩
  rw [Command.text, SnmpDevice.step_of_readable hreadable]
  exact SnmpDevice.execute_community h

/-- It takes a receiver from its command. -/
theorem step_snmpHost (hhost : isHost host.toList = true) (h : IsCommunity community.toList) :
    SnmpDevice.step (Command.snmpHost host community).text.toList device =
      device.setReceiver ⟨host, community, hhost, h⟩ := by
  have hreadable : ∀ arg ∈ (Command.snmpHost host community).words, arg.Readable := by
    show ∀ arg ∈ [Arg.bare "snmp-server", .bare "host", .bare host, .bare "community",
      .quoted community], arg.Readable
    simp only [List.forall_mem_cons, List.not_mem_nil, false_implies, implies_true, and_true]
    exact ⟨by decide, by decide, readable_of_isHost hhost, by decide, h.2⟩
  rw [Command.text, SnmpDevice.step_of_readable hreadable]
  exact SnmpDevice.execute_host hhost h

/-- The commands that are about traps, or enter and leave the configuration. -/
def passedOver : List Command :=
  [.configureTerminal, .exit, .enableTraps "mac-notify", .enableTraps "link-change all",
    .noEnableTraps "mac-notify", .noEnableTraps "link-change"]

theorem oneLine_of_passedOver : ∀ command ∈ passedOver, '\n' ∉ command.text.toList := by decide

/-- The other commands change nothing. -/
theorem step_passedOver {command : Command} (h : command ∈ passedOver) :
    SnmpDevice.step command.text.toList device = device := by
  revert command
  simp only [passedOver, List.forall_mem_cons, List.not_mem_nil, false_implies, implies_true,
    and_true]
  exact ⟨rfl, rfl, rfl, rfl, rfl, rfl⟩

/-- Nor do several of them. -/
theorem run_passedOver {commands : List Command} (h : commands ⊆ passedOver) :
    run SnmpDevice.step device (sentLines commands) = device := by
  rw [sentLines_of_oneLine fun command hcommand => oneLine_of_passedOver command (h hcommand)]
  refine run_eq_self ?_
  rw [List.forall_mem_map]
  intro command hcommand device
  exact step_passedOver (h hcommand)

end Sent

/-! ## What the switch has -/

/-- The access level of a community, and the community of a receiver. -/
def SnmpDevice.accessAt (name : String) (device : SnmpDevice) : Option SnmpAccess :=
  (lookup DeviceCommunity.name name device.communities).map DeviceCommunity.access

def SnmpDevice.communityAt (host : String) (device : SnmpDevice) : Option String :=
  (lookup DeviceReceiver.host host device.receivers).map DeviceReceiver.community

section Run

variable {device : SnmpDevice} {communities : List SnmpCommunity}
variable {receivers : List SnmpTrapReceiver} {name host : String}

/-- Communities that are sent are there, the last of a name. -/
theorem run_communities (h : ∀ community ∈ communities, IsCommunity community.name.toList) :
    let after := run SnmpDevice.step device (sentLines (communities.map communityCommand))
    after.accessAt name = ((lookup SnmpCommunity.name name communities).map
        SnmpCommunity.access).or (device.accessAt name) ∧
      after.receivers = device.receivers := by
  have honeLine : ∀ command ∈ communities.map communityCommand, '\n' ∉ command.text.toList := by
    rw [List.forall_mem_map]
    intro community hcommunity
    refine oneLine_text ?_
    show ∀ arg ∈ [Arg.bare "snmp-server", .bare "community", .quoted community.name,
      .bare (accessText community.access)], _
    simp only [List.forall_mem_cons, List.not_mem_nil, false_implies, implies_true, and_true]
    exact ⟨by decide, by decide, (h community hcommunity).1,
      by cases community.access <;> decide⟩
  rw [sentLines_of_oneLine honeLine, List.map_map]
  clear honeLine
  induction communities generalizing device with
  | nil => exact ⟨rfl, rfl⟩
  | cons community communities ih =>
    obtain ⟨hcommunity, hcommunities⟩ := List.forall_mem_cons.mp h
    have hstep : SnmpDevice.step ((fun c : Command => c.text.toList) (communityCommand community))
        device = device.setCommunity ⟨community.name, community.access, hcommunity⟩ :=
      step_snmpCommunity hcommunity
    rw [List.map_cons, Function.comp_apply, run_cons, hstep]
    obtain ⟨haccess, hreceivers⟩ := @ih
      (device.setCommunity ⟨community.name, community.access, hcommunity⟩) hcommunities
    refine ⟨haccess.trans ?_, hreceivers⟩
    show _ = _
    rw [SnmpDevice.accessAt, SnmpDevice.setCommunity, lookup_upsert, lookup_cons,
      SnmpDevice.accessAt]
    cases lookup SnmpCommunity.name name communities with
    | some later => rfl
    | none => by_cases heq : community.name = name <;> simp [heq]

/-- So are receivers. -/
theorem run_receivers (h : ∀ receiver ∈ receivers,
    isHost receiver.host.toList = true ∧ IsCommunity receiver.community.toList) :
    let after := run SnmpDevice.step device (sentLines (receivers.map receiverCommand))
    after.communityAt host = ((lookup SnmpTrapReceiver.host host receivers).map
        SnmpTrapReceiver.community).or (device.communityAt host) ∧
      after.communities = device.communities := by
  have honeLine : ∀ command ∈ receivers.map receiverCommand, '\n' ∉ command.text.toList := by
    rw [List.forall_mem_map]
    intro receiver hreceiver
    refine oneLine_text ?_
    show ∀ arg ∈ [Arg.bare "snmp-server", .bare "host", .bare receiver.host, .bare "community",
      .quoted receiver.community], _
    simp only [List.forall_mem_cons, List.not_mem_nil, false_implies, implies_true, and_true]
    exact ⟨by decide, by decide, not_mem_of_isHost (h receiver hreceiver).1 (by decide) (by decide),
      by decide, (h receiver hreceiver).2.1⟩
  rw [sentLines_of_oneLine honeLine, List.map_map]
  clear honeLine
  -- on the lines; the last one for a host wins, as in a lookup from behind
  induction receivers generalizing device with
  | nil => exact ⟨rfl, rfl⟩
  | cons receiver receivers ih =>
    obtain ⟨⟨hhost, hcommunity⟩, hreceivers⟩ := List.forall_mem_cons.mp h
    have hstep : SnmpDevice.step ((fun c : Command => c.text.toList) (receiverCommand receiver))
        device = device.setReceiver ⟨receiver.host, receiver.community, hhost, hcommunity⟩ :=
      step_snmpHost hhost hcommunity
    rw [List.map_cons, Function.comp_apply, run_cons, hstep]
    obtain ⟨hafter, hcommunities⟩ := @ih
      (device.setReceiver ⟨receiver.host, receiver.community, hhost, hcommunity⟩) hreceivers
    refine ⟨hafter.trans ?_, hcommunities⟩
    rw [SnmpDevice.communityAt, SnmpDevice.setReceiver, lookup_upsert, lookup_cons,
      SnmpDevice.communityAt]
    cases lookup SnmpTrapReceiver.host host receivers with
    | some later => rfl
    | none => by_cases heq : receiver.host = host <;> simp [heq]

/-- Entries that the switch takes as they are meant. -/
structure TypedSnmp (desired : SnmpConfig) : Prop where
  names : ∀ community ∈ desired.communities, IsCommunity community.name.toList
  hosts : ∀ receiver ∈ desired.trapReceivers, isHost receiver.host.toList = true
  receiverNames : ∀ receiver ∈ desired.trapReceivers, IsCommunity receiver.community.toList

variable {desired : SnmpConfig} {diff : SnmpStateDiff}

/-- Traps are of no account here. -/
theorem traps_passedOver : diff.trapsToEnable.flatMap enableTrapCommands ++
    diff.trapsToDisable.flatMap disableTrapCommands ++ [Command.exit] ⊆ passedOver := by
  have henable (trap : TrapType) : enableTrapCommands trap ⊆ passedOver := by
    cases trap <;> decide
  have hdisable (trap : TrapType) : disableTrapCommands trap ⊆ passedOver := by
    cases trap <;> decide
  simp only [List.append_subset]
  refine ⟨⟨fun command hmem => ?_, fun command hmem => ?_⟩, by decide⟩
  · obtain ⟨trap, -, hcommand⟩ := List.mem_flatMap.mp hmem
    exact henable trap hcommand
  · obtain ⟨trap, -, hcommand⟩ := List.mem_flatMap.mp hmem
    exact hdisable trap hcommand

/-- The commands of a first diff, sorted by what they are about. -/
theorem commands_firstDiff (hfirst : FirstDiff desired diff) (hchanges : diff.hasChanges = true) :
    applySnmpDiff diff = [Command.configureTerminal] ++
      (diff.communitiesToAdd.map communityCommand ++
        (diff.trapReceiversToAdd.map receiverCommand ++
          (diff.trapsToEnable.flatMap enableTrapCommands ++
            diff.trapsToDisable.flatMap disableTrapCommands ++ [Command.exit]))) := by
  rw [applySnmpDiff, if_neg (by simp [hchanges]), hfirst.keepsCommunities, hfirst.updatesNone,
    hfirst.keepsReceivers, configured]
  simp

/-- What is sent for the first time is there. -/
theorem run_firstDiff (hfirst : FirstDiff desired diff) (htyped : TypedSnmp desired) :
    let after := run SnmpDevice.step {} (sentLines (applySnmpDiff diff))
    after.accessAt name =
        (lookup SnmpCommunity.name name desired.communities).map SnmpCommunity.access ∧
      after.communityAt host =
        (lookup SnmpTrapReceiver.host host desired.trapReceivers).map
          SnmpTrapReceiver.community := by
  rw [← hfirst.communities, ← hfirst.receivers]
  by_cases hchanges : diff.hasChanges = true
  · obtain ⟨haccess, hsame⟩ := @run_communities {} diff.communitiesToAdd name
      fun community hmem => htyped.names community (hfirst.communities_sub hmem)
    obtain ⟨hcommunity, hkept⟩ := @run_receivers
      (run SnmpDevice.step {} (sentLines (diff.communitiesToAdd.map communityCommand)))
      diff.trapReceiversToAdd host fun receiver hmem =>
        ⟨htyped.hosts receiver (hfirst.receivers_sub hmem),
          htyped.receiverNames receiver (hfirst.receivers_sub hmem)⟩
    have hrun : run SnmpDevice.step {} (sentLines (applySnmpDiff diff)) =
        run SnmpDevice.step
          (run SnmpDevice.step {} (sentLines (diff.communitiesToAdd.map communityCommand)))
          (sentLines (diff.trapReceiversToAdd.map receiverCommand)) := by
      rw [commands_firstDiff hfirst hchanges, sentLines_append, run_append, sentLines_append,
        run_append, sentLines_append, run_append, run_passedOver traps_passedOver,
        @run_passedOver _ [Command.configureTerminal] (by decide)]
    have hnone : SnmpDevice.accessAt name {} = none := rfl
    dsimp only
    rw [hrun, SnmpDevice.accessAt, hkept, ← SnmpDevice.accessAt, haccess, hnone, Option.or_none,
      hcommunity, SnmpDevice.communityAt, hsame]
    exact ⟨rfl, Option.or_none⟩
  · have hnone := SnmpStateDiff.hasChanges_eq_false.mp (Bool.eq_false_iff.mpr hchanges)
    have hcommands : applySnmpDiff diff = [] := if_pos (by simp [hchanges])
    rw [hcommands, hnone.1.1, hnone.2.1.1]
    exact ⟨rfl, rfl⟩

end Run

/-! ## There and back -/

def communityEntry (community : SnmpCommunity) : String × SnmpAccess :=
  (community.name, community.access)

def receiverEntry (receiver : SnmpTrapReceiver) : String × String :=
  (receiver.host, receiver.community)

/-- What the switch has once it has executed the commands of the diff. -/
def snmpAfter (switch : ArubaSwitch) (current : SwitchState) : SnmpDevice :=
  run SnmpDevice.step {} (sentLines (applySnmpDiff (snmpDiffTo current switch.config)))

section RoundTrip

variable (switch : ArubaSwitch) (hardwareWarnings : List Char → List String)
variable (linkChange macNotify : Bool) (current : SwitchState) (desired : SnmpConfig)

/-- The state that is read afterwards. -/
def stateAfter : SwitchState :=
  parseCurrentState switch hardwareWarnings linkChange macNotify
    (shownSnmp (snmpAfter switch current))

/-- The communities and receivers come back, and the next diff has nothing to do for them. -/
structure SnmpRoundTrip : Prop where
  communities : ∀ entry,
    entry ∈ ((stateAfter switch hardwareWarnings linkChange macNotify current).snmp.getD
      {}).communities.map communityEntry ↔ entry ∈ desired.communities.map communityEntry
  receivers : ∀ entry,
    entry ∈ ((stateAfter switch hardwareWarnings linkChange macNotify current).snmp.getD
      {}).trapReceivers.map receiverEntry ↔ entry ∈ desired.trapReceivers.map receiverEntry
  communities_settled :
    let next := snmpDiffTo (stateAfter switch hardwareWarnings linkChange macNotify current)
      switch.config
    next.communitiesToAdd = [] ∧ next.communitiesToRemove = [] ∧ next.communitiesToUpdate = []
  receivers_settled :
    let next := snmpDiffTo (stateAfter switch hardwareWarnings linkChange macNotify current)
      switch.config
    next.trapReceiversToAdd = [] ∧ next.trapReceiversToRemove = []

/-- Strings that can be typed and printed without loss, and no two settings under one key. -/
structure SnmpSurvives (desired : SnmpConfig) : Prop where
  names : ∀ community ∈ desired.communities, IsCommunity community.name.toList ∧
    stripAnsi community.name.toList = community.name.toList
  accesses : ∀ community ∈ desired.communities, ∀ other ∈ desired.communities,
    community.name = other.name → community.access = other.access
  hosts : ∀ receiver ∈ desired.trapReceivers, isHost receiver.host.toList = true
  receiverNames : ∀ receiver ∈ desired.trapReceivers, IsCommunity receiver.community.toList ∧
    stripAnsi receiver.community.toList = receiver.community.toList ∧
      SingleBlanks receiver.community.toList
  oneCommunity : ∀ receiver ∈ desired.trapReceivers, ∀ other ∈ desired.trapReceivers,
    receiver.host = other.host → receiver.community = other.community

end RoundTrip

section Device

variable {device : SnmpDevice} {name host community : String} {access : SnmpAccess}

theorem accessAt_eq_some_iff : device.accessAt name = some access ↔
    ∃ entry ∈ device.communities, entry.name = name ∧ entry.access = access := by
  rw [SnmpDevice.accessAt, Option.map_eq_some_iff]
  constructor
  · rintro ⟨entry, hentry, rfl⟩
    exact ⟨entry, mem_of_lookup hentry, key_of_lookup hentry, rfl⟩
  · rintro ⟨entry, hentry, rfl, rfl⟩
    exact ⟨entry, lookup_of_mem device.nodup_names hentry, rfl⟩

theorem communityAt_eq_some_iff : device.communityAt host = some community ↔
    ∃ entry ∈ device.receivers, entry.host = host ∧ entry.community = community := by
  rw [SnmpDevice.communityAt, Option.map_eq_some_iff]
  constructor
  · rintro ⟨entry, hentry, rfl⟩
    exact ⟨entry, mem_of_lookup hentry, key_of_lookup hentry, rfl⟩
  · rintro ⟨entry, hentry, rfl, rfl⟩
    exact ⟨entry, lookup_of_mem device.nodup_hosts hentry, rfl⟩

end Device

section Settled

variable {state : SwitchState} {config : SwitchConfig} {desired : SnmpConfig}

/-- The communities are settled exactly if those read are those desired. -/
theorem communities_settled_iff (hdesired : effectiveSnmp config = some desired) :
    ((snmpDiffTo state config).communitiesToAdd = [] ∧
        (snmpDiffTo state config).communitiesToRemove = [] ∧
        (snmpDiffTo state config).communitiesToUpdate = []) ↔
      ∀ name, Keyed.Agree sameCommunity (fun _ => False) name
        (lookup SnmpCommunity.name name (state.snmp.getD {}).communities)
        (lookup SnmpCommunity.name name desired.communities) := by
  unfold snmpDiffTo diffSnmp
  rw [hdesired]
  cases state.snmp with
  | none =>
    simp only [Option.getD_some, Option.getD_none, and_true]
    exact agree_nil_left.symm
  | some held =>
    have h := @no_difference_iff _ _ _ SnmpCommunity.name sameCommunity held.communities
      desired.communities (fun _ => False) _
    simp only [not_false_eq_true, decide_true, List.filter_true] at h
    simp only [Option.getD_some, computeSnmpDiff, insertionSort_eq_nil]
    exact h

/-- So are the receivers. -/
theorem receivers_settled_iff (hdesired : effectiveSnmp config = some desired) :
    ((snmpDiffTo state config).trapReceiversToAdd = [] ∧
        (snmpDiffTo state config).trapReceiversToRemove = []) ↔
      ∀ host, Keyed.Agree (fun _ _ => true) (fun _ => False) host
        (lookup SnmpTrapReceiver.host host (state.snmp.getD {}).trapReceivers)
        (lookup SnmpTrapReceiver.host host desired.trapReceivers) := by
  unfold snmpDiffTo diffSnmp
  rw [hdesired]
  cases state.snmp with
  | none =>
    simp only [Option.getD_some, Option.getD_none, and_true]
    exact agree_nil_left.symm
  | some held =>
    have h := @no_difference_iff _ _ _ SnmpTrapReceiver.host (fun _ _ => true)
      held.trapReceivers desired.trapReceivers (fun _ => False) _
    simp only [not_false_eq_true, decide_true, List.filter_true, updated_eq_nil fun _ _ => rfl,
      and_true] at h
    simp only [Option.getD_some, computeSnmpDiff]
    exact h

end Settled

section Main

variable {switch : ArubaSwitch} {hardwareWarnings : List Char → List String}
variable {linkChange macNotify : Bool} {current : SwitchState} {desired : SnmpConfig}
variable {env : Environment} {raw : SwitchConfig}

/-- An accepted Aruba switch has no managers to restrict its communities to. -/
theorem allowedHosts_of_accepted (hvalid : (validateSwitchConfig env).Succeeds raw switch.config)
    (hvendor : switch.config.model.map SwitchModel.vendor = some .aruba)
    (hdesired : effectiveSnmp switch.config = some desired) :
    ∀ community ∈ desired.communities, community.allowedHosts = [] := by
  obtain ⟨source, -, hsteps⟩ := validateSwitchConfig_succeeds_iff.mp hvalid
  obtain ⟨model, hmodel, hsettles, hresult⟩ := resolutionSteps_succeeds_iff.mp hsteps
  have hsame : checkVendorSupport switch.config = .ok () := by
    rw [hresult]
    exact hsettles.vendor
  obtain ⟨model, hmodel, haruba⟩ := Option.map_eq_some_iff.mp hvendor
  have hfortiswitch : (model.vendor == .fortiswitch) = false := by rw [haruba]; rfl
  rw [checkVendorSupport, hmodel] at hsame
  dsimp only at hsame
  rw [hfortiswitch, if_neg Bool.false_ne_true] at hsame
  by_cases hreads : readsEnabled switch.config = true
  · rw [if_pos hreads] at hsame
    cases hsame
  · rw [if_neg hreads] at hsame
    obtain ⟨snmp, hsnmp, heffective⟩ := Option.map_eq_some_iff.mp hdesired
    rw [if_neg hreads] at heffective
    subst heffective
    intro community hmem
    by_contra hne
    rw [if_pos] at hsame
    · cases hsame
    · rw [hsnmp, Option.any_some, List.any_eq_true]
      exact ⟨community, hmem, by simpa using hne⟩

/-- The entries of the switch once all strings were typed. -/
theorem communities_snmpAfter (hcurrent : NoSnmp current)
    (hdesired : effectiveSnmp switch.config = some desired) (htyped : TypedSnmp desired) {name : String}
    {access : SnmpAccess} :
    (∃ entry ∈ (snmpAfter switch current).communities, entry.name = name ∧ entry.access = access) ↔
      (lookup SnmpCommunity.name name desired.communities).map SnmpCommunity.access =
        some access := by
  rw [← accessAt_eq_some_iff, snmpAfter,
    (@run_firstDiff name "" _ _ (firstDiff hcurrent hdesired) htyped).1]

/-- After the apply the device has the desired receivers, with the last community of each. -/
theorem receivers_snmpAfter (hcurrent : NoSnmp current)
    (hdesired : effectiveSnmp switch.config = some desired) (htyped : TypedSnmp desired)
    {host community : String} :
    (∃ entry ∈ (snmpAfter switch current).receivers,
        entry.host = host ∧ entry.community = community) ↔
      (lookup SnmpTrapReceiver.host host desired.trapReceivers).map SnmpTrapReceiver.community =
        some community := by
  rw [← communityAt_eq_some_iff, snmpAfter,
    (@run_firstDiff "" host _ _ (firstDiff hcurrent hdesired) htyped).2]

/-- The communities that are read are those of the device, as they are shown. -/
theorem mem_communities_stateAfter {entry : String × SnmpAccess} :
    entry ∈ ((stateAfter switch hardwareWarnings linkChange macNotify current).snmp.getD
        {}).communities.map communityEntry ↔
      ∃ community ∈ (snmpAfter switch current).communities,
        (String.ofList (stripAnsi community.name.toList), community.access) = entry := by
  rw [stateAfter, snmp_of_shownSnmp.1, List.map_map, List.mem_map]
  rfl

/-- So are the receivers. -/
theorem mem_receivers_stateAfter {entry : String × String} :
    entry ∈ ((stateAfter switch hardwareWarnings linkChange macNotify current).snmp.getD
        {}).trapReceivers.map receiverEntry ↔
      ∃ receiver ∈ (snmpAfter switch current).receivers,
        (receiver.host, String.ofList (communityRead (stripAnsi receiver.community.toList))) =
          entry := by
  rw [stateAfter, snmp_of_shownSnmp.2, List.map_map, List.mem_map]
  rfl

/-- What survives can be typed. -/
theorem SnmpSurvives.typed (h : SnmpSurvives desired) : TypedSnmp desired :=
  ⟨fun community hmem => (h.names community hmem).1, h.hosts,
    fun receiver hmem => (h.receiverNames receiver hmem).1⟩

/-- A name with single blanks is read as it is. -/
theorem communityRead_eq_self {community : List Char} (h : IsCommunity community)
    (hblanks : SingleBlanks community) : communityRead community = community :=
  (trimQuotes_collapse_iff h.2).mpr hblanks

/-- What survives comes back. -/
theorem SnmpSurvives.communities (h : SnmpSurvives desired) (hcurrent : NoSnmp current)
    (hdesired : effectiveSnmp switch.config = some desired) (entry : String × SnmpAccess) :
    entry ∈ ((stateAfter switch hardwareWarnings linkChange macNotify current).snmp.getD
      {}).communities.map communityEntry ↔ entry ∈ desired.communities.map communityEntry := by
  have hafter {name : String} {access : SnmpAccess} :=
    @communities_snmpAfter switch current desired hcurrent hdesired h.typed name access
  rw [mem_communities_stateAfter, List.mem_map]
  constructor
  · rintro ⟨community, hmem, rfl⟩
    obtain ⟨wanted, hwanted, haccess⟩ :=
      Option.map_eq_some_iff.mp (hafter.mp ⟨community, hmem, rfl, rfl⟩)
    obtain ⟨hwanted, hname⟩ := lookup_some hwanted
    refine ⟨wanted, hwanted, ?_⟩
    rw [communityEntry, haccess, ← hname, (h.names wanted hwanted).2, String.ofList_toList]
  · rintro ⟨wanted, hwanted, rfl⟩
    obtain ⟨last, hlast⟩ := exists_lookup_of_mem SnmpCommunity.name hwanted
    obtain ⟨hmem, hname⟩ := lookup_some hlast
    have hsome : (lookup SnmpCommunity.name wanted.name desired.communities).map
        SnmpCommunity.access = some wanted.access := by
      rw [hlast, Option.map_some, h.accesses last hmem wanted hwanted hname]
    obtain ⟨community, hcommunity, heq, haccess⟩ := hafter.mpr hsome
    refine ⟨community, hcommunity, ?_⟩
    rw [communityEntry, heq, haccess, (h.names wanted hwanted).2, String.ofList_toList]

/-- Receivers that survive are read back. -/
theorem SnmpSurvives.receivers (h : SnmpSurvives desired) (hcurrent : NoSnmp current)
    (hdesired : effectiveSnmp switch.config = some desired) (entry : String × String) :
    entry ∈ ((stateAfter switch hardwareWarnings linkChange macNotify current).snmp.getD
      {}).trapReceivers.map receiverEntry ↔ entry ∈ desired.trapReceivers.map receiverEntry := by
  have hafter {host community : String} :=
    @receivers_snmpAfter switch current desired hcurrent hdesired h.typed host community
  have hread {receiver : SnmpTrapReceiver} (hmem : receiver ∈ desired.trapReceivers) :
      String.ofList (communityRead (stripAnsi receiver.community.toList)) =
        receiver.community := by
    obtain ⟨hcommunity, hescape, hblanks⟩ := h.receiverNames receiver hmem
    rw [hescape, communityRead_eq_self hcommunity hblanks, String.ofList_toList]
  rw [mem_receivers_stateAfter, List.mem_map]
  constructor
  · rintro ⟨receiver, hmem, rfl⟩
    obtain ⟨wanted, hwanted, hcommunity⟩ :=
      Option.map_eq_some_iff.mp (hafter.mp ⟨receiver, hmem, rfl, rfl⟩)
    obtain ⟨hwanted, hhost⟩ := lookup_some hwanted
    refine ⟨wanted, hwanted, ?_⟩
    rw [receiverEntry, ← hcommunity, ← hhost, hread hwanted]
  · rintro ⟨wanted, hwanted, rfl⟩
    obtain ⟨last, hlast⟩ := exists_lookup_of_mem SnmpTrapReceiver.host hwanted
    obtain ⟨hmem, hhost⟩ := lookup_some hlast
    have hsome : (lookup SnmpTrapReceiver.host wanted.host desired.trapReceivers).map
        SnmpTrapReceiver.community = some wanted.community := by
      rw [hlast, Option.map_some, h.oneCommunity last hmem wanted hwanted hhost]
    obtain ⟨receiver, hreceiver, heq, hcommunity⟩ := hafter.mpr hsome
    refine ⟨receiver, hreceiver, ?_⟩
    rw [receiverEntry, heq, hcommunity, hread hwanted]

/-- SNMP that survives comes back. -/
theorem SnmpSurvives.roundTrip (h : SnmpSurvives desired) (hcurrent : NoSnmp current)
    (hdesired : effectiveSnmp switch.config = some desired)
    (hhosts : ∀ community ∈ desired.communities, community.allowedHosts = []) :
    SnmpRoundTrip switch hardwareWarnings linkChange macNotify current desired := by
  have hcommunities := @SnmpSurvives.communities switch hardwareWarnings linkChange macNotify
    current desired h hcurrent hdesired
  have hreceivers := @SnmpSurvives.receivers switch hardwareWarnings linkChange macNotify
    current desired h hcurrent hdesired
  refine ⟨hcommunities, hreceivers, ?_, ?_⟩
  -- the switch shows no hosts of a community
  · have hnone : ∀ held ∈ ((stateAfter switch hardwareWarnings linkChange macNotify
        current).snmp.getD {}).communities, held.allowedHosts = [] := by
      rw [stateAfter, snmp_of_shownSnmp.1, List.forall_mem_map]
      exact fun _ _ => rfl
    refine (communities_settled_iff hdesired).mpr ?_
    revert hcommunities hnone
    generalize ((stateAfter switch hardwareWarnings linkChange macNotify current).snmp.getD
      {}).communities = held
    intro hcommunities hnone
    -- by name: the entries are the same, and so is the access of each
    refine agree_of_keys (fun name => ?_) fun community hmem wanted hwanted hname => ?_
    · have hnames (communities : List SnmpCommunity) :
          communities.map SnmpCommunity.name = (communities.map communityEntry).map Prod.fst := by
        rw [List.map_map]
        rfl
      simp only [hnames, @List.mem_map _ _ _ Prod.fst, hcommunities]
    · obtain ⟨same, hsame, hentry⟩ :=
        List.mem_map.mp ((hcommunities _).mp (List.mem_map_of_mem hmem))
      obtain ⟨hsameName, haccess⟩ := Prod.mk.inj hentry
      rw [sameCommunity_iff, hnone community hmem, hhosts wanted hwanted]
      exact ⟨haccess.symm.trans (h.accesses same hsame wanted hwanted (hsameName.trans hname)),
        sameHosts_iff.mpr (List.Perm.refl _)⟩
  · refine (receivers_settled_iff hdesired).mpr ?_
    revert hreceivers
    generalize ((stateAfter switch hardwareWarnings linkChange macNotify current).snmp.getD
      {}).trapReceivers = held
    intro hreceivers
    -- a receiver is compared by its host alone
    have hsame : ∀ a ∈ held, ∀ b ∈ desired.trapReceivers, a.host = b.host → true = true :=
      fun _ _ _ _ _ => rfl
    refine agree_of_keys (fun host => ?_) hsame
    have hhosts (receivers : List SnmpTrapReceiver) :
        receivers.map SnmpTrapReceiver.host = (receivers.map receiverEntry).map Prod.fst := by
      rw [List.map_map]
      rfl
    simp only [hhosts, @List.mem_map _ _ _ Prod.fst, hreceivers]

theorem exists_bound (texts : List (List Char)) :
    ∃ bound, ∀ text ∈ texts, text.length ≤ bound := by
  induction texts with
  | nil => exact ⟨0, nofun⟩
  | cons text texts ih =>
    obtain ⟨bound, hbound⟩ := ih
    refine ⟨max text.length bound, List.forall_mem_cons.mpr ⟨le_max_left _ _, ?_⟩⟩
    exact fun other hother => (hbound other hother).trans (le_max_right _ _)

/-- Texts that all come from texts of the same list, none of them longer, are all unchanged. -/
theorem fixed_of_onto {f : List Char → List Char} {texts : List (List Char)}
    (hle : ∀ text, (f text).length ≤ text.length)
    (hfix : ∀ text, (f text).length = text.length → f text = text)
    (honto : ∀ text ∈ texts, ∃ source ∈ texts, f source = text) :
    ∀ text ∈ texts, f text = text := by
  obtain ⟨bound, hbound⟩ := exists_bound texts
  intro text hmem
  -- a text that changed would come from ever longer ones
  induction hgap : bound - text.length using Nat.strongRecOn generalizing text with
  | ind gap ih =>
    obtain ⟨source, hsource, rfl⟩ := honto text hmem
    by_cases hlength : (f source).length = source.length
    · rw [hfix source hlength, hfix source hlength]
    · have hlonger := hle source
      have hwithin := hbound source hsource
      have hfixed := ih (bound - source.length) (by omega) source hsource rfl
      rw [hfixed, hfixed]

/-- What is read of a name can be typed, and is no longer. -/
theorem communityRead_typed {community : List Char} (h : IsCommunity community) :
    IsCommunity (communityRead community) ∧
      (communityRead community).length ≤ community.length := by
  obtain ⟨hquote, hblank, hlength⟩ := trimQuotes_collapse_quoted h.2
  refine ⟨⟨fun hmem => ?_, hquote⟩, hlength⟩
  exact absurd (hblank '\n' hmem (by decide)) (by decide)

/-- So is what is left without escape sequences. -/
theorem stripAnsi_typed {text : List Char} (h : IsCommunity text) : IsCommunity (stripAnsi text) :=
  ⟨fun hmem => h.1 (stripAnsi_sublist.subset hmem), fun hmem => h.2 (stripAnsi_sublist.subset hmem)⟩

/-- What comes back can be typed. -/
theorem SnmpRoundTrip.typed
    (h : SnmpRoundTrip switch hardwareWarnings linkChange macNotify current desired) :
    TypedSnmp desired := by
  have hreceiver {wanted : SnmpTrapReceiver} (hwanted : wanted ∈ desired.trapReceivers) :=
    mem_receivers_stateAfter.mp ((h.receivers _).mpr (List.mem_map_of_mem hwanted))
  refine ⟨fun wanted hwanted => ?_, fun wanted hwanted => ?_, fun wanted hwanted => ?_⟩
  · obtain ⟨community, -, hentry⟩ := mem_communities_stateAfter.mp
      ((h.communities _).mpr (List.mem_map_of_mem hwanted))
    have hname : String.ofList (stripAnsi community.name.toList) = wanted.name :=
      congrArg Prod.fst hentry
    rw [← hname, String.toList_ofList]
    exact stripAnsi_typed community.name_typed
  · obtain ⟨receiver, -, hentry⟩ := hreceiver hwanted
    have hhost : receiver.host = wanted.host := congrArg Prod.fst hentry
    rw [← hhost]
    exact receiver.host_typed
  · obtain ⟨receiver, -, hentry⟩ := hreceiver hwanted
    obtain ⟨-, hcommunity⟩ := Prod.mk.inj hentry
    rw [← hcommunity, String.toList_ofList]
    exact (communityRead_typed (stripAnsi_typed receiver.community_typed)).1

/-- Its names are read as they are. -/
theorem SnmpRoundTrip.names
    (h : SnmpRoundTrip switch hardwareWarnings linkChange macNotify current desired)
    (hcurrent : NoSnmp current) (hdesired : effectiveSnmp switch.config = some desired) :
    ∀ community ∈ desired.communities,
      stripAnsi community.name.toList = community.name.toList := by
  have hafter {name : String} {access : SnmpAccess} :=
    @communities_snmpAfter switch current desired hcurrent hdesired h.typed name access
  have hfixed := @fixed_of_onto stripAnsi (desired.communities.map (·.name.toList))
    (fun text => stripAnsi_sublist.length_le)
    (fun text hlength => stripAnsi_sublist.eq_of_length hlength) ?_
  · exact fun community hmem => hfixed _ (List.mem_map_of_mem hmem)
  · rw [List.forall_mem_map]
    intro wanted hwanted
    obtain ⟨community, hmem, hentry⟩ := mem_communities_stateAfter.mp
      ((h.communities _).mpr (List.mem_map_of_mem hwanted))
    obtain ⟨source, hsource, -⟩ :=
      Option.map_eq_some_iff.mp (hafter.mp ⟨community, hmem, rfl, rfl⟩)
    obtain ⟨hsource, hname⟩ := lookup_some hsource
    refine ⟨source.name.toList, List.mem_map_of_mem hsource, ?_⟩
    have hread : String.ofList (stripAnsi community.name.toList) = wanted.name :=
      congrArg Prod.fst hentry
    rw [hname, ← hread, String.toList_ofList]

/-- The last entry under a key stands for all of them. -/
theorem SnmpRoundTrip.access
    (h : SnmpRoundTrip switch hardwareWarnings linkChange macNotify current desired)
    (hcurrent : NoSnmp current) (hdesired : effectiveSnmp switch.config = some desired)
    {wanted : SnmpCommunity} (hwanted : wanted ∈ desired.communities) :
    (lookup SnmpCommunity.name wanted.name desired.communities).map SnmpCommunity.access =
      some wanted.access := by
  have hafter {name : String} {access : SnmpAccess} :=
    @communities_snmpAfter switch current desired hcurrent hdesired h.typed name access
  obtain ⟨community, hmem, hentry⟩ := mem_communities_stateAfter.mp
    ((h.communities _).mpr (List.mem_map_of_mem hwanted))
  obtain ⟨hread, haccess⟩ := Prod.mk.inj hentry
  obtain ⟨source, hsource, -⟩ :=
    Option.map_eq_some_iff.mp (hafter.mp ⟨community, hmem, rfl, rfl⟩)
  obtain ⟨hsource, hname⟩ := lookup_some hsource
  have hsame : community.name = wanted.name := by
    rw [← hread, ← hname, h.names hcurrent hdesired source hsource, String.ofList_toList]
  exact hafter.mp ⟨community, hmem, hsame, haccess⟩

/-- So are the communities of its receivers. -/
theorem SnmpRoundTrip.receiver
    (h : SnmpRoundTrip switch hardwareWarnings linkChange macNotify current desired)
    (hcurrent : NoSnmp current) (hdesired : effectiveSnmp switch.config = some desired)
    {wanted : SnmpTrapReceiver} (hwanted : wanted ∈ desired.trapReceivers) :
    (lookup SnmpTrapReceiver.host wanted.host desired.trapReceivers).map
        SnmpTrapReceiver.community = some wanted.community ∧
      communityRead (stripAnsi wanted.community.toList) = wanted.community.toList := by
  have hafter {host community : String} :=
    @receivers_snmpAfter switch current desired hcurrent hdesired h.typed host community
  have hheld {wanted : SnmpTrapReceiver} (hwanted : wanted ∈ desired.trapReceivers) :
      ∃ last ∈ desired.trapReceivers, last.host = wanted.host ∧
        (lookup SnmpTrapReceiver.host wanted.host desired.trapReceivers).map
          SnmpTrapReceiver.community = some last.community ∧
        String.ofList (communityRead (stripAnsi last.community.toList)) = wanted.community := by
    obtain ⟨receiver, hmem, hentry⟩ := mem_receivers_stateAfter.mp
      ((h.receivers _).mpr (List.mem_map_of_mem hwanted))
    obtain ⟨hhost, hread⟩ := Prod.mk.inj hentry
    have hsome := hafter.mp ⟨receiver, hmem, hhost, rfl⟩
    obtain ⟨last, hlast, hcommunity⟩ := Option.map_eq_some_iff.mp hsome
    obtain ⟨hlast, hsame⟩ := lookup_some hlast
    exact ⟨last, hlast, hsame, by rw [hsome, hcommunity], by rw [hcommunity, hread]⟩
  -- what is held under the host is wanted as well, so that it is read as it is
  obtain ⟨last, hlast, hhost, hsome, hread⟩ := hheld hwanted
  obtain ⟨again, -, -, hagain, hreadAgain⟩ := hheld hlast
  rw [hhost, hsome, Option.some.injEq] at hagain
  rw [← hagain, hread] at hreadAgain
  rw [hreadAgain] at hread ⊢
  exact ⟨hsome, String.toList_ofList.symm.trans (congrArg String.toList hread)⟩

/-- So SNMP that comes back survives. -/
theorem SnmpRoundTrip.survives
    (h : SnmpRoundTrip switch hardwareWarnings linkChange macNotify current desired)
    (hcurrent : NoSnmp current) (hdesired : effectiveSnmp switch.config = some desired) :
    SnmpSurvives desired where
  names community hmem := ⟨h.typed.names community hmem, h.names hcurrent hdesired community hmem⟩
  accesses community hmem other hother hname := by
    have haccess := h.access hcurrent hdesired hmem
    rw [hname, h.access hcurrent hdesired hother] at haccess
    exact (Option.some.inj haccess).symm
  hosts := h.typed.hosts
  receiverNames receiver hmem := by
    have htyped := h.typed.receiverNames receiver hmem
    have hread := (h.receiver hcurrent hdesired hmem).2
    have hlength := (communityRead_typed (stripAnsi_typed htyped)).2
    rw [hread] at hlength
    have hescape : stripAnsi receiver.community.toList = receiver.community.toList :=
      stripAnsi_sublist.eq_of_length_le hlength
    rw [hescape] at hread
    exact ⟨htyped, hescape, (trimQuotes_collapse_iff htyped.2).mp hread⟩
  oneCommunity receiver hmem other hother hhost := by
    have hcommunity := (h.receiver hcurrent hdesired hmem).1
    rw [hhost, (h.receiver hcurrent hdesired hother).1] at hcommunity
    exact (Option.some.inj hcommunity).symm

/-- The SNMP settings of an accepted Aruba switch come back exactly if all strings survive. -/
theorem snmp_round_trip_iff (hvalid : (validateSwitchConfig env).Succeeds raw switch.config)
    (hvendor : switch.config.model.map SwitchModel.vendor = some .aruba)
    (hdesired : effectiveSnmp switch.config = some desired) (hcurrent : NoSnmp current) :
    SnmpRoundTrip switch hardwareWarnings linkChange macNotify current desired ↔
      SnmpSurvives desired :=
  ⟨fun h => h.survives hcurrent hdesired, fun h => h.roundTrip hcurrent hdesired
    (allowedHosts_of_accepted hvalid hvendor hdesired)⟩

end Main

/-- A switch that is read by one system and reports to it. -/
def watchedSnmp (community : String) : SnmpConfig where
  communities := [{ name := "lab read", access := .operator }]
  trapReceivers := [{ host := "192.0.2.9", community := community }]

def watchedSwitch (community : String) : SwitchConfig where
  id := "sw1"
  hostname := some "sw1"
  model := some .aruba2930F
  managementIp := some "192.0.2.1"
  credentials := some { username := "admin" }
  vlans := [{ id := 10, name := "Office" }]
  snmp := some (watchedSnmp community)

theorem accepted_watchedSwitch : (validateSwitchConfig plainEnvironment).Succeeds
    (watchedSwitch "lab traps") (watchedSwitch "lab traps") :=
  show validateSwitchConfig plainEnvironment _ = (_, .ok ()) by decide +kernel

theorem snmp_round_trip_iff_watched :
    SnmpRoundTrip { config := watchedSwitch "lab traps" } (fun _ => []) true false {}
        (watchedSnmp "lab traps") ↔ SnmpSurvives (watchedSnmp "lab traps") :=
  snmp_round_trip_iff accepted_watchedSwitch rfl rfl ⟨rfl, rfl⟩

/-- Of two blanks in a community only one is read. -/
theorem blank_lost :
    (validateSwitchConfig plainEnvironment).Succeeds (watchedSwitch "lab  traps")
        (watchedSwitch "lab  traps") ∧
      ¬SnmpRoundTrip { config := watchedSwitch "lab  traps" } (fun _ => []) false false {}
        (watchedSnmp "lab  traps") := by
  refine ⟨show validateSwitchConfig plainEnvironment _ = (_, .ok ()) by decide +kernel, fun h => ?_⟩
  have hsurvives := h.survives ⟨rfl, rfl⟩ rfl
  have hblanks := (hsurvives.receiverNames _ List.mem_cons_self).2.2
  exact absurd hblanks (by decide)

end SwitchConfigurator.Aruba
