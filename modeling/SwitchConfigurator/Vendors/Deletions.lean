import SwitchConfigurator.Vendors.Aruba.Device
import SwitchConfigurator.Vendors.Cisco.Device
import SwitchConfigurator.Vendors.Fortiswitch.Commands

/-!
# Deletion of VLANs

What the ports are members of each time an `apply_diff` deletes a VLAN.
-/

namespace SwitchConfigurator

open Cli

/-- A state as it is read: the readers collect the ports in a map, so each is there once. -/
structure ReadState where
  state : SwitchState
  nodup : (state.ports.map Port.portId).Nodup

section Deletion

variable {κ σ : Type} {Deletes : κ → ℕ → Prop} {Populated : σ → ℕ → Prop} {step : κ → σ → σ}
variable {s : σ} {commands commands' : List κ} {ids : List ℕ}

/-- A VLAN is deleted only when no port is a member of it. -/
def DeletionAllowed (Deletes : κ → ℕ → Prop) (Populated : σ → ℕ → Prop) (command : κ) (s : σ) :
    Prop :=
  ∀ id, Deletes command id → ¬Populated s id

def DeletesNothing (Deletes : κ → ℕ → Prop) (commands : List κ) : Prop :=
  ∀ c ∈ commands, ∀ id, ¬Deletes c id

namespace DeletesNothing

theorem nil : DeletesNothing Deletes [] := by simp [DeletesNothing]

theorem append (h : DeletesNothing Deletes commands) (h' : DeletesNothing Deletes commands') :
    DeletesNothing Deletes (commands ++ commands') := List.forall_mem_append.mpr ⟨h, h'⟩

/-- Parts that delete nothing delete nothing together. -/
theorem flatMap {α : Type} {f : α → List κ} {l : List α} (h : ∀ a, DeletesNothing Deletes (f a)) :
    DeletesNothing Deletes (l.flatMap f) := by
  intro c hc
  obtain ⟨a, -, hc⟩ := List.mem_flatMap.mp hc
  exact h a c hc

theorem map {α : Type} {f : α → κ} {l : List α} (h : ∀ a id, ¬Deletes (f a) id) :
    DeletesNothing Deletes (l.map f) := by
  intro c hc
  obtain ⟨a, -, rfl⟩ := List.mem_map.mp hc
  exact h a

theorem ite {p : Prop} [Decidable p] (h : DeletesNothing Deletes commands)
    (h' : DeletesNothing Deletes commands') :
    DeletesNothing Deletes (if p then commands else commands') := by
  split
  · exact h
  · exact h'

/-- Where nothing is deleted, nothing wrong is. -/
theorem guarded (h : DeletesNothing Deletes commands) :
    Guarded step (DeletionAllowed Deletes Populated) s commands :=
  guarded_of_forall fun command hcommand _ id hid => absurd hid (h command hcommand id)

end DeletesNothing

/-- Where only the commands in the middle delete VLANs, and leave the ports as they find them, the
ports have to be out of these VLANs by then. -/
theorem guarded_deletion_iff {before deletion later : List κ}
    (hbefore : DeletesNothing Deletes before) (hlater : DeletesNothing Deletes later)
    (hdeletes : ∀ id, (∃ c ∈ deletion, Deletes c id) ↔ id ∈ ids)
    (hkeeps : ∀ c ∈ deletion, ∀ s, Populated (step c s) = Populated s) :
    Guarded step (DeletionAllowed Deletes Populated) s (before ++ (deletion ++ later)) ↔
      ∀ id ∈ ids, ¬Populated (run step s before) id := by
  have hallowed : ∀ c ∈ deletion, ∀ s, DeletionAllowed Deletes Populated c s ↔
      ∀ id, Deletes c id → ¬Populated s id := fun _ _ _ => Iff.rfl
  have hmiddle : Guarded step (DeletionAllowed Deletes Populated) (run step s before) deletion ↔
      ∀ c ∈ deletion, ∀ id, Deletes c id → ¬Populated (run step s before) id :=
    guarded_iff_of_view (p := fun c populated => ∀ id, Deletes c id → ¬populated id) hkeeps hallowed
  rw [guarded_append, guarded_append, and_iff_right hbefore.guarded, and_iff_left hlater.guarded,
    hmiddle]
  constructor
  · intro h id hid
    obtain ⟨c, hc, hdelete⟩ := (hdeletes id).mpr hid
    exact h c hc id hdelete
  · intro h c hc id hdelete
    exact h id ((hdeletes id).mp ⟨c, hc, hdelete⟩)

/-- An apply that first moves ports, then deletes VLANs and then does the rest. -/
theorem guarded_sent_iff {ports : List Port} {migrations : List PortMigration}
    {migrate : List PortMigration → List κ} {deletion : List κ} {later : Steps κ}
    {Member : Port → ℕ → Prop} (hmigrate : DeletesNothing Deletes (migrate migrations))
    (hlater : DeletesNothing Deletes later.sent)
    (hdeletes : ∀ id, (∃ c ∈ deletion, Deletes c id) ↔ id ∈ ids)
    (hkeeps : ∀ c ∈ deletion, ∀ s, Populated (step c s) = Populated s)
    (hmember : ∀ id, Populated (run step s (if migrations.isEmpty then [] else migrate migrations))
      id ↔ ∃ port ∈ ports, Member port id) :
    Guarded step (DeletionAllowed Deletes Populated) s
      (Steps.sent ((if ids.isEmpty then []
        else Steps.ifAny migrations migrate ++ [Except.ok deletion]) ++ later)) ↔
      ∀ port ∈ ports, ∀ id ∈ ids, ¬Member port id := by
  cases hids : ids.isEmpty with
  | true =>
    rw [List.isEmpty_iff.mp hids, if_pos rfl, List.nil_append, iff_true_left hlater.guarded]
    intro _ _ id hid
    cases hid
  | false =>
    have hbefore : DeletesNothing Deletes (if migrations.isEmpty then [] else migrate migrations) :=
      .ite .nil hmigrate
    rw [if_neg Bool.false_ne_true, List.append_assoc, Steps.sent_ifAny_append,
      List.singleton_append, Steps.sent_ok, guarded_deletion_iff hbefore hlater hdeletes hkeeps]
    constructor
    · intro h port hport id hid hmem
      exact h id hid ((hmember id).mpr ⟨port, hport, hmem⟩)
    · intro h id hid hpopulated
      obtain ⟨port, hport, hmem⟩ := (hmember id).mp hpopulated
      exact h port hport id hid hmem

end Deletion

/-! ## Aruba -/

namespace Aruba

def DevicePort.ofPort (port : Port) : DevicePort :=
  { untagged := port.vlan, tagged := Diff.taggedWithoutNative port }

/-- The membership that a state was read from. -/
def Device.ofState (state : SwitchState) : Device :=
  { ports := state.ports.map fun port => (port.portId, .ofPort port) }

def DevicePort.Member (id : ℕ) (port : DevicePort) : Prop :=
  port.untagged = id ∨ id ∈ port.tagged

def Device.Populated (device : Device) (id : ℕ) : Prop :=
  ∃ entry ∈ device.ports, entry.2.Member id

def Command.Deletes (command : Command) (id : ℕ) : Prop := command = .noVlan id

section DeletesNothing

variable {switch : ArubaSwitch} {commands : List Command} {vlans : List Vlan} {port : Port}
variable {mirrors : List PortMirror} {snmp : SnmpConfig} {diff : StateDiff}

theorem deletesNothing_configured (h : DeletesNothing Command.Deletes commands) :
    DeletesNothing Command.Deletes (configured commands) := by
  rw [configured, DeletesNothing, List.forall_mem_cons, List.forall_mem_append]
  exact ⟨by simp [Command.Deletes], h, by simp [Command.Deletes]⟩

theorem deletesNothing_generateVlanCommands :
    DeletesNothing Command.Deletes (generateVlanCommands vlans) := by
  refine deletesNothing_configured (.flatMap fun vlan => ?_)
  cases hip : vlan.ipConfig <;>
    simp [DeletesNothing, vlanCommands, ipCommand, hip, Command.Deletes]

/-- The membership of a port deletes no VLAN. -/
theorem deletesNothing_vlanMembershipCommands :
    DeletesNothing Command.Deletes (vlanMembershipCommands switch port) := by
  have huntagged (ids : List ℕ) : DeletesNothing Command.Deletes
      (.untaggedVlan port.vlan :: ids.map .noTaggedVlan) := by
    simp [DeletesNothing, Command.Deletes]
  rw [vlanMembershipCommands]
  cases port.inferredMode with
  | access => exact huntagged _
  | trunk => exact .append (huntagged _) (.ite .nil (by simp [DeletesNothing, Command.Deletes]))

/-- To configure a port deletes no VLAN. -/
theorem deletesNothing_portCommands :
    DeletesNothing Command.Deletes (portCommands switch mirrors port) := by
  refine .append (.append (.append (.append (.append (.append (.append (.append ?_ ?_)
    deletesNothing_vlanMembershipCommands) ?_) ?_) ?_) ?_) ?_) ?_
  · simp [DeletesNothing, Command.Deletes]
  · rw [descriptionCommands]
    split
    · simp [DeletesNothing, Command.Deletes]
    · exact .ite (by simp [DeletesNothing, Command.Deletes]) .nil
  · cases port.enabled <;> simp [DeletesNothing, Command.Deletes]
  · refine .ite (.ite ?_ ?_) .nil <;> simp [DeletesNothing, Command.Deletes]
  · refine .ite ?_ ?_ <;> simp [DeletesNothing, Command.Deletes]
  · simp [DeletesNothing, Command.Deletes]
  · refine .ite (.ite .nil ?_) (.map ?_) <;> simp [DeletesNothing, Command.Deletes]
  · simp [DeletesNothing, Command.Deletes]

theorem deletesNothing_resetPort {portId : String} :
    DeletesNothing Command.Deletes (resetPort switch portId) := by
  refine .append (.append (.append (.append ?_ (.map ?_)) ?_) (.ite ?_ .nil)) ?_ <;>
    simp [DeletesNothing, Command.Deletes]

theorem deletesNothing_generateMirrorCommands :
    DeletesNothing Command.Deletes (generateMirrorCommands switch mirrors) := by
  refine deletesNothing_configured (.map fun mirror id => ?_)
  rw [mirrorCommand]
  split <;> simp [Command.Deletes]

theorem deletesNothing_configureSnmp :
    DeletesNothing Command.Deletes (configureSnmp switch snmp) := by
  refine .append (.ite .nil (deletesNothing_configured (.map fun receiver id => ?_)))
    (deletesNothing_configured ?_)
  · obtain ⟨host, community⟩ := receiver
    cases community <;> simp [removeReceiver, Command.Deletes]
  · refine .append (.append (.append (.append (.map ?_) ?_) (.map ?_)) (.map ?_)) (.map ?_) <;>
      simp [DeletesNothing, communityCommand, receiverCommand, Command.Deletes]

theorem deletesNothing_applySnmpDiff {snmpDiff : SnmpStateDiff} :
    DeletesNothing Command.Deletes (applySnmpDiff snmpDiff) := by
  refine .ite .nil (deletesNothing_configured (.append (.append (.append (.append (.append (.append
    (.map ?_) (.flatMap ?_)) (.map ?_)) (.map ?_)) (.map ?_)) (.flatMap fun trap => ?_))
    (.flatMap fun trap => ?_)))
  · simp [Command.Deletes]
  · simp [DeletesNothing, communityCommand, Command.Deletes]
  · simp [communityCommand, Command.Deletes]
  · simp [Command.Deletes]
  · simp [receiverCommand, Command.Deletes]
  · cases trap <;> simp [DeletesNothing, enableTrapCommands, Command.Deletes]
  · cases trap <;> simp [DeletesNothing, disableTrapCommands, Command.Deletes]

/-- To migrate ports deletes no VLAN. -/
theorem deletesNothing_migrate {migrations : List PortMigration} :
    DeletesNothing Command.Deletes (migratePortsBeforeVlanDeletion migrations) := by
  refine deletesNothing_configured (.flatMap fun group =>
    .append (.append (.append ?_ (.ite .nil ?_)) (.ite .nil ?_)) ?_) <;>
    simp [DeletesNothing, Command.Deletes]

/-- Behind the VLANs nothing deletes any. -/
theorem deletesNothing_laterSteps :
    DeletesNothing Command.Deletes (laterSteps switch diff).sent := by
  apply Steps.sent_induction .nil .append
  intro commands hcommands
  simp only [laterSteps, List.mem_append, Steps.ok_mem_ifAny] at hcommands
  rcases hcommands with ((((((((⟨-, rfl⟩ | ⟨-, rfl⟩) | ⟨-, rfl⟩) | ⟨-, rfl⟩) | ⟨-, rfl⟩) |
    ⟨-, rfl⟩) | ⟨-, rfl⟩) | ⟨-, rfl⟩) | hsnmp) | hmanagement
  · exact deletesNothing_generateVlanCommands
  · exact deletesNothing_generateVlanCommands
  · exact deletesNothing_configured (.flatMap fun _ => deletesNothing_portCommands)
  · exact deletesNothing_configured (.flatMap fun _ => deletesNothing_resetPort)
  · exact deletesNothing_configured
      (.flatMap fun _ => by simp [DeletesNothing, Command.Deletes])
  · exact deletesNothing_configured (.map fun _ _ => by simp [Command.Deletes])
  · exact deletesNothing_generateMirrorCommands
  · exact deletesNothing_generateMirrorCommands
  · rcases Steps.mem_snmp.mp hsnmp with ⟨snmpDiff, -, -, h⟩ | ⟨-, -, snmp, -, h⟩
    · obtain rfl := Except.ok.inj h
      exact deletesNothing_applySnmpDiff
    · obtain rfl := Except.ok.inj h
      exact deletesNothing_configureSnmp
  · obtain ⟨-, ⟨vlanId, -, h⟩ | ⟨-, h⟩⟩ := Steps.mem_managementVlan.mp hmanagement
    · obtain rfl := Except.ok.inj h
      exact deletesNothing_configured (by simp [DeletesNothing, Command.Deletes])
    · obtain rfl := Except.ok.inj h
      exact deletesNothing_configured (by simp [DeletesNothing, Command.Deletes])

end DeletesNothing

/-! ### What the migrations do to a port -/

section Migration

variable {portId : String} {port : DevicePort}

/-- A port out of the VLAN of a group, where the group names it. -/
def outOf (portId : String) (group : ℕ × VlanMembers) (port : DevicePort) : DevicePort :=
  let port := if portId ∈ group.2.1 then port.leaveUntagged group.1 else port
  if portId ∈ group.2.2 then port.removeTagged group.1 else port

/-- A group of ports leaves its VLAN. -/
theorem portRun_cleanVlan {group : ℕ × VlanMembers} :
    portRun portId .top port (cleanVlan group) = outOf portId group port := by
  obtain ⟨id, untagged, tagged⟩ := group
  cases untagged <;> cases tagged <;>
    simp [cleanVlan, outOf, Command.change, Command.onMember, Command.enter]

theorem enter_cleanVlan {group : ℕ × VlanMembers} : enter .top (cleanVlan group) = .top := by
  rw [cleanVlan, enter_append]
  rfl

theorem portRun_configured {body : List Command} :
    portRun portId .top port (configured body) = portRun portId .top port body := by
  rw [configured, portRun_cons, portRun_append]
  cases h : enter .top body <;> simp [Command.change, Command.onMember, Command.onPort,
    Command.enter, h]

/-- Each port goes through the groups that it is in. -/
theorem portRun_migrate {migrations : List PortMigration} :
    portRun portId .top port (migratePortsBeforeVlanDeletion migrations) =
      run (outOf portId) port (groupMigrations migrations) := by
  rw [migratePortsBeforeVlanDeletion, portRun_configured,
    portRun_flatMap fun _ _ => enter_cleanVlan]
  simp only [portRun_cleanVlan]
  rfl

/-- A port is taken out of one VLAN, that of its migration. -/
theorem run_outOf {migrations : List PortMigration} {migration : PortMigration}
    (h : ∀ other, other ∈ migrations ∧ other.portId = portId ↔ other = migration) :
    run (outOf portId) port (groupMigrations migrations) =
      if migration.action = .moveAccessToVlan1 then port.leaveUntagged migration.vlanBeingRemoved
      else port.removeTagged migration.vlanBeingRemoved := by
  have hmem (id : ℕ) (untagged : Bool) : portId ∈ portsLeaving migrations id untagged ↔
      migration.vlanBeingRemoved = id ∧
        (migration.action == .moveAccessToVlan1) = untagged := by
    obtain ⟨hmem, hid⟩ := (h migration).mpr rfl
    constructor
    · intro hleaving
      obtain ⟨other, hother, hsame⟩ := List.mem_map.mp hleaving
      obtain ⟨hother, hleaves⟩ := List.mem_filter.mp hother
      obtain rfl := (h other).mp ⟨hother, hsame⟩
      simpa using hleaves
    · rintro ⟨hvlan, haction⟩
      refine List.mem_map.mpr ⟨migration, List.mem_filter.mpr ⟨hmem, ?_⟩, hid⟩
      simpa using ⟨hvlan, haction⟩
  -- the port is in one group alone; the other groups pass it by
  have hother (id : ℕ) (hne : id ≠ migration.vlanBeingRemoved) (port : DevicePort) :
      outOf portId (id, (portsLeaving migrations id true, portsLeaving migrations id false)) port =
        port := by
    simp [outOf, hmem, hne.symm]
  have hgroups : run (outOf portId) port (groupMigrations migrations) =
      run (fun id => outOf portId
        (id, (portsLeaving migrations id true, portsLeaving migrations id false))) port
        (migrations.map (·.vlanBeingRemoved)).dedup := by
    rw [run, groupMigrations, List.foldl_map]
    rfl
  have hgroup : migration.vlanBeingRemoved ∈ (migrations.map (·.vlanBeingRemoved)).dedup :=
    List.mem_dedup.mpr (List.mem_map_of_mem ((h migration).mpr rfl).1)
  rw [hgroups, run_eq_step (List.nodup_dedup _) hgroup fun id _ hne => hother id hne]
  by_cases haction : migration.action = .moveAccessToVlan1 <;> simp [outOf, hmem, haction]

/-- A port without migration is left alone. -/
theorem run_outOf_of_not_mem {migrations : List PortMigration}
    (h : ∀ migration ∈ migrations, migration.portId ≠ portId) :
    run (outOf portId) port (groupMigrations migrations) = port := by
  have hmem (id : ℕ) (untagged : Bool) : portId ∉ portsLeaving migrations id untagged := by
    intro hleaving
    obtain ⟨other, hother, hsame⟩ := List.mem_map.mp hleaving
    exact h other (List.mem_filter.mp hother).1 hsame
  apply run_eq_self
  intro group hgroup port
  obtain ⟨id, -, rfl⟩ := List.mem_map.mp hgroup
  simp [outOf, hmem]

/-- A port as the migrations of an apply leave it. -/
def migrated (removed : List ℕ) (port : Port) : DevicePort :=
  match Diff.portMigration removed port with
  | some migration =>
    if migration.action = .moveAccessToVlan1 then
      (DevicePort.ofPort port).leaveUntagged migration.vlanBeingRemoved
    else (DevicePort.ofPort port).removeTagged migration.vlanBeingRemoved
  | none => .ofPort port

/-- Each port goes through the migrations that were found for it. -/
theorem portRun_migrate_findPortsToMigrate {current : ReadState} {removed : List ℕ} {port : Port}
    (hport : port ∈ current.state.ports) :
    portRun port.portId .top (.ofPort port) (migratePortsBeforeVlanDeletion
      (Diff.findPortsToMigrate current.state removed)) = migrated removed port := by
  have hmem (migration : PortMigration) :=
    @Diff.mem_findPortsToMigrate_iff _ removed _ migration current.nodup hport
  rw [portRun_migrate, migrated]
  cases hone : Diff.portMigration removed port with
  | none =>
    apply run_outOf_of_not_mem
    intro migration hmigration hid
    rw [(hmem migration).mp ⟨hmigration, hid⟩] at hone
    cases hone
  | some migration =>
    apply run_outOf
    intro other
    rw [hmem, hone, Option.some_inj, eq_comm]

/-- No VLAN that goes away has the port afterwards. An access port is always moved; a trunk only
ever leaves one of the VLANs it is tagged in, and never the one it is untagged in. -/
def Clears (removed : List ℕ) (port : Port) : Prop :=
  port.inferredMode = .trunk → port.vlan ∉ removed ∧
    ∀ v ∈ port.taggedVlans, ∀ w ∈ port.taggedVlans, v ∈ removed → w ∈ removed → v = w

instance {removed : List ℕ} {port : Port} : Decidable (Clears removed port) :=
  inferInstanceAs (Decidable (_ → _))

/-- An access port has left every VLAN that is removed. -/
theorem not_member_migrated_iff_access {removed : List ℕ} {port : Port}
    (hmode : port.inferredMode = .access) (hdefault : 1 ∉ removed) :
    ∀ id ∈ removed, ¬(migrated removed port).Member id := by
  have htagged : Diff.taggedWithoutNative port = [] := by
    rw [Port.inferredMode] at hmode
    split at hmode
    · next hempty => rw [Diff.taggedWithoutNative, List.isEmpty_iff.mp hempty, List.filter_nil]
    · cases hmode
  intro id hid
  rw [migrated, Diff.portMigration_access hmode]
  cases hfind : removed.find? (port.vlan == ·) with
  | none =>
    have hvlan := List.find?_eq_none.mp hfind id hid
    simpa [DevicePort.Member, DevicePort.ofPort, htagged] using hvlan
  | some first =>
    have hfirst : port.vlan = first := by simpa using List.find?_some hfind
    have hne : 1 ≠ id := fun h => hdefault (h ▸ hid)
    simp [DevicePort.Member, DevicePort.ofPort, DevicePort.leaveUntagged, DevicePort.untag, htagged,
      hfirst, hne]

/-- A trunk has left all removed VLANs exactly if it clears them. -/
theorem not_member_migrated_iff_trunk {removed : List ℕ} {port : Port}
    (hmode : port.inferredMode = .trunk) :
    (∀ id ∈ removed, ¬(migrated removed port).Member id) ↔ Clears removed port := by
  rw [migrated, Diff.portMigration_trunk hmode, Clears]
  simp only [hmode, forall_const]
  cases hfind : removed.find? (port.taggedVlans.contains ·) with
  | none =>
    have hnone : ∀ id ∈ removed, id ∉ port.taggedVlans := by simpa using hfind
    simp only [Option.map_none, DevicePort.Member, DevicePort.ofPort, Diff.taggedWithoutNative,
      List.mem_filter, bne_iff_ne, ne_eq]
    constructor
    · intro h
      exact ⟨fun hvlan => h _ hvlan (.inl rfl), fun v hv _ _ hremoved =>
        absurd hv (hnone v hremoved)⟩
    · rintro ⟨hvlan, -⟩ id hid (rfl | ⟨htagged, -⟩)
      · exact hvlan hid
      · exact hnone id hid htagged
  | some first =>
    have hfirst : first ∈ port.taggedVlans := by simpa using List.find?_some hfind
    have hremoved : first ∈ removed := List.mem_of_find?_eq_some hfind
    simp only [Option.map_some, reduceCtorEq, if_false, DevicePort.Member, DevicePort.removeTagged,
      DevicePort.ofPort, Diff.taggedWithoutNative, List.mem_filter, bne_iff_ne, ne_eq]
    constructor
    · intro h
      have hvlan : port.vlan ∉ removed := fun hvlan => h _ hvlan (.inl rfl)
      -- only the first removed VLAN is taken off the trunk, so it must be the only one
      have honly (v : ℕ) (hv : v ∈ port.taggedVlans) (hgone : v ∈ removed) : v = first := by
        by_contra hne
        exact h v hgone (.inr ⟨⟨hv, fun heq => hvlan (heq ▸ hgone)⟩, hne⟩)
      exact ⟨hvlan, fun v hv w hw hgone hgone' =>
        (honly v hv hgone).trans (honly w hw hgone').symm⟩
    · rintro ⟨hvlan, honly⟩ id hid (rfl | ⟨⟨htagged, -⟩, hne⟩)
      · exact hvlan hid
      · exact hne (honly id htagged first hfirst hid hremoved)

/-- So has any port. -/
theorem not_member_migrated_iff {removed : List ℕ} {port : Port} (hdefault : 1 ∉ removed) :
    (∀ id ∈ removed, ¬(migrated removed port).Member id) ↔ Clears removed port := by
  cases hmode : port.inferredMode with
  | access =>
    refine iff_of_true (not_member_migrated_iff_access hmode hdefault) fun htrunk => ?_
    rw [hmode] at htrunk
    cases htrunk
  | trunk => exact not_member_migrated_iff_trunk hmode

end Migration

/-- The VLANs that are deleted are those to be removed. -/
theorem deletes_removeVlans {ids : List ℕ} (id : ℕ) :
    (∃ c ∈ generateRemoveVlanCommands ids, c.Deletes id) ↔ id ∈ ids := by
  simp [generateRemoveVlanCommands, configured, Command.Deletes]

/-- To delete VLANs moves no port. -/
theorem populated_removeVlans {ids : List ℕ} :
    ∀ c ∈ generateRemoveVlanCommands ids, ∀ device : Device,
      (Device.step c device).Populated = device.Populated := by
  intro c hc device
  have hnothing (entry : String × DevicePort) :
      c.change device.context entry.1 entry.2 = entry.2 := by
    simp only [generateRemoveVlanCommands, configured, List.mem_cons, List.mem_append,
      List.mem_map, List.not_mem_nil, or_false] at hc
    rcases hc with rfl | ⟨id, -, rfl⟩ | rfl <;> cases device.context <;>
      simp [Command.change, Command.onMember, Command.onPort]
  funext id
  simp [Device.step, Device.Populated, hnothing]

/-- A VLAN is in use exactly if some port has not left it. -/
theorem populated_run_iff {current : ReadState} {removed : List ℕ} {before : List Command}
    (h : ∀ port ∈ current.state.ports,
      portRun port.portId .top (.ofPort port) before = migrated removed port) (id : ℕ) :
    (run Device.step (.ofState current.state) before).Populated id ↔
      ∃ port ∈ current.state.ports, (migrated removed port).Member id := by
  rw [Device.Populated, run_ports, Device.ofState, List.map_map]
  constructor
  · rintro ⟨entry, hentry, hmember⟩
    obtain ⟨port, hport, rfl⟩ := List.mem_map.mp hentry
    exact ⟨port, hport, h port hport ▸ hmember⟩
  · rintro ⟨port, hport, hmember⟩
    rw [← h port hport] at hmember
    exact ⟨_, List.mem_map_of_mem hport, hmember⟩

/-- Every VLAN that an apply deletes is without ports by then exactly when its migrations get each
port out of all of them. -/
theorem guarded_applyDiff_iff {config : SwitchConfig} {shown : ShownSnmp} {current : ReadState}
    {diff : StateDiff} :
    Guarded Device.step (DeletionAllowed Command.Deletes Device.Populated)
      (.ofState current.state)
      (applyDiff { config, shownSnmp := shown, currentState := some current.state } diff).sent ↔
      ∀ port ∈ current.state.ports, Clears (diff.vlansToRemove.filter (· != 1)) port := by
  rw [applyDiff, removeVlans]
  generalize hremoved : diff.vlansToRemove.filter (· != 1) = removed
  have hdefault : 1 ∉ removed := by simp [← hremoved]
  have hmigrate {port : Port} (hport : port ∈ current.state.ports) :=
    @portRun_migrate_findPortsToMigrate current removed port hport
  refine (guarded_sent_iff deletesNothing_migrate deletesNothing_laterSteps deletes_removeVlans
    populated_removeVlans (populated_run_iff ?_)).trans
    (forall₂_congr fun port _ => not_member_migrated_iff hdefault)
  intro port hport
  rw [← hmigrate hport]
  split
  · next hnone => rw [List.isEmpty_iff.mp hnone]; rfl
  · rfl

end Aruba

/-! ## Cisco -/

namespace Cisco

open Command

def DevicePort.ofPort (port : Port) : DevicePort :=
  match port.inferredMode with
  | .access => { access := port.vlan }
  | .trunk => { mode := .trunk, native := port.vlan, allowed := .only port.taggedVlans }

/-- The membership that a state was read from. -/
def Device.ofState (state : SwitchState) : Device :=
  { ports := state.ports.map fun port => (port.portId, .ofPort port) }

def Device.Populated (device : Device) (id : ℕ) : Prop :=
  ∃ entry ∈ device.ports, entry.2.Member id

def Command.Deletes (command : Command) (id : ℕ) : Prop := command = .noVlan id

section DeletesNothing

variable {switch : CiscoSwitch} {commands : List Command} {vlans : List Vlan}
variable {mirrors : List PortMirror} {snmp : SnmpConfig} {diff : StateDiff}

theorem deletesNothing_configured (h : DeletesNothing Command.Deletes commands) :
    DeletesNothing Command.Deletes (configured commands) := by
  rw [configured, DeletesNothing, List.forall_mem_cons, List.forall_mem_append]
  exact ⟨by simp [Command.Deletes], h, by simp [Command.Deletes]⟩

theorem deletesNothing_generateVlanCommands :
    DeletesNothing Command.Deletes (generateVlanCommands vlans) := by
  refine deletesNothing_configured (.flatMap fun vlan => .append (.append ?_ (.map ?_)) ?_) <;>
    simp [DeletesNothing, Command.Deletes]

theorem deletesNothing_portCommands {port : Port} :
    DeletesNothing Command.Deletes (portCommands port) := by
  refine .append (.append (.append (.append (.append (.append ?_ (.map ?_)) ?_) ?_) ?_)
    (.ite ?_ ?_)) ?_
  · simp [DeletesNothing, Command.Deletes]
  · simp [Command.Deletes]
  · rw [vlanSettings]
    cases port.inferredMode <;> simp [DeletesNothing, Command.Deletes]
  · cases port.enabled <;> simp [DeletesNothing, Command.Deletes]
  · simp [DeletesNothing, Command.Deletes]
  · simp [DeletesNothing, Command.Deletes]
  · simp [DeletesNothing, Command.Deletes]
  · simp [DeletesNothing, Command.Deletes]

theorem deletesNothing_generateMirrorCommands :
    DeletesNothing Command.Deletes (generateMirrorCommands mirrors) := by
  refine deletesNothing_configured (.flatMap fun mirror => .append (.append ?_ (.map ?_)) ?_) <;>
    simp [DeletesNothing, Command.Deletes]

theorem deletesNothing_generateSnmpCommands :
    DeletesNothing Command.Deletes (generateSnmpCommands snmp) := by
  refine deletesNothing_configured (.append (.append (.map ?_) (.map ?_)) (.map ?_)) <;>
    simp [communityCommand, receiverCommand, Command.Deletes]

theorem deletesNothing_applySnmpDiff {snmpDiff : SnmpStateDiff} :
    DeletesNothing Command.Deletes (applySnmpDiff snmpDiff) := by
  refine .ite .nil (deletesNothing_configured (.append (.append (.append (.append (.append (.append
    (.map ?_) (.flatMap ?_)) (.map ?_)) (.map ?_)) (.map ?_)) (.map ?_)) (.map ?_))) <;>
    simp [DeletesNothing, communityCommand, receiverCommand, Command.Deletes]

theorem deletesNothing_migrate {migrations : List PortMigration} :
    DeletesNothing Command.Deletes (migratePortsBeforeVlanDeletion migrations) := by
  refine deletesNothing_configured (.flatMap fun migration => ?_)
  rw [migrationCommands]
  split
  · simp [DeletesNothing, Command.Deletes]
  · split <;> simp [DeletesNothing, Command.Deletes]

theorem deletesNothing_configureManagementVlan {vlanId : ℕ}
    (h : configureManagementVlan switch vlanId = .ok commands) :
    DeletesNothing Command.Deletes commands := by
  rw [configureManagementVlan] at h
  split at h
  · cases h
  · next vlan _ =>
    obtain rfl := Except.ok.inj h
    refine deletesNothing_configured ?_
    cases vlan.ipConfig <;> simp [DeletesNothing, managementIpCommands, Command.Deletes]

theorem deletesNothing_laterSteps :
    DeletesNothing Command.Deletes (laterSteps switch diff).sent := by
  apply Steps.sent_induction .nil .append
  intro commands hcommands
  simp only [laterSteps, List.mem_append, Steps.ok_mem_ifAny] at hcommands
  rcases hcommands with ((((((((⟨-, rfl⟩ | ⟨-, rfl⟩) | ⟨-, rfl⟩) | ⟨-, rfl⟩) | ⟨-, rfl⟩) |
    ⟨-, rfl⟩) | ⟨-, rfl⟩) | ⟨-, rfl⟩) | hsnmp) | hmanagement
  · exact deletesNothing_generateVlanCommands
  · exact deletesNothing_generateVlanCommands
  · exact deletesNothing_configured (.flatMap fun _ => deletesNothing_portCommands)
  · exact deletesNothing_configured
      (.flatMap fun _ => by simp [DeletesNothing, resetPort, Command.Deletes])
  · exact deletesNothing_configured
      (.flatMap fun _ => by simp [DeletesNothing, Command.Deletes])
  · exact deletesNothing_configured (.map fun _ _ => by simp [Command.Deletes])
  · exact deletesNothing_generateMirrorCommands
  · exact deletesNothing_generateMirrorCommands
  · rcases Steps.mem_snmp.mp hsnmp with ⟨snmpDiff, -, -, h⟩ | ⟨-, -, snmp, -, h⟩
    · obtain rfl := Except.ok.inj h
      exact deletesNothing_applySnmpDiff
    · obtain rfl := Except.ok.inj h
      exact deletesNothing_generateSnmpCommands
  · obtain ⟨-, ⟨vlanId, -, h⟩ | ⟨-, h⟩⟩ := Steps.mem_managementVlan.mp hmanagement
    · exact deletesNothing_configureManagementVlan h.symm
    · obtain rfl := Except.ok.inj h
      exact .nil

end DeletesNothing

/-! ### What the migrations do to a port -/

section Migration

variable {portId : String} {interface : Option String} {port : DevicePort}

/-- A port after a migration. -/
def moved (portId : String) (migration : PortMigration) (port : DevicePort) : DevicePort :=
  if migration.portId = portId then
    match migration.action with
    | .moveAccessToVlan1 => { port with access := 1 }
    | .removeVlanFromTrunk remainingVlans =>
      if remainingVlans.isEmpty then { port with mode := .access, access := 1 }
      else { port with allowed := .only remainingVlans }
  else port

theorem portRun_migrationCommands {migration : PortMigration} :
    portRun portId interface port (migrationCommands migration) = moved portId migration port := by
  rw [migrationCommands, moved]
  cases migration.action with
  | moveAccessToVlan1 =>
    by_cases h : migration.portId = portId <;>
      simp [h, Command.change, Command.enter, Command.onPort]
  | removeVlanFromTrunk remainingVlans =>
    by_cases h : migration.portId = portId <;> cases remainingVlans <;>
      simp [h, Command.change, Command.enter, Command.onPort]

theorem portRun_migrate {migrations : List PortMigration} :
    portRun portId interface port (migratePortsBeforeVlanDeletion migrations) =
      run (moved portId) port migrations := by
  have hbody (interface : Option String) (port : DevicePort) :
      portRun portId interface port (migrations.flatMap migrationCommands) =
        run (moved portId) port migrations := by
    induction migrations generalizing interface port with
    | nil => rfl
    | cons migration migrations ih =>
      rw [List.flatMap_cons, portRun_append, portRun_migrationCommands, ih, run_cons]
  rw [migratePortsBeforeVlanDeletion, configured, portRun_cons, portRun_append, hbody]
  simp [Command.change, Command.onPort]

/-- A port as the migrations of an apply leave it. -/
def migrated (removed : List ℕ) (port : Port) : DevicePort :=
  match Diff.portMigration removed port with
  | some migration => moved port.portId migration (.ofPort port)
  | none => .ofPort port

theorem portRun_migrate_findPortsToMigrate {current : ReadState} {removed : List ℕ} {port : Port}
    (hport : port ∈ current.state.ports) :
    portRun port.portId none (.ofPort port) (migratePortsBeforeVlanDeletion
      (Diff.findPortsToMigrate current.state removed)) = migrated removed port := by
  have hmem (migration : PortMigration) :=
    @Diff.mem_findPortsToMigrate_iff _ removed _ migration current.nodup hport
  rw [portRun_migrate, migrated]
  cases hone : Diff.portMigration removed port with
  | none =>
    apply run_eq_self
    intro migration hmigration s
    apply if_neg
    intro hid
    rw [(hmem migration).mp ⟨hmigration, hid⟩] at hone
    cases hone
  | some migration =>
    apply run_eq_step (Diff.nodup_findPortsToMigrate current.nodup) ((hmem migration).mpr hone).1
    intro other hother hne s
    apply if_neg
    intro hid
    rw [(hmem other).mp ⟨hother, hid⟩] at hone
    exact hne (Option.some.inj hone)

/-- No VLAN that goes away has the port afterwards. A port that is left with no VLAN of its own is
moved to VLAN 1, which must not go away itself; a trunk that keeps any tagged VLAN keeps its native
one as well. -/
def Clears (removed : List ℕ) (port : Port) : Prop :=
  match port.inferredMode with
  | .access => port.vlan ∈ removed → 1 ∉ removed
  | .trunk => if ∀ v ∈ port.taggedVlans, v ∈ removed then 1 ∉ removed else port.vlan ∉ removed

/-- An access port has left all removed VLANs exactly if it clears them. -/
theorem not_member_migrated_iff_access {removed : List ℕ} {port : Port}
    (hmode : port.inferredMode = .access) :
    (∀ id ∈ removed, ¬(migrated removed port).Member id) ↔ Clears removed port := by
  rw [migrated, Diff.portMigration_access hmode, Clears, hmode]
  cases hfind : removed.find? (port.vlan == ·) with
  | none =>
    have hvlan : ∀ id ∈ removed, port.vlan ≠ id := by simpa using hfind
    simp only [Option.map_none, DevicePort.ofPort, hmode, DevicePort.Member]
    exact iff_of_true hvlan fun hmem => absurd rfl (hvlan _ hmem)
  | some first =>
    have hfirst : port.vlan ∈ removed := by
      have heq : port.vlan = first := by simpa using List.find?_some hfind
      exact heq ▸ List.mem_of_find?_eq_some hfind
    simp [DevicePort.ofPort, hmode, moved, DevicePort.Member, hfirst, List.forall_mem_ne]

/-- A trunk has left all removed VLANs exactly if it clears them. -/
theorem not_member_migrated_iff_trunk {removed : List ℕ} {port : Port}
    (hmode : port.inferredMode = .trunk) :
    (∀ id ∈ removed, ¬(migrated removed port).Member id) ↔ Clears removed port := by
  have htrunk : ∃ v, v ∈ port.taggedVlans := by
    rw [Port.inferredMode] at hmode
    split at hmode
    · cases hmode
    · next hne => exact List.exists_mem_of_ne_nil _ (by simpa using hne)
  rw [migrated, Diff.portMigration_trunk hmode, Clears, hmode]
  -- a trunk without a removed tagged VLAN is not migrated, whatever its native one is
  cases hfind : removed.find? (port.taggedVlans.contains ·) with
  | none =>
    have hnone : ∀ id ∈ removed, id ∉ port.taggedVlans := by simpa using hfind
    have hkept : ¬∀ v ∈ port.taggedVlans, v ∈ removed := by
      intro hall
      obtain ⟨v, hv⟩ := htrunk
      exact hnone v (hall v hv) hv
    simp only [Option.map_none, DevicePort.ofPort, hmode, DevicePort.Member, if_neg hkept]
    constructor
    · intro h hvlan
      exact h _ hvlan (.inl rfl)
    · rintro hvlan id hid (rfl | htagged)
      · exact hvlan hid
      · exact hnone id hid htagged
  | some first =>
    simp only [Option.map_some, moved, if_true, DevicePort.ofPort, hmode]
    -- all tagged VLANs removed: it becomes an access port
    by_cases hall : ∀ v ∈ port.taggedVlans, v ∈ removed
    · have hempty : port.taggedVlans.filter (· ∉ removed) = [] := by simpa using hall
      simp only [hempty, List.isEmpty_nil, if_true, if_pos hall, DevicePort.Member]
      exact List.forall_mem_ne
    · have hne : (port.taggedVlans.filter (· ∉ removed)).isEmpty = false := by simpa using hall
      simp only [hne, Bool.false_eq_true, if_false, if_neg hall, DevicePort.Member,
        List.mem_filter, decide_eq_true_eq]
      constructor
      · intro h hvlan
        exact h _ hvlan (.inl rfl)
      · rintro hvlan id hid (rfl | ⟨-, hgone⟩)
        · exact hvlan hid
        · exact hgone hid

/-- So has any port. -/
theorem not_member_migrated_iff {removed : List ℕ} {port : Port} :
    (∀ id ∈ removed, ¬(migrated removed port).Member id) ↔ Clears removed port := by
  cases hmode : port.inferredMode with
  | access => exact not_member_migrated_iff_access hmode
  | trunk => exact not_member_migrated_iff_trunk hmode

end Migration

theorem deletes_removeVlans {ids : List ℕ} (id : ℕ) :
    (∃ c ∈ generateRemoveVlanCommands ids, c.Deletes id) ↔ id ∈ ids := by
  simp [generateRemoveVlanCommands, configured, Command.Deletes]

theorem populated_removeVlans {ids : List ℕ} :
    ∀ c ∈ generateRemoveVlanCommands ids, ∀ device : Device,
      (Device.step c device).Populated = device.Populated := by
  intro c hc device
  have hnothing (entry : String × DevicePort) :
      c.change device.interface entry.1 entry.2 = entry.2 := by
    simp only [generateRemoveVlanCommands, configured, List.mem_cons, List.mem_append,
      List.mem_map, List.not_mem_nil, or_false] at hc
    rcases hc with rfl | ⟨id, -, rfl⟩ | rfl <;> simp [Command.change, Command.onPort]
  funext id
  simp [Device.step, Device.Populated, hnothing]

theorem populated_run_iff {current : ReadState} {removed : List ℕ} {before : List Command}
    (h : ∀ port ∈ current.state.ports,
      portRun port.portId none (.ofPort port) before = migrated removed port) (id : ℕ) :
    (run Device.step (.ofState current.state) before).Populated id ↔
      ∃ port ∈ current.state.ports, (migrated removed port).Member id := by
  rw [Device.Populated, run_ports, Device.ofState, List.map_map]
  constructor
  · rintro ⟨entry, hentry, hmember⟩
    obtain ⟨port, hport, rfl⟩ := List.mem_map.mp hentry
    exact ⟨port, hport, h port hport ▸ hmember⟩
  · rintro ⟨port, hport, hmember⟩
    rw [← h port hport] at hmember
    exact ⟨_, List.mem_map_of_mem hport, hmember⟩

/-- An apply deletes no VLAN in use exactly if every port clears those removed. -/
theorem guarded_applyDiff_iff {config : SwitchConfig} {current : ReadState} {diff : StateDiff} :
    Guarded Device.step (DeletionAllowed Command.Deletes Device.Populated)
      (.ofState current.state)
      (applyDiff { config, currentState := some current.state } diff).sent ↔
      ∀ port ∈ current.state.ports, Clears diff.vlansToRemove port := by
  have hmigrate {port : Port} (hport : port ∈ current.state.ports) :=
    @portRun_migrate_findPortsToMigrate current diff.vlansToRemove port hport
  rw [applyDiff, removeVlans]
  refine (guarded_sent_iff deletesNothing_migrate deletesNothing_laterSteps deletes_removeVlans
    populated_removeVlans (populated_run_iff ?_)).trans
    (forall₂_congr fun port _ => not_member_migrated_iff)
  intro port hport
  rw [← hmigrate hport]
  split
  · next hnone => rw [List.isEmpty_iff.mp hnone]; rfl
  · rfl

end Cisco

/-! ## FortiSwitch -/

namespace Fortiswitch

/-- The VLANs that a field of an interface names. -/
def vlansIn (fields : Fields) (field : String) (default : List Arg) : List String :=
  ((fields.lookup field).getD default).map Arg.value

/-- An interface is untagged in VLAN 1 unless it has another native VLAN. -/
def MemberOf (id : ℕ) (fields : Fields) : Prop :=
  toString id ∈ vlansIn fields "native-vlan" [.number 1] ∨
    toString id ∈ vlansIn fields "allowed-vlans" [] ∨ toString id ∈ vlansIn fields "untagged-vlans" []

def Populated (device : Store) (id : ℕ) : Prop :=
  ∃ port fields, ([("switch interface", port)], fields) ∈ device ∧ MemberOf id fields

def Deletes (effect : Effect) (id : ℕ) : Prop :=
  effect = .remove [("switch vlan", toString id)]

/-- Lines outside the table of VLANs delete none. -/
theorem deletesNothing_of_acts {tables : List String} {lines : List Line} (h : ActsIn tables lines)
    (hnot : "switch vlan" ∉ tables) : DeletesNothing Deletes (effects [] lines) := by
  rintro effect heffect id rfl
  obtain ⟨table, htable, hroot⟩ := h.root _ heffect
  obtain rfl : "switch vlan" = table := Option.some.inj hroot
  exact hnot htable

theorem deletesNothing_generateVlanCommands {vlans : List Vlan} :
    DeletesNothing Deletes (effects [] (generateVlanCommands vlans)) := by
  rw [effects_generateVlanCommands]
  refine .append (.map fun vlan id => ?_) (.flatMap fun vlan => ?_)
  · simp [Deletes]
  · exact deletesNothing_of_acts acts_sviCommands (by simp)

/-- An entry of another table goes only with its own deletion. -/
theorem populated_remove {key : String} {device : Store} :
    Populated ((Effect.remove [("switch vlan", key)]).apply device) = Populated device := by
  funext id
  have hkept (port : String) : ¬[("switch vlan", key)] <:+ [("switch interface", port)] := by
    simp [List.suffix_cons_iff]
  simp [Populated, Effect.apply, hkept]

/-- Ports are configured after the VLANs, so each VLAN that goes away is deleted with the ports it
has at the start. -/
theorem guarded_applyDiff_iff {switch : FortiswitchSwitch} {device : Store} {diff : StateDiff} :
    Guarded Effect.apply (DeletionAllowed Deletes Populated) device
      (effects [] (applyDiff switch diff).sent) ↔
      ∀ id ∈ diff.vlansToRemove, ¬Populated device id := by
  have hremove : Closed (if diff.vlansToRemove.isEmpty then []
      else generateRemoveVlanCommands diff.vlansToRemove) := by
    split
    · exact .nil
    · exact acts_generateRemoveVlanCommands.closed
  -- the deletions come first; what follows deletes nothing, so they alone decide
  have heffects : effects [] (if diff.vlansToRemove.isEmpty then []
      else generateRemoveVlanCommands diff.vlansToRemove) =
      diff.vlansToRemove.map fun id => .remove [("switch vlan", toString id)] := by
    cases hids : diff.vlansToRemove with
    | nil => rfl
    | cons id ids =>
      have hkeys : ((id :: ids).map fun id => Line.delete (toString id)) =
          ((id :: ids).map toString).map .delete := by rw [List.map_map]; rfl
      rw [List.isEmpty_cons, if_neg Bool.false_ne_true, generateRemoveVlanCommands, hkeys,
        effects_block_deletes, List.map_map]
      rfl
  have hconfigured (vlans : List Vlan) : Closed (if vlans.isEmpty then []
      else generateVlanCommands vlans) ∧ DeletesNothing Deletes
        (effects [] (if vlans.isEmpty then [] else generateVlanCommands vlans)) := by
    split
    · exact ⟨.nil, .nil⟩
    · exact ⟨closed_generateVlanCommands, deletesNothing_generateVlanCommands⟩
  simp only [applyDiff, vlanSteps, List.append_assoc, Steps.sent_ifAny_append]
  rw [hremove.effects_append, heffects, (hconfigured _).1.effects_append,
    (hconfigured _).1.effects_append]
  refine guarded_deletion_iff .nil (.append (hconfigured _).2 (.append (hconfigured _).2
    (deletesNothing_of_acts acts_laterSteps (by simp)))) (fun id => ?_) fun c hc device => ?_
  · constructor
    · rintro ⟨c, hc, hdeletes⟩
      obtain ⟨other, hother, rfl⟩ := List.mem_map.mp hc
      have hsame : toString other = toString id := by simpa [Deletes] using hdeletes
      exact toString_injective hsame ▸ hother
    · intro hid
      exact ⟨_, List.mem_map_of_mem hid, rfl⟩
  · obtain ⟨id, -, rfl⟩ := List.mem_map.mp hc
    exact populated_remove

end Fortiswitch

/-! ## Any vendor -/

/-- A switch that is about to get an apply: its object and the membership it starts with. That of
the first two vendors is the state that was read, on which their migrations are based. -/
inductive Managed where
  | aruba (config : SwitchConfig) (shown : Aruba.ShownSnmp) (current : ReadState)
  | cisco (config : SwitchConfig) (current : ReadState)
  | fortiswitch (switch : Fortiswitch.FortiswitchSwitch) (device : Store)

/-- No command of an apply deletes a VLAN that has a port at that time. -/
def Managed.DeletionsClear (diff : StateDiff) : Managed → Prop
  | aruba config shown current =>
    Guarded Aruba.Device.step (DeletionAllowed Aruba.Command.Deletes Aruba.Device.Populated)
      (.ofState current.state) (Aruba.applyDiff
        { config, shownSnmp := shown, currentState := some current.state } diff).sent
  | cisco config current =>
    Guarded Cisco.Device.step (DeletionAllowed Cisco.Command.Deletes Cisco.Device.Populated)
      (.ofState current.state)
      (Cisco.applyDiff { config, currentState := some current.state } diff).sent
  | fortiswitch switch device =>
    Guarded Effect.apply (DeletionAllowed Fortiswitch.Deletes Fortiswitch.Populated) device
      (effects [] (Fortiswitch.applyDiff switch diff).sent)

/-- What the membership has to be like at the start. -/
def Managed.Clears (diff : StateDiff) : Managed → Prop
  | aruba _ _ current =>
    ∀ port ∈ current.state.ports, Aruba.Clears (diff.vlansToRemove.filter (· != 1)) port
  | cisco _ current => ∀ port ∈ current.state.ports, Cisco.Clears diff.vlansToRemove port
  | fortiswitch _ device => ∀ id ∈ diff.vlansToRemove, ¬Fortiswitch.Populated device id

/-- The condition says the same for every vendor. -/
theorem deletionsClear_iff (managed : Managed) (diff : StateDiff) :
    managed.DeletionsClear diff ↔ managed.Clears diff := by
  cases managed with
  | aruba config shown current => exact Aruba.guarded_applyDiff_iff
  | cisco config current => exact Cisco.guarded_applyDiff_iff
  | fortiswitch switch device => exact Fortiswitch.guarded_applyDiff_iff

/-- An uplink that is tagged in VLANs 20 and 30. -/
def uplink : Port := { portId := "24", vlan := 1, taggedVlans := [20, 30] }

/-- With both VLANs gone, the uplink is taken out of the first one only. -/
theorem deletionsClear_fails : ¬Managed.DeletionsClear { vlansToRemove := [20, 30] }
    (.aruba { id := "sw1", model := some .aruba2930F } {}
      ⟨{ ports := [uplink] }, by decide +kernel⟩) := by
  intro h
  have hclears := Aruba.guarded_applyDiff_iff.mp h uplink (List.mem_singleton_self _)
  exact absurd hclears (by decide +kernel)

end SwitchConfigurator
