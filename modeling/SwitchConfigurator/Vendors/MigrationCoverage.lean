import SwitchConfigurator.Vendors.Deletions

/-!
# What the migrations leave

The ports after the migrations that `find_ports_to_migrate` asks for: none is on a VLAN that goes
away, and each keeps what it has of the others.
-/

namespace SwitchConfigurator

/-- The VLANs that a port is an untagged or a tagged member of. -/
def Port.memberships (port : Port) : List ℕ := port.vlan :: port.taggedVlans

/-- What an action makes of a port. -/
def PortMigrationAction.perform : PortMigrationAction → Port → Port
  | moveAccessToVlan1, port => { port with vlan := 1 }
  | removeVlanFromTrunk remainingVlans, port => { port with taggedVlans := remainingVlans }

namespace Diff

variable {current : ReadState} {vlansToRemove : List ℕ} {port : Port}

def migrationsOf (migrations : List PortMigration) (port : Port) : List PortMigration :=
  migrations.filter (·.portId = port.portId)

/-- A port after all migrations that name it. -/
def migrated (migrations : List PortMigration) (port : Port) : Port :=
  (migrationsOf migrations port).foldl (fun port migration => migration.action.perform port) port

/-- The migrations do for a port what they are for, and nothing else. -/
structure Covers (migrations : List PortMigration) (vlansToRemove : List ℕ) (port : Port) :
    Prop where
  cleared : ∀ id ∈ vlansToRemove, id ∉ (migrated migrations port).memberships
  minimal : (∀ id ∈ port.memberships, id ∉ vlansToRemove) → migrationsOf migrations port = []
  once : (migrationsOf migrations port).length ≤ 1
  kept : ∀ id ∈ port.memberships, id ∉ vlansToRemove →
    id ∈ (migrated migrations port).memberships

/-- A trunk is taken out of tagged VLANs only, and VLAN 1 has to be there for an access port that
is moved. -/
def Movable (vlansToRemove : List ℕ) (port : Port) : Prop :=
  match port.inferredMode with
  | .access => port.vlan ∈ vlansToRemove → 1 ∉ vlansToRemove
  | .trunk => port.vlan ∉ vlansToRemove

/-- A port without tagged VLANs is an access port. -/
theorem inferredMode_eq_access_iff : port.inferredMode = .access ↔ port.taggedVlans = [] := by
  unfold Port.inferredMode
  cases port.taggedVlans with
  | nil => simp
  | cons id ids => simp

/-- A port has the one migration that it is given, if it is given one. -/
theorem migrationsOf_eq (hport : port ∈ current.state.ports) :
    migrationsOf (findPortsToMigrate current.state vlansToRemove) port =
      (portMigration vlansToRemove port).toList := by
  have hnodup : (migrationsOf (findPortsToMigrate current.state vlansToRemove) port).Nodup :=
    (nodup_findPortsToMigrate current.nodup).filter _
  have hmem : ∀ migration, migration ∈
      migrationsOf (findPortsToMigrate current.state vlansToRemove) port ↔
        portMigration vlansToRemove port = some migration := by
    intro migration
    rw [migrationsOf, List.mem_filter, decide_eq_true_eq]
    exact mem_findPortsToMigrate_iff current.nodup hport
  cases hmigration : portMigration vlansToRemove port with
  | none =>
    simp only [hmigration, reduceCtorEq, iff_false] at hmem
    exact List.eq_nil_iff_forall_not_mem.mpr hmem
  | some migration =>
    have hperm : (migrationsOf (findPortsToMigrate current.state vlansToRemove) port).Perm
        [migration] := by
      refine (List.perm_ext_iff_of_nodup hnodup (List.nodup_singleton _)).mpr fun other => ?_
      rw [hmem, hmigration, List.mem_singleton, Option.some.injEq, eq_comm]
    exact List.perm_singleton.mp hperm

/-- A port that is not moved is covered exactly if it is on none of the VLANs. -/
theorem covers_of_none (hport : port ∈ current.state.ports)
    (h : portMigration vlansToRemove port = none) :
    Covers (findPortsToMigrate current.state vlansToRemove) vlansToRemove port ↔
      ∀ id ∈ port.memberships, id ∉ vlansToRemove := by
  have hnone := @migrationsOf_eq current vlansToRemove port hport
  rw [h] at hnone
  have hmigrated : migrated (findPortsToMigrate current.state vlansToRemove) port = port := by
    rw [migrated, hnone]
    rfl
  constructor
  · intro hcovers id hid hremoved
    have hcleared := hcovers.cleared id hremoved
    rw [hmigrated] at hcleared
    exact hcleared hid
  · intro hstays
    refine ⟨fun id hremoved hid => ?_, fun _ => hnone, by simp [hnone], fun id hid _ => ?_⟩
    · rw [hmigrated] at hid
      exact hstays id hid hremoved
    · rwa [hmigrated]

/-- A port that is moved is covered exactly if that takes it off all of them. -/
theorem covers_of_some {migration : PortMigration} (hport : port ∈ current.state.ports)
    (h : portMigration vlansToRemove port = some migration)
    (haffected : ∃ id ∈ port.memberships, id ∈ vlansToRemove)
    (hkept : ∀ id ∈ port.memberships, id ∉ vlansToRemove →
      id ∈ (migration.action.perform port).memberships) :
    Covers (findPortsToMigrate current.state vlansToRemove) vlansToRemove port ↔
      ∀ id ∈ (migration.action.perform port).memberships, id ∉ vlansToRemove := by
  have hone := @migrationsOf_eq current vlansToRemove port hport
  rw [h] at hone
  have hmigrated : migrated (findPortsToMigrate current.state vlansToRemove) port =
      migration.action.perform port := by
    rw [migrated, hone]
    rfl
  constructor
  · intro hcovers id hid hremoved
    have hcleared := hcovers.cleared id hremoved
    rw [hmigrated] at hcleared
    exact hcleared hid
  · intro hcleared
    refine ⟨fun id hremoved hid => ?_, fun hstays => ?_, by simp [hone], fun id hid hstays => ?_⟩
    · rw [hmigrated] at hid
      exact hcleared id hid hremoved
    · obtain ⟨id, hid, hremoved⟩ := haffected
      exact absurd hremoved (hstays id hid)
    · rw [hmigrated]
      exact hkept id hid hstays

/-- An access port is covered exactly if it can be moved. -/
theorem covers_access_iff (hport : port ∈ current.state.ports)
    (hmode : port.inferredMode = .access) :
    Covers (findPortsToMigrate current.state vlansToRemove) vlansToRemove port ↔
      Movable vlansToRemove port := by
  have htagged := inferredMode_eq_access_iff.mp hmode
  have hmember : port.memberships = [port.vlan] := by rw [Port.memberships, htagged]
  have hmigration := @portMigration_access vlansToRemove port hmode
  rw [Movable, hmode]
  cases hfind : vlansToRemove.find? (port.vlan == ·) with
  | none =>
    have hstays : port.vlan ∉ vlansToRemove := by
      intro hremoved
      have hnone := List.find?_eq_none.mp hfind _ hremoved
      simp at hnone
    rw [hfind] at hmigration
    rw [covers_of_none hport hmigration, hmember]
    simp [hstays]
  | some id =>
    obtain rfl : port.vlan = id := by simpa using List.find?_some hfind
    have hremoved : port.vlan ∈ vlansToRemove := List.mem_of_find?_eq_some hfind
    rw [hfind] at hmigration
    rw [covers_of_some hport hmigration ⟨port.vlan, List.mem_cons_self, hremoved⟩]
    · simp [PortMigrationAction.perform, Port.memberships, htagged, hremoved]
    · intro other hother hstays
      rw [hmember, List.mem_singleton] at hother
      exact absurd (hother ▸ hremoved) hstays

/-- So is a trunk. -/
theorem covers_trunk_iff (hport : port ∈ current.state.ports)
    (hmode : port.inferredMode = .trunk) :
    Covers (findPortsToMigrate current.state vlansToRemove) vlansToRemove port ↔
      Movable vlansToRemove port := by
  have hmigration := @portMigration_trunk vlansToRemove port hmode
  rw [Movable, hmode]
  cases hfind : vlansToRemove.find? (port.taggedVlans.contains ·) with
  | none =>
    have hstays : ∀ id ∈ port.taggedVlans, id ∉ vlansToRemove := by
      intro id hid hremoved
      have hnone := List.find?_eq_none.mp hfind id hremoved
      simp [hid] at hnone
    rw [hfind] at hmigration
    rw [covers_of_none hport hmigration, Port.memberships, List.forall_mem_cons]
    exact and_iff_left hstays
  | some id =>
    have htagged : id ∈ port.taggedVlans := by simpa using List.find?_some hfind
    have hremoved : id ∈ vlansToRemove := List.mem_of_find?_eq_some hfind
    rw [hfind] at hmigration
    rw [covers_of_some hport hmigration ⟨id, List.mem_cons_of_mem _ htagged, hremoved⟩]
    · -- the tagged VLANs that are left are clear of them, so that the untagged one decides
      simp +contextual [PortMigrationAction.perform, Port.memberships]
    · intro other hother hstays
      rcases List.mem_cons.mp hother with rfl | hother
      · exact List.mem_cons_self
      · exact List.mem_cons_of_mem _ (List.mem_filter.mpr ⟨hother, by simpa using hstays⟩)

/-- So is any port. -/
theorem covers_iff (hport : port ∈ current.state.ports) :
    Covers (findPortsToMigrate current.state vlansToRemove) vlansToRemove port ↔
      Movable vlansToRemove port := by
  cases hmode : port.inferredMode with
  | access => exact covers_access_iff hport hmode
  | trunk => exact covers_trunk_iff hport hmode

/-- The migrations do what they are for exactly where they can move every port. -/
theorem migrations_cover_iff (current : ReadState) (vlansToRemove : List ℕ) :
    (∀ port ∈ current.state.ports,
        Covers (findPortsToMigrate current.state vlansToRemove) vlansToRemove port) ↔
      ∀ port ∈ current.state.ports, Movable vlansToRemove port :=
  forall₂_congr fun _ hport => covers_iff hport

/-- A trunk whose native VLAN goes away, while none of its tagged ones does. -/
def nativeGoes : ReadState where
  state := { ports := [{ portId := "24", vlan := 20, taggedVlans := [10] }] }
  nodup := List.nodup_singleton _

/-- A trunk whose native VLAN is removed. -/
theorem native_vlan_stays :
    findPortsToMigrate nativeGoes.state [20] = [] ∧
      ¬∀ port ∈ nativeGoes.state.ports,
        Covers (findPortsToMigrate nativeGoes.state [20]) [20] port := by
  refine ⟨by decide, fun h => ?_⟩
  exact (h _ List.mem_cons_self).cleared 20 List.mem_cons_self List.mem_cons_self

end Diff

end SwitchConfigurator
