import SwitchConfigurator.Diff

/-!
# Ports on VLANs that go away

`find_ports_to_migrate` of the diff engine, which two of the vendors act on.
-/

namespace SwitchConfigurator

inductive PortMigrationAction where
  | moveAccessToVlan1
  | removeVlanFromTrunk (remainingVlans : List ℕ)
  deriving DecidableEq, Repr

structure PortMigration where
  portId : String
  vlanBeingRemoved : ℕ
  action : PortMigrationAction
  deriving DecidableEq, Repr

namespace Diff

/-- The one migration of a port: the first removed VLAN that it is found on decides. -/
def portMigration (vlansToRemove : List ℕ) (port : Port) : Option PortMigration :=
  match port.inferredMode with
  | .access => (vlansToRemove.find? (port.vlan == ·)).map fun id =>
    { portId := port.portId, vlanBeingRemoved := id, action := .moveAccessToVlan1 }
  | .trunk => (vlansToRemove.find? (port.taggedVlans.contains ·)).map fun id =>
    { portId := port.portId, vlanBeingRemoved := id
      action := .removeVlanFromTrunk (port.taggedVlans.filter (· ∉ vlansToRemove)) }

def findPortsToMigrate (current : SwitchState) (vlansToRemove : List ℕ) : List PortMigration :=
  current.ports.filterMap (portMigration vlansToRemove)

variable {current : SwitchState} {vlansToRemove : List ℕ} {port : Port} {migration : PortMigration}

theorem portId_of_portMigration (h : portMigration vlansToRemove port = some migration) :
    migration.portId = port.portId := by
  rw [portMigration] at h
  split at h
  · obtain ⟨id, -, rfl⟩ := Option.map_eq_some_iff.mp h
    rfl
  · obtain ⟨id, -, rfl⟩ := Option.map_eq_some_iff.mp h
    rfl

/-- With each port there once, the migrations of a port are the one it is given. -/
theorem mem_findPortsToMigrate_iff (hnodup : (current.ports.map Port.portId).Nodup)
    (hport : port ∈ current.ports) :
    migration ∈ findPortsToMigrate current vlansToRemove ∧ migration.portId = port.portId ↔
      portMigration vlansToRemove port = some migration := by
  rw [findPortsToMigrate, List.mem_filterMap]
  constructor
  · rintro ⟨⟨other, hother, hmigration⟩, hid⟩
    have hsame : other.portId = port.portId := (portId_of_portMigration hmigration).symm.trans hid
    rw [← List.inj_on_of_nodup_map hnodup hother hport hsame]
    exact hmigration
  · intro h
    exact ⟨⟨port, hport, h⟩, portId_of_portMigration h⟩

/-- No port is moved twice. -/
theorem nodup_findPortsToMigrate (hnodup : (current.ports.map Port.portId).Nodup) :
    (findPortsToMigrate current vlansToRemove).Nodup := by
  rw [findPortsToMigrate]
  generalize current.ports = ports at hnodup
  induction ports with
  | nil => exact List.nodup_nil
  | cons port ports ih =>
    obtain ⟨hfirst, hnodup⟩ := List.nodup_cons.mp hnodup
    rw [List.filterMap_cons]
    split
    · exact ih hnodup
    · next migration hmigration =>
      refine List.nodup_cons.mpr ⟨fun hagain => hfirst ?_, ih hnodup⟩
      obtain ⟨other, hother, hsame⟩ := List.mem_filterMap.mp hagain
      rw [← portId_of_portMigration hmigration, portId_of_portMigration hsame]
      exact List.mem_map_of_mem hother

/-- An access port is moved off its VLAN. -/
theorem portMigration_access (hmode : port.inferredMode = .access) :
    portMigration vlansToRemove port = (vlansToRemove.find? (port.vlan == ·)).map fun id =>
      { portId := port.portId, vlanBeingRemoved := id, action := .moveAccessToVlan1 } := by
  rw [portMigration, hmode]

/-- A trunk is moved off the first removed VLAN that it has tagged. -/
theorem portMigration_trunk (hmode : port.inferredMode = .trunk) :
    portMigration vlansToRemove port =
      (vlansToRemove.find? (port.taggedVlans.contains ·)).map fun id =>
        { portId := port.portId, vlanBeingRemoved := id
          action := .removeVlanFromTrunk (port.taggedVlans.filter (· ∉ vlansToRemove)) } := by
  rw [portMigration, hmode]

end Diff

end SwitchConfigurator
