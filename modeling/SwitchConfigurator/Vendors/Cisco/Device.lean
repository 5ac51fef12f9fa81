import SwitchConfigurator.Foundations.CommandRun
import SwitchConfigurator.Vendors.Cisco.Commands

/-!
# A reference Cisco switch

The VLANs of the ports, as the commands of an interface set them.
-/

namespace SwitchConfigurator.Cisco

open Cli

/-- The VLANs of one port. Those of the other mode are kept while a mode is on. -/
structure DevicePort where
  mode : PortMode := .access
  access : ℕ := 1
  native : ℕ := 1
  allowed : AllowedVlans := .all
  deriving DecidableEq, Repr

structure Device where
  ports : List (String × DevicePort) := []
  /-- The interface that is open. -/
  interface : Option String := none
  deriving DecidableEq, Repr

/-- What a command sets on the port whose interface is open. -/
def Command.onPort : Command → DevicePort → DevicePort
  | switchportMode mode, port => { port with mode := mode }
  | accessVlan id, port => { port with access := id }
  | nativeVlan id, port => { port with native := id }
  | allowedVlan allowed, port => { port with allowed := allowed }
  | noAllowedVlan, port => { port with allowed := .all }
  | _, port => port

def Command.enter : Command → Option String → Option String
  | .interface port, _ => some port
  | interfaceVlan _, _ | .vlan _, _ | exit, _ | close, _ | configureTerminal, _ => none
  | _, current => current

def Command.change (command : Command) (interface : Option String) (portId : String)
    (port : DevicePort) : DevicePort :=
  if interface = some portId then command.onPort port else port

def Device.step (command : Command) (device : Device) : Device where
  ports := device.ports.map fun entry =>
    (entry.1, command.change device.interface entry.1 entry.2)
  interface := command.enter device.interface

/-- Is the port a member of the VLAN, untagged or tagged? -/
def DevicePort.Member (id : ℕ) (port : DevicePort) : Prop :=
  match port.mode with
  | .access => port.access = id
  | .trunk => port.native = id ∨ match port.allowed with
    | .all => True
    | .only ids => id ∈ ids

/-! ## One port at a time -/

/-- What a run sets on one port, from the interface that is open where it starts. -/
def portRun (portId : String) : Option String → DevicePort → List Command → DevicePort
  | _, port, [] => port
  | interface, port, command :: commands =>
    portRun portId (command.enter interface) (command.change interface portId port) commands

def enter (interface : Option String) (commands : List Command) : Option String :=
  commands.foldl (fun interface command => command.enter interface) interface

section PortRun

variable {portId : String} {interface : Option String} {port : DevicePort} {command : Command}
variable {commands commands' : List Command} {device : Device}

@[simp] theorem portRun_nil : portRun portId interface port [] = port := rfl

@[simp] theorem portRun_cons : portRun portId interface port (command :: commands) =
    portRun portId (command.enter interface) (command.change interface portId port) commands := rfl

@[simp] theorem enter_nil : enter interface [] = interface := rfl

@[simp] theorem enter_cons :
    enter interface (command :: commands) = enter (command.enter interface) commands := rfl

/-- A port goes through the second half in the context that the first has left. -/
@[simp] theorem portRun_append : portRun portId interface port (commands ++ commands') =
    portRun portId (enter interface commands) (portRun portId interface port commands)
      commands' := by
  induction commands generalizing interface port with
  | nil => rfl
  | cons command commands ih => rw [List.cons_append, portRun_cons, ih, portRun_cons, enter_cons]

/-- A run acts on each port by itself. -/
theorem run_ports : (run Device.step device commands).ports =
    device.ports.map fun entry =>
      (entry.1, portRun entry.1 device.interface entry.2 commands) := by
  induction commands generalizing device with
  | nil => simp
  | cons command commands ih =>
    rw [run_cons, ih, Device.step, List.map_map]
    rfl

end PortRun

end SwitchConfigurator.Cisco
