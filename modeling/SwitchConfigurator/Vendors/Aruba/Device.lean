import SwitchConfigurator.Foundations.CommandRun
import SwitchConfigurator.Vendors.Aruba.Commands

/-!
# A reference Aruba switch

What a command does to the ports of the switch. A command acts in the context that the commands
before it lead to; one that does not fit its context does nothing.
-/

namespace SwitchConfigurator.Aruba

open Cli

/-- The settings of one port. -/
structure DevicePort where
  untagged : ℕ := 1
  tagged : List ℕ := []
  name : Option String := none
  enabled : Bool := true
  poe : Bool := true
  macLearned : Bool := false
  macRemoved : Bool := false
  speed : SpeedDuplex := .auto
  /-- Set by `monitor` without parameters. -/
  monitor : Bool := false
  /-- The sessions that the port is monitored into. -/
  monitors : List (String × MirrorDirection) := []
  deriving DecidableEq, Repr

inductive Context where
  | top
  | vlan (id : ℕ)
  | interface (port : String)
  deriving DecidableEq, Repr

structure Device where
  ports : List (String × DevicePort) := []
  /-- The destination that `mirror-port` set. -/
  mirrorPort : Option String := none
  /-- The sessions that `mirror` set, with their destinations. -/
  mirrors : List (String × String) := []
  context : Context := .top
  deriving DecidableEq, Repr

namespace DevicePort

/-- The untagged membership moves; a port is not tagged where it is untagged. -/
def untag (id : ℕ) (port : DevicePort) : DevicePort :=
  { port with untagged := id, tagged := port.tagged.filter (· != id) }

def addTagged (ids : List ℕ) (port : DevicePort) : DevicePort :=
  { port with tagged := port.tagged ++ ids.filter (· ∉ port.tagged) }

def removeTagged (id : ℕ) (port : DevicePort) : DevicePort :=
  { port with tagged := port.tagged.filter (· != id) }

/-- Out of a VLAN it is untagged in, a port falls back to VLAN 1. -/
def leaveUntagged (id : ℕ) (port : DevicePort) : DevicePort :=
  if port.untagged = id then port.untag 1 else port

def setMacTrap (trap : MacTrap) (on : Bool) (port : DevicePort) : DevicePort :=
  match trap with
  | .learned => { port with macLearned := on }
  | .removed => { port with macRemoved := on }

end DevicePort

/-- What a command sets on the port whose interface is open. -/
def Command.onPort : Command → DevicePort → DevicePort
  | name arg, port => { port with name := some arg.value }
  | noName, port => { port with name := none }
  | untaggedVlan id, port => port.untag id
  | taggedVlan ids, port => port.addTagged ids
  | noTaggedVlan id, port => port.removeTagged id
  | enable, port => { port with enabled := true }
  | disable, port => { port with enabled := false }
  | powerOverEthernet, port => { port with poe := true }
  | noPowerOverEthernet, port => { port with poe := false }
  | macNotify trap, port => port.setMacTrap trap true
  | noMacNotify trap, port => port.setMacTrap trap false
  | speedDuplex speed, port => { port with speed := speed }
  | monitor, port => { port with monitor := true }
  | monitorAll direction session, port =>
    { port with monitors := port.monitors.filter (·.1 != session) ++ [(session, direction)] }
  | _, port => port

/-- What a command sets on a port where the context of a VLAN is open. -/
def Command.onMember (id : ℕ) (portId : String) : Command → DevicePort → DevicePort
  | noUntagged ports, port => if portId ∈ ports then port.leaveUntagged id else port
  | noTagged ports, port => if portId ∈ ports then port.removeTagged id else port
  | _, port => port

/-- What a command sets on a port, by the context that is open. -/
def Command.change (command : Command) (context : Context) (portId : String) (port : DevicePort) :
    DevicePort :=
  match context with
  | .top => port
  | .vlan id => command.onMember id portId port
  | .interface open_ => if portId = open_ then command.onPort port else port

def Command.enter : Command → Context → Context
  | vlan id, _ => .vlan id
  | interface port, _ => .interface port
  | exit, _ => .top
  | _, context => context

def Command.setMirrorPort : Command → Option String → Option String
  | .mirrorPort destination, _ => some destination
  | _, destination => destination

def Command.setMirrors : Command → List (String × String) → List (String × String)
  | .mirror session destination, mirrors =>
    mirrors.filter (·.1 != session) ++ [(session, destination)]
  | noMirror session, mirrors => mirrors.filter (·.1 != session)
  | _, mirrors => mirrors

/-- A VLAN without members can be deleted with no effect on the ports, one with members is not. -/
def Device.step (command : Command) (device : Device) : Device where
  ports := device.ports.map fun entry =>
    (entry.1, command.change device.context entry.1 entry.2)
  mirrorPort := command.setMirrorPort device.mirrorPort
  mirrors := command.setMirrors device.mirrors
  context := command.enter device.context

/-! ## One port at a time -/

/-- What a run sets on one port, from the context it starts in. -/
def portRun (portId : String) : Context → DevicePort → List Command → DevicePort
  | _, port, [] => port
  | context, port, command :: commands =>
    portRun portId (command.enter context) (command.change context portId port) commands

def enter (context : Context) (commands : List Command) : Context :=
  commands.foldl (fun context command => command.enter context) context

section PortRun

variable {portId : String} {context : Context} {port : DevicePort} {command : Command}
variable {commands commands' : List Command} {device : Device}

@[simp] theorem portRun_nil : portRun portId context port [] = port := rfl

@[simp] theorem portRun_cons : portRun portId context port (command :: commands) =
    portRun portId (command.enter context) (command.change context portId port) commands := rfl

@[simp] theorem enter_nil : enter context [] = context := rfl

@[simp] theorem enter_cons :
    enter context (command :: commands) = enter (command.enter context) commands := rfl

@[simp] theorem enter_append :
    enter context (commands ++ commands') = enter (enter context commands) commands' :=
  List.foldl_append

/-- A port goes through the second half in the context that the first has left. -/
@[simp] theorem portRun_append : portRun portId context port (commands ++ commands') =
    portRun portId (enter context commands) (portRun portId context port commands) commands' := by
  induction commands generalizing context port with
  | nil => rfl
  | cons command commands ih => rw [List.cons_append, portRun_cons, ih, portRun_cons, enter_cons]

/-- A run acts on each port by itself. -/
theorem run_ports : (run Device.step device commands).ports =
    device.ports.map fun entry =>
      (entry.1, portRun entry.1 device.context entry.2 commands) := by
  induction commands generalizing device with
  | nil => simp
  | cons command commands ih =>
    rw [run_cons, ih, Device.step, List.map_map]
    rfl

/-- The device ends in the context of what it was sent. -/
theorem run_context : (run Device.step device commands).context =
    enter device.context commands := by
  induction commands generalizing device with
  | nil => rfl
  | cons command commands ih =>
    rw [run_cons, ih]
    rfl

/-- Pieces that each lead back to the context they start in act one by one. -/
theorem portRun_flatMap {α : Type} {f : α → List Command} {l : List α}
    (h : ∀ a ∈ l, enter context (f a) = context) :
    portRun portId context port (l.flatMap f) =
      l.foldl (fun port a => portRun portId context port (f a)) port := by
  induction l generalizing port with
  | nil => rfl
  | cons a l ih =>
    obtain ⟨ha, hl⟩ := List.forall_mem_cons.mp h
    rw [List.flatMap_cons, portRun_append, ha, ih hl, List.foldl_cons]

end PortRun

end SwitchConfigurator.Aruba
