import SwitchConfigurator.Foundations.CommandRun
import SwitchConfigurator.Vendors.Aruba.Lines

/-!
# The VLANs of a reference Aruba switch

The switch reads commands line by line, and prints the names of its VLANs in double quotes. A line
that it cannot make out changes nothing.
-/

namespace SwitchConfigurator.Aruba

open BlockWalk Cli

/-! ## The switch -/

/-- Four numbers below 256 with dots between them. -/
def isIpv4 (text : List Char) : Bool :=
  let parts := text.splitOn '.'
  parts.length == 4 &&
    parts.all fun part => part.all Char.isDigit && (parseUint 8 part).isSome

/-- What a switch takes for the address of a VLAN. -/
def IpAccepted : VlanIpConfig → Prop
  | .static address netmask => isIpv4 address.toList = true ∧ isIpv4 netmask.toList = true
  | _ => True

/-- A VLAN as the switch keeps it. A name is one line. -/
structure DeviceVlan where
  id : ℕ
  name : List Char
  ipConfig : VlanIpConfig := .none
  id_lt : id < 2 ^ 16
  name_oneLine : '\n' ∉ name
  ip_accepted : IpAccepted ipConfig

namespace DeviceVlan

def setName (name : List Char) (vlan : DeviceVlan) : DeviceVlan :=
  if h : '\n' ∉ name then { vlan with name, name_oneLine := h } else vlan

/-- A VLAN that was not there has the name that stands for its id. -/
def fresh (id : ℕ) (h : id < 2 ^ 16) : DeviceVlan where
  id := id
  name := (s!"VLAN{id}").toList
  ipConfig := .none
  id_lt := h
  name_oneLine := by
    rw [show (s!"VLAN{id}").toList = "VLAN".toList ++ (toString id).toList from
      String.toList_append, List.mem_append, not_or]
    exact ⟨by decide, fun hmem => absurd (isDigit_of_mem_toString hmem) (by decide)⟩
  ip_accepted := trivial

def setIp (ipConfig : VlanIpConfig) (h : IpAccepted ipConfig) (vlan : DeviceVlan) : DeviceVlan :=
  { vlan with ipConfig, ip_accepted := h }

end DeviceVlan

structure VlanDevice where
  vlans : List DeviceVlan := []
  /-- The VLAN whose context is open. -/
  context : Option ℕ := none

namespace VlanDevice

/-- A VLAN that is not there is made. -/
def withVlan (id : ℕ) (h : id < 2 ^ 16) (vlans : List DeviceVlan) : List DeviceVlan :=
  if vlans.any (·.id == id) then vlans else vlans ++ [DeviceVlan.fresh id h]

def modify (id : ℕ) (change : DeviceVlan → DeviceVlan) (vlans : List DeviceVlan) :
    List DeviceVlan :=
  vlans.map fun vlan => if vlan.id = id then change vlan else vlan

def changeOpen (change : DeviceVlan → DeviceVlan) (device : VlanDevice) : VlanDevice :=
  match device.context with
  | some id => { device with vlans := modify id change device.vlans }
  | none => device

def enter (id : ℕ) (h : id < 2 ^ 16) (device : VlanDevice) : VlanDevice where
  vlans := withVlan id h device.vlans
  context := some id

def execute (words : List String) (device : VlanDevice) : VlanDevice :=
  match words with
  | ["vlan", id] =>
    match parseUint 16 id.toList with
    | some id =>
      if h : id < 2 ^ 16 then device.enter id h else device
    | none => device
  | ["name", name] => device.changeOpen (DeviceVlan.setName name.toList)
  | ["ip", "address", mode] =>
    if mode = "dhcp-bootp" then device.changeOpen (DeviceVlan.setIp .dhcp trivial) else device
  | ["ip", "address", address, netmask] =>
    if h : isIpv4 address.toList = true ∧ isIpv4 netmask.toList = true then
      device.changeOpen (DeviceVlan.setIp (.static address netmask) h)
    else device
  | ["no", "ip", "address"] => device.changeOpen (DeviceVlan.setIp .none trivial)
  | ["exit"] => { device with context := none }
  | _ => device

/-- A VLAN in range is entered, and made if there is none. -/
theorem execute_vlan {device : VlanDevice} {id : String} : device.execute ["vlan", id] =
    match parseUint 16 id.toList with
    | some id =>
      if h : id < 2 ^ 16 then device.enter id h else device
    | none => device := rfl

/-- An address is set where both parts are addresses. -/
theorem execute_ip_static {device : VlanDevice} {address netmask : String} :
    device.execute ["ip", "address", address, netmask] =
      if h : isIpv4 address.toList = true ∧ isIpv4 netmask.toList = true then
        device.changeOpen (DeviceVlan.setIp (.static address netmask) h)
      else device := rfl

def step (line : List Char) (device : VlanDevice) : VlanDevice :=
  match Cli.words line with
  | some words => device.execute (words.map String.ofList)
  | none => device

end VlanDevice

/-! ## What it prints -/

def ipLine : VlanIpConfig → List Char
  | .dhcp => "ip address dhcp-bootp".toList
  | .static address netmask => "ip address ".toList ++ (address.toList ++ ' ' :: netmask.toList)
  | .none => "no ip address".toList

theorem ipLine_static {address netmask : String} : ipLine (.static address netmask) =
    "ip address ".toList ++ (address.toList ++ ' ' :: netmask.toList) := rfl

def nameLine (name : List Char) : List Char := "name \"".toList ++ (name ++ ['"'])

theorem nameLine_eq {name : List Char} : nameLine name = "name \"".toList ++ (name ++ ['"']) := rfl

/-- Settings are indented. -/
def indented (line : List Char) : List Char := "   ".toList ++ line

def vlanLine (id : ℕ) : List Char := "vlan ".toList ++ (toString id).toList

theorem vlanLine_eq {id : ℕ} : vlanLine id = "vlan ".toList ++ (toString id).toList := rfl

def shownVlan (vlan : DeviceVlan) : List (List Char) :=
  [vlanLine vlan.id, indented (nameLine vlan.name),
    indented (ipLine vlan.ipConfig), indented "exit".toList]

def runningConfig (device : VlanDevice) : List Char :=
  printed (["Running configuration:".toList, []] ++ device.vlans.flatMap shownVlan)

end SwitchConfigurator.Aruba
