import SwitchConfigurator.Operations.Power
import SwitchConfigurator.Vendors.Aruba.Device

/-!
# The power of a port

A line that fails may have been taken all the same. What the switch may have taken in the course of
an operation, and what that did to the port.
-/

namespace SwitchConfigurator.Operations

open Dialogue Deploy

/-! ## Lines that a switch took -/

/-- What the switch may have taken of what it was given. -/
inductive Took : List Deploy.Exchange → List String → Prop
  | nil : Took [] []
  | answered {purpose : Purpose} {line text : String} {given : List Deploy.Exchange}
      {lines : List String} :
      Took given lines → Took (⟨.execute purpose line, .ok text⟩ :: given) (line :: lines)
  | lost {purpose : Purpose} {line e : String} {given : List Deploy.Exchange}
      {lines : List String} :
      Took given lines → Took (⟨.execute purpose line, .error e⟩ :: given) lines
  | unanswered {purpose : Purpose} {line e : String} {given : List Deploy.Exchange}
      {lines : List String} :
      Took given lines → Took (⟨.execute purpose line, .error e⟩ :: given) (line :: lines)

/-- What was said with the switch. -/
def switchPart (tr : List Exchange) : List Deploy.Exchange :=
  tr.filterMap fun
    | ⟨.switch call, answer⟩ => some ⟨call, answer⟩
    | _ => none

section Took

variable {lines : List String} {given given' : List Deploy.Exchange} {tr tr' : List Exchange}

@[simp] theorem switchPart_append :
    switchPart (tr ++ tr') = switchPart tr ++ switchPart tr' := List.filterMap_append

@[simp] theorem switchPart_ofSwitch : switchPart (ofSwitch given) = given := by
  rw [switchPart, ofSwitch, List.filterMap_map]
  exact List.filterMap_some

@[simp] theorem switchPart_nil : switchPart [] = [] := rfl

@[simp] theorem switchPart_said {stage : String} {detail : Option String} :
    switchPart (said stage detail :: tr) = switchPart tr := rfl

@[simp] theorem switchPart_slept : switchPart (slept :: tr) = switchPart tr := rfl

@[simp] theorem switchPart_ended {healthy : Bool} :
    switchPart (ended healthy :: tr) = switchPart tr := rfl

@[simp] theorem switchPart_opening {stage : String} : switchPart (opening stage) = [] := rfl

@[simp] theorem switchPart_waiting : switchPart waiting = [] := rfl

/-- What a switch took of two halves is what it took of each. -/
theorem took_append_iff : Took (given ++ given') lines ↔
    ∃ first second, lines = first ++ second ∧ Took given first ∧ Took given' second := by
  constructor
  · intro h
    induction given generalizing lines with
    | nil => exact ⟨[], lines, rfl, .nil, h⟩
    | cons e given ih =>
      cases h with
      | answered h =>
        obtain ⟨first, second, rfl, hfirst, hsecond⟩ := ih h
        exact ⟨_ :: first, second, rfl, .answered hfirst, hsecond⟩
      | lost h =>
        obtain ⟨first, second, rfl, hfirst, hsecond⟩ := ih h
        exact ⟨first, second, rfl, .lost hfirst, hsecond⟩
      | unanswered h =>
        obtain ⟨first, second, rfl, hfirst, hsecond⟩ := ih h
        exact ⟨_ :: first, second, rfl, .unanswered hfirst, hsecond⟩
  · rintro ⟨first, second, rfl, hfirst, hsecond⟩
    induction hfirst with
    | nil => exact hsecond
    | answered _ ih => exact .answered ih
    | lost _ ih => exact .lost ih
    | unanswered _ ih => exact .unanswered ih

def isExecute : Deploy.Call → Bool
  | .execute _ _ => true
  | _ => false

/-- Of what was only commands there is something that may have been taken. -/
theorem exists_took (h : (calls given).all isExecute = true) : ∃ lines, Took given lines := by
  induction given with
  | nil => exact ⟨[], .nil⟩
  | cons e given ih =>
    rw [calls_cons, List.all_cons, Bool.and_eq_true] at h
    obtain ⟨lines, htook⟩ := ih h.2
    obtain ⟨call, answer⟩ := e
    cases call with
    | execute purpose line =>
      cases answer with
      | ok text => exact ⟨_, .answered htook⟩
      | error e => exact ⟨_, .lost htook⟩
    | _ => cases h.1

/-- Up to the first line that fails, all of them are taken. -/
theorem took_of_given {all : List String} {r : Except String Unit} (h : Given all given r)
    (htook : Took given lines) : lines <+: all ∧ (r = .ok () → lines = all) := by
  induction all generalizing given lines with
  | nil =>
    obtain ⟨rfl, -⟩ := run_pure_iff.mp h
    cases htook
    exact ⟨List.prefix_rfl, fun _ => rfl⟩
  | cons line all ih =>
    rcases run_bind_iff.mp h with ⟨e, hline, rfl⟩ | ⟨text, first, rest, rfl, hline, hrest⟩
    · obtain ⟨output, rfl, hr⟩ := run_execute_iff.mp hline
      cases htook with
      | answered htook => cases hr
      | lost htook =>
        cases htook
        exact ⟨List.nil_prefix, fun hr => by cases hr⟩
      | unanswered htook =>
        cases htook
        exact ⟨⟨all, rfl⟩, fun hr => by cases hr⟩
    · obtain ⟨output, rfl, hr⟩ := run_execute_iff.mp hline
      obtain rfl := isOk_of_mapError_ok hr.symm
      obtain ⟨_, later, rfl, hfirst, hlater⟩ := took_append_iff.mp htook
      cases hfirst with
      | answered hfirst =>
        cases hfirst
        obtain ⟨hinitial, hall⟩ := ih hrest hlater
        exact ⟨(List.cons_prefix_cons).mpr ⟨rfl, hinitial⟩, fun hr => by rw [← hall hr]; rfl⟩

end Took

/-! ## Lines of an operation -/

namespace PowerChange

/-- What an operation that is done gave to the switch; of a first try to switch the power on again
anything may have come through. -/
def Completed (commands : PoeCommands) : PowerChange → List String → Prop
  | set turnOn, lines => lines = commands.lines turnOn
  | reset, lines => ∃ cut, cut <+: commands.enable ∧
      lines = commands.disable ++ cut ++ commands.enable

/-- What one gave to the switch that failed. Where the power is off for good, the reason says so. -/
def Stopped (portId : String) (commands : PoeCommands) : PowerChange → String → List String → Prop
  | set turnOn, _, lines => lines <+: commands.lines turnOn
  | reset, reason, lines => lines <+: commands.disable ∨ ∃ e cut cut', reason = leftOff portId e ∧
      cut <+: commands.enable ∧ cut' <+: commands.enable ∧
      lines = commands.disable ++ cut ++ cut'

def Accounts (portId : String) (commands : PoeCommands) (change : PowerChange)
    (outcome : Except String Unit) (lines : List String) : Prop :=
  match outcome with
  | .ok () => change.Completed commands lines
  | .error e => change.Stopped portId commands e lines

end PowerChange

section Lines

variable {config : SwitchConfig} {portId : String} {change : PowerChange} {commands : PoeCommands}
variable {hardwareWarnings : List Char → List String} {lines : List String}
variable {tr : List Exchange} {r outcome : Except String Unit}

/-- Each way that an operation can go accounts for the lines that were taken. -/
theorem accounts_of_powerRun (h : PowerRun portId commands change tr outcome)
    (htook : Took (switchPart tr) lines) : change.Accounts portId commands outcome lines := by
  cases h with
  | unconnected =>
    cases htook
    cases change with
    | set turnOn => exact List.nil_prefix
    | reset => exact .inl List.nil_prefix
  | @set turnOn given hset =>
    have hgiven : Took given lines := by simpa using htook
    exact (took_of_given hset hgiven).2 rfl
  | @notSet turnOn given e hset =>
    have hgiven : Took given lines := by simpa using htook
    exact (took_of_given hset hgiven).1
  | @notDisabled off e hoff =>
    have hgiven : Took off lines := by simpa using htook
    exact .inl (took_of_given hoff hgiven).1
  | @restored off on hoff hon =>
    have hgiven : Took (off ++ on) lines := by simpa using htook
    obtain ⟨first, second, rfl, hfirst, hsecond⟩ := took_append_iff.mp hgiven
    rw [(took_of_given hoff hfirst).2 rfl, (took_of_given hon hsecond).2 rfl]
    exact ⟨[], List.nil_prefix, by rw [List.append_nil]⟩
  -- the first attempt to switch on may have been cut short anywhere
  | @retried off cut on e hoff hcut hon =>
    have hgiven : Took (off ++ (cut ++ on)) lines := by simpa using htook
    obtain ⟨first, rest, rfl, hfirst, hrest⟩ := took_append_iff.mp hgiven
    obtain ⟨second, third, rfl, hsecond, hthird⟩ := took_append_iff.mp hrest
    rw [(took_of_given hoff hfirst).2 rfl, (took_of_given hon hthird).2 rfl, ← List.append_assoc]
    exact ⟨second, (took_of_given hcut hsecond).1, rfl⟩
  | @leftOff off cut cut' e e' hoff hcut hcut' =>
    have hgiven : Took (off ++ (cut ++ cut')) lines := by simpa using htook
    obtain ⟨first, rest, rfl, hfirst, hrest⟩ := took_append_iff.mp hgiven
    obtain ⟨second, third, rfl, hsecond, hthird⟩ := took_append_iff.mp hrest
    rw [(took_of_given hoff hfirst).2 rfl, ← List.append_assoc]
    exact .inr ⟨e', second, third, rfl, (took_of_given hcut hsecond).1,
      (took_of_given hcut' hthird).1, rfl⟩

/-- What is told last of an operation that had its turn. -/
theorem last_stage {body : List Exchange} : (stages (⟨.takeTurn, true⟩ ::
    (body ++ told change outcome ++ [⟨.releaseTurn, ()⟩]))).getLast? = some (closing outcome) := by
  show (stages (body ++ told change outcome ++ [⟨.releaseTurn, ()⟩])).getLast? = _
  rw [stages_append, stages_append, stages_told]
  simp [stages]

theorem switchPart_frame {body : List Exchange} : switchPart (⟨.takeTurn, true⟩ ::
    (body ++ told change outcome ++ [⟨.releaseTurn, ()⟩])) = switchPart body := by
  have htold : switchPart (told change outcome ++ [⟨.releaseTurn, ()⟩]) = [] := by
    cases outcome <;> rfl
  show switchPart (body ++ told change outcome ++ [⟨.releaseTurn, ()⟩]) = _
  rw [List.append_assoc, switchPart_append, htold, List.append_nil]

/-- So does the whole task. -/
theorem accounts_of_run (h : Run ((Job.power change config portId).task hardwareWarnings) tr r)
    (htook : Took (switchPart tr) lines) :
    ∃ outcome, (stages tr).getLast? = some (closing outcome) ∧
      change.Accounts portId (poeCommandsFor config portId) outcome lines := by
  rcases run_power h with rfl | ⟨body, outcome, rfl, hbody⟩
  · refine ⟨.error gaveUp, rfl, ?_⟩
    cases htook
    cases change with
    | set turnOn => exact List.nil_prefix
    | reset => exact .inl List.nil_prefix
  · rw [switchPart_frame] at htook
    exact ⟨outcome, last_stage, accounts_of_powerRun hbody htook⟩

/-- The last event says how it came out. -/
theorem closing_injective : Function.Injective closing := by
  intro outcome outcome' heq
  cases outcome <;> cases outcome' <;> simp_all [closing]

/-- What is told last is what is recorded. -/
theorem records_of_last (h : Run ((Job.power change config portId).task hardwareWarnings) tr r)
    (hlast : (stages tr).getLast? = some (closing outcome)) :
    records tr = change.failures outcome := by
  rcases run_power h with rfl | ⟨body, outcome', rfl, hbody⟩
  · have heq : some (closing (.error gaveUp)) = some (closing outcome) := hlast
    obtain rfl := closing_injective (Option.some.inj heq)
    rfl
  · rw [last_stage] at hlast
    obtain rfl := closing_injective (Option.some.inj hlast)
    show records (body ++ told change outcome' ++ [⟨.releaseTurn, ()⟩]) = _
    rw [records_append, records_append, (stages_of_powerRun hbody).2.2.1, records_told]
    exact List.append_nil _

/-- What the switch may have taken fits what is told last, and what is recorded: a port that was
left without power is reported as such, unless it was switched off on the way to a reset. -/
theorem power_lines (h : Run ((Job.power change config portId).task hardwareWarnings) tr r)
    (htook : Took (switchPart tr) lines) :
    ∃ outcome, (stages tr).getLast? = some (closing outcome) ∧
      records tr = change.failures outcome ∧
      change.Accounts portId (poeCommandsFor config portId) outcome lines := by
  obtain ⟨outcome, hlast, haccounts⟩ := accounts_of_run h htook
  exact ⟨outcome, hlast, records_of_last h hlast, haccounts⟩

end Lines

/-! ## On a reference switch -/

section Aruba

open Aruba (Device DevicePort Command portRun normalizePortId poeDisableCommands poeEnableCommands)

variable {portId id : String} {context : Aruba.Context} {port : DevicePort} {on : Bool}

/-- The commands that switch the power of a port. -/
def arubaCommands (portId : String) (on : Bool) : List Command :=
  if on then poeEnableCommands portId else poeDisableCommands portId

def powered (portId : String) (on : Bool) (id : String) (port : DevicePort) : DevicePort :=
  if id = normalizePortId portId then { port with poe := on } else port

/-- The last change of power counts. -/
theorem powered_powered {on' : Bool} :
    powered portId on id (powered portId on' id port) = powered portId on id port := by
  unfold powered
  split <;> rfl

theorem powered_self : ∃ on, powered portId on id port = port :=
  ⟨port.poe, by unfold powered; split <;> rfl⟩

theorem change_configureTerminal : Command.change .configureTerminal context id port = port := by
  cases context with
  | top => rfl
  | vlan _ => rfl
  | interface open_ => exact ite_self _

theorem change_interface {target : String} :
    Command.change (.interface target) context id port = port := by
  cases context with
  | top => rfl
  | vlan _ => rfl
  | interface open_ => exact ite_self _

theorem change_exit : Command.change .exit context id port = port := by
  cases context with
  | top => rfl
  | vlan _ => rfl
  | interface open_ => exact ite_self _

/-- To leave a block changes no port. -/
theorem portRun_exits {commands : List Command} (h : ∀ command ∈ commands, command = .exit) :
    portRun id context port commands = port := by
  induction commands generalizing context with
  | nil => rfl
  | cons command commands ih =>
    obtain ⟨rfl, hrest⟩ := List.forall_mem_cons.mp h
    rw [Aruba.portRun_cons, change_exit, ih hrest]

def powerCommand (on : Bool) : Command := if on then .powerOverEthernet else .noPowerOverEthernet

theorem arubaCommands_eq : arubaCommands portId on =
    [.configureTerminal, .interface (normalizePortId portId), powerCommand on, .exit, .exit] := by
  cases on <;> rfl

theorem change_powerCommand : Command.change (powerCommand on)
    (.interface (normalizePortId portId)) id port = powered portId on id port := by
  cases on <;> rfl

/-- Only the third of the commands does anything to a port, wherever they begin. -/
theorem portRun_of_exits {rest : List Command} (h : ∀ command ∈ rest, command = .exit) :
    portRun id context port (.configureTerminal :: .interface (normalizePortId portId) ::
      powerCommand on :: rest) = powered portId on id port := by
  rw [Aruba.portRun_cons, change_configureTerminal, Aruba.portRun_cons, change_interface,
    Aruba.portRun_cons]
  show portRun id _ (Command.change (powerCommand on) (.interface (normalizePortId portId)) id
    port) rest = _
  rw [change_powerCommand, portRun_exits h]

/-- On Aruba the lines set the power of their port. -/
theorem portRun_arubaCommands :
    portRun id context port (arubaCommands portId on) = powered portId on id port := by
  rw [arubaCommands_eq]
  exact portRun_of_exits (by simp)

/-- However far the commands came, nothing but the power of the port has changed. -/
theorem portRun_prefix {commands : List Command} (h : commands <+: arubaCommands portId on) :
    ∃ on', portRun id context port commands = powered portId on' id port := by
  have hkept : ∃ on', port = powered portId on' id port :=
    powered_self.imp fun _ heq => heq.symm
  rw [arubaCommands_eq] at h
  rcases List.prefix_cons_iff.mp h with rfl | ⟨rest₁, rfl, h₁⟩
  · exact hkept
  rcases List.prefix_cons_iff.mp h₁ with rfl | ⟨rest₂, rfl, h₂⟩
  · rw [Aruba.portRun_cons, change_configureTerminal]
    exact hkept
  rcases List.prefix_cons_iff.mp h₂ with rfl | ⟨rest₃, rfl, h₃⟩
  · rw [Aruba.portRun_cons, change_configureTerminal, Aruba.portRun_cons, change_interface]
    exact hkept
  · refine ⟨on, portRun_of_exits fun command hmem => ?_⟩
    have hexit := h₃.subset hmem
    simpa using hexit

/-- The switch with the power of the port as it should be, and all else as it was. -/
def withPower (portId : String) (on : Bool) (device : Device) : Device :=
  { device with
    ports := device.ports.map fun entry => (entry.1, powered portId on entry.1 entry.2)
    context := .top }

/-- Nothing else is asked of a switch. -/
theorem mirrors_step {command : Command} (h : command ∈ arubaCommands portId on)
    (device : Device) : (device.step command).mirrorPort = device.mirrorPort ∧
      (device.step command).mirrors = device.mirrors := by
  rw [arubaCommands_eq] at h
  simp only [List.mem_cons, List.not_mem_nil, or_false] at h
  rcases h with rfl | rfl | rfl | rfl | rfl
  · exact ⟨rfl, rfl⟩
  · exact ⟨rfl, rfl⟩
  · cases on <;> exact ⟨rfl, rfl⟩
  · exact ⟨rfl, rfl⟩
  · exact ⟨rfl, rfl⟩

theorem enter_arubaCommands : Aruba.enter context (arubaCommands portId on) = .top := by
  rw [arubaCommands_eq]
  rfl

/-- Commands that at most change the power of the port. -/
def OnlyPower (portId : String) (commands : List Command) : Prop :=
  (∀ command ∈ commands, ∃ on, command ∈ arubaCommands portId on) ∧
    ∀ context id port, ∃ on, portRun id context port commands = powered portId on id port

/-- So they do in part, if they are cut off. -/
theorem onlyPower_cut {commands : List Command} (h : commands <+: arubaCommands portId on) :
    OnlyPower portId commands :=
  ⟨fun _ hmem => ⟨on, h.subset hmem⟩, fun _ _ _ => portRun_prefix h⟩

theorem onlyPower_nil : OnlyPower portId [] :=
  onlyPower_cut (List.nil_prefix (l := arubaCommands portId true))

/-- Two such parts change nothing else. -/
theorem OnlyPower.append {first second : List Command} (h : OnlyPower portId first)
    (h' : OnlyPower portId second) : OnlyPower portId (first ++ second) := by
  refine ⟨fun command hmem => ?_, fun context id port => ?_⟩
  · exact (List.mem_append.mp hmem).elim (h.1 command) (h'.1 command)
  · obtain ⟨on, hfirst⟩ := h.2 context id port
    obtain ⟨on', hsecond⟩ := h'.2 (Aruba.enter context first) id (powered portId on id port)
    rw [Aruba.portRun_append, hfirst, hsecond, powered_powered]
    exact ⟨on', rfl⟩

/-- Whatever came before, commands that end with a whole change leave it behind. -/
theorem run_device {device : Device} {before : List Command} (hbefore : OnlyPower portId before) :
    Cli.run Device.step device (before ++ arubaCommands portId on) =
      withPower portId on device := by
  -- the mirrors stay as they are through every command
  have hstep : ∀ command ∈ before ++ arubaCommands portId on, ∀ s : Device,
      (s.mirrorPort = device.mirrorPort ∧ s.mirrors = device.mirrors) →
        (s.step command).mirrorPort = device.mirrorPort ∧
          (s.step command).mirrors = device.mirrors := by
    intro command hmem s hs
    have hone : (s.step command).mirrorPort = s.mirrorPort ∧
        (s.step command).mirrors = s.mirrors := by
      rcases List.mem_append.mp hmem with hmem | hmem
      · obtain ⟨on', hmem⟩ := hbefore.1 command hmem
        exact mirrors_step hmem s
      · exact mirrors_step hmem s
    exact ⟨hone.1.trans hs.1, hone.2.trans hs.2⟩
  have hkept : (Cli.run Device.step device (before ++ arubaCommands portId on)).mirrorPort =
      device.mirrorPort ∧ (Cli.run Device.step device (before ++
        arubaCommands portId on)).mirrors = device.mirrors :=
    Cli.run_invariant hstep ⟨rfl, rfl⟩
  -- of what came before, the last commands leave nothing at the port
  have hall : (Cli.run Device.step device (before ++ arubaCommands portId on)).ports =
      (withPower portId on device).ports := by
    rw [Aruba.run_ports]
    refine List.map_congr_left fun entry _ => ?_
    obtain ⟨on', hports⟩ := hbefore.2 device.context entry.1 entry.2
    rw [Aruba.portRun_append, hports, portRun_arubaCommands, powered_powered]
  have hcontext : (Cli.run Device.step device (before ++ arubaCommands portId on)).context =
      .top := by
    rw [Aruba.run_context, Aruba.enter_append, enter_arubaCommands]
  generalize Cli.run Device.step device (before ++ arubaCommands portId on) = after at *
  obtain ⟨ports, mirrorPort, mirrors, context⟩ := after
  obtain ⟨rfl, rfl⟩ := hkept
  obtain rfl := hall
  obtain rfl := hcontext
  rfl

/-- These are the lines that are sent to Aruba. -/
theorem text_arubaCommands {config : SwitchConfig}
    (hvendor : config.model.map SwitchModel.vendor ≠ some .fortiswitch) :
    (poeCommandsFor config portId).lines on = (arubaCommands portId on).map Command.text := by
  have hcommands : poeCommandsFor config portId =
      { disable := (poeDisableCommands portId).map Command.text
        enable := (poeEnableCommands portId).map Command.text } := by
    unfold poeCommandsFor
    split
    · next heq => exact absurd heq hvendor
    · rfl
  rw [hcommands]
  cases on <;> rfl

end Aruba

theorem exists_took_cameraReset : ∃ lines, Took (switchPart cameraReset.1) lines :=
  exists_took (by decide +kernel)

theorem power_lines_reset : ∃ lines, Took (switchPart cameraReset.1) lines ∧
    ∃ outcome, (stages cameraReset.1).getLast? = some (closing outcome) ∧
      records cameraReset.1 = PowerChange.reset.failures outcome ∧
      PowerChange.reset.Accounts "7" (poeCommandsFor camera "7") outcome lines := by
  obtain ⟨lines, htook⟩ := exists_took_cameraReset
  have hrun : Run ((Job.power .reset camera "7").task fun _ => []) cameraReset.1 cameraReset.2 :=
    run_exec _ [] _
  exact ⟨lines, htook, power_lines hrun htook⟩

def PowerChange.turnsOn : PowerChange → Bool
  | set turnOn => turnOn
  | reset => true

/-- A change of power that is done has set the power of that port on an Aruba switch and has changed
nothing else there, whichever lines of a first try came through. -/
theorem power_done_aruba {config : SwitchConfig} {portId : String} {change : PowerChange}
    {hardwareWarnings : List Char → List String} {lines : List String} {tr : List Exchange}
    {r : Except String Unit}
    (h : Run ((Job.power change config portId).task hardwareWarnings) tr r)
    (hvendor : config.model.map SwitchModel.vendor ≠ some .fortiswitch)
    (hdone : (stages tr).getLast? = some ("done", none)) (htook : Took (switchPart tr) lines) :
    ∃ commands, lines = commands.map Aruba.Command.text ∧ ∀ device,
      Cli.run Aruba.Device.step device commands = withPower portId change.turnsOn device := by
  obtain ⟨outcome, hlast, haccounts⟩ := accounts_of_run h htook
  rw [hdone] at hlast
  cases outcome with
  | error e => simp [closing] at hlast
  | ok _ =>
    cases change with
    | set turnOn =>
      have hlines : lines = _ := haccounts
      rw [text_arubaCommands hvendor] at hlines
      exact ⟨_, hlines, fun device => run_device onlyPower_nil⟩
    | reset =>
      -- between the halves, what came through of a first try
      obtain ⟨cut, hcut, rfl⟩ := haccounts
      have htext : ∀ on, (poeCommandsFor config portId).lines on =
          (arubaCommands portId on).map Aruba.Command.text := fun on => text_arubaCommands hvendor
      have hon : (poeCommandsFor config portId).enable = _ := htext true
      have hoff : (poeCommandsFor config portId).disable = _ := htext false
      rw [hon] at hcut
      obtain ⟨cut, hinitial, rfl⟩ := List.prefix_map_iff.mp hcut
      refine ⟨arubaCommands portId false ++ cut ++ arubaCommands portId true, ?_, fun device => ?_⟩
      · rw [hon, hoff, List.map_append, List.map_append]
      · exact run_device ((onlyPower_cut List.prefix_rfl).append (onlyPower_cut hinitial))

theorem power_done_aruba_reset : ∃ lines, Took (switchPart cameraReset.1) lines ∧
    ∃ commands, lines = commands.map Aruba.Command.text ∧ ∀ device,
      Cli.run Aruba.Device.step device commands = withPower "7" true device := by
  obtain ⟨lines, htook⟩ := exists_took_cameraReset
  have hrun : Run ((Job.power .reset camera "7").task fun _ => []) cameraReset.1 cameraReset.2 :=
    run_exec _ [] _
  exact ⟨lines, htook, power_done_aruba hrun (by decide) (by decide +kernel) htook⟩

/-! ## Where no line is lost -/

section Fortiswitch

open Fortiswitch (normalizePortId poeDisableCommands poeEnableCommands)

variable {config : SwitchConfig} {portId : String} {commands : PoeCommands} {change : PowerChange}
variable {on : Bool} {lines : List String} {given : List Deploy.Exchange} {tr : List Exchange}

/-- A command that failed is not one that was taken. -/
theorem accepted_of_given {all : List String} {r : Except String Unit} (h : Given all given r)
    (hall : ∀ e ∈ given, accepted e = true) : r = .ok () := by
  induction all generalizing given with
  | nil => exact (run_pure_iff.mp h).2
  | cons line all ih =>
    rcases run_bind_iff.mp h with ⟨e, hline, rfl⟩ | ⟨text, first, rest, rfl, hline, hrest⟩
    · obtain ⟨output, rfl, hr⟩ := run_execute_iff.mp hline
      have haccepted := hall _ (List.mem_singleton_self _)
      cases output with
      | ok text => cases hr
      | error message => cases haccepted
    · exact ih hrest fun e he => hall e (List.mem_append_right _ he)

/-- Everything that an operation gives to the switch when it goes well at once. -/
def PowerChange.whole (commands : PoeCommands) : PowerChange → List String
  | set turnOn => commands.lines turnOn
  | reset => commands.disable ++ commands.enable

/-- If all went well and no line was refused, the lines that were taken are those of the change. -/
theorem lines_of_powerRun {outcome : Except String Unit}
    (h : PowerRun portId commands change tr outcome) (hdone : outcome = .ok ())
    (hall : ∀ e ∈ switchPart tr, accepted e = true) (htook : Took (switchPart tr) lines) :
    lines = change.whole commands := by
  cases h with
  | unconnected => cases hdone
  | notSet => cases hdone
  | notDisabled => cases hdone
  | leftOff => cases hdone
  | @set turnOn given hset =>
    have hgiven : Took given lines := by simpa using htook
    exact (took_of_given hset hgiven).2 rfl
  | @restored off on hoff hon =>
    have hgiven : Took (off ++ on) lines := by simpa using htook
    obtain ⟨first, second, rfl, hfirst, hsecond⟩ := took_append_iff.mp hgiven
    rw [(took_of_given hoff hfirst).2 rfl, (took_of_given hon hsecond).2 rfl]
    rfl
  | @retried off cut on e hoff hcut hon =>
    -- the first try was cut off by a line that failed
    have hpart : ∀ e ∈ cut, accepted e = true := by
      intro e he
      refine hall e ?_
      simp [he]
    cases accepted_of_given hcut hpart

def fortiswitchLines (portId : String) (on : Bool) : List Cli.Line :=
  if on then poeEnableCommands portId else poeDisableCommands portId

/-- Where a FortiSwitch keeps the power of a port. -/
def powerEntry (portId : String) : Cli.Location :=
  [("switch physical-port", normalizePortId portId)]

def powerStatus (on : Bool) : List Cli.Arg := [.bare (if on then "enable" else "disable")]

/-- On FortiSwitch the lines set one field of one entry. -/
theorem effects_fortiswitchLines : Cli.effects [] (fortiswitchLines portId on) =
    [.create (powerEntry portId), .assign (powerEntry portId) "poe-status" (powerStatus on)] := by
  cases on <;> rfl

theorem closed_fortiswitchLines : Cli.Closed (fortiswitchLines portId on) := by
  cases on <;> rfl

/-- Every other field is as it was. -/
theorem get_execute_fortiswitchLines {store : Cli.Store} {loc : Cli.Location} {field : String} :
    (Cli.execute (fortiswitchLines portId on) store).get loc field =
      if loc = powerEntry portId ∧ field = "poe-status" then some (powerStatus on)
      else store.get loc field := by
  rw [Cli.execute, effects_fortiswitchLines, Cli.applyAll_cons, Cli.applyAll_cons,
    Cli.applyAll_nil]
  by_cases h : loc = powerEntry portId ∧ field = "poe-status"
  · rw [if_pos h]
    obtain ⟨rfl, rfl⟩ := h
    exact Cli.get_assign_self
  · rw [if_neg h]
    have hassign : (Cli.Effect.assign (powerEntry portId) "poe-status" (powerStatus on)).Spares
        loc field := by
      by_cases hloc : powerEntry portId = loc
      · exact .inr fun hfield => h ⟨hloc.symm, hfield.symm⟩
      · exact .inl hloc
    have hcreate : (Cli.Effect.create (powerEntry portId)).Spares loc field := trivial
    rw [hassign.get, hcreate.get]

/-- These are the lines that are sent to FortiSwitch. -/
theorem text_fortiswitchLines
    (hvendor : config.model.map SwitchModel.vendor = some .fortiswitch) :
    (poeCommandsFor config portId).lines on = (fortiswitchLines portId on).map Cli.Line.text := by
  rw [poeCommandsFor, hvendor]
  cases on <;> rfl

end Fortiswitch

/-- A change of power that is done without a line that failed has set the power of that port on a
FortiSwitch, and no other field of any entry. -/
theorem power_done_fortiswitch {config : SwitchConfig} {portId : String} {change : PowerChange}
    {hardwareWarnings : List Char → List String} {lines : List String} {tr : List Exchange}
    {r : Except String Unit}
    (h : Run ((Job.power change config portId).task hardwareWarnings) tr r)
    (hvendor : config.model.map SwitchModel.vendor = some .fortiswitch)
    (hdone : (stages tr).getLast? = some ("done", none))
    (hall : ∀ e ∈ switchPart tr, accepted e = true) (htook : Took (switchPart tr) lines) :
    ∃ commands, lines = commands.map Cli.Line.text ∧ ∀ store loc field,
      (Cli.execute commands store).get loc field =
        if loc = powerEntry portId ∧ field = "poe-status" then some (powerStatus change.turnsOn)
        else store.get loc field := by
  rcases run_power h with rfl | ⟨body, outcome, rfl, hbody⟩
  · have hlast : some (closing (.error gaveUp)) = some ("done", none) := hdone
    -- a task that gave up does not end in `done`
    simp [closing] at hlast
  rw [last_stage] at hdone
  rw [switchPart_frame] at hall htook
  have hok : outcome = .ok () := by
    cases outcome with
    | ok _ => rfl
    | error e => simp [closing] at hdone
  have hlines := lines_of_powerRun hbody hok hall htook
  have htext : ∀ on, (poeCommandsFor config portId).lines on =
      (fortiswitchLines portId on).map Cli.Line.text := fun on => text_fortiswitchLines hvendor
  cases change with
  | set turnOn =>
    exact ⟨_, hlines.trans (htext turnOn), fun store loc field => get_execute_fortiswitchLines⟩
  | reset =>
    have hon : (poeCommandsFor config portId).enable = _ := htext true
    have hoff : (poeCommandsFor config portId).disable = _ := htext false
    refine ⟨fortiswitchLines portId false ++ fortiswitchLines portId true, ?_,
      fun store loc field => ?_⟩
    · rw [hlines, PowerChange.whole, hon, hoff, List.map_append]
    · have hrun : Cli.execute
          (fortiswitchLines portId false ++ fortiswitchLines portId true) store =
          Cli.execute (fortiswitchLines portId true)
            (Cli.execute (fortiswitchLines portId false) store) := by
        rw [Cli.execute, closed_fortiswitchLines.effects_append, Cli.applyAll_append]
        rfl
      rw [hrun, get_execute_fortiswitchLines, get_execute_fortiswitchLines]
      show (if _ then some (powerStatus true) else _) = _
      -- both halves write the one field, so the second alone decides it
      by_cases hfield : loc = powerEntry portId ∧ field = "poe-status"
      · rw [if_pos hfield, if_pos hfield]
        rfl
      · rw [if_neg hfield, if_neg hfield, if_neg hfield]

/-- A telephone on a FortiSwitch that takes every line. -/
def telephone : SwitchConfig := { id := "edge2", model := some .fortiswitch124F_FPOE }

def telephoneOff : List Exchange × Except String Unit :=
  exec (reachable fun _ _ => false) [] ((Job.power (.set false) telephone "3").task fun _ => [])

theorem power_done_fortiswitch_off : ∃ lines, Took (switchPart telephoneOff.1) lines ∧
    ∃ commands, lines = commands.map Cli.Line.text ∧ ∀ store loc field,
      (Cli.execute commands store).get loc field =
        if loc = powerEntry "3" ∧ field = "poe-status" then some (powerStatus false)
        else store.get loc field := by
  have hrun : Run ((Job.power (.set false) telephone "3").task fun _ => []) telephoneOff.1
      telephoneOff.2 := run_exec _ [] _
  have hall : (switchPart telephoneOff.1).all accepted = true := by decide +kernel
  have hcalls : (calls (switchPart telephoneOff.1)).all isExecute = true := by decide +kernel
  obtain ⟨lines, htook⟩ := exists_took hcalls
  exact ⟨lines, htook, power_done_fortiswitch hrun (by decide) (by decide +kernel)
    (List.all_eq_true.mp hall) htook⟩

end SwitchConfigurator.Operations
