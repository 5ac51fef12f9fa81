import SwitchConfigurator.Vendors.Fortiswitch.Commands

/-!
# Access to the management interface

Which commands of an `apply_diff` write the `allowaccess` of an interface, and what is left of it
after every prefix of them.
-/

namespace SwitchConfigurator.Fortiswitch

open Cli

/-- The access tokens that count. -/
def accessTokens : List String := ["ssh", "https", "snmp", "ping"]

/-- The access that an address of the device allows. -/
def accessAt (device : Store) (loc : Location) : List String :=
  ((device.get loc "allowaccess").getD []).map Arg.value

def interfaceLocation (interface : String) : Location := [("system interface", interface)]

/-- What was read of the management address is what the device has there. -/
def AccessRead (switch : FortiswitchSwitch) (device : Store) : Prop :=
  ∀ access, switch.mgmtAccess = some access →
    access.allowaccess = accessAt device (accessLocation access)

/-- No prefix of the lines takes a token away from an address. -/
def KeepsAccess (device : Store) (lines : List Line) (loc : Location) : Prop :=
  ∀ n, ∀ token ∈ accessTokens, token ∈ accessAt device loc →
    token ∈ accessAt (execute (lines.take n) device) loc

/-- An effect after which all tokens the device had are allowed, if they were before. -/
def EffectKeeps (device : Store) (loc : Location) (effect : Effect) : Prop :=
  effect.Spares loc "allowaccess" ∨ ∃ args, effect = .assign loc "allowaccess" args ∧
    ∀ token ∈ accessAt device loc, token ∈ args.map Arg.value

section Keeps

variable {device : Store} {lines : List Line} {loc : Location}

/-- Access is kept if every effect keeps it. -/
theorem keepsAccess_of_effects (h : ∀ effect ∈ effects [] lines, EffectKeeps device loc effect) :
    KeepsAccess device lines loc := by
  intro n token _ htoken
  have hstep : ∀ effect ∈ effects [] (lines.take n), ∀ store, token ∈ accessAt store loc →
      token ∈ accessAt (effect.apply store) loc := by
    intro effect heffect store hstore
    rcases h effect (mem_effects_of_mem_take heffect) with hspares | ⟨args, rfl, hargs⟩
    · rwa [accessAt, hspares.get]
    · rw [accessAt, get_assign_self]
      exact hargs token htoken
  exact applyAll_invariant hstep htoken

/-- One write that leaves ping alone shuts the operator out. -/
theorem not_keepsAccess_of_mem (hmgmt : "ssh" ∈ accessAt device loc ∨ "https" ∈ accessAt device loc)
    (h : .assign loc "allowaccess" [.bare "ping"] ∈ effects [] lines) :
    ¬KeepsAccess device lines loc := by
  intro hkeeps
  obtain ⟨n, before, hcut⟩ := exists_take_of_mem_effects h
  have hleft : accessAt (execute (lines.take n) device) loc = ["ping"] := by
    rw [accessAt, execute, hcut, applyAll_append, applyAll_cons, applyAll_nil, get_assign_self]
    rfl
  rcases hmgmt with hssh | hhttps
  · have hkept := hkeeps n "ssh" (by decide) hssh
    rw [hleft] at hkept
    exact absurd hkept (by decide)
  · have hkept := hkeeps n "https" (by decide) hhttps
    rw [hleft] at hkept
    exact absurd hkept (by decide)

end Keeps

/-! ## What the generators write -/

section Writes

variable {device : Store} {loc : Location} {key : String}

/-- Commands that leave the interfaces alone take no access away. -/
theorem keeps_of_acts {tables : List String} {lines : List Line} (h : ActsIn tables lines)
    (hnot : "system interface" ∉ tables) :
    ∀ effect ∈ effects [] lines, EffectKeeps device (interfaceLocation key) effect := by
  intro effect heffect
  obtain ⟨other, hother, hroot⟩ := h.root effect heffect
  exact .inl (Effect.spares_of_root hroot fun heq => hnot (heq ▸ hother))

/-- An interface that is set up allows ping and nothing else. -/
theorem ping_mem_sviSettings {vlan : Vlan} (h : needsSvi vlan = true) :
    .set "allowaccess" [.bare "ping"] ∈ sviSettings vlan := by
  apply List.mem_append_right
  cases hip : vlan.ipConfig with
  | none =>
    rw [needsSvi, hip] at h
    cases h
  | dhcp => exact List.mem_cons_of_mem _ List.mem_cons_self
  | static address netmask => exact List.mem_cons_of_mem _ List.mem_cons_self

/-- A VLAN with an address writes the access of its own interface. -/
theorem ping_mem_effects {vlans : List Vlan} {vlan : Vlan} (hvlan : vlan ∈ vlans)
    (hneeds : needsSvi vlan = true) :
    .assign (interfaceLocation (vlanInterface vlan.id)) "allowaccess" [.bare "ping"] ∈
      effects [] (generateVlanCommands vlans) := by
  rw [effects_generateVlanCommands]
  apply List.mem_append_right
  apply List.mem_flatMap.mpr
  refine ⟨vlan, List.mem_filter.mpr ⟨hvlan, hneeds⟩, ?_⟩
  exact (mem_effects_settings sviSettings_set).mpr (.inr ⟨_, _, ping_mem_sviSettings hneeds, rfl⟩)

/-- No other VLAN's interface is written. -/
theorem keeps_generateVlanCommands {vlans : List Vlan} {id : ℕ}
    (h : ∀ vlan ∈ vlans, vlan.id = id → vlan.ipConfig = .none) :
    ∀ effect ∈ effects [] (generateVlanCommands vlans),
      EffectKeeps device (interfaceLocation (vlanInterface id)) effect := by
  rw [effects_generateVlanCommands, List.forall_mem_append, List.forall_mem_map]
  refine ⟨fun vlan _ => .inl trivial, ?_⟩
  intro effect heffect
  obtain ⟨vlan, hvlan, heffect⟩ := List.mem_flatMap.mp heffect
  obtain ⟨hmem, hneeds⟩ := List.mem_filter.mp hvlan
  have hid : vlan.id ≠ id := by
    intro hid
    rw [needsSvi, h vlan hmem hid] at hneeds
    cases hneeds
  left
  rcases (mem_effects_settings sviSettings_set).mp heffect with rfl | ⟨field, args, -, rfl⟩
  · trivial
  · left
    intro hloc
    injection hloc with hpair
    injection hpair with _ hkey
    exact hid (vlanInterface_injective hkey)

/-- A list with all that was allowed keeps the access. -/
theorem keeps_assign {access : MgmtAccess} {args : List Arg}
    (haccess : ∀ token ∈ accessAt device (accessLocation access), token ∈ args.map Arg.value) :
    EffectKeeps device loc (.assign (accessLocation access) "allowaccess" args) := by
  by_cases hloc : accessLocation access = loc
  · subst hloc
    exact .inr ⟨args, rfl, haccess⟩
  · exact .inl (.inl hloc)

/-- To allow SNMP sets one list. -/
theorem effects_allowSnmp {access : MgmtAccess} {effect : Effect}
    (h : effect ∈ effects [] (allowSnmp access)) : (∃ loc, effect = .create loc) ∨
      effect = .assign (accessLocation access) "allowaccess"
        ((access.allowaccess ++ ["snmp"]).map .bare) := by
  rw [allowSnmp] at h
  cases hindex : access.secondaryIndex with
  | none =>
    rw [hindex] at h
    simp only [mem_effects_settings fun line hline => ⟨_, _, List.mem_singleton.mp hline⟩] at h
    rcases h with rfl | ⟨field, args, hline, rfl⟩
    · exact .inl ⟨_, rfl⟩
    · obtain ⟨rfl, rfl⟩ := Line.set.inj (List.mem_singleton.mp hline)
      right
      rw [accessLocation, hindex]
      rfl
  | some index =>
    rw [hindex] at h
    have h : effect ∈ [.create [("system interface", access.interface)],
        .create [("secondaryip", toString index), ("system interface", access.interface)],
        .assign [("secondaryip", toString index), ("system interface", access.interface)]
          "allowaccess" ((access.allowaccess ++ ["snmp"]).map .bare)] := h
    simp only [List.mem_cons, List.not_mem_nil, or_false] at h
    rcases h with rfl | rfl | rfl
    · exact .inl ⟨_, rfl⟩
    · exact .inl ⟨_, rfl⟩
    · right
      rw [accessLocation, hindex]

theorem closed_allowSnmp {access : MgmtAccess} : Closed (allowSnmp access) := by
  obtain ⟨body, hbody, heq⟩ := balanced_allowSnmp access
  rw [heq]
  exact .of_block hbody

/-- Lines that lead back to the top and keep what an address allowed. -/
structure Harmless (device : Store) (loc : Location) (lines : List Line) : Prop where
  closed : Closed lines
  keeps : ∀ effect ∈ effects [] lines, EffectKeeps device loc effect

namespace Harmless

variable {lines lines' : List Line}

theorem nil : Harmless device loc [] := ⟨.nil, by simp⟩

theorem append (h : Harmless device loc lines) (h' : Harmless device loc lines') :
    Harmless device loc (lines ++ lines') := by
  refine ⟨h.closed.append h'.closed, ?_⟩
  rw [h.closed.effects_append, List.forall_mem_append]
  exact ⟨h.keeps, h'.keeps⟩

/-- Lines outside the table of interfaces do no harm to access. -/
theorem of_acts {tables : List String} (h : ActsIn tables lines)
    (hnot : "system interface" ∉ tables) :
    Harmless device (interfaceLocation key) lines :=
  ⟨h.closed, keeps_of_acts h hnot⟩

/-- `snmp` is added to what was read, so nothing is lost where it was read right. -/
theorem prerequisites {switch : FortiswitchSwitch} (hread : AccessRead switch device) :
    Harmless device (interfaceLocation key)
      (snmpPrerequisiteCommands switch.snmpSysinfoEnabled switch.mgmtAccess) := by
  refine .append ?_ ?_
  · split
    · exact .of_acts (.of_block (.plain trivial .nil) (List.mem_singleton_self _)) (by simp)
    · exact .nil
  · cases haccess : switch.mgmtAccess with
    | none => exact .nil
    | some access =>
      dsimp only
      split
      · exact .nil
      · refine ⟨closed_allowSnmp, ?_⟩
        intro effect heffect
        rcases effects_allowSnmp heffect with ⟨loc, rfl⟩ | rfl
        · exact .inl trivial
        · apply keeps_assign
          intro token htoken
          rw [← hread access haccess] at htoken
          simp [Arg.value, htoken]

/-- Nor does a change of SNMP, where the access was read from the device. -/
theorem snmpDiff {switch : FortiswitchSwitch} (hread : AccessRead switch device)
    {diff : SnmpStateDiff} (h : applySnmpDiff switch diff = .ok lines) :
    Harmless device (interfaceLocation key) lines := by
  rw [applySnmpDiff] at h
  split at h
  · rw [← Except.ok.inj h]
    exact .nil
  · obtain ⟨_, -, h⟩ := bind_ok_iff.mp h
    obtain ⟨communities, hcommunities, h⟩ := bind_ok_iff.mp h
    rw [← Except.ok.inj h]
    refine .append (.append ?_ (.of_acts (acts_communityCommands hcommunities) (by simp)))
      (.of_acts acts_receiverChanges (by simp))
    split
    · exact .nil
    · exact .prerequisites hread

/-- Nor does the whole of SNMP. -/
theorem configureSnmp {switch : FortiswitchSwitch} (hread : AccessRead switch device)
    {snmp : SnmpConfig} (h : Fortiswitch.configureSnmp switch snmp = .ok lines) :
    Harmless device (interfaceLocation key) lines := by
  obtain ⟨_, -, h⟩ := bind_ok_iff.mp h
  rw [← Except.ok.inj h]
  refine .append ?_ (.of_acts acts_generateSnmpCommands (by simp))
  split
  · exact .nil
  · exact .prerequisites hread

end Harmless

end Writes

/-! ## A whole apply -/

/-- No step but those of the VLANs takes access away. -/
theorem harmless_laterSteps {switch : FortiswitchSwitch} {device : Store} {diff : StateDiff}
    {key : String} (hread : AccessRead switch device)
    (hunchanged : diff.managementVlanChanged = false) {commands : List Line}
    (hcommands : .ok commands ∈ laterSteps switch diff) :
    Harmless device (interfaceLocation key) commands := by
  simp only [laterSteps, managementVlanSteps, Steps.managementVlan, List.mem_append, Steps.ok_mem_ifAny, hunchanged,
    Bool.false_eq_true, if_false, List.not_mem_nil, or_false] at hcommands
  rcases hcommands with (((((⟨-, rfl⟩ | ⟨-, rfl⟩) | ⟨-, rfl⟩) | ⟨-, rfl⟩) | ⟨-, rfl⟩) |
    ⟨-, rfl⟩) | hsnmp
  · exact .of_acts acts_generatePortCommands (by simp)
  · exact .of_acts acts_resetPorts (by simp)
  · exact .of_acts acts_configureMirrorDestPorts (by simp)
  · exact .of_acts acts_generateRemoveMirrorCommands (by simp)
  · exact .of_acts acts_generateMirrorCommands (by simp)
  · exact .of_acts acts_generateMirrorCommands (by simp)
  · rcases Steps.mem_snmp.mp hsnmp with ⟨snmpDiff, -, -, h⟩ | ⟨-, -, snmp, -, h⟩
    · exact .snmpDiff hread h.symm
    · exact .configureSnmp hread h.symm

/-- A whole apply takes no access away where no VLAN with an address is written. -/
theorem harmless_sent {switch : FortiswitchSwitch} {device : Store} {diff : StateDiff} {id : ℕ}
    (hread : AccessRead switch device) (hunchanged : diff.managementVlanChanged = false)
    (hvlans : ∀ vlan ∈ diff.vlansToAdd ++ diff.vlansToUpdate, vlan.id = id →
      vlan.ipConfig = .none) :
    Harmless device (interfaceLocation (vlanInterface id)) (applyDiff switch diff).sent := by
  obtain ⟨hadd, hupdate⟩ := List.forall_mem_append.mp hvlans
  apply Steps.sent_induction .nil .append
  intro commands hcommands
  rw [applyDiff, List.mem_append] at hcommands
  rcases hcommands with hcommands | hcommands
  · simp only [vlanSteps, List.mem_append, Steps.ok_mem_ifAny] at hcommands
    rcases hcommands with (⟨-, rfl⟩ | ⟨-, rfl⟩) | ⟨-, rfl⟩
    · exact .of_acts acts_generateRemoveVlanCommands (by simp)
    · exact ⟨closed_generateVlanCommands, keeps_generateVlanCommands hadd⟩
    · exact ⟨closed_generateVlanCommands, keeps_generateVlanCommands hupdate⟩
  · exact harmless_laterSteps hread hunchanged hcommands

/-- The VLANs are configured before anything can fail. -/
theorem ping_mem_sent {switch : FortiswitchSwitch} {diff : StateDiff} {vlan : Vlan}
    (hvlan : vlan ∈ diff.vlansToAdd ++ diff.vlansToUpdate) (hneeds : needsSvi vlan = true) :
    .assign (interfaceLocation (vlanInterface vlan.id)) "allowaccess" [.bare "ping"] ∈
      effects [] (applyDiff switch diff).sent := by
  simp only [applyDiff, vlanSteps, List.append_assoc, Steps.sent_ifAny_append]
  have hremove : Closed (if diff.vlansToRemove.isEmpty then []
      else generateRemoveVlanCommands diff.vlansToRemove) := by
    split
    · exact .nil
    · exact acts_generateRemoveVlanCommands.closed
  have hif (vlans : List Vlan) : Closed (if vlans.isEmpty then [] else generateVlanCommands vlans) := by
    split
    · exact .nil
    · exact closed_generateVlanCommands
  have hping (vlans : List Vlan) (hmem : vlan ∈ vlans) :
      .assign (interfaceLocation (vlanInterface vlan.id)) "allowaccess" [.bare "ping"] ∈
        effects [] (if vlans.isEmpty then [] else generateVlanCommands vlans) := by
    rw [if_neg (by simpa using List.ne_nil_of_mem hmem)]
    exact ping_mem_effects hmem hneeds
  rw [hremove.effects_append, (hif _).effects_append, (hif _).effects_append]
  apply List.mem_append_right
  rcases List.mem_append.mp hvlan with hvlan | hvlan
  · exact List.mem_append_left _ (hping _ hvlan)
  · exact List.mem_append_right _ (List.mem_append_left _ (hping _ hvlan))

/-- While the management VLAN stays as it is, its interface keeps its access through every prefix
of an apply exactly when no VLAN of that id that has an address is added or updated. -/
theorem keepsAccess_iff (switch : FortiswitchSwitch) (device : Store) (diff : StateDiff) (id : ℕ)
    (hmgmt : "ssh" ∈ accessAt device (interfaceLocation (vlanInterface id)) ∨
      "https" ∈ accessAt device (interfaceLocation (vlanInterface id)))
    (hread : AccessRead switch device) (hunchanged : diff.managementVlanChanged = false) :
    KeepsAccess device (applyDiff switch diff).sent (interfaceLocation (vlanInterface id)) ↔
      ∀ vlan ∈ diff.vlansToAdd ++ diff.vlansToUpdate, vlan.id = id → vlan.ipConfig = .none := by
  constructor
  · intro hkeeps vlan hvlan hid
    by_contra hip
    have hneeds : needsSvi vlan = true := by simp [needsSvi, hip]
    subst hid
    exact not_keepsAccess_of_mem hmgmt (ping_mem_sent hvlan hneeds) hkeeps
  · intro hvlans
    exact keepsAccess_of_effects (harmless_sent hread hunchanged hvlans).keeps

/-- A management VLAN whose interface allows `ssh`. -/
def officeDevice : Store :=
  [(interfaceLocation "vlan10", [("ip", [.bare "192.0.2.2", .bare "255.255.255.0"]),
    ("allowaccess", [.bare "ping", .bare "https", .bare "ssh"])])]

def officeVlan (description : Option String) : Vlan :=
  { id := 10, name := "Office", description,
    ipConfig := .static "192.0.2.2" "255.255.255.0" }

def officeConfig (description : Option String) : SwitchConfig :=
  { id := "sw1", model := some .fortiswitch124F_FPOE, vlans := [officeVlan description],
    managementVlan := some 10 }

/-- What is left to do where the description of the management VLAN is new. -/
def officeDiff : StateDiff :=
  Diff.computeDiff { vlans := [officeVlan none], managementVlan := some 10 }
    (officeConfig (some "Office")) false

/-- A new description takes `ssh` and `https` away. -/
theorem keepsAccess_fails : officeDiff.managementVlanChanged = false ∧
    "ssh" ∈ accessAt officeDevice (interfaceLocation (vlanInterface 10)) ∧
    ¬KeepsAccess officeDevice (applyDiff { config := officeConfig (some "Office") } officeDiff).sent
      (interfaceLocation (vlanInterface 10)) := by
  refine ⟨by decide +kernel, by decide +kernel, fun hkeeps => ?_⟩
  have hssh := hkeeps 15 "ssh" (by decide) (by decide +kernel)
  exact absurd hssh (by decide +kernel)

end SwitchConfigurator.Fortiswitch
