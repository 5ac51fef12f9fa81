import SwitchConfigurator.Config.Validate
import SwitchConfigurator.Vendors.Aruba.ShownVlans

/-!
# VLANs there and back

The commands for VLANs, what the reference switch makes of them, and what is read of it afterwards.
-/

namespace SwitchConfigurator.Aruba

open BlockWalk Cli

/-! ## What is sent -/

section Sent

variable {device : VlanDevice} {name : String} {id : ℕ} {ipConfig : VlanIpConfig}

/-- A command whose words can be read acts by what they stand for. -/
theorem step_of_readable {args : List Arg} (h : ∀ arg ∈ args, arg.Readable) :
    VlanDevice.step (render args).toList device = device.execute (args.map Arg.value) := by
  rw [VlanDevice.step, words_render h]
  dsimp only
  rw [List.map_map]
  congr 1
  exact List.map_congr_left fun arg _ => String.ofList_toList

/-- An address is sent as one word. -/
theorem readable_of_isIpv4 {address : String} (h : isIpv4 address.toList = true) :
    (Arg.bare address).Readable := by
  refine readable_bare (isWord_of_isIpv4 h) fun hquote => ?_
  exact not_mem_of_isIpv4 h (by decide) (by decide) (List.mem_of_mem_head? hquote)

/-- The device enters the VLAN of the command. -/
theorem step_vlan (h : id < 2 ^ 16) : VlanDevice.step (Command.vlan id).text.toList device =
    { vlans := VlanDevice.withVlan id h device.vlans, context := some id } := by
  have hreadable : ∀ arg ∈ (Command.vlan id).words, arg.Readable := by
    show ∀ arg ∈ [Arg.bare "vlan", Arg.number id], arg.Readable
    rw [List.forall_mem_cons, List.forall_mem_singleton]
    exact ⟨by decide, readable_number id⟩
  rw [Command.text, step_of_readable hreadable]
  show device.execute ["vlan", toString id] = _
  rw [VlanDevice.execute_vlan, parseUint_toString h]
  exact dif_pos h

theorem value_nameArg : (nameArg name).value = name := by
  unfold nameArg
  split <;> rfl

/-- It takes a name that can be read. -/
theorem step_name (h : (nameArg name).Readable) :
    VlanDevice.step (Command.name (nameArg name)).text.toList device =
      device.changeOpen (DeviceVlan.setName name.toList) := by
  have hreadable : ∀ arg ∈ (Command.name (nameArg name)).words, arg.Readable := by
    show ∀ arg ∈ [Arg.bare "name", nameArg name], arg.Readable
    rw [List.forall_mem_cons, List.forall_mem_singleton]
    exact ⟨by decide, h⟩
  rw [Command.text, step_of_readable hreadable]
  show device.execute ["name", (nameArg name).value] = _
  rw [value_nameArg]
  rfl

/-- It takes an address that is accepted. -/
theorem step_ip (h : IpAccepted ipConfig) :
    VlanDevice.step (ipCommand ipConfig).text.toList device =
    device.changeOpen (DeviceVlan.setIp ipConfig h) := by
  cases ipConfig with
  | none => rfl
  | dhcp => rfl
  | static address netmask =>
    have hreadable : ∀ arg ∈ (Command.ipAddress address netmask).words, arg.Readable := by
      show ∀ arg ∈ [Arg.bare "ip", .bare "address", .bare address, .bare netmask], arg.Readable
      simp only [List.forall_mem_cons, List.not_mem_nil, false_implies, implies_true, and_true]
      exact ⟨by decide, by decide, readable_of_isIpv4 h.1, readable_of_isIpv4 h.2⟩
    show VlanDevice.step (Command.ipAddress address netmask).text.toList device = _
    rw [Command.text, step_of_readable hreadable]
    show device.execute ["ip", "address", address, netmask] = _
    rw [VlanDevice.execute_ip_static]
    exact dif_pos h

/-- A name that is not one word after all changes nothing. -/
theorem step_name_unreadable (h : ¬(nameArg name).Readable) (hquote :
    name.toList.head? ≠ some '"') :
    VlanDevice.step (Command.name (nameArg name)).text.toList device = device := by
  have hline : (Command.name (nameArg name)).text.toList =
      (Arg.bare "name").text.toList ++ ' ' :: (nameArg name).text.toList := by
    show (render [Arg.bare "name", nameArg name]).toList = _
    rw [toList_render_cons_cons, render, List.map_singleton, String.intercalate_singleton]
  have hname : (Arg.bare "name").Readable := by decide
  rw [VlanDevice.step, hline, words_arg_blank hname]
  by_cases hblank : ' ' ∈ name.toList
  · have harg : nameArg name = .quoted name := by
      rw [nameArg, String.contains_char_eq, decide_eq_true hblank, if_pos rfl]
    rw [harg] at h ⊢
    obtain ⟨before, after, hsplit, hbefore⟩ := List.eq_append_cons_of_mem (not_not.mp h)
    have htext : (Arg.quoted name).text.toList = '"' :: (before ++ '"' :: (after ++ ['"'])) := by
      rw [Arg.text, String.toList_append, String.toList_append, hsplit]
      simp
    rw [htext, words_quoted hbefore]
    cases hwords : words (after ++ ['"']) with
    | none => rfl
    | some rest =>
      cases rest with
      | nil =>
        -- the last quote is left, so what is left is not blank
        exact absurd (eq_blank_of_words hwords '"' (by simp)) (by decide)
      | cons word rest => rfl
  · have harg : nameArg name = .bare name := by
      rw [nameArg, String.contains_char_eq, decide_eq_false hblank, if_neg Bool.false_ne_true]
    rw [harg] at h ⊢
    have hempty : name.toList = [] := by
      by_contra hne
      exact h ⟨hne, hblank, hquote⟩
    rw [Arg.text, hempty]
    rfl

/-- It leaves the VLAN. -/
theorem step_exit : VlanDevice.step Command.exit.text.toList device =
    { device with context := none } := rfl

theorem step_configureTerminal : VlanDevice.step Command.configureTerminal.text.toList device =
    device := rfl

end Sent

/-! ## What becomes of one VLAN -/

/-- A VLAN whose commands are lines that the switch either takes as they are meant or passes over. -/
structure Typed (vlan : Vlan) : Prop where
  id_lt : vlan.id < 2 ^ 16
  name_oneLine : '\n' ∉ vlan.name.toList
  name_quote : vlan.name.toList.head? ≠ some '"'
  ip_accepted : IpAccepted vlan.ipConfig

section Visit

variable {vlan : Vlan} {vlans : List Vlan} {device : VlanDevice} {entries : List DeviceVlan} {id :
  ℕ}

/-- What the commands for a VLAN make of its entry. -/
def assigned (vlan : Vlan) (h : IpAccepted vlan.ipConfig) (entry : DeviceVlan) : DeviceVlan :=
  (if (nameArg vlan.name).Readable then entry.setName vlan.name.toList else entry).setIp
    vlan.ipConfig h

/-- The entries under an id. -/
def under (id : ℕ) (entries : List DeviceVlan) : List DeviceVlan := entries.filter (·.id == id)

/-- A VLAN is sent in its commands, line by line. -/
theorem sentLines_vlanCommands (h : Typed vlan) : sentLines (vlanCommands vlan) =
    [(Command.vlan vlan.id).text.toList, (Command.name (nameArg vlan.name)).text.toList,
      (ipCommand vlan.ipConfig).text.toList, Command.exit.text.toList] := by
  have hnumber : '\n' ∉ (toString vlan.id).toList := fun hmem =>
    absurd (isDigit_of_mem_toString hmem) (by decide)
  have hid : '\n' ∉ (Command.vlan vlan.id).text.toList := by
    refine oneLine_text ?_
    show ∀ arg ∈ [Arg.bare "vlan", Arg.number vlan.id], _
    rw [List.forall_mem_cons, List.forall_mem_singleton]
    exact ⟨by decide, hnumber⟩
  have hname : '\n' ∉ (Command.name (nameArg vlan.name)).text.toList := by
    refine oneLine_text ?_
    show ∀ arg ∈ [Arg.bare "name", nameArg vlan.name], _
    rw [List.forall_mem_cons, List.forall_mem_singleton, value_nameArg]
    exact ⟨by decide, h.name_oneLine⟩
  have hip : '\n' ∉ (ipCommand vlan.ipConfig).text.toList := by
    have haccepted := h.ip_accepted
    cases hconfig : vlan.ipConfig with
    | none => decide
    | dhcp => decide
    | static address netmask =>
      rw [hconfig] at haccepted
      refine oneLine_text ?_
      show ∀ arg ∈ [Arg.bare "ip", .bare "address", .bare address, .bare netmask], _
      simp only [List.forall_mem_cons, List.not_mem_nil, false_implies, implies_true, and_true]
      exact ⟨by decide, by decide, not_mem_of_isIpv4 haccepted.1 (by decide) (by decide),
        not_mem_of_isIpv4 haccepted.2 (by decide) (by decide)⟩
  have hexit : '\n' ∉ Command.exit.text.toList := by decide
  refine sentLines_of_oneLine ?_
  show ∀ command ∈ [Command.vlan vlan.id, .name (nameArg vlan.name), ipCommand vlan.ipConfig,
    .exit], _
  simp only [List.forall_mem_cons, List.not_mem_nil, false_implies, implies_true, and_true]
  exact ⟨hid, hname, hip, hexit⟩

theorem modify_modify {first second : DeviceVlan → DeviceVlan} (hfirst :
    ∀ entry, (first entry).id = entry.id) :
    VlanDevice.modify id second (VlanDevice.modify id first entries) =
      VlanDevice.modify id (second ∘ first) entries := by
  rw [VlanDevice.modify, VlanDevice.modify, List.map_map, VlanDevice.modify]
  refine List.map_congr_left fun entry _ => ?_
  by_cases h : entry.id = id
  · simp [h, hfirst]
  · simp [h]

theorem id_setName {name : List Char} {entry : DeviceVlan} : (entry.setName name).id = entry.id :=
    by
  unfold DeviceVlan.setName
  split <;> rfl

/-- The commands of a VLAN set its name and address. -/
theorem run_vlanCommands (h : Typed vlan) :
    run VlanDevice.step device (sentLines (vlanCommands vlan)) =
      { vlans := VlanDevice.modify vlan.id (assigned vlan h.ip_accepted)
          (VlanDevice.withVlan vlan.id h.id_lt device.vlans)
        context := none } := by
  rw [sentLines_vlanCommands h, run_cons, run_cons, run_cons, run_cons, run_nil, step_vlan h.id_lt,
    step_exit, step_ip h.ip_accepted]
  by_cases hname : (nameArg vlan.name).Readable
  · have hassigned : assigned vlan h.ip_accepted =
        DeviceVlan.setIp vlan.ipConfig h.ip_accepted ∘ DeviceVlan.setName vlan.name.toList := by
      funext entry
      rw [assigned, if_pos hname]
      rfl
    rw [step_name hname, hassigned, ← modify_modify fun _ => id_setName]
    rfl
  · have hassigned : assigned vlan h.ip_accepted = DeviceVlan.setIp vlan.ipConfig h.ip_accepted :=
      by
      funext entry
      rw [assigned, if_neg hname]
    rw [step_name_unreadable hname h.name_quote, hassigned]
    rfl

/-- A change shows under its own id. -/
theorem under_modify {change : DeviceVlan → DeviceVlan} {other : ℕ}
    (h : ∀ entry, (change entry).id = entry.id) :
    under id (VlanDevice.modify other change entries) =
      if other = id then (under id entries).map change else under id entries := by
  rw [under, VlanDevice.modify, List.filter_map]
  have hid : ((fun entry : DeviceVlan => entry.id == id) ∘
      fun entry => if entry.id = other then change entry else entry) = fun entry =>
        entry.id == id := by
    funext entry
    show ((if entry.id = other then change entry else entry).id == id) = _
    split
    · rw [h]
    · rfl
  rw [hid]
  split
  · next heq =>
    subst heq
    refine List.map_congr_left fun entry hentry => if_pos ?_
    simpa using (List.mem_filter.mp hentry).2
  · next hne =>
    refine (List.map_congr_left fun entry hentry => if_neg fun heq => hne ?_).trans (List.map_id _)
    have hentry := (List.mem_filter.mp hentry).2
    rw [← heq]
    simpa using hentry

/-- A VLAN that is entered is there. -/
theorem under_withVlan {other : ℕ} {h : other < 2 ^ 16} :
    under id (VlanDevice.withVlan other h entries) =
      if other = id ∧ under id entries = [] then [DeviceVlan.fresh other h]
      else under id entries := by
  have hany : entries.any (·.id == other) = true ↔ under other entries ≠ [] := by
    rw [under, ne_eq, List.filter_eq_nil_iff, List.any_eq_true]
    push Not
    rfl
  rw [VlanDevice.withVlan]
  by_cases hthere : entries.any (·.id == other) = true
  · rw [if_pos hthere, if_neg]
    rintro ⟨rfl, hnone⟩
    exact hany.mp hthere hnone
  · have hnone : under other entries = [] := not_not.mp (mt hany.mpr hthere)
    rw [if_neg hthere, under, List.filter_append]
    by_cases heq : other = id
    · subst heq
      rw [if_pos ⟨rfl, hnone⟩]
      show under other entries ++ [DeviceVlan.fresh other h].filter _ = _
      rw [hnone]
      simp [DeviceVlan.fresh]
    · rw [if_neg fun hboth => heq hboth.1]
      simp [under, DeviceVlan.fresh, heq]

/-- The commands for a VLAN, as a step of the switch. -/
def visit (vlan : Vlan) (device : VlanDevice) : VlanDevice :=
  run VlanDevice.step device (sentLines (vlanCommands vlan))

theorem id_assigned {h : IpAccepted vlan.ipConfig} {entry : DeviceVlan} :
    (assigned vlan h entry).id = entry.id := by
  show DeviceVlan.id (if _ then _ else _) = _
  split
  · exact id_setName
  · rfl

/-- A VLAN acts on the entry of its own id only. -/
theorem under_visit (h : Typed vlan) : under id (visit vlan device).vlans =
    if vlan.id = id then
      (if under id device.vlans = [] then [DeviceVlan.fresh vlan.id h.id_lt]
        else under id device.vlans).map (assigned vlan h.ip_accepted)
    else under id device.vlans := by
  rw [visit, run_vlanCommands h, under_modify fun _ => id_assigned, under_withVlan]
  by_cases heq : vlan.id = id
  · simp [heq]
  · simp [heq]

end Visit

/-! ## What becomes of all of them -/

section All

variable {target : Vlan} {vlans : List Vlan} {device : VlanDevice}

/-- Several VLANs are set one after another. -/
theorem vlans_run_generateVlanCommands :
    (run VlanDevice.step device (sentLines (generateVlanCommands vlans))).vlans =
      (run visit device vlans).vlans := by
  have hconfigure : sentLines [Command.configureTerminal] =
      [Command.configureTerminal.text.toList] := rfl
  have hexit : sentLines [Command.exit] = [Command.exit.text.toList] := rfl
  have hvlans : sentLines (vlans.flatMap vlanCommands) =
      vlans.flatMap fun vlan => sentLines (vlanCommands vlan) := List.flatMap_assoc
  have hcommands : generateVlanCommands vlans =
      [Command.configureTerminal] ++ (vlans.flatMap vlanCommands ++ [Command.exit]) := rfl
  rw [hcommands, sentLines_append, sentLines_append, hconfigure, hexit, hvlans, run_append,
    run_append, run_cons, run_nil, run_cons, run_nil, step_configureTerminal, step_exit,
      run_flatMap]
  rfl

/-- The VLANs of one id that are configured are the same. -/
def Agree (target : Vlan) (vlans : List Vlan) : Prop :=
  ∀ vlan ∈ vlans, vlan.id = target.id →
    vlan.name = target.name ∧ vlan.ipConfig = target.ipConfig

/-- The entry is as it is wanted. -/
def Holds (target : Vlan) (device : VlanDevice) : Prop :=
  ∃ entry, under target.id device.vlans = [entry] ∧ entry.name = target.name.toList ∧
    entry.ipConfig = target.ipConfig

theorem setName_eq {name : List Char} (h : '\n' ∉ name) {entry : DeviceVlan} :
    (entry.setName name).name = name := by
  rw [DeviceVlan.setName, dif_pos h]

/-- A VLAN that is set holds what is desired of it. -/
theorem holds_visit {vlan : Vlan} (h : Typed vlan) (hreadable : (nameArg target.name).Readable)
    (hagree : vlan.name = target.name ∧ vlan.ipConfig = target.ipConfig) (hid : vlan.id = target.id)
    (hone : (under target.id device.vlans).length ≤ 1) : Holds target (visit vlan device) := by
  have hname {entry : DeviceVlan} :
      (assigned vlan h.ip_accepted entry).name = target.name.toList := by
    show DeviceVlan.name (if _ then _ else _) = _
    rw [hagree.1, if_pos hreadable]
    exact setName_eq (hagree.1 ▸ h.name_oneLine)
  have hunder := @under_visit vlan device target.id h
  rw [if_pos hid] at hunder
  match hentries : under target.id device.vlans with
  | [] =>
    rw [hentries, if_pos rfl] at hunder
    exact ⟨_, hunder, hname, hagree.2⟩
  | [entry] =>
    rw [hentries, if_neg (List.cons_ne_nil _ _)] at hunder
    exact ⟨_, hunder, hname, hagree.2⟩
  | _ :: _ :: _ =>
    rw [hentries] at hone
    exact absurd hone (by simp)

/-- Once the VLAN has been visited, its entry stays as it is wanted. -/
theorem holds_run (h : ∀ vlan ∈ vlans, Typed vlan) (hreadable : (nameArg target.name).Readable)
    (hagree : Agree target vlans) (hone : (under target.id device.vlans).length ≤ 1)
    (hmem : (∃ vlan ∈ vlans, vlan.id = target.id) ∨ Holds target device) :
    Holds target (run visit device vlans) := by
  induction vlans generalizing device with
  | nil =>
    rcases hmem with ⟨vlan, hvlan, -⟩ | hholds
    · cases hvlan
    · exact hholds
  | cons vlan vlans ih =>
    obtain ⟨htyped, hrest⟩ := List.forall_mem_cons.mp h
    obtain ⟨hsame, hagree⟩ := List.forall_mem_cons.mp hagree
    by_cases hid : vlan.id = target.id
    · have hholds := holds_visit htyped hreadable (hsame hid) hid hone
      obtain ⟨entry, hentry, -⟩ := id hholds
      refine ih hrest hagree ?_ (.inr hholds)
      rw [hentry]
      exact Nat.le_refl 1
    · have hunder := @under_visit vlan device target.id htyped
      rw [if_neg hid] at hunder
      refine ih hrest hagree (hunder ▸ hone) ?_
      rcases hmem with ⟨other, hother, hother_id⟩ | hholds
      · rcases List.mem_cons.mp hother with rfl | hother
        · exact absurd hother_id hid
        · exact .inl ⟨other, hother, hother_id⟩
      · obtain ⟨entry, hentry, hwanted⟩ := hholds
        exact .inr ⟨entry, hunder.trans hentry, hwanted⟩

/-- A name that cannot be read leaves the one that stands for the id. -/
theorem fresh_run (h : ∀ vlan ∈ vlans, Typed vlan) (hreadable : ¬(nameArg target.name).Readable)
    (hagree : Agree target vlans) (hlt : target.id < 2 ^ 16)
    (hfresh : ∀ entry ∈ under target.id device.vlans,
      entry.name = (DeviceVlan.fresh target.id hlt).name) :
    ∀ entry ∈ under target.id (run visit device vlans).vlans,
      entry.name = (DeviceVlan.fresh target.id hlt).name := by
  induction vlans generalizing device with
  | nil => exact hfresh
  | cons vlan vlans ih =>
    obtain ⟨htyped, hrest⟩ := List.forall_mem_cons.mp h
    obtain ⟨hsame, hagree⟩ := List.forall_mem_cons.mp hagree
    refine ih hrest hagree ?_
    rw [under_visit htyped]
    by_cases hid : vlan.id = target.id
    · have hname {entry : DeviceVlan} :
          (assigned vlan htyped.ip_accepted entry).name = entry.name := by
        show DeviceVlan.name (if _ then _ else _) = _
        rw [(hsame hid).1, if_neg hreadable]
      rw [if_pos hid, List.forall_mem_map]
      intro entry hentry
      rw [hname]
      split at hentry
      · rw [List.mem_singleton] at hentry
        subst hentry
        simp [DeviceVlan.fresh, hid]
      · exact hfresh entry hentry
    · rw [if_neg hid]
      exact hfresh

end All

/-! ## The round trip -/

/-- A name that comes back as it was sent. -/
structure NameSurvives (name : String) : Prop where
  nonempty : name.toList ≠ []
  oneLine : '\n' ∉ name.toList
  noEscape : stripAnsi name.toList = name.toList
  unquoted : name.toList.head? ≠ some '"' ∧ name.toList.getLast? ≠ some '"'
  /-- A name with a blank is sent in quotes. -/
  quotable : ' ' ∈ name.toList → '"' ∉ name.toList

section RoundTrip

variable {switch : ArubaSwitch} {hardwareWarnings : List Char → List String}
variable {linkChange macNotify : Bool} {vlans : List Vlan} {vlan : Vlan} {name : String}

/-- Whatever VLANs the switch has, those that are sent are read back. -/
def VlansRoundTrip (switch : ArubaSwitch) (hardwareWarnings : List Char → List String)
    (linkChange macNotify : Bool) (vlans : List Vlan) : Prop :=
  ∀ device : VlanDevice, (device.vlans.map DeviceVlan.id).Nodup → ∀ vlan ∈ vlans,
    (parseCurrentState switch hardwareWarnings linkChange macNotify (runningConfig
      (run VlanDevice.step device (sentLines (generateVlanCommands vlans))))).vlans.filter
        (·.id == vlan.id) = [{ vlan with description := none }]

/-- A name that survives can be read. -/
theorem NameSurvives.readable (h : NameSurvives name) : (nameArg name).Readable := by
  rw [nameArg, String.contains_char_eq]
  by_cases hblank : ' ' ∈ name.toList
  · rw [decide_eq_true hblank, if_pos rfl]
    exact h.quotable hblank
  · rw [decide_eq_false hblank, if_neg Bool.false_ne_true]
    exact ⟨h.nonempty, hblank, h.unquoted.1⟩

/-- It is read as it is. -/
theorem nameRead_of_survives (h : NameSurvives name) : nameRead name.toList = name.toList := by
  rw [nameRead, h.noEscape, h.noEscape]
  exact trimQuotes_eq_self_iff.mpr h.unquoted

/-- What is read under an id, entry by entry. -/
theorem filter_runningConfig {device : VlanDevice} {id : ℕ} :
    (parseCurrentState switch hardwareWarnings linkChange macNotify
      (runningConfig device)).vlans.filter (·.id == id) =
        (under id device.vlans).map DeviceVlan.read := by
  rw [vlans_of_runningConfig, List.filter_map]
  rfl

/-- No id is there twice. -/
theorem length_under_le {device : VlanDevice} (h : (device.vlans.map DeviceVlan.id).Nodup) (id :
    ℕ) :
    (under id device.vlans).length ≤ 1 := by
  have hsame : (under id device.vlans).map DeviceVlan.id =
      List.replicate (under id device.vlans).length id := by
    rw [List.eq_replicate_iff, List.length_map, List.forall_mem_map]
    exact ⟨rfl, fun entry hentry => by simpa using (List.mem_filter.mp hentry).2⟩
  have hnodup : ((under id device.vlans).map DeviceVlan.id).Nodup :=
    h.sublist (List.filter_sublist.map DeviceVlan.id)
  exact List.nodup_replicate.mp (hsame ▸ hnodup)

/-- The shape of what is read: from it follows what the switch makes of the commands. -/
theorem VlansRoundTrip.exists_entry
    (h : VlansRoundTrip switch hardwareWarnings linkChange macNotify vlans) (hvlan : vlan ∈ vlans) :
    ∃ entry, under vlan.id (run visit {} vlans).vlans = [entry] ∧
      nameRead entry.name = vlan.name.toList ∧ entry.ipConfig = vlan.ipConfig := by
  have hread := h {} List.nodup_nil vlan hvlan
  rw [filter_runningConfig, vlans_run_generateVlanCommands, List.map_eq_singleton_iff] at hread
  obtain ⟨entry, hentry, hsame⟩ := hread
  refine ⟨entry, hentry, ?_, congrArg Vlan.ipConfig hsame⟩
  rw [← congrArg Vlan.name hsame]
  exact String.toList_ofList.symm

/-- What is read of a name has no quotes at its ends and is one line. -/
theorem nameRead_shape {text : List Char} (h : '\n' ∉ text) :
    '\n' ∉ nameRead text ∧ (nameRead text).head? ≠ some '"' ∧
      (nameRead text).getLast? ≠ some '"' := by
  have htrimmed : trimQuotes (nameRead text) = nameRead text :=
    trimQuotes_eq_self_iff.mpr ⟨fun hquote => absurd (head?_dropEnds _ hquote) (by decide),
      fun hquote => absurd (getLast?_dropEnds _ hquote) (by decide)⟩
  refine ⟨fun hmem => h ?_, trimQuotes_eq_self_iff.mp htrimmed⟩
  have hstripped : '\n' ∈ stripAnsi (stripAnsi text) :=
    List.dropWhile_subset _ ((List.rdropWhile_prefix _ _).subset hmem)
  exact stripAnsi_sublist.subset (stripAnsi_sublist.subset hstripped)

/-- What comes back is typed well enough for the switch to have kept it apart. -/
theorem VlansRoundTrip.typed (hid : ∀ vlan ∈ vlans, vlan.id < 2 ^ 16)
    (h : VlansRoundTrip switch hardwareWarnings linkChange macNotify vlans) :
    ∀ vlan ∈ vlans, Typed vlan := by
  intro vlan hvlan
  obtain ⟨entry, -, hname, hip⟩ := h.exists_entry hvlan
  obtain ⟨honeLine, hhead, -⟩ := nameRead_shape entry.name_oneLine
  rw [hname] at honeLine hhead
  exact ⟨hid vlan hvlan, honeLine, hhead, hip ▸ entry.ip_accepted⟩

/-- VLANs that come back agree where their ids do. -/
theorem VlansRoundTrip.agree (h : VlansRoundTrip switch hardwareWarnings linkChange macNotify vlans)
    (hvlan : vlan ∈ vlans) : Agree vlan vlans := by
  intro other hother hid
  have hsame := h {} List.nodup_nil vlan hvlan
  rw [← hid, h {} List.nodup_nil other hother, List.cons.injEq] at hsame
  have hname := congrArg Vlan.name hsame.1
  have hip := congrArg Vlan.ipConfig hsame.1
  exact ⟨hname, hip⟩

/-- Escapes shorten a name, so that one with an escape does not come back. -/
theorem stripAnsi_eq_of_nameRead {text : List Char} (h : nameRead text = text) :
    stripAnsi text = text := by
  have htrimmed : (nameRead text).length ≤ (stripAnsi (stripAnsi text)).length :=
    ((List.rdropWhile_prefix _ _).sublist.trans (List.dropWhile_sublist _)).length_le
  have htwice := (@stripAnsi_sublist (stripAnsi text)).length_le
  rw [h] at htrimmed
  exact stripAnsi_sublist.eq_of_length_le (htrimmed.trans htwice)

/-- The name that the device gives survives. -/
theorem nameSurvives_fresh {id : ℕ} (h : id < 2 ^ 16) :
    NameSurvives (String.ofList (DeviceVlan.fresh id h).name) := by
  have hname : (DeviceVlan.fresh id h).name = "VLAN".toList ++ (toString id).toList :=
    String.toList_append
  have hnot {c : Char} (hword : c ∉ "VLAN".toList) (hdigit : c.isDigit = false) :
      c ∉ "VLAN".toList ++ (toString id).toList := by
    rw [List.mem_append, not_or]
    refine ⟨hword, fun hmem => ?_⟩
    rw [isDigit_of_mem_toString hmem] at hdigit
    cases hdigit
  have hquote := hnot (c := '"') (by decide) (by decide)
  constructor <;> rw [String.toList_ofList, hname]
  · exact List.cons_ne_nil _ _
  · exact hnot (by decide) (by decide)
  · exact stripAnsi_of_not_mem (hnot (by decide) (by decide))
  · exact ⟨fun hhead => hquote (List.mem_of_mem_head? hhead),
      fun hlast => hquote (List.mem_of_mem_getLast? hlast)⟩
  · exact fun _ => hquote

/-- The names of VLANs that come back survive. -/
theorem VlansRoundTrip.survives (hid : ∀ vlan ∈ vlans, vlan.id < 2 ^ 16)
    (h : VlansRoundTrip switch hardwareWarnings linkChange macNotify vlans) (hvlan : vlan ∈ vlans) :
    NameSurvives vlan.name := by
  have htyped := h.typed hid
  obtain ⟨entry, hentry, hname, -⟩ := h.exists_entry hvlan
  have hunquoted := (nameRead_shape entry.name_oneLine).2
  rw [hname] at hunquoted
  by_cases hreadable : (nameArg vlan.name).Readable
  · obtain ⟨other, hother, hkept, -⟩ := @holds_run vlan vlans {} htyped hreadable (h.agree hvlan)
      (Nat.zero_le 1) (.inl ⟨vlan, hvlan, rfl⟩)
    obtain rfl : entry = other := List.singleton_injective (hentry.symm.trans hother)
    rw [hkept] at hname
    have honeLine := (htyped vlan hvlan).name_oneLine
    have hescape := stripAnsi_eq_of_nameRead hname
    rw [nameArg, String.contains_char_eq] at hreadable
    by_cases hblank : ' ' ∈ vlan.name.toList
    · rw [decide_eq_true hblank, if_pos rfl] at hreadable
      exact ⟨List.ne_nil_of_mem hblank, honeLine, hescape, hunquoted, fun _ => hreadable⟩
    · rw [decide_eq_false hblank, if_neg Bool.false_ne_true] at hreadable
      exact ⟨hreadable.1, honeLine, hescape, hunquoted, fun hmem => absurd hmem hblank⟩
  · -- the name stayed the one that stands for the id, and that one survives
    have hfresh := @fresh_run vlan vlans {} htyped hreadable (h.agree hvlan) (hid vlan hvlan) nofun
    have hsurvives := nameSurvives_fresh (hid vlan hvlan)
    have hback := nameRead_of_survives hsurvives
    rw [hentry, List.forall_mem_singleton] at hfresh
    rw [String.toList_ofList] at hback
    rw [hfresh, hback] at hname
    rwa [hname, String.ofList_toList] at hsurvives

/-- VLANs come back as they were sent exactly if every name survives, every address is one that the
switch takes, and VLANs of one id do not differ. -/
theorem vlans_round_trip_iff (hid : ∀ vlan ∈ vlans, vlan.id < 2 ^ 16) :
    VlansRoundTrip switch hardwareWarnings linkChange macNotify vlans ↔
      (∀ vlan ∈ vlans, NameSurvives vlan.name ∧ IpAccepted vlan.ipConfig) ∧
        ∀ vlan ∈ vlans, Agree vlan vlans := by
  constructor
  · intro h
    exact ⟨fun vlan hvlan => ⟨h.survives hid hvlan, (h.typed hid vlan hvlan).ip_accepted⟩,
      fun vlan hvlan => h.agree hvlan⟩
  · rintro ⟨hsurvives, hagree⟩ device hnodup vlan hvlan
    have htyped : ∀ vlan ∈ vlans, Typed vlan := fun vlan hvlan =>
      ⟨hid vlan hvlan, (hsurvives vlan hvlan).1.oneLine, (hsurvives vlan hvlan).1.unquoted.1,
        (hsurvives vlan hvlan).2⟩
    obtain ⟨hname, -⟩ := hsurvives vlan hvlan
    obtain ⟨entry, hentry, hkept, hip⟩ := holds_run htyped hname.readable (hagree vlan hvlan)
      (length_under_le hnodup vlan.id) (.inl ⟨vlan, hvlan, rfl⟩)
    have hmem : entry ∈ under vlan.id (run visit device vlans).vlans := by
      rw [hentry]
      exact List.mem_singleton_self entry
    have hid : entry.id = vlan.id := by simpa using (List.mem_filter.mp hmem).2
    rw [filter_runningConfig, vlans_run_generateVlanCommands, hentry, List.map_singleton,
      DeviceVlan.read, hkept, nameRead_of_survives hname, hid, hip, String.ofList_toList]

end RoundTrip

def officeVlan (name : String) : Vlan where
  id := 10
  name := name

/-- A plain VLAN, one whose name is sent in quotes, with an address, and one with a lease. -/
def officeVlans : List Vlan :=
  [officeVlan "Office",
    { id := 20, name := "Lab, 2nd floor", ipConfig := .static "192.0.2.2" "255.255.255.0" },
    { id := 30, name := "guests", ipConfig := .dhcp }]

theorem vlans_round_trip_iff_office :
    VlansRoundTrip { config := { id := "sw1" } } (fun _ => []) false false officeVlans := by
  have hsurvives : ∀ vlan ∈ officeVlans, NameSurvives vlan.name ∧ IpAccepted vlan.ipConfig := by
    refine List.forall_mem_cons.mpr ⟨⟨⟨?_, ?_, ?_, ?_, ?_⟩, trivial⟩, List.forall_mem_cons.mpr
      ⟨⟨⟨?_, ?_, ?_, ?_, ?_⟩, ?_, ?_⟩, List.forall_mem_singleton.mpr
        ⟨⟨?_, ?_, ?_, ?_, ?_⟩, trivial⟩⟩⟩ <;> decide +kernel
  exact (vlans_round_trip_iff (by decide)).mpr ⟨hsurvives, by unfold Agree; decide⟩

/-- A switch whose only VLAN has a name that ends in a quote. -/
def inchSwitch : SwitchConfig where
  id := "sw1"
  hostname := some "sw1"
  model := some .aruba2930F
  managementIp := some "192.0.2.1"
  credentials := some { username := "admin" }
  vlans := [officeVlan "Rack19\""]

/-- It passes validation, and the quote is lost. -/
theorem quote_lost : (validateSwitchConfig plainEnvironment).Succeeds inchSwitch inchSwitch ∧
    ¬VlansRoundTrip { config := inchSwitch } (fun _ => []) false false inchSwitch.vlans := by
  refine ⟨show validateSwitchConfig plainEnvironment inchSwitch = (inchSwitch, .ok ()) by
    decide +kernel, fun h => ?_⟩
  have hname := h.survives (by decide) List.mem_cons_self
  exact absurd rfl hname.unquoted.2

end SwitchConfigurator.Aruba
