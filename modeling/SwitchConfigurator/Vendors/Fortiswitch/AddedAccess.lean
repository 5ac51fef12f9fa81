import SwitchConfigurator.Vendors.Fortiswitch.AccessReader

/-!
# The access that is added for SNMP

What the prerequisites of SNMP do to the access of a device whose interface table was read. An
address that does not print its access has the default of the device, which is not read.
-/

namespace SwitchConfigurator.Fortiswitch

open Cli

/-- The access that counts at an address: what is set there, or the default of the device. -/
def effectiveAccess (defaults : Location → List String) (device : Store) (loc : Location) :
    List String :=
  match device.get loc "allowaccess" with
  | some args => args.map Arg.value
  | none => defaults loc

/-- The table shows what the device holds. -/
structure Shows (table : AddressTable) (device : Store) : Prop where
  present : ∀ address ∈ table.addresses, address.loc ∈ device.map Prod.fst
  printed : ∀ address ∈ table.addresses,
    (device.get address.loc "allowaccess").map (List.map Arg.value) = address.access

/-- An address that is the management IP: by its own lines, or, where no lines say so, by lease. -/
def Owns (table : AddressTable) (leases : List (String × String)) (managementIp : String)
    (loc : Location) : Prop :=
  (∃ address ∈ table.addresses, address.Has managementIp = true ∧ address.loc = loc) ∨
    (∀ address ∈ table.addresses, address.Has managementIp = false) ∧
      managementIp ≠ "" ∧ managementIp ≠ "0.0.0.0" ∧
      ∃ lease ∈ leases, lease.2 = managementIp ∧ loc = interfaceLocation lease.1

/-- All access is kept, `snmp` is added at the address that was found, an owner of the management
IP, and nothing else changes. -/
structure OnlyAddsSnmp (defaults : Location → List String) (owns : Location → Prop)
    (found : Option MgmtAccess) (device after : Store) : Prop where
  keeps : ∀ loc, ∀ token ∈ effectiveAccess defaults device loc,
    token ∈ effectiveAccess defaults after loc
  adds : ∀ access, found = some access → ∃ owner, owns owner ∧
    (∀ token, token ∈ effectiveAccess defaults after owner ↔
      token ∈ effectiveAccess defaults device owner ∨ token = "snmp") ∧
    ∀ loc field, loc ≠ owner ∨ field ≠ "allowaccess" → after.get loc field = device.get loc field
  unchanged : found = none → ∀ loc field, after.get loc field = device.get loc field
  entries : after.map Prod.fst = device.map Prod.fst

/-- What the prerequisites leave on the device, whatever is known of the agent. -/
def afterPrerequisites (sysinfoEnabled : Option Bool) (found : Option MgmtAccess)
    (device : Store) : Store :=
  execute (snmpPrerequisiteCommands sysinfoEnabled found) device

/-! ## The commands on the device -/

section Execution

variable {device : Store} {sysinfoEnabled : Option Bool} {access : MgmtAccess} {loc : Location}
  {field : String}

/-- A value under a key that is there adds no key. -/
theorem keys_put {κ β : Type} [BEq κ] [LawfulBEq κ] {key : κ} {value : β}
    {entries : List (κ × β)} (h : key ∈ entries.map Prod.fst) :
    (put key value entries).map Prod.fst = entries.map Prod.fst := by
  induction entries with
  | nil => cases h
  | cons entry entries ih =>
    rw [put]
    split
    · next heq =>
      rw [List.map_cons, List.map_cons, eq_of_beq heq]
    · next hne =>
      rw [List.map_cons, List.map_cons, ih]
      refine (List.mem_cons.mp h).resolve_left ?_
      rintro rfl
      exact hne BEq.rfl

/-- Only the access of an address is commanded, and the agent, which is in no table. -/
theorem effects_prerequisites {found : Option MgmtAccess} :
    effects [] (snmpPrerequisiteCommands sysinfoEnabled found) =
      effects [] (snmpPrerequisiteCommands (some true) found) := by
  have hsysinfo : effects [] (if sysinfoEnabled != some true then
      block "system snmp sysinfo" [.set "status" [.bare "enable"]] else []) = [] := by
    split <;> rfl
  have hclosed : Closed (if sysinfoEnabled != some true then
      block "system snmp sysinfo" [.set "status" [.bare "enable"]] else []) := by
    split
    · exact .of_block (.plain trivial .nil)
    · exact .nil
  have hlines : snmpPrerequisiteCommands sysinfoEnabled found =
      (if sysinfoEnabled != some true then
        block "system snmp sysinfo" [.set "status" [.bare "enable"]] else []) ++
        snmpPrerequisiteCommands (some true) found := by
    cases found <;> rfl
  rw [hlines, hclosed.effects_append, hsysinfo, List.nil_append]

theorem after_none : afterPrerequisites sysinfoEnabled none device = device := by
  rw [afterPrerequisites, execute, effects_prerequisites]
  rfl

/-- Where SNMP is allowed nothing changes. -/
theorem after_allowed (h : "snmp" ∈ access.allowaccess) :
    afterPrerequisites sysinfoEnabled (some access) device = device := by
  have hlines : snmpPrerequisiteCommands (some true) (some access) = [] := if_pos h
  rw [afterPrerequisites, execute, effects_prerequisites, hlines]
  rfl

/-- The entries on the way to an address are opened, and its access is written. -/
theorem exists_creates (h : "snmp" ∉ access.allowaccess) : ∃ opened : List Location,
    (∀ loc ∈ opened, loc = interfaceLocation access.interface ∨ loc = accessLocation access) ∧
      afterPrerequisites sysinfoEnabled (some access) device = applyAll (opened.map .create ++
        [.assign (accessLocation access) "allowaccess"
          ((access.allowaccess ++ ["snmp"]).map .bare)]) device := by
  have hlines : snmpPrerequisiteCommands (some true) (some access) = allowSnmp access := if_neg h
  rw [afterPrerequisites, execute, effects_prerequisites, hlines, allowSnmp, accessLocation]
  cases access.secondaryIndex with
  | none => exact ⟨[interfaceLocation access.interface], by simp, rfl⟩
  | some index =>
    exact ⟨[interfaceLocation access.interface,
      [("secondaryip", toString index), ("system interface", access.interface)]], by simp, rfl⟩

/-- The access of the address becomes what was read of it and `snmp`. -/
theorem get_after_self (h : "snmp" ∉ access.allowaccess) :
    (afterPrerequisites sysinfoEnabled (some access) device).get (accessLocation access)
      "allowaccess" = some ((access.allowaccess ++ ["snmp"]).map .bare) := by
  obtain ⟨opened, -, hafter⟩ := @exists_creates device sysinfoEnabled access h
  rw [hafter, applyAll_append, applyAll_cons, applyAll_nil, get_assign_self]

/-- Every other field is as it was. -/
theorem get_after_other (h : loc ≠ accessLocation access ∨ field ≠ "allowaccess") :
    (afterPrerequisites sysinfoEnabled (some access) device).get loc field =
      device.get loc field := by
  by_cases hallowed : "snmp" ∈ access.allowaccess
  · rw [after_allowed hallowed]
  · obtain ⟨opened, -, hafter⟩ := @exists_creates device sysinfoEnabled access hallowed
    rw [hafter]
    apply get_applyAll
    rw [List.forall_mem_append, List.forall_mem_map]
    refine ⟨fun _ _ => trivial, fun effect heffect => ?_⟩
    rw [List.mem_singleton.mp heffect]
    exact h.imp Ne.symm Ne.symm

/-- No entry comes or goes, if those on the way to the address are there. -/
theorem keys_after (hinterface : interfaceLocation access.interface ∈ device.map Prod.fst)
    (haddress : accessLocation access ∈ device.map Prod.fst) :
    (afterPrerequisites sysinfoEnabled (some access) device).map Prod.fst =
      device.map Prod.fst := by
  by_cases hallowed : "snmp" ∈ access.allowaccess
  · rw [after_allowed hallowed]
  · obtain ⟨opened, hopened, hafter⟩ := @exists_creates device sysinfoEnabled access hallowed
    rw [hafter]
    refine @applyAll_invariant device (fun store => store.map Prod.fst = device.map Prod.fst) _
      (fun effect heffect store hstore => ?_) rfl
    have hput {loc : Location} {fields : Fields} (hloc : loc ∈ device.map Prod.fst) :
        (put loc fields store).map Prod.fst = device.map Prod.fst := by
      rw [keys_put (hstore ▸ hloc), hstore]
    rcases List.mem_append.mp heffect with hcreate | hassign
    · obtain ⟨loc, hloc, rfl⟩ := List.mem_map.mp hcreate
      refine hput ?_
      rcases hopened loc hloc with rfl | rfl
      · exact hinterface
      · exact haddress
    · rw [List.mem_singleton.mp hassign]
      exact hput haddress

end Execution

/-! ## What was found -/

section Found

variable {table : AddressTable} {raw : List (List Char)} {device : Store}
  {defaults : Location → List String} {leases : List (String × String)} {ip : String}
  {address : ShownAddress} {access : MgmtAccess}

/-- The owner is an address of the table that is the management IP. -/
theorem owner_mem (h : table.owner ip = some address) :
    ∃ interface ∈ table, address ∈ interface.addresses ∧ address.Has ip = true := by
  obtain ⟨interface, hmem, howner⟩ := List.exists_of_findSome?_eq_some h
  refine ⟨interface, hmem, ?_⟩
  rcases Option.or_eq_some_iff.mp howner with hsecondary | ⟨-, hprimary⟩
  · obtain hmine := List.find?_some hsecondary
    have hin := List.mem_reverse.mp (List.mem_of_find?_eq_some hsecondary)
    exact ⟨List.mem_cons_of_mem _ hin, hmine⟩
  · split at hprimary
    · next hmine =>
      obtain rfl := Option.some.inj hprimary
      exact ⟨List.mem_cons_self, hmine⟩
    · cases hprimary

/-- Without an owner no interface has the address. -/
theorem has_eq_false_of_owner (h : table.owner ip = none) :
    ∀ address ∈ table.addresses, address.Has ip = false := by
  intro address haddress
  obtain ⟨interface, hmem, hin⟩ := List.mem_flatMap.mp haddress
  obtain ⟨hsecondary, hprimary⟩ := Option.or_eq_none_iff.mp (List.findSome?_eq_none_iff.mp h _ hmem)
  rcases List.mem_cons.mp hin with rfl | hin
  · by_contra hmine
    rw [if_pos (Bool.not_eq_false _ ▸ hmine)] at hprimary
    cases hprimary
  · exact Bool.eq_false_iff.mpr (List.find?_eq_none.mp hsecondary _ (List.mem_reverse.mpr hin))

/-- Where no address is the management IP, the access of a leasing interface is read. -/
theorem leased_of_resolve (htext : table.IsText raw) (howner : table.owner ip = none)
    (h : resolveMgmtAccess raw leases ip = some access) :
    ∃ interface ∈ table, ∃ printed, Owns table leases ip (interfaceLocation interface.name) ∧
      interface.primary.access = some printed ∧ access = ⟨interface.name, none, printed⟩ := by
  have hparse : parseMgmtAccess raw ip = none := by
    rw [parseMgmtAccess_eq htext, howner]
    rfl
  rw [resolveMgmtAccess, hparse] at h
  dsimp only at h
  split at h
  · cases h
  · next hset =>
    obtain ⟨lease, hlease, hread⟩ := Option.bind_eq_some_iff.mp h
    obtain ⟨printed, hprinted, rfl⟩ := Option.map_eq_some_iff.mp hread
    obtain ⟨interface, hmem, hname, hprimary⟩ := interfaceAllowaccess_printed htext hprinted
    simp only [Bool.or_eq_true, String.isEmpty_iff, beq_iff_eq, not_or] at hset
    have hip : (lease.2 == ip) = true :=
      @List.find?_some _ (fun lease => lease.2 == ip) lease leases hlease
    refine ⟨interface, hmem, printed, .inr ⟨has_eq_false_of_owner howner, hset.1, hset.2, lease,
      List.mem_of_find?_eq_some hlease, beq_iff_eq.mp hip, ?_⟩, hprimary, ?_⟩
    · rw [hname]
    · rw [hname]

/-- A list that is printed is the list in force. -/
theorem effectiveAccess_printed {loc : Location} {printed : List String}
    (h : (device.get loc "allowaccess").map (List.map Arg.value) = some printed) :
    effectiveAccess defaults device loc = printed := by
  obtain ⟨args, hargs, rfl⟩ := Option.map_eq_some_iff.mp h
  rw [effectiveAccess, hargs]

/-- Without one the defaults are in force. -/
theorem effectiveAccess_default {loc : Location}
    (h : (device.get loc "allowaccess").map (List.map Arg.value) = none) :
    effectiveAccess defaults device loc = defaults loc := by
  rw [effectiveAccess, Option.map_eq_none_iff.mp h]

/-- An address of the table is an entry of the device, and so is its interface. -/
theorem present_of_mem (hshows : Shows table device) {interface : AddressedInterface}
    (hmem : interface ∈ table) (haddress : address ∈ interface.addresses) :
    interfaceLocation address.found.interface ∈ device.map Prod.fst ∧
      accessLocation address.found ∈ device.map Prod.fst := by
  have hin {other : ShownAddress} (hother : other ∈ interface.addresses) :
      other ∈ table.addresses := List.mem_flatMap.mpr ⟨interface, hmem, hother⟩
  refine ⟨?_, hshows.present _ (hin haddress)⟩
  have hprimary := hshows.present _ (hin List.mem_cons_self)
  have hname : address.found.interface = interface.name := by
    rcases List.mem_cons.mp haddress with rfl | hsecondary
    · rfl
    · obtain ⟨entry, -, rfl⟩ := List.mem_map.mp hsecondary
      rfl
  rw [hname]
  exact hprimary

/-- What is known of an address is added to rightly, if it is all there is but for `snmp`. -/
theorem onlyAdds_of_found {owns : Location → Prop} {sysinfoEnabled : Option Bool}
    (howns : owns (accessLocation access))
    (hinterface : interfaceLocation access.interface ∈ device.map Prod.fst)
    (haddress : accessLocation access ∈ device.map Prod.fst)
    (hread : ∀ token ∈ access.allowaccess,
      token ∈ effectiveAccess defaults device (accessLocation access))
    (hall : ∀ token ∈ effectiveAccess defaults device (accessLocation access),
      token ∈ access.allowaccess ∨ token = "snmp") :
    OnlyAddsSnmp defaults owns (some access) device
      (afterPrerequisites sysinfoEnabled (some access) device) := by
  have hother (loc : Location) (field : String)
      (h : loc ≠ accessLocation access ∨ field ≠ "allowaccess") :=
    @get_after_other device sysinfoEnabled access loc field h
  have hself (token : String) :
      token ∈ effectiveAccess defaults
        (afterPrerequisites sysinfoEnabled (some access) device) (accessLocation access) ↔
      token ∈ effectiveAccess defaults device (accessLocation access) ∨ token = "snmp" := by
    by_cases hallowed : "snmp" ∈ access.allowaccess
    -- the line names it already, so nothing is written
    · rw [after_allowed hallowed, iff_self_or]
      rintro rfl
      exact hread _ hallowed
    -- else the whole list is written anew, with the one token at its end
    · have hvalues : effectiveAccess defaults
          (afterPrerequisites sysinfoEnabled (some access) device) (accessLocation access) =
          access.allowaccess ++ ["snmp"] := by
        rw [effectiveAccess, get_after_self hallowed]
        simp [Arg.value, Function.comp_def]
      rw [hvalues, List.mem_append, List.mem_singleton]
      constructor
      · exact Or.imp_left (hread token)
      · rintro (htoken | hsnmp)
        · exact hall token htoken
        · exact .inr hsnmp
  refine ⟨fun loc token htoken => ?_, ?_, ?_, keys_after hinterface haddress⟩
  · by_cases hloc : loc = accessLocation access
    · subst hloc
      exact (hself token).mpr (.inl htoken)
    · rw [effectiveAccess, hother loc "allowaccess" (.inl hloc)]
      exact htoken
  · intro other hsome
    obtain rfl := Option.some.inj hsome
    exact ⟨accessLocation access, howns, hself, hother⟩
  · intro hnone
    cases hnone

end Found

/-- SNMP only adds access exactly where the address that is the management IP prints its access, or
the device has nothing but `snmp` as the default there. -/
theorem only_adds_snmp_iff (table : AddressTable) (raw : List (List Char)) (device : Store)
    (defaults : Location → List String) (leases : List (String × String)) (managementIp : String)
    (sysinfoEnabled : Option Bool) (htext : table.IsText raw) (hshows : Shows table device) :
    OnlyAddsSnmp defaults (Owns table leases managementIp)
      (resolveMgmtAccess raw leases managementIp) device
      (afterPrerequisites sysinfoEnabled (resolveMgmtAccess raw leases managementIp) device) ↔
    ∀ address ∈ table.owner managementIp, address.access = none →
      ∀ token ∈ defaults address.loc, token = "snmp" := by
  have hparse := @parseMgmtAccess_eq table raw managementIp htext
  cases howner : table.owner managementIp with
  | some address =>
    have hresolve : resolveMgmtAccess raw leases managementIp = some address.found := by
      rw [resolveMgmtAccess, hparse, howner]
      rfl
    obtain ⟨interface, hmem, haddress, hhas⟩ := owner_mem howner
    have hin : address ∈ table.addresses := List.mem_flatMap.mpr ⟨interface, hmem, haddress⟩
    obtain ⟨hinterface, hentry⟩ := present_of_mem hshows hmem haddress
    have howns : Owns table leases managementIp (accessLocation address.found) :=
      .inl ⟨address, hin, hhas, rfl⟩
    have hprinted := hshows.printed address hin
    rw [hresolve]
    cases haccess : address.access with
    | some printed =>
      -- what is read is what the device has
      have hfound : address.found.allowaccess = printed := congrArg (Option.getD · []) haccess
      have heffective : effectiveAccess defaults device address.loc = printed :=
        effectiveAccess_printed (hprinted.trans haccess)
      refine iff_of_true (onlyAdds_of_found howns hinterface hentry ?_ ?_) ?_
      · rw [hfound]
        exact fun token htoken => heffective ▸ htoken
      · rw [hfound]
        exact fun token htoken => .inl (heffective ▸ htoken)
      · rintro _ ⟨⟩ hnone
        rw [haccess] at hnone
        cases hnone
    | none =>
      have hfound : address.found.allowaccess = [] := congrArg (Option.getD · []) haccess
      have heffective : effectiveAccess defaults device address.loc = defaults address.loc :=
        effectiveAccess_default (hprinted.trans haccess)
      constructor
      · -- the default is written over
        rintro honly _ ⟨⟩ - token htoken
        have hkept : token ∈ effectiveAccess defaults
            (afterPrerequisites sysinfoEnabled (some address.found) device)
            (accessLocation address.found) :=
          honly.keeps address.loc token (heffective ▸ htoken)
        have hnot : "snmp" ∉ address.found.allowaccess := hfound ▸ List.not_mem_nil
        rw [effectiveAccess, get_after_self hnot, hfound] at hkept
        exact List.mem_singleton.mp hkept
      · intro hdefault
        refine onlyAdds_of_found howns hinterface hentry ?_ ?_
        · rw [hfound]
          exact fun token htoken => absurd htoken List.not_mem_nil
        · exact fun token htoken => .inr (hdefault address rfl haccess token (heffective ▸ htoken))
  | none =>
    refine iff_of_true ?_ fun address haddress => nomatch haddress
    cases hresolve : resolveMgmtAccess raw leases managementIp with
    | none =>
      rw [after_none]
      exact ⟨fun _ _ h => h, (fun _ h => nomatch h), fun _ _ _ => rfl, rfl⟩
    | some access =>
      obtain ⟨interface, hmem, printed, howns, hprimary, rfl⟩ :=
        leased_of_resolve htext howner hresolve
      obtain ⟨hinterface, hentry⟩ := present_of_mem hshows hmem List.mem_cons_self
      have hin : interface.primary ∈ table.addresses :=
        List.mem_flatMap.mpr ⟨interface, hmem, List.mem_cons_self⟩
      have heffective : effectiveAccess defaults device interface.primary.loc = printed :=
        effectiveAccess_printed ((hshows.printed _ hin).trans hprimary)
      refine onlyAdds_of_found howns hinterface hentry ?_ ?_
      · exact fun token htoken => heffective ▸ htoken
      · exact fun token htoken => .inl (heffective ▸ htoken)

def internalKey : EntryName where
  name := "internal".toList
  quoted := true
  bare_word h := nomatch h
  unquoted := by decide

/-- The management IP is the second secondary address of the interface. -/
def secondaryTable : AddressTable :=
  [{ key := internalKey
     items := [.own (Setting.ofText "set mode dhcp" (by decide) (by decide)),
       .own (Setting.ofText "set allowaccess ping https ssh" (by decide) (by decide)),
       .secondaries
         [{ index := 1
            settings :=
              [Setting.ofText "set ip 192.168.1.99 255.255.255.0" (by decide) (by decide),
                Setting.ofText "set allowaccess ping https ssh" (by decide) (by decide)]
            index_lt := by decide },
          { index := 2
            settings :=
              [Setting.ofText "set ip 192.168.1.100 255.255.255.0" (by decide) (by decide),
                Setting.ofText "set allowaccess ping https" (by decide) (by decide)]
            index_lt := by decide }]]
     access_once := by decide }]

def secondaryText : List (List Char) :=
  ["config system interface", "    edit \"internal\"", "        set mode dhcp",
    "        set allowaccess ping https ssh", "        config secondaryip", "            edit 1",
    "                set ip 192.168.1.99 255.255.255.0",
    "                set allowaccess ping https ssh", "            next", "            edit 2",
    "                set ip 192.168.1.100 255.255.255.0",
    "                set allowaccess ping https", "            next", "        end", "    next",
    "end"].map String.toList

def secondaryDevice : Store :=
  [(interfaceLocation "internal",
      [("allowaccess", [.bare "ping", .bare "https", .bare "ssh"])]),
    ([("secondaryip", "1"), ("system interface", "internal")],
      [("allowaccess", [.bare "ping", .bare "https", .bare "ssh"])]),
    ([("secondaryip", "2"), ("system interface", "internal")],
      [("allowaccess", [.bare "ping", .bare "https"])])]

/-- What a device allows at an address that it was not told about. -/
def defaultAccess (_ : Location) : List String := ["ping", "https", "ssh"]

theorem only_adds_snmp_secondary :
    OnlyAddsSnmp defaultAccess (Owns secondaryTable [] "192.168.1.100")
      (resolveMgmtAccess secondaryText [] "192.168.1.100") secondaryDevice
      (afterPrerequisites none (resolveMgmtAccess secondaryText [] "192.168.1.100")
        secondaryDevice) := by
  refine (only_adds_snmp_iff secondaryTable secondaryText secondaryDevice defaultAccess []
    "192.168.1.100" none ?_ ⟨?_, ?_⟩).mpr ?_
  · show List.map trim _ = _
    decide +kernel
  · decide +kernel
  · decide +kernel
  · have howner : ∀ address ∈ secondaryTable.owner "192.168.1.100", address.access ≠ none := by
      decide +kernel
    exact fun address haddress hnone => absurd hnone (howner address haddress)

/-- The interface with the management IP prints no access. -/
def silentTable : AddressTable :=
  [{ key := internalKey
     items := [.own (Setting.ofText "set ip 192.168.1.99 255.255.255.0" (by decide) (by decide))]
     access_once := by decide }]

def silentText : List (List Char) :=
  ["config system interface", "    edit \"internal\"",
    "        set ip 192.168.1.99 255.255.255.0", "    next", "end"].map String.toList

def silentDevice : Store := [(interfaceLocation "internal", [])]

/-- The default access of the interface is lost. -/
theorem exists_access_lost : silentTable.IsText silentText ∧ Shows silentTable silentDevice ∧
    "ssh" ∈ effectiveAccess defaultAccess silentDevice (interfaceLocation "internal") ∧
    ¬OnlyAddsSnmp defaultAccess (Owns silentTable [] "192.168.1.99")
      (resolveMgmtAccess silentText [] "192.168.1.99") silentDevice
      (afterPrerequisites none (resolveMgmtAccess silentText [] "192.168.1.99") silentDevice) := by
  refine ⟨?_, ⟨by decide +kernel, by decide +kernel⟩, by decide +kernel, fun honly => ?_⟩
  · show List.map trim _ = _
    decide +kernel
  · have hkept := honly.keeps (interfaceLocation "internal") "ssh" (by decide +kernel)
    exact absurd hkept (by decide +kernel)

/-! ## An apply that knows the access -/

/-- The access of the management address, as it is read from a text of a table that shows what the
device holds, is what the device has there. -/
theorem accessRead_of_shows {table : AddressTable} {raw : List (List Char)} {device : Store}
    {leases : List (String × String)} {ip : String} {switch : FortiswitchSwitch}
    (htext : table.IsText raw) (hshows : Shows table device)
    (hread : switch.mgmtAccess = resolveMgmtAccess raw leases ip) : AccessRead switch device := by
  -- an address that is read as it is printed
  have hprinted {address : ShownAddress} (hin : address ∈ table.addresses) :
      address.access.getD [] = accessAt device address.loc := by
    rw [← hshows.printed address hin, accessAt]
    cases device.get address.loc "allowaccess" <;> rfl
  intro access haccess
  rw [hread] at haccess
  cases howner : table.owner ip with
  | some address =>
    have hresolve : resolveMgmtAccess raw leases ip = some address.found := by
      rw [resolveMgmtAccess, parseMgmtAccess_eq htext, howner]
      rfl
    obtain rfl := Option.some.inj (hresolve.symm.trans haccess)
    obtain ⟨interface, hmem, haddress, -⟩ := owner_mem howner
    exact hprinted (List.mem_flatMap.mpr ⟨interface, hmem, haddress⟩)
  | none =>
    obtain ⟨interface, hmem, printed, -, hprimary, rfl⟩ := leased_of_resolve htext howner haccess
    have hin : interface.primary ∈ table.addresses :=
      List.mem_flatMap.mpr ⟨interface, hmem, List.mem_cons_self⟩
    have hshown := hprinted hin
    rwa [hprimary] at hshown

def officeKey : EntryName where
  name := "vlan10".toList
  quoted := true
  bare_word h := nomatch h
  unquoted := by decide

def officeTable : AddressTable :=
  [{ key := officeKey
     items :=
      [.own (Setting.ofText "set ip 192.0.2.2 255.255.255.0" (by decide) (by decide)),
        .own (Setting.ofText "set allowaccess ping https ssh" (by decide) (by decide))]
     access_once := by decide }]

def officeText : List (List Char) :=
  ["config system interface", "    edit \"vlan10\"", "        set ip 192.0.2.2 255.255.255.0",
    "        set allowaccess ping https ssh", "    next", "end"].map String.toList

/-- A VLAN and a community beside the management VLAN. -/
def labConfig : SwitchConfig :=
  { officeConfig none with
    vlans := [officeVlan none, { id := 20, name := "Lab" }]
    snmp := some { communities := [{ name := "poller", access := .operator }] } }

/-- The switch after a look at its interfaces. -/
def officeSwitch : FortiswitchSwitch where
  config := labConfig
  mgmtAccess := resolveMgmtAccess officeText [] "192.0.2.2"

def labDiff : StateDiff :=
  Diff.computeDiff { vlans := [officeVlan none], managementVlan := some 10 } labConfig false

/-- The community writes the access of the management VLAN anew, with `snmp` behind what was
read. -/
theorem keepsAccess_iff_office :
    .set "allowaccess" [.bare "ping", .bare "https", .bare "ssh", .bare "snmp"] ∈
      (applyDiff officeSwitch labDiff).sent ∧
    KeepsAccess officeDevice (applyDiff officeSwitch labDiff).sent
      (interfaceLocation (vlanInterface 10)) := by
  have htext : officeTable.IsText officeText := by
    show List.map trim _ = _
    decide +kernel
  have hshows : Shows officeTable officeDevice := ⟨by decide +kernel, by decide +kernel⟩
  have hread : AccessRead officeSwitch officeDevice :=
    @accessRead_of_shows officeTable officeText officeDevice [] "192.0.2.2" officeSwitch htext
      hshows rfl
  exact ⟨by decide +kernel, (keepsAccess_iff officeSwitch officeDevice labDiff 10
    (.inl (by decide +kernel)) hread (by decide +kernel)).mpr (by decide +kernel)⟩

end SwitchConfigurator.Fortiswitch
