import SwitchConfigurator.SnmpDiff
import SwitchConfigurator.Vendors.Fortiswitch.Managers

/-!
# Managers from their text to the device and back

Which spellings of a manager come back as they were, networks on the way back, and the shifts that
the netmasks are computed with.
-/

namespace SwitchConfigurator.Fortiswitch

open RelatedLists

/-! ## Shifts -/

/-- `<<` on `u32`, which is an overflow from 32 bits on. -/
def shiftLeftU32 (n bits : ℕ) : Option ℕ := if bits < 32 then some (n * 2 ^ bits % 2 ^ 32) else none

/-- The netmask as `host_to_fortios` computes it. -/
def shiftedMask (length : ℕ) : Option ℕ :=
  if length = 0 then some 0 else shiftLeftU32 (2 ^ 32 - 1) (32 - length)

/-- The mask by shifting is the mask by its bits. -/
theorem shiftedMask_eq_netmask {length : ℕ} (h : length ≤ 32) :
    shiftedMask length = some (netmask length) := by
  have hall : ∀ n < 33, shiftedMask n = some (netmask n) := by decide +kernel
  exact hall length (by omega)

/-- `host_to_fortios` with the shift spelled out: `none` is a shift out of range. -/
def shiftedToFortios : AllowedHost → Option (Except String (String × String))
  | .auto => some (.error "allowed_hosts 'auto' was not resolved to an address")
  | .network network =>
    let text := network.toList
    let addr := text.takeWhile (· != '/')
    match parseIpAddr addr with
    | none => some (.error s!"'{network}' is not an IP address or network")
    | some .v6 =>
      some (.error s!"IPv6 manager '{network}' is not supported on FortiSwitch yet (only IPv4)")
    | some .v4 =>
      let length :=
        if text.contains '/' then parseUint 32 ((text.dropWhile (· != '/')).drop 1) else some 32
      match length with
      | none => some (.error s!"invalid prefix length in '{network}'")
      | some length =>
        if length > 32 then some (.error s!"invalid prefix length in '{network}'")
        else (shiftedMask length).map fun mask => .ok (String.ofList addr, dotted mask)

/-- `host_from_fortios` with the shift spelled out. -/
def shiftedFromFortios (ip mask : List Char) : Option (Option AllowedHost) :=
  if isIpv4 ip then
    match ipv4Value mask with
    | none => some none
    | some mask =>
      let length := countOnes mask
      let ip := String.ofList ip
      let host := AllowedHost.network (if length = 32 then ip else s!"{ip}/{length}")
      if length ≠ 0 then
        -- the shift is computed only for a length that is not zero
        (shiftLeftU32 (2 ^ 32 - 1) (32 - length)).map fun expected =>
          if mask ≠ expected then none else some host
      else if mask ≠ 0 then some none
      else some (some host)
  else some none

/-- So hosts are written alike. -/
theorem shiftedToFortios_eq (host : AllowedHost) :
    shiftedToFortios host = some (hostToFortios host) := by
  cases host with
  | auto => rfl
  | network network =>
    rw [shiftedToFortios, hostToFortios]
    dsimp only
    cases parseIpAddr (network.toList.takeWhile (· != '/')) with
    | none => rfl
    | some ip =>
      cases ip with
      | v6 => rfl
      | v4 =>
        dsimp only
        generalize (if network.toList.contains '/' = true then
          parseUint 32 ((network.toList.dropWhile (· != '/')).drop 1) else some 32) = length
        cases length with
        | none => rfl
        | some length =>
          dsimp only
          by_cases hlong : length > 32
          · rw [if_pos hlong, if_pos hlong]
          · rw [if_neg hlong, if_neg hlong, shiftedMask_eq_netmask (by omega), Option.map_some]

/-- So are they read. -/
theorem shiftedFromFortios_eq (ip mask : List Char) :
    shiftedFromFortios ip mask = some (hostFromFortios ip mask) := by
  rw [shiftedFromFortios, hostFromFortios]
  by_cases hip : isIpv4 ip = true
  · rw [if_pos hip, if_pos hip]
    cases hvalue : ipv4Value mask with
    | none => rfl
    | some value =>
      have hle := countOnes_le value
      rw [Option.bind_some]
      dsimp only
      generalize AllowedHost.network _ = host
      generalize countOnes value = length at hle ⊢
      have hshift := shiftedMask_eq_netmask hle
      by_cases hzero : length = 0
      · by_cases hmask : value = 0
        · simp [hzero, hmask]
        · simp [hzero, hmask]
      · rw [shiftedMask, if_neg hzero] at hshift
        rw [if_pos hzero, hshift, Option.map_some]
        by_cases hmask : value = netmask length
        · simp [hzero, hmask]
        · simp [hzero, hmask]
  · rw [if_neg hip, if_neg hip]

/-! ## Spellings -/

/-- What is written after the slash of an entry, if it has one. -/
def prefixText (value : String) : Option (List Char) :=
  let text := trim value.toList
  if text.contains '/' then some ((text.dropWhile (· != '/')).drop 1) else none

/-- The prefix length of an entry is left out, that of a single host, or plain decimal digits. -/
def SpelledPlainly (value : String) : Prop :=
  ∀ digits, prefixText value = some digits →
    ∃ length, parseU8 digits = some length ∧ (length = 32 ∨ digits = (toString length).toList)

theorem parseU8_toString {n : ℕ} (h : n ≤ 32) : parseU8 (toString n).toList = some n := by
  have hall : ∀ n < 33, parseU8 (toString n).toList = some n := by decide +kernel
  exact hall n (by omega)

/-- A host without a slash is plain. -/
theorem isPlain_of_notMem {text : String} (h : text.toList.contains '/' = false) :
    isPlain (.network text) = true := by
  rw [isPlain, h]
  rfl

/-- An accepted IPv4 manager is plain exactly where its entry was. -/
theorem isPlain_iff {value : String} {host : AllowedHost} {pair : String × String}
    (haccepted : AllowedHost.tryFrom value = .ok host) (hpair : hostToFortios host = .ok pair) :
    isPlain host = true ↔ SpelledPlainly value := by
  obtain ⟨address, mask⟩ := pair
  obtain ⟨_, -, -, hv4, network, rfl, hnetwork, -⟩ := hostToFortios_ok hpair
  rw [AllowedHost.tryFrom] at haccepted
  dsimp only at haccepted
  split at haccepted
  · cases Except.ok.inj haccepted
  split at haccepted
  · cases haccepted
  next ip hip =>
  by_cases hslash : (trim value.toList).contains '/' = true
  · have hbefore : prefixText value =
        some (((trim value.toList).dropWhile (· != '/')).drop 1) := if_pos hslash
    rw [if_pos hslash] at haccepted
    dsimp only at haccepted
    split at haccepted
    · cases haccepted
    next length hlength =>
    split at haccepted
    swap
    · cases haccepted
    next hle =>
    have hcut : ((trim value.toList).takeWhile (· != '/')).takeWhile (· != '/') =
        (trim value.toList).takeWhile (· != '/') :=
      List.takeWhile_eq_self_iff.mpr fun c hc => List.mem_takeWhile_imp (p := (· != '/')) hc
    -- the address in front of the slash is the one the device gets
    have haddress : address.toList = (trim value.toList).takeWhile (· != '/') := by
      rw [← hnetwork, ← AllowedHost.network.inj (Except.ok.inj haccepted), String.toList_ofList]
      split
      · exact hcut
      · rfl
    have hip4 : ip = .v4 := by
      rw [← haddress, parseIpAddr, if_pos hv4] at hip
      exact (Option.some.inj hip).symm
    obtain rfl := hip4
    obtain rfl := AllowedHost.network.inj (Except.ok.inj haccepted)
    by_cases hsingle : length = IpAddr.v4.maxPrefix
    · rw [if_pos hsingle, isPlain_of_notMem]
      · refine iff_of_true rfl fun digits hdigits => ⟨length, ?_, .inl hsingle⟩
        rw [hbefore] at hdigits
        rwa [← Option.some.inj hdigits]
      · rw [String.toList_ofList, Bool.eq_false_iff, ne_eq, List.contains_iff_mem]
        intro hmem
        simpa using List.mem_takeWhile_imp hmem
    · rw [if_neg hsingle, isPlain, String.toList_ofList, hslash, Bool.not_true, Bool.false_or,
        List.any_eq_true]
      constructor
      · rintro ⟨n, hn, hdigits⟩ digits hshown
        rw [hbefore] at hshown
        obtain rfl := Option.some.inj hshown
        exact ⟨length, hlength, .inr (by
          rw [eq_of_beq hdigits, parseU8_toString (by rw [List.mem_range] at hn; omega)] at hlength
          rw [eq_of_beq hdigits, Option.some.inj hlength])⟩
      · intro hspelled
        obtain ⟨n, hn, hform⟩ := hspelled _ hbefore
        rw [hlength] at hn
        obtain rfl := Option.some.inj hn
        have hlt : length < 32 := lt_of_le_of_ne hle hsingle
        exact ⟨length, List.mem_range.mpr hlt, beq_iff_eq.mpr (hform.resolve_left hlt.ne)⟩
  · have hbefore : prefixText value = none := if_neg hslash
    rw [if_neg hslash] at haccepted
    obtain rfl := AllowedHost.network.inj (Except.ok.inj haccepted)
    rw [Bool.not_eq_true] at hslash
    rw [isPlain_of_notMem (by rw [String.toList_ofList]; exact hslash)]
    refine iff_of_true rfl fun digits hdigits => ?_
    rw [hbefore] at hdigits
    cases hdigits

/-! ## Round trips -/

/-- The text of an entry after one trip to the device. -/
theorem toText_readBack_iff {value : String} {host : AllowedHost} {pair : String × String}
    (haccepted : AllowedHost.tryFrom value = .ok host) (hpair : hostToFortios host = .ok pair) :
    ∃ read, hostFromFortios pair.1.toList pair.2.toList = some read ∧
      (read.toText = host.toText ↔ SpelledPlainly value) := by
  obtain ⟨address, mask⟩ := pair
  obtain ⟨haddress, hmask⟩ := isIpv4_of_hostToFortios hpair
  obtain ⟨read, hread, hplain⟩ := readManager_hostToFortios hpair
  rw [readManager_pair haddress hmask] at hread
  refine ⟨read, hread, ?_⟩
  rw [← isPlain_iff haccepted hpair, ← hplain]
  constructor
  · intro htext
    obtain ⟨network, rfl⟩ : ∃ network, read = .network network := by
      cases read with
      | auto => cases isPlain_of_hostFromFortios hread
      | network network => exact ⟨network, rfl⟩
    obtain ⟨_, -, -, -, original, rfl, -⟩ := hostToFortios_ok hpair
    exact congrArg AllowedHost.network htext
  · rintro rfl
    rfl

/-- The form on the command line of a network whose prefix length is known. -/
theorem hostToFortios_network {text : String} {address : List Char} {length : ℕ}
    (htake : text.toList.takeWhile (· != '/') = address) (haddress : isIpv4 address = true)
    (hle : length ≤ 32) (hlength : (if text.toList.contains '/' then
      parseUint 32 ((text.toList.dropWhile (· != '/')).drop 1) else some 32) = some length) :
    hostToFortios (.network text) = .ok (String.ofList address, dotted (netmask length)) := by
  have hv4 : parseIpAddr address = some .v4 := by
    rw [parseIpAddr, if_pos haddress]
  rw [hostToFortios]
  dsimp only
  rw [htake, hv4, hlength]
  dsimp only
  rw [if_neg (by omega)]

/-- A network with a contiguous mask is the same network after a trip to its text. -/
theorem hostToFortios_hostFromFortios {ip mask : List Char} {length : ℕ} (hip : isIpv4 ip = true)
    (hlength : length ≤ 32) (hmask : ipv4Value mask = some (netmask length)) :
    ∃ host mask', hostFromFortios ip mask = some host ∧
      hostToFortios host = .ok (String.ofList ip, mask') ∧
        ipv4Value mask'.toList = some (netmask length) := by
  obtain ⟨-, hvalue, hones, hzero⟩ := netmask_reads length (by omega)
  have hsame : hostFromFortios ip mask = hostFromFortios ip (dotted (netmask length)).toList := by
    rw [hostFromFortios, hostFromFortios, hmask, hvalue]
  rw [hsame, hostFromFortios_netmask hip hlength]
  refine ⟨_, dotted (netmask length), rfl, ?_, hvalue⟩
  have hslash : '/' ∉ ip := fun hmem => absurd (isIpv4_chars hip _ hmem) (by decide)
  have hkeep : ∀ c ∈ ip, (c != '/') = true := fun c hc => bne_iff_ne.mpr fun heq => hslash (heq ▸ hc)
  split
  · next hsingle =>
    have hnone : ¬(String.ofList ip).toList.contains '/' = true := by
      rwa [String.toList_ofList, List.contains_iff_mem]
    refine hostToFortios_network ?_ hip hlength ?_
    · rw [String.toList_ofList]
      exact List.takeWhile_eq_self_iff.mpr hkeep
    · rw [if_neg hnone, hsingle]
  · have hcontains : (ip ++ '/' :: (toString length).toList).contains '/' = true := by
      rw [List.contains_iff_mem]
      simp
    refine hostToFortios_network ?_ hip hlength ?_
    · rw [network_toList, List.takeWhile_append_of_pos hkeep]
      simp
    · rw [network_toList, if_pos hcontains, List.dropWhile_append_of_pos hkeep]
      exact parseUint_toString (by omega)

/-- The managers that the command line has a form for are named by their text. -/
theorem eq_of_toText_eq {host read : AllowedHost} {pair : String × String}
    (hpair : hostToFortios host = .ok pair) (hread : isPlain read = true)
    (htext : host.toText = read.toText) : host = read := by
  obtain ⟨_, -, -, -, network, rfl, -⟩ := hostToFortios_ok hpair
  cases read with
  | auto => cases hread
  | network text => exact congrArg AllowedHost.network htext

/-- What is read of each host is what is read of all. -/
theorem readBack_eq {hosts readBack : List AllowedHost} {pairs : List (String × String)}
    (hpairs : List.Forall₂ (fun host pair => hostToFortios host = .ok pair) hosts pairs)
    (hread : List.Forall₂ (fun pair read =>
      hostFromFortios pair.1.toList pair.2.toList = some read) pairs readBack)
    (hplain : ∀ host ∈ hosts, isPlain host = true) : readBack = hosts := by
  induction hpairs generalizing readBack with
  | nil =>
    cases hread
    rfl
  | @cons host pair hosts pairs hpair _ ih =>
    cases hread with
    | @cons _ read _ rest hfrom hrest =>
      rw [List.forall_mem_cons] at hplain
      obtain ⟨haddress, hmask⟩ := isIpv4_of_hostToFortios hpair
      obtain ⟨manager, hmanager, hiff⟩ := readManager_hostToFortios hpair
      rw [readManager_pair haddress hmask, hfrom] at hmanager
      rw [Option.some.inj hmanager, hiff.mpr hplain.1, ih hrest hplain.2]

/-- A list and its read-back agree where every entry is spelled plainly. -/
theorem sameHosts_readBack_iff {values : List String} {hosts readBack : List AllowedHost}
    {pairs : List (String × String)}
    (haccepted : List.Forall₂ (fun value host => AllowedHost.tryFrom value = .ok host) values hosts)
    (hpairs : List.Forall₂ (fun host pair => hostToFortios host = .ok pair) hosts pairs)
    (hread : List.Forall₂ (fun pair read =>
      hostFromFortios pair.1.toList pair.2.toList = some read) pairs readBack) :
    Diff.sameHosts hosts readBack = true ↔ ∀ value ∈ values, SpelledPlainly value := by
  rw [Diff.sameHosts_iff]
  constructor
  · intro hperm value hvalue
    obtain ⟨host, hhost, haccept⟩ := exists_of_mem_left haccepted hvalue
    obtain ⟨pair, -, hpair⟩ := exists_of_mem_left hpairs hhost
    -- all that is read is plain, so an entry can only agree with a plain one
    obtain ⟨read, hmem, htext⟩ := List.mem_map.mp (hperm.subset (List.mem_map_of_mem hhost))
    obtain ⟨source, -, hfrom⟩ := exists_of_mem_right hread hmem
    have hplain := isPlain_of_hostFromFortios hfrom
    rw [← isPlain_iff haccept hpair, eq_of_toText_eq hpair hplain htext.symm]
    exact hplain
  · intro hspelled
    have hplain : ∀ host ∈ hosts, isPlain host = true := by
      intro host hhost
      obtain ⟨value, hvalue, haccept⟩ := exists_of_mem_right haccepted hhost
      obtain ⟨pair, -, hpair⟩ := exists_of_mem_left hpairs hhost
      exact (isPlain_iff haccept hpair).mpr (hspelled value hvalue)
    rw [readBack_eq hpairs hread hplain]

/-- Every host that was written is read back as something. -/
theorem exists_readBack {hosts : List AllowedHost} {pairs : List (String × String)}
    (hpairs : List.Forall₂ (fun host pair => hostToFortios host = .ok pair) hosts pairs) :
    ∃ readBack, List.Forall₂ (fun pair read =>
      hostFromFortios pair.1.toList pair.2.toList = some read) pairs readBack := by
  rw [exists_forall₂_iff]
  intro pair hmem
  obtain ⟨host, -, hpair⟩ := exists_of_mem_right hpairs hmem
  obtain ⟨haddress, hmask⟩ := isIpv4_of_hostToFortios hpair
  obtain ⟨manager, hmanager, -⟩ := readManager_hostToFortios hpair
  rw [readManager_pair haddress hmask] at hmanager
  exact ⟨manager, hmanager⟩

/-- The canonical form of managers: an entry and a list of entries come back exactly where they are
spelled plainly, a network always does, and no shift is out of range. -/
theorem allowedHosts_canonical_iff (value : String) (host : AllowedHost) (pair : String × String)
    (hvalue : AllowedHost.tryFrom value = .ok host) (hpair : hostToFortios host = .ok pair) :
    (∃ read, hostFromFortios pair.1.toList pair.2.toList = some read ∧
      (read.toText = host.toText ↔ SpelledPlainly value)) ∧
    (∀ ip mask length, isIpv4 ip = true → length ≤ 32 → ipv4Value mask = some (netmask length) →
      ∃ host mask', hostFromFortios ip mask = some host ∧
        hostToFortios host = .ok (String.ofList ip, mask') ∧
          ipv4Value mask'.toList = some (netmask length)) ∧
    ((∀ host, shiftedToFortios host = some (hostToFortios host)) ∧
      ∀ ip mask, shiftedFromFortios ip mask = some (hostFromFortios ip mask)) ∧
    ∀ values hosts pairs,
      List.Forall₂ (fun value host => AllowedHost.tryFrom value = .ok host) values hosts →
      List.Forall₂ (fun host pair => hostToFortios host = .ok pair) hosts pairs →
      ∃ readBack, List.Forall₂ (fun pair read =>
          hostFromFortios pair.1.toList pair.2.toList = some read) pairs readBack ∧
        (Diff.sameHosts hosts readBack = true ↔ ∀ value ∈ values, SpelledPlainly value) := by
  refine ⟨toText_readBack_iff hvalue hpair, fun _ _ _ => hostToFortios_hostFromFortios,
    ⟨shiftedToFortios_eq, shiftedFromFortios_eq⟩, fun values hosts pairs haccepted hpairs => ?_⟩
  obtain ⟨readBack, hread⟩ := exists_readBack hpairs
  exact ⟨readBack, hread, sameHosts_readBack_iff haccepted hpairs hread⟩

theorem spelledPlainly_network : ∃ read, hostFromFortios "10.0.0.0".toList "255.0.0.0".toList =
    some read ∧ read.toText = "10.0.0.0/8" := by
  obtain ⟨read, hread, hiff⟩ := (allowedHosts_canonical_iff " 10.0.0.0/8" (.network "10.0.0.0/8")
    ("10.0.0.0", "255.0.0.0") (by rfl) (by rfl)).1
  refine ⟨read, hread, hiff.mpr fun digits hdigits => ⟨8, ?_⟩⟩
  have height : prefixText " 10.0.0.0/8" = some ['8'] := by decide
  rw [height] at hdigits
  obtain rfl := Option.some.inj hdigits
  decide

/-- A leading zero is accepted and does not come back. -/
theorem exists_toText_ne_readBack :
    AllowedHost.tryFrom "10.0.0.0/08" = .ok (.network "10.0.0.0/08") ∧
      hostToFortios (.network "10.0.0.0/08") = .ok ("10.0.0.0", "255.0.0.0") ∧
      hostFromFortios "10.0.0.0".toList "255.0.0.0".toList = some (.network "10.0.0.0/8") ∧
      Diff.sameHosts [.network "10.0.0.0/08"] [.network "10.0.0.0/8"] = false := by
  refine ⟨by rfl, by rfl, by decide +kernel, ?_⟩
  rw [Bool.eq_false_iff, ne_eq, Diff.sameHosts_iff]
  decide

end SwitchConfigurator.Fortiswitch
