import SwitchConfigurator.Vendors.Fortiswitch.SnmpShown

/-!
# Managers on the device

A manager is written as an address and a netmask and read back from them. It comes back as it was
where its prefix length is spelled as the device's own netmasks are read.
-/

namespace SwitchConfigurator.Fortiswitch

open Cli

/-- A manager in the one spelling that is read back: without a prefix length, or with a decimal one
below that of a single host. -/
def isPlain : AllowedHost → Bool
  | .auto => false
  | .network text =>
    !text.toList.contains '/' ||
      (List.range 32).any fun n => (text.toList.dropWhile (· != '/')).drop 1 == (toString n).toList

section Managers

variable {host manager : AllowedHost} {address mask : String}

/-- Every prefix length has a netmask that is read as it. -/
theorem netmask_reads : ∀ n < 33, isIpv4 (dotted (netmask n)).toList = true ∧
    ipv4Value (dotted (netmask n)).toList = some (netmask n) ∧ countOnes (netmask n) = n ∧
      (n = 0 → netmask n = 0) := by
  decide +kernel

/-- A mask is read back as its length. -/
theorem hostFromFortios_netmask {ip : List Char} {n : ℕ} (hip : isIpv4 ip = true) (hn : n ≤ 32) :
    hostFromFortios ip (dotted (netmask n)).toList =
      some (.network (if n = 32 then String.ofList ip else s!"{String.ofList ip}/{n}")) := by
  obtain ⟨-, hvalue, hones, hzero⟩ := netmask_reads n (by omega)
  rw [hostFromFortios, if_pos hip, hvalue, Option.bind_some]
  simp only [hones, ne_eq, not_true, and_false, if_false]
  rw [if_neg fun h => h.2 (hzero h.1)]

/-- A mask has no more than 32 ones. -/
theorem countOnes_le (n : ℕ) : countOnes n ≤ 32 := by
  rw [countOnes]
  exact List.countP_le_length.trans (by rw [List.length_range])

/-- The parts of a manager that the command line has a form for. -/
theorem hostToFortios_ok (h : hostToFortios host = .ok (address, mask)) :
    ∃ n ≤ 32, mask = dotted (netmask n) ∧ isIpv4 address.toList = true ∧
      ∃ text, host = .network text ∧ text.toList.takeWhile (· != '/') = address.toList ∧
        if text.toList.contains '/' then
          parseUint 32 ((text.toList.dropWhile (· != '/')).drop 1) = some n
        else n = 32 := by
  cases host with
  | auto => cases h
  | network text =>
    rw [hostToFortios] at h
    dsimp only at h
    split at h
    · cases h
    · cases h
    · next hv4 =>
      -- the address is one of version 4, since version 6 is refused just before
      have hip : isIpv4 (text.toList.takeWhile (· != '/')) = true := by
        by_contra hne
        rw [parseIpAddr, if_neg hne] at hv4
        split at hv4
        · cases hv4
        · cases hv4
      split at h
      · cases h
      · next length hlength =>
        split at h
        · cases h
        · next hle =>
          obtain ⟨rfl, rfl⟩ := Prod.mk.inj (Except.ok.inj h)
          rw [String.toList_ofList]
          refine ⟨length, by omega, rfl, hip, text, rfl, rfl, ?_⟩
          split
          · next hslash => rwa [if_pos hslash] at hlength
          · next hslash =>
            rw [if_neg hslash] at hlength
            exact (Option.some.inj hlength).symm

/-- What is written of a host are two addresses. -/
theorem isIpv4_of_hostToFortios (h : hostToFortios host = .ok (address, mask)) :
    isIpv4 address.toList = true ∧ isIpv4 mask.toList = true := by
  obtain ⟨n, hn, rfl, haddress, -⟩ := hostToFortios_ok h
  exact ⟨haddress, (netmask_reads n (by omega)).1⟩

/-- The two are read as one host. -/
theorem readManager_pair {address mask : List Char} (haddress : isIpv4 address = true)
    (hmask : isIpv4 mask = true) :
    readManager (address ++ ' ' :: mask) = hostFromFortios address mask := by
  rw [readManager, splitWhitespace_cons (isWord_of_isIpv4 haddress),
    splitWhitespace_word (isWord_of_isIpv4 hmask)]

theorem network_toList (address : List Char) (n : ℕ) :
    (s!"{String.ofList address}/{n}").toList = address ++ '/' :: (toString n).toList := by
  have hparts : (s!"{String.ofList address}/{n}").toList =
      (String.ofList address).toList ++ "/".toList ++ (toString n).toList := by
    rw [← String.toList_append, ← String.toList_append]
    rfl
  rw [hparts, String.toList_ofList, List.append_assoc]
  rfl

/-- The text of a prefix length is the end of a plain manager. -/
theorem isPlain_network {address : List Char} (haddress : isIpv4 address = true) {n : ℕ} (hn :
    n ≤ 32) :
    isPlain (.network
      (if n = 32 then String.ofList address else s!"{String.ofList address}/{n}")) = true := by
  have hslash : '/' ∉ address := fun hmem => absurd (isIpv4_chars haddress _ hmem) (by decide)
  have hdrop (rest : List Char) : (address ++ '/' :: rest).dropWhile (· != '/') = '/' :: rest := by
    rw [List.dropWhile_append_of_pos, List.dropWhile_cons_of_neg (by decide)]
    intro c hc
    exact bne_iff_ne.mpr fun heq => hslash (heq ▸ hc)
  split
  · simp [isPlain, hslash]
  · have hlist : (s!"{String.ofList address}/{n}").toList = address ++ '/' :: (toString n).toList :=
      network_toList address n
    rw [isPlain, hlist, hdrop, List.drop_one, List.tail_cons, Bool.or_eq_true, List.any_eq_true]
    exact .inr ⟨n, List.mem_range.mpr (by omega), beq_self_eq_true _⟩

/-- Whatever is read from the device is plain. -/
theorem isPlain_of_hostFromFortios {ip mask : List Char} (h :
    hostFromFortios ip mask = some manager) :
    isPlain manager = true := by
  rw [hostFromFortios] at h
  split at h
  · next hip =>
    obtain ⟨value, hvalue, h⟩ := Option.bind_eq_some_iff.mp h
    dsimp only at h
    split at h
    · cases h
    · split at h
      · cases h
      · obtain rfl := Option.some.inj h
        exact isPlain_network hip (countOnes_le value)
  · cases h

/-- A manager that was written is read back as it is exactly when it is plain. -/
theorem readManager_hostToFortios (h : hostToFortios host = .ok (address, mask)) :
    ∃ manager, readManager (address.toList ++ ' ' :: mask.toList) = some manager ∧
      (manager = host ↔ isPlain host = true) := by
  obtain ⟨n, hn, rfl, haddress, text, rfl, htext, hlength⟩ := hostToFortios_ok h
  rw [readManager_pair haddress (netmask_reads n (by omega)).1, hostFromFortios_netmask haddress hn]
  refine ⟨_, rfl, ?_⟩
  constructor
  · intro heq
    rw [← heq]
    exact isPlain_network haddress hn
  · intro hplain
    have hcut := List.takeWhile_append_dropWhile (p := (· != '/')) (l := text.toList)
    rw [htext] at hcut
    rw [isPlain, Bool.or_eq_true, Bool.not_eq_true'] at hplain
    by_cases hslash : text.toList.contains '/' = true
    · rw [if_pos hslash] at hlength
      rcases hplain with hnot | hdigits
      · rw [hslash] at hnot
        cases hnot
      · obtain ⟨m, hm, heq⟩ := List.any_eq_true.mp hdigits
        rw [List.mem_range] at hm
        rw [eq_of_beq heq, parseUint_toString (by omega)] at hlength
        obtain rfl := Option.some.inj hlength
        rw [if_neg (by omega)]
        apply congrArg AllowedHost.network
        apply String.toList_injective
        -- what is left of the address is the slash and the digits after it
        have hrest : text.toList.dropWhile (· != '/') = '/' :: (toString m).toList := by
          have hhead := List.head?_dropWhile_not (· != '/') text.toList
          cases hdrop : text.toList.dropWhile (· != '/') with
          | nil =>
            rw [hdrop] at heq
            exact absurd (eq_of_beq heq).symm (toString_ne_nil m)
          | cons c rest =>
            rw [hdrop] at heq hhead
            have hc : c = '/' := by simpa using hhead
            rw [hc, ← eq_of_beq heq]
            rfl
        rw [network_toList, ← hrest, hcut]
    · rw [if_neg hslash] at hlength
      rw [if_pos hlength]
      apply congrArg AllowedHost.network
      have hnone : text.toList.dropWhile (· != '/') = [] := by
        rw [List.dropWhile_eq_nil_iff]
        intro c hc
        refine bne_iff_ne.mpr fun heq => hslash ?_
        rw [List.contains_iff_mem]
        exact heq ▸ hc
      rw [hnone, List.append_nil] at hcut
      rw [String.ofList_toList]
      exact String.toList_injective hcut

/-- An address and a netmask are taken as they are. -/
theorem HostAddress.of_pair {args : List Arg} {address mask : List Char}
    (hwords : deviceWords args = [address, mask]) (haddress : isIpv4 address = true)
    (hmask : isIpv4 mask = true) :
    ∃ ip, HostAddress.of args = some ip ∧ ip.address.toList = address ∧ ip.netmask.toList = mask := by
  rw [HostAddress.of, hwords]
  exact ⟨_, dif_pos ⟨haddress, hmask⟩, String.toList_ofList, String.toList_ofList⟩

/-- One address alone has the full mask. -/
theorem HostAddress.of_single {args : List Arg} {address : List Char}
    (hwords : deviceWords args = [address]) (haddress : isIpv4 address = true) :
    ∃ ip, HostAddress.of args = some ip ∧ ip.address.toList = address ∧
      ip.netmask.toList = "255.255.255.255".toList := by
  rw [HostAddress.of, hwords]
  exact ⟨_, dif_pos haddress, String.toList_ofList, rfl⟩

end Managers

end SwitchConfigurator.Fortiswitch
