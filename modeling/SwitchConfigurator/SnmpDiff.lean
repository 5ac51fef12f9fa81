import Mathlib.Data.Finset.Dedup
import SwitchConfigurator.Diff

/-!
# The SNMP diff

What the granular SNMP diff reports, and what the switch holds once it has been carried
out. The three lists are compared in three ways: communities by access level and
managers, trap receivers by host alone, traps as a set.
-/

namespace SwitchConfigurator

open Keyed

/-- Carry out a granular SNMP diff: remove, overwrite, add. -/
def SnmpStateDiff.applyTo (diff : SnmpStateDiff) (snmp : SnmpConfig) : SnmpConfig :=
  { snmp with
    communities := patch SnmpCommunity.name diff.communitiesToAdd diff.communitiesToRemove
      diff.communitiesToUpdate snmp.communities
    trapReceivers := patch SnmpTrapReceiver.host diff.trapReceiversToAdd
      diff.trapReceiversToRemove [] snmp.trapReceivers
    enabledTraps := patch id diff.trapsToEnable diff.trapsToDisable [] snmp.enabledTraps }

/-- Two configurations leave the diff nothing to do, list by list. -/
structure SnmpAgree (current desired : SnmpConfig) : Prop where
  communities : ∀ name, Keyed.Agree Diff.sameCommunity (fun _ => False) name
    (lookup SnmpCommunity.name name current.communities)
    (lookup SnmpCommunity.name name desired.communities)
  trapReceivers : ∀ host, Keyed.Agree (fun _ _ => true) (fun _ => False) host
    (lookup SnmpTrapReceiver.host host current.trapReceivers)
    (lookup SnmpTrapReceiver.host host desired.trapReceivers)
  enabledTraps : ∀ trap, Keyed.Agree (fun _ _ => true) (fun _ => False) trap
    (lookup id trap current.enabledTraps) (lookup id trap desired.enabledTraps)

/-- There is nothing to do exactly if no part of the difference says so. -/
theorem SnmpStateDiff.hasChanges_eq_false {diff : SnmpStateDiff} : diff.hasChanges = false ↔
    (diff.communitiesToAdd = [] ∧ diff.communitiesToRemove = [] ∧ diff.communitiesToUpdate = []) ∧
      (diff.trapReceiversToAdd = [] ∧ diff.trapReceiversToRemove = []) ∧
      diff.trapsToEnable = [] ∧ diff.trapsToDisable = [] := by
  simp only [hasChanges, Bool.or_eq_false_iff, Bool.not_eq_false', List.isEmpty_iff, and_assoc]

namespace Diff

theorem insertionSort_eq_nil {α : Type} {r : α → α → Prop} [DecidableRel r] {l : List α} :
    l.insertionSort r = [] ↔ l = [] := by
  rw [← List.length_eq_zero_iff, List.length_insertionSort, List.length_eq_zero_iff]

/-- The key of a list of hosts is the list in order. -/
theorem hostKey_perm {hosts : List AllowedHost} :
    (hostKey hosts).Perm (hosts.map AllowedHost.toText) := List.perm_insertionSort _ _

/-- Managers are compared up to order. -/
theorem sameHosts_iff {a b : List AllowedHost} : sameHosts a b = true ↔
    (a.map AllowedHost.toText).Perm (b.map AllowedHost.toText) := by
  rw [sameHosts, beq_iff_eq]
  constructor
  · intro h
    exact (hostKey_perm.symm.trans (h ▸ List.Perm.refl _)).trans hostKey_perm
  · intro h
    have hperm : (hostKey a).Perm (hostKey b) := (hostKey_perm.trans h).trans hostKey_perm.symm
    have hsorted (hosts : List AllowedHost) : (hostKey hosts).Pairwise (· ≤ ·) :=
      List.pairwise_insertionSort _ _
    exact hperm.eq_of_pairwise (fun _ _ _ _ => le_antisymm) (hsorted a) (hsorted b)

/-- Communities are the same if access and hosts are. -/
theorem sameCommunity_iff {current desired : SnmpCommunity} :
    sameCommunity current desired = true ↔ current.access = desired.access ∧
      sameHosts current.allowedHosts desired.allowedHosts = true := by
  simp [sameCommunity]

theorem sameCommunity_refl (community : SnmpCommunity) :
    sameCommunity community community = true :=
  sameCommunity_iff.mpr ⟨rfl, sameHosts_iff.mpr (List.Perm.refl _)⟩

/-- There is no difference exactly if both sides agree. -/
theorem computeSnmpDiff_unchanged_iff {current desired : SnmpConfig} :
    (computeSnmpDiff current desired).hasChanges = false ↔ SnmpAgree current desired := by
  have hcommunities := @no_difference_iff _ _ _ SnmpCommunity.name sameCommunity
    current.communities desired.communities (fun _ => False) _
  have hreceivers := @no_difference_iff _ _ _ SnmpTrapReceiver.host (fun _ _ => true)
    current.trapReceivers desired.trapReceivers (fun _ => False) _
  have htraps := @no_difference_iff _ _ _ id (fun _ _ => true)
    current.enabledTraps desired.enabledTraps (fun _ => False) _
  simp only [not_false_eq_true, decide_true, List.filter_true, updated_eq_nil fun _ _ => rfl,
    and_true] at hcommunities hreceivers htraps
  rw [SnmpStateDiff.hasChanges_eq_false]
  simp only [computeSnmpDiff, insertionSort_eq_nil]
  rw [hcommunities, hreceivers, htraps]
  constructor
  · rintro ⟨hc, hr, ht⟩
    exact ⟨hc, hr, ht⟩
  · intro h
    exact ⟨h.communities, h.trapReceivers, h.enabledTraps⟩

section

variable {current : SwitchState} {desired : SwitchConfig}

/-- Nothing to do for SNMP, in all four cases of a list being there or not. -/
theorem diffSnmp_unchanged_iff :
    (diffSnmp current desired {}).snmpConfigChanged = false ↔
      SnmpAgree (current.snmp.getD {}) ((effectiveSnmp desired).getD {}) := by
  unfold diffSnmp
  cases current.snmp with
  | none =>
    cases effectiveSnmp desired with
    | none =>
      refine iff_of_true rfl ⟨?_, ?_, ?_⟩ <;> exact fun _ => trivial
    | some desiredConfig =>
      simp only [Option.getD_none, Option.getD_some, SnmpStateDiff.hasChanges_eq_false, and_true]
      constructor
      · rintro ⟨hc, hr, ht⟩
        exact ⟨agree_nil_left.mpr hc, agree_nil_left.mpr hr, agree_nil_left.mpr ht⟩
      · intro h
        exact ⟨agree_nil_left.mp h.communities, agree_nil_left.mp h.trapReceivers,
          agree_nil_left.mp h.enabledTraps⟩
  | some currentConfig =>
    cases effectiveSnmp desired with
    | none =>
      simp only [Option.getD_none, Option.getD_some, SnmpStateDiff.hasChanges_eq_false,
        List.map_eq_nil_iff, true_and, and_true]
      constructor
      · rintro ⟨hc, hr, ht⟩
        exact ⟨agree_nil_right.mpr hc, agree_nil_right.mpr hr, agree_nil_right.mpr ht⟩
      · intro h
        exact ⟨agree_nil_right.mp h.communities, agree_nil_right.mp h.trapReceivers,
          agree_nil_right.mp h.enabledTraps⟩
    | some desiredConfig => exact computeSnmpDiff_unchanged_iff

/-- The flag and the granular diff say the same. -/
theorem diffSnmp_hasChanges :
    (diffSnmp current desired {}).snmpDiff.any SnmpStateDiff.hasChanges =
      (diffSnmp current desired {}).snmpConfigChanged := by
  unfold diffSnmp
  cases current.snmp <;> cases effectiveSnmp desired <;> rfl

/-- A difference that is applied makes both sides agree. -/
theorem applyTo_computeSnmpDiff (current desired : SnmpConfig) :
    SnmpAgree ((computeSnmpDiff current desired).applyTo current) desired where
  communities := by
    intro name
    have h := @patch_converges _ _ _ SnmpCommunity.name sameCommunity current.communities
      desired.communities (fun _ => False) _ sameCommunity_refl name
    have hadd : lookup SnmpCommunity.name name (computeSnmpDiff current desired).communitiesToAdd =
        lookup SnmpCommunity.name name
          (added SnmpCommunity.name current.communities desired.communities) :=
      (lookup_perm (List.perm_insertionSort _ _).symm nodup_added).symm
    have hupdate : lookup SnmpCommunity.name name
        (computeSnmpDiff current desired).communitiesToUpdate =
        lookup SnmpCommunity.name name
          (updated SnmpCommunity.name sameCommunity current.communities desired.communities) :=
      (lookup_perm (List.perm_insertionSort _ _).symm nodup_updated).symm
    have hremove : name ∈ (computeSnmpDiff current desired).communitiesToRemove ↔
        name ∈ removed SnmpCommunity.name current.communities desired.communities :=
      List.mem_insertionSort _
    simp only [not_false_eq_true, decide_true, List.filter_true] at h
    rw [SnmpStateDiff.applyTo, lookup_patch_congr hadd hupdate hremove]
    exact h
  trapReceivers := by
    intro host
    have h := @patch_converges _ _ _ SnmpTrapReceiver.host (fun _ _ => true)
      current.trapReceivers desired.trapReceivers (fun _ => False) _ (fun _ => rfl) host
    simpa [SnmpStateDiff.applyTo, computeSnmpDiff, updated_eq_nil] using h
  enabledTraps := by
    intro trap
    have h := @patch_converges _ _ _ id (fun _ _ => true) current.enabledTraps
      desired.enabledTraps (fun _ => False) _ (fun _ => rfl) trap
    simpa [SnmpStateDiff.applyTo, computeSnmpDiff, updated_eq_nil] using h

/-- What the switch holds for SNMP once the diff is carried out. -/
def appliedSnmp (current : SwitchState) (desired : SwitchConfig) : SnmpConfig :=
  ((diffSnmp current desired {}).snmpDiff.getD {}).applyTo (current.snmp.getD {})

/-- So does the apply. -/
theorem appliedSnmp_agree :
    SnmpAgree (appliedSnmp current desired) ((effectiveSnmp desired).getD {}) := by
  unfold appliedSnmp diffSnmp
  cases current.snmp with
  | none =>
    cases effectiveSnmp desired with
    | none => refine ⟨?_, ?_, ?_⟩ <;> exact fun _ => trivial
    | some desiredConfig =>
      refine ⟨?_, ?_, ?_⟩
      · intro name
        simpa [SnmpStateDiff.applyTo, lookup_patch] using
          agree_refl sameCommunity_refl name
            (lookup SnmpCommunity.name name desiredConfig.communities)
      · intro host
        simpa [SnmpStateDiff.applyTo, lookup_patch] using
          agree_refl (fun _ => rfl) host
            (lookup SnmpTrapReceiver.host host desiredConfig.trapReceivers)
      · intro trap
        simpa [SnmpStateDiff.applyTo, lookup_patch] using
          agree_refl (fun _ => rfl) trap (lookup id trap desiredConfig.enabledTraps)
  | some currentConfig =>
    cases effectiveSnmp desired with
    | none =>
      refine ⟨?_, ?_, ?_⟩
      · exact fun name => agree_of_removed
      · exact fun host => agree_of_removed
      · intro trap
        have h : Keyed.Agree (fun _ _ => true) (fun _ => False) trap (lookup id trap
            (patch id [] (currentConfig.enabledTraps.map id) [] currentConfig.enabledTraps)) none :=
          agree_of_removed
        simpa [SnmpStateDiff.applyTo] using h
    | some desiredConfig => exact applyTo_computeSnmpDiff currentConfig desiredConfig

end

end Diff

/-! ## Two configurations a manager would call the same -/

/-- What counts in a community: its name, its access level, its set of managers. -/
def SnmpCommunity.view (community : SnmpCommunity) : String × SnmpAccess × Finset String :=
  (community.name, community.access, (community.allowedHosts.map AllowedHost.toText).toFinset)

/-- The same communities and receiver hosts up to order, and the same set of traps. -/
structure SnmpMatches (current desired : SnmpConfig) : Prop where
  communities : (current.communities.map SnmpCommunity.view).Perm
    (desired.communities.map SnmpCommunity.view)
  receiverHosts : (current.trapReceivers.map SnmpTrapReceiver.host).Perm
    (desired.trapReceivers.map SnmpTrapReceiver.host)
  enabledTraps : ∀ trap, trap ∈ current.enabledTraps ↔ trap ∈ desired.enabledTraps

/-- Community names and receiver hosts are given once each. -/
structure SnmpConfig.UniqueKeys (snmp : SnmpConfig) : Prop where
  communities : (snmp.communities.map SnmpCommunity.name).Nodup
  trapReceivers : (snmp.trapReceivers.map SnmpTrapReceiver.host).Nodup

/-- No community lists a manager twice. -/
def SnmpConfig.HostsOnce (snmp : SnmpConfig) : Prop :=
  ∀ community ∈ snmp.communities, (community.allowedHosts.map AllowedHost.toText).Nodup

namespace Diff

/-- Communities that are the same look the same. -/
theorem view_eq_of_sameCommunity {a b : SnmpCommunity} (hname : a.name = b.name)
    (hs : sameCommunity a b = true) : a.view = b.view := by
  obtain ⟨haccess, hhosts⟩ := sameCommunity_iff.mp hs
  have hset := List.toFinset_eq_of_perm _ _ (sameHosts_iff.mp hhosts)
  simp only [SnmpCommunity.view, hname, haccess, hset]

/-- Those that look the same are so, if no host is repeated. -/
theorem sameCommunity_of_view_eq {a b : SnmpCommunity}
    (ha : (a.allowedHosts.map AllowedHost.toText).Nodup)
    (hb : (b.allowedHosts.map AllowedHost.toText).Nodup) (h : a.view = b.view) :
    sameCommunity a b = true := by
  simp only [SnmpCommunity.view, Prod.mk.injEq] at h
  obtain ⟨-, haccess, hset⟩ := h
  exact sameCommunity_iff.mpr ⟨haccess, sameHosts_iff.mpr (List.perm_of_nodup_nodup_toFinset_eq
    ha hb hset)⟩

variable {current desired : SnmpConfig}

/-- Sides that agree match. -/
theorem matches_of_agree (hc : current.UniqueKeys) (hd : desired.UniqueKeys)
    (h : SnmpAgree current desired) : SnmpMatches current desired where
  communities := perm_of_agree SnmpCommunity.view Prod.fst (fun _ => rfl)
    (fun _ _ => view_eq_of_sameCommunity) hc.communities hd.communities h.communities
  receiverHosts := perm_of_agree SnmpTrapReceiver.host id (fun _ => rfl) (fun _ _ hk _ => hk)
    hc.trapReceivers hd.trapReceivers h.trapReceivers
  enabledTraps := agree_id_iff.mp h.enabledTraps

/-- Sides that match agree, if no host is repeated. -/
theorem agree_of_matches (hc : current.UniqueKeys) (hd : desired.UniqueKeys)
    (hch : current.HostsOnce) (hdh : desired.HostsOnce) (h : SnmpMatches current desired) :
    SnmpAgree current desired where
  communities := agree_of_perm SnmpCommunity.view Prod.fst (fun _ => rfl)
    (fun a ha b hb => sameCommunity_of_view_eq (hch a ha) (hdh b hb)) hc.communities
    hd.communities h.communities
  trapReceivers := agree_of_perm SnmpTrapReceiver.host id (fun _ => rfl)
    (fun _ _ _ _ _ => rfl) hc.trapReceivers hd.trapReceivers h.receiverHosts
  enabledTraps := agree_id_iff.mpr h.enabledTraps

section

variable {current : SwitchState} {desired : SwitchConfig}

/-- A receiver whose host stays is left as it is on the switch. -/
theorem lookup_appliedSnmp_trapReceivers (host : String) :
    lookup SnmpTrapReceiver.host host (appliedSnmp current desired).trapReceivers =
      (lookup SnmpTrapReceiver.host host ((effectiveSnmp desired).getD {}).trapReceivers).map
        fun receiver => (lookup SnmpTrapReceiver.host host
          (current.snmp.getD {}).trapReceivers).getD receiver := by
  unfold appliedSnmp diffSnmp
  cases current.snmp with
  | none =>
    cases effectiveSnmp desired with
    | none => rfl
    | some desiredConfig => simp [SnmpStateDiff.applyTo, lookup_patch]
  | some currentConfig =>
    cases effectiveSnmp desired with
    | none =>
      have hnone := lookup_removed SnmpTrapReceiver.host host currentConfig.trapReceivers
      simpa [SnmpStateDiff.applyTo] using hnone
    | some desiredConfig =>
      simp only [Option.getD_some, SnmpStateDiff.applyTo, computeSnmpDiff, lookup_patch,
        lookup_added, lookup_nil, Option.or_none]
      cases hcur : lookup SnmpTrapReceiver.host host currentConfig.trapReceivers <;>
        cases hdes : lookup SnmpTrapReceiver.host host desiredConfig.trapReceivers <;>
        simp [mem_removed, hcur, hdes]

/-- An apply repeats no key. -/
theorem appliedSnmp_uniqueKeys (hc : (current.snmp.getD {}).UniqueKeys) :
    (appliedSnmp current desired).UniqueKeys :=
  ⟨nodup_patch hc.communities, nodup_patch hc.trapReceivers⟩

/-- After an apply the receivers are the desired ones. -/
theorem mem_appliedSnmp_trapReceivers (hc : (current.snmp.getD {}).UniqueKeys)
    (hd : ((effectiveSnmp desired).getD {}).UniqueKeys) (receiver : SnmpTrapReceiver) :
    receiver ∈ (appliedSnmp current desired).trapReceivers ↔
      (receiver ∈ (current.snmp.getD {}).trapReceivers ∧ receiver.host ∈
        ((effectiveSnmp desired).getD {}).trapReceivers.map SnmpTrapReceiver.host) ∨
      (receiver ∈ ((effectiveSnmp desired).getD {}).trapReceivers ∧ receiver.host ∉
        (current.snmp.getD {}).trapReceivers.map SnmpTrapReceiver.host) := by
  rw [← lookup_eq_some_iff (appliedSnmp_uniqueKeys hc).trapReceivers,
    ← lookup_eq_some_iff hc.trapReceivers, ← lookup_eq_some_iff hd.trapReceivers,
    ← mem_keys_iff, ← mem_keys_iff, mem_keys, not_mem_keys, lookup_appliedSnmp_trapReceivers]
  cases lookup SnmpTrapReceiver.host receiver.host (current.snmp.getD {}).trapReceivers <;>
    cases lookup SnmpTrapReceiver.host receiver.host
      ((effectiveSnmp desired).getD {}).trapReceivers <;> simp

end

end Diff

/-- Nothing is left to change for SNMP. -/
structure StateDiff.SnmpUnchanged (diff : StateDiff) : Prop where
  flag : diff.snmpConfigChanged = false
  granular : diff.snmpDiff.any SnmpStateDiff.hasChanges = false

namespace Diff

/-- SNMP does not change exactly if both sides agree. -/
theorem snmpUnchanged_iff {current : SwitchState} {desired : SwitchConfig} {e : Bool} :
    (computeDiff current desired e).SnmpUnchanged ↔
      SnmpAgree (current.snmp.getD {}) ((effectiveSnmp desired).getD {}) := by
  rw [← diffSnmp_unchanged_iff]
  constructor
  · intro h
    have hflag := h.flag
    rwa [computeDiff_eq] at hflag
  · intro h
    rw [computeDiff_eq]
    exact ⟨h, diffSnmp_hasChanges.trans h⟩

/-- The SNMP diff is empty exactly when communities, receiver hosts and traps are the
wanted ones, and carrying it out makes them so. Receivers are told apart by host alone: one
that stays keeps its community and version. -/
theorem snmpDiff_sound_complete (current : SwitchState) (desired : SwitchConfig) (e : Bool)
    (hc : (current.snmp.getD {}).UniqueKeys)
    (hd : ((effectiveSnmp desired).getD {}).UniqueKeys) :
    ((computeDiff current desired e).SnmpUnchanged →
      SnmpMatches (current.snmp.getD {}) ((effectiveSnmp desired).getD {})) ∧
    ((current.snmp.getD {}).HostsOnce → ((effectiveSnmp desired).getD {}).HostsOnce →
      SnmpMatches (current.snmp.getD {}) ((effectiveSnmp desired).getD {}) →
      (computeDiff current desired e).SnmpUnchanged) ∧
    SnmpMatches
      (((computeDiff current desired e).snmpDiff.getD {}).applyTo (current.snmp.getD {}))
      ((effectiveSnmp desired).getD {}) ∧
    ∀ receiver, receiver ∈
      (((computeDiff current desired e).snmpDiff.getD {}).applyTo
        (current.snmp.getD {})).trapReceivers ↔
      (receiver ∈ (current.snmp.getD {}).trapReceivers ∧ receiver.host ∈
        ((effectiveSnmp desired).getD {}).trapReceivers.map SnmpTrapReceiver.host) ∨
      (receiver ∈ ((effectiveSnmp desired).getD {}).trapReceivers ∧ receiver.host ∉
        (current.snmp.getD {}).trapReceivers.map SnmpTrapReceiver.host) := by
  have happlied : ((computeDiff current desired e).snmpDiff.getD {}).applyTo
      (current.snmp.getD {}) = appliedSnmp current desired := by
    rw [computeDiff_eq]
    rfl
  rw [happlied]
  refine ⟨?_, ?_, ?_, mem_appliedSnmp_trapReceivers hc hd⟩
  · intro h
    exact matches_of_agree hc hd (snmpUnchanged_iff.mp h)
  · intro hch hdh h
    exact snmpUnchanged_iff.mpr (agree_of_matches hc hd hch hdh h)
  · exact matches_of_agree (appliedSnmp_uniqueKeys hc) hd appliedSnmp_agree

/-- A switch that sends its traps with one secret, and a configuration with another. -/
def staleTraps : SwitchState where
  snmp := some
    { communities := [{ name := "public", access := .operator }]
      trapReceivers := [{ host := "192.0.2.1", community := "old" }] }

def rotatedTraps : SwitchConfig where
  id := "sw1"
  snmp := some
    { communities := [{ name := "public", access := .operator }]
      trapReceivers := [{ host := "192.0.2.1", community := "new" }]
      enabledTraps := [.linkChange] }

theorem rotatedTraps_uniqueKeys : (staleTraps.snmp.getD {}).UniqueKeys ∧
    ((effectiveSnmp rotatedTraps).getD {}).UniqueKeys :=
  ⟨⟨by decide, by decide⟩, ⟨by decide, by decide⟩⟩

theorem snmpDiff_sound_complete_rotatedTraps :
    SnmpMatches
      (((computeDiff staleTraps rotatedTraps true).snmpDiff.getD {}).applyTo
        (staleTraps.snmp.getD {}))
      ((effectiveSnmp rotatedTraps).getD {}) :=
  (snmpDiff_sound_complete staleTraps rotatedTraps true rotatedTraps_uniqueKeys.1
    rotatedTraps_uniqueKeys.2).2.2.1

/-- Two receivers are the same to a manager: host, community, and version where both
give one. -/
def SameReceiver (a b : SnmpTrapReceiver) : Prop :=
  a.host = b.host ∧ a.community = b.community ∧
    ∀ v ∈ a.version, ∀ w ∈ b.version, v = w

def SameReceivers (l l' : List SnmpTrapReceiver) : Prop :=
  (∀ a ∈ l, ∃ b ∈ l', SameReceiver a b) ∧ ∀ b ∈ l', ∃ a ∈ l, SameReceiver a b

/-- A rotated receiver secret is not noticed: with the traps already on, nothing is left
to change, and carrying out the diff leaves the old secret in place. -/
theorem rotated_receiver_unnoticed :
    let current : SwitchState :=
      { snmp := staleTraps.snmp.map fun snmp => { snmp with enabledTraps := [.linkChange] } }
    let desired := (effectiveSnmp rotatedTraps).getD {}
    (current.snmp.getD {}).UniqueKeys ∧ desired.UniqueKeys ∧
      (computeDiff current rotatedTraps true).SnmpUnchanged ∧
      ¬ SameReceivers (current.snmp.getD {}).trapReceivers desired.trapReceivers ∧
      ¬ SameReceivers
        (((computeDiff current rotatedTraps true).snmpDiff.getD {}).applyTo
          (current.snmp.getD {})).trapReceivers desired.trapReceivers := by
  have hdiffer : ¬ SameReceivers [{ host := "192.0.2.1", community := "old" }]
      [{ host := "192.0.2.1", community := "new" }] := by
    rintro ⟨h, -⟩
    obtain ⟨b, hb, -, hcommunity, -⟩ := h _ List.mem_cons_self
    rw [List.mem_singleton.mp hb] at hcommunity
    exact absurd hcommunity (by decide)
  exact ⟨⟨by decide, by decide⟩, ⟨by decide, by decide⟩, ⟨by decide, by decide⟩, hdiffer,
    hdiffer⟩

end Diff

end SwitchConfigurator
