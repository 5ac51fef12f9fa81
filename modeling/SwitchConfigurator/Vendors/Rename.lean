import SwitchConfigurator.Config.LoadPaths
import SwitchConfigurator.SnmpDiff
import SwitchConfigurator.Vendors.OneLine

/-!
# Other community strings

A switch with other values for its community strings. The validation does not see the values, and
the SNMP diff goes along with them as long as their order stays.
-/

namespace SwitchConfigurator

open Keyed

/-! ## Other values for the community strings -/

def SnmpCommunity.rename (f : String → String) (community : SnmpCommunity) : SnmpCommunity :=
  { community with name := f community.name }

def SnmpTrapReceiver.rename (f : String → String) (receiver : SnmpTrapReceiver) :
    SnmpTrapReceiver :=
  { receiver with community := f receiver.community }

def SnmpReads.rename (f : String → String) (reads : SnmpReads) : SnmpReads :=
  { reads with community := reads.community.map (·.rename f) }

def SnmpConfig.rename (f : String → String) (snmp : SnmpConfig) : SnmpConfig :=
  { snmp with
    communities := snmp.communities.map (·.rename f)
    trapReceivers := snmp.trapReceivers.map (·.rename f)
    reads := snmp.reads.map (·.rename f) }

def SwitchConfig.rename (f : String → String) (config : SwitchConfig) : SwitchConfig :=
  { config with snmp := config.snmp.map (·.rename f) }

def SwitchState.rename (f : String → String) (state : SwitchState) : SwitchState :=
  { state with snmp := state.snmp.map (·.rename f) }

def SnmpStateDiff.rename (f : String → String) (diff : SnmpStateDiff) : SnmpStateDiff :=
  { diff with
    communitiesToAdd := diff.communitiesToAdd.map (·.rename f)
    communitiesToRemove := diff.communitiesToRemove.map f
    communitiesToUpdate := diff.communitiesToUpdate.map (·.rename f)
    trapReceiversToAdd := diff.trapReceiversToAdd.map (·.rename f) }

namespace VendorSwitch

def config : VendorSwitch → SwitchConfig
  | aruba switch => switch.config
  | cisco switch => switch.config
  | fortiswitch switch => switch.config

/-- Also in what a switch object has read from the device. -/
def rename (f : String → String) : VendorSwitch → VendorSwitch
  | aruba switch => aruba { switch with
      config := switch.config.rename f
      currentState := switch.currentState.map (·.rename f) }
  | cisco switch => cisco { switch with
      config := switch.config.rename f
      currentState := switch.currentState.map (·.rename f) }
  | fortiswitch switch => fortiswitch { switch with
      config := switch.config.rename f
      snmpCommunityIndices := switch.snmpCommunityIndices.map fun entry => (f entry.1, entry.2) }

end VendorSwitch

/-- Where two things are the same but for the values, they are the same without them. -/
abbrev blank : String → String := fun _ => ""

section Rename

variable {f g : String → String}

theorem SnmpConfig.rename_rename {snmp : SnmpConfig} :
    (snmp.rename f).rename g = snmp.rename (g ∘ f) := by
  simp only [rename, List.map_map, Option.map_map, SnmpConfig.mk.injEq, true_and]
  refine ⟨rfl, rfl, ?_⟩
  cases snmp.reads with
  | none => rfl
  | some reads => cases hcommunity : reads.community <;> simp [SnmpReads.rename, hcommunity,
      SnmpCommunity.rename]

theorem SwitchConfig.rename_rename {config : SwitchConfig} :
    (config.rename f).rename g = config.rename (g ∘ f) := by
  cases hsnmp : config.snmp <;> simp [rename, hsnmp, SnmpConfig.rename_rename]

theorem SwitchState.rename_rename {state : SwitchState} :
    (state.rename f).rename g = state.rename (g ∘ f) := by
  cases hsnmp : state.snmp <;> simp [rename, hsnmp, SnmpConfig.rename_rename]

theorem SnmpStateDiff.rename_rename {diff : SnmpStateDiff} :
    (diff.rename f).rename g = diff.rename (g ∘ f) := by
  simp [rename, Function.comp_def, SnmpCommunity.rename, SnmpTrapReceiver.rename]

theorem VendorSwitch.rename_rename {switch : VendorSwitch} :
    (switch.rename f).rename g = switch.rename (g ∘ f) := by
  cases switch <;>
    simp [rename, SwitchConfig.rename_rename, Function.comp_def, SwitchState.rename_rename]

theorem VendorSwitch.config_rename {switch : VendorSwitch} :
    (switch.rename f).config = switch.config.rename f := by
  cases switch <;> rfl

end Rename

/-! ## The diff of renamed configurations -/

section Diff

variable {f : String → String} {config : SwitchConfig} {current : SwitchState}

theorem readsEnabled_rename : readsEnabled (config.rename f) = readsEnabled config := by
  rw [readsEnabled, readsEnabled, SwitchConfig.rename]
  cases config.snmp with
  | none => rfl
  | some snmp =>
    cases hreads : snmp.reads with
    | none => simp [SnmpConfig.rename, hreads]
    | some reads => simp [SnmpConfig.rename, SnmpReads.rename, hreads]

/-- The SNMP in force is renamed with the configuration. -/
theorem effectiveSnmp_rename (hf : Function.Injective f) :
    effectiveSnmp (config.rename f) = (effectiveSnmp config).map (·.rename f) := by
  rw [effectiveSnmp, effectiveSnmp, readsEnabled_rename, SwitchConfig.rename, Option.map_map,
    Option.map_map]
  congr 1
  funext snmp
  rw [Function.comp_apply, Function.comp_apply]
  by_cases henabled : readsEnabled config = true
  · rw [if_pos henabled, if_pos henabled]
    cases hreads : snmp.reads.bind (·.community) with
    | none =>
      have hnone : (snmp.rename f).reads.bind (·.community) = none := by
        cases hr : snmp.reads <;> simp_all [SnmpConfig.rename, SnmpReads.rename]
      simp only [hnone]
    | some managed =>
      have hsome : (snmp.rename f).reads.bind (·.community) = some (managed.rename f) := by
        cases hr : snmp.reads <;> simp_all [SnmpConfig.rename, SnmpReads.rename]
      have hlisted : (snmp.rename f).communities.any (fun c => c.name == (managed.rename f).name) =
          snmp.communities.any (fun c => c.name == managed.name) := by
        simp only [SnmpConfig.rename, SnmpCommunity.rename, List.any_map]
        congr 1
        funext community
        simp [hf.eq_iff]
      simp only [hsome, hlisted]
      split
      · rfl
      · simp [SnmpConfig.rename, SnmpCommunity.rename]
  · rw [if_neg henabled, if_neg henabled]

/-- Communities are compared without their names. -/
theorem sameCommunity_rename (a b : SnmpCommunity) :
    Diff.sameCommunity (a.rename f) (b.rename f) = Diff.sameCommunity a b := rfl

/-- The difference of renamed sides is the renamed difference. -/
theorem computeSnmpDiff_rename (hf : StrictMono f) (current desired : SnmpConfig) :
    Diff.computeSnmpDiff (current.rename f) (desired.rename f) =
      (Diff.computeSnmpDiff current desired).rename f := by
  have hname (community : SnmpCommunity) : (community.rename f).name = f community.name := rfl
  have hhost (receiver : SnmpTrapReceiver) : (receiver.rename f).host = id receiver.host := rfl
  have hsort (l : List SnmpCommunity) :
      (l.insertionSort (·.name ≤ ·.name)).map (·.rename f) =
        (l.map (·.rename f)).insertionSort (·.name ≤ ·.name) :=
    List.map_insertionSort _ _ _ _ fun a _ b _ => hf.le_iff_le.symm
  have hsortNames (l : List String) :
      (l.insertionSort (· ≤ ·)).map f = (l.map f).insertionSort (· ≤ ·) :=
    List.map_insertionSort _ _ _ _ fun a _ b _ => hf.le_iff_le.symm
  rw [Diff.computeSnmpDiff, Diff.computeSnmpDiff, SnmpStateDiff.rename, SnmpStateDiff.mk.injEq]
  refine ⟨?_, ?_, ?_, ?_, ?_, rfl, rfl⟩
  · rw [hsort, ← added_rename hf.injective hname]
    rfl
  · rw [hsortNames, ← removed_rename hf.injective hname]
    rfl
  · rw [hsort, ← updated_rename hf.injective hname sameCommunity_rename]
    rfl
  · exact added_rename Function.injective_id hhost
  · exact (removed_rename Function.injective_id hhost).trans (List.map_id _)

end Diff

/-- The granular SNMP diff of an apply. -/
def VendorSwitch.snmpDiff (switch : VendorSwitch) (current : SwitchState) :
    Option SnmpStateDiff :=
  (Diff.computeDiff current switch.config switch.config.settings.enforcePortConfig).snmpDiff

theorem snmpDiff_eq {switch : VendorSwitch} {current : SwitchState} :
    switch.snmpDiff current = (Diff.diffSnmp current switch.config {}).snmpDiff := by
  rw [VendorSwitch.snmpDiff, Diff.computeDiff_eq]

/-- So is the one that a switch computes. -/
theorem snmpDiff_rename {f : String → String} (hf : StrictMono f) {switch : VendorSwitch}
    {current : SwitchState} :
    (switch.rename f).snmpDiff (current.rename f) = (switch.snmpDiff current).map (·.rename f) := by
  rw [snmpDiff_eq, snmpDiff_eq, VendorSwitch.config_rename, Diff.diffSnmp, Diff.diffSnmp,
    effectiveSnmp_rename hf.injective, SwitchState.rename]
  cases current.snmp with
  | none =>
    cases effectiveSnmp switch.config with
    | none => rfl
    | some desired => rfl
  | some snmp =>
    cases effectiveSnmp switch.config with
    | none =>
      simp [SnmpStateDiff.rename, SnmpConfig.rename, SnmpCommunity.rename, SnmpTrapReceiver.rename]
    | some desired => exact congrArg some (computeSnmpDiff_rename hf snmp desired)

/-! ## Validation does not see the values -/

/-- Every community string is written in the configuration itself. -/
def SwitchConfig.Inline (config : SwitchConfig) : Prop :=
  ∀ snmp, config.snmp = some snmp →
    ∀ entry ∈ labelledCommunities snmp, entry.2.hasReference = false

section Accepted

variable {f : String → String} {env : Environment} {switchId : String} {snmp : SnmpConfig}

theorem SnmpConfig.readsCommunity_rename :
    (snmp.rename f).readsCommunity = snmp.readsCommunity.map (·.rename f) := by
  rw [readsCommunity, readsCommunity, rename]
  cases snmp.reads with
  | none => rfl
  | some reads =>
    rw [Option.map_some]
    by_cases hmode : reads.mode = .auto
    · simp [hmode, SnmpReads.rename, Option.filter]
    · simp [hmode, SnmpReads.rename, Option.filter]

/-- Labels stay with their communities. -/
theorem mem_labelledCommunities_rename {entry : String × SnmpCommunity} :
    entry ∈ labelledCommunities (snmp.rename f) ↔
      ∃ original ∈ labelledCommunities snmp, entry = (original.1, original.2.rename f) := by
  have hlist : labelledCommunities (snmp.rename f) =
      (labelledCommunities snmp).map fun original => (original.1, original.2.rename f) := by
    rw [labelledCommunities, labelledCommunities, SnmpConfig.readsCommunity_rename,
      List.map_append, SnmpConfig.rename, List.zipIdx_map, List.map_map, List.map_map]
    cases snmp.readsCommunity <;> rfl
  rw [hlist, List.mem_map]
  exact exists_congr fun original => and_congr_right fun _ => eq_comm

/-- A community without a reference is resolved to itself. -/
theorem resolveCommunity_inline {label : String} {community : SnmpCommunity}
    (h : community.hasReference = false) :
    resolveCommunity env switchId label community = (community, .ok ()) := by
  rw [SnmpCommunity.hasReference, Bool.or_eq_false_iff, Option.isSome_eq_false_iff,
    Option.isSome_eq_false_iff, Option.isNone_iff_eq_none, Option.isNone_iff_eq_none] at h
  rw [resolveCommunity, InPlace.assign, readReference, h.1, h.2]

/-- Where the strings are given, there is nothing to resolve. -/
theorem resolvedSnmp_inline {switch : SwitchConfig} (hinline : switch.Inline)
    (hnames : ∀ snmp, switch.snmp = some snmp →
      ∀ entry ∈ labelledCommunities snmp, entry.2.name ≠ "") :
    resolvedSnmp env switch = (switch.snmp, .ok ()) := by
  rw [resolvedSnmp, resolveSnmpSecrets]
  cases hsnmp : switch.snmp with
  | none => rfl
  | some snmp =>
    have hreferences := hinline snmp hsnmp
    -- every check of a source passes: a name stands there and no reference beside it
    have hsources : ((labelledCommunities snmp).forM fun entry =>
        checkSecretSource switch.id entry.1 entry.2) = .ok () := by
      rw [forM_ok_iff]
      intro entry hentry
      have hreference := hreferences entry hentry
      have hname := hnames snmp hsnmp entry hentry
      rw [SnmpCommunity.hasReference, Bool.or_eq_false_iff] at hreference
      simp [checkSecretSource, hreference.1, hname]
    have hlisted : ∀ community ∈ snmp.communities, community.hasReference = false := by
      intro community hcommunity
      obtain ⟨i, hi, rfl⟩ := List.mem_iff_getElem.mp hcommunity
      refine hreferences (communityLabel i, snmp.communities[i]) (List.mem_append_left _ ?_)
      refine List.mem_map.mpr ⟨(snmp.communities[i], i), ?_, rfl⟩
      rw [List.mem_zipIdx_iff_getElem?]
      simp
    -- on the list, with the index as in the labels of the errors
    have heach (i : ℕ) (l : List SnmpCommunity) (hl : ∀ c ∈ l, c.hasReference = false) :
        InPlace.forEach (fun i => resolveCommunity env switch.id (communityLabel i)) i l =
          (l, .ok ()) := by
      induction l generalizing i with
      | nil => rfl
      | cons c l ih =>
        obtain ⟨hc, hl⟩ := List.forall_mem_cons.mp hl
        rw [InPlace.forEach, resolveCommunity_inline hc]
        simp only [ih (i + 1) hl]
    -- the community of the reads is resolved to itself as well
    have hreads : withReadsCommunity (resolveCommunity env switch.id readsLabel) snmp =
        (snmp, .ok ()) := by
      rw [withReadsCommunity]
      split
      · next reads community hr hc =>
        have hmem : (readsLabel, community) ∈ labelledCommunities snmp := by
          rw [labelledCommunities, hc]
          exact List.mem_append_right _ (by simp)
        have hsame : reads.community = some community := by
          rw [SnmpConfig.readsCommunity, hr] at hc
          obtain ⟨_, hfilter, hc⟩ := Option.bind_eq_some_iff.mp hc
          rw [Option.filter_eq_some_iff] at hfilter
          rw [Option.some.inj hfilter.1]
          exact hc
        rw [resolveCommunity_inline (hreferences _ hmem)]
        simp only [← hsame, ← hr]
      · rfl
    simp only [InPlace.andThen, InPlace.check, checkSnmpSecretSources, hsources,
      resolveCommunities, InPlace.within, heach 0 _ hlisted, hreads]

/-- What a vendor supports does not depend on names. -/
theorem checkVendorSupport_rename {config : SwitchConfig} :
    checkVendorSupport (config.rename f) = .ok () ↔ checkVendorSupport config = .ok () := by
  have hhosts : (config.rename f).snmp.any (fun snmp => snmp.communities.any
      fun c => !c.allowedHosts.isEmpty) =
      config.snmp.any fun snmp => snmp.communities.any fun c => !c.allowedHosts.isEmpty := by
    cases hsnmp : config.snmp <;>
      simp [SwitchConfig.rename, SnmpConfig.rename, SnmpCommunity.rename, hsnmp,
        Function.comp_def]
  have hmodel : (config.rename f).model = config.model := rfl
  simp only [checkVendorSupport, hmodel, readsEnabled_rename, hhosts]
  cases config.model with
  | none => simp
  | some model =>
    dsimp only
    split_ifs <;> simp

/-- A configuration stays accepted whatever its community strings are. -/
theorem accepted_rename {config : SwitchConfig} (h : Accepted config) (hinline : config.Inline)
    (hf : ∀ v, f v ≠ "") : Accepted (config.rename f) := by
  obtain ⟨env, raw, h⟩ := h
  obtain ⟨switch, ⟨hexpand, hfields⟩, hsteps⟩ := validateSwitchConfig_succeeds_iff.mp h
  obtain ⟨model, hmodel, hsettles, rfl⟩ := resolutionSteps_succeeds_iff.mp hsteps
  let resolved := (resolvedSnmp env switch).1
  let snmp := resolved.map (·.rename f)
  -- inline names need no secret store, so the renamed section resolves to itself
  have hnone : resolvedSnmp env { switch with snmp } = (snmp, .ok ()) := by
    apply resolvedSnmp_inline
    · intro renamed hrenamed entry hentry
      obtain ⟨original, horiginal, rfl⟩ := Option.map_eq_some_iff.mp hrenamed
      obtain ⟨first, hfirst, rfl⟩ := mem_labelledCommunities_rename.mp hentry
      exact hinline original horiginal first hfirst
    · intro renamed hrenamed entry hentry
      obtain ⟨original, -, rfl⟩ := Option.map_eq_some_iff.mp hrenamed
      obtain ⟨first, -, rfl⟩ := mem_labelledCommunities_rename.mp hentry
      exact hf _
  have hvendor : checkVendorSupport { switch with snmp } = .ok () :=
    checkVendorSupport_rename.mpr hsettles.vendor
  refine ⟨env, { raw with snmp }, validateSwitchConfig_succeeds_iff.mpr
    ⟨{ switch with snmp }, ⟨?_, hfields⟩, resolutionSteps_succeeds_iff.mpr
      ⟨model, hmodel, ?_, ?_⟩⟩⟩
  · obtain ⟨hids, portMirrors, hmirrors, rfl⟩ := expandPortRanges_ok_iff.mp hexpand
    exact expandPortRanges_ok_iff.mpr ⟨hids, portMirrors, hmirrors, rfl⟩
  · exact
      { required := hsettles.required
        snmp := by rw [hnone]
        vendor := by rw [hnone]; exact hvendor
        agree := hsettles.agree
        names := hsettles.names
        untagged := hsettles.untagged
        speeds := hsettles.speeds
        mirrors := hsettles.mirrors }
  · rw [settled, settled, hnone]
    rfl

end Accepted

end SwitchConfigurator
