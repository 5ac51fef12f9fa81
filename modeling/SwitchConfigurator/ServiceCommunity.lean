import SwitchConfigurator.Config.Validate
import SwitchConfigurator.Diff

/-!
# The service's own community

`resolve_auto_hosts` of `allowed_hosts.rs`, and what the community of `snmp.reads` looks like in
the configuration that the diff compares with.
-/

namespace SwitchConfigurator

open Keyed

/-! ## Resolving `auto` -/

/-- A manager, with this host's own address in the place of `auto`. -/
def AllowedHost.resolve (here : String) : AllowedHost → AllowedHost
  | .auto => .network here
  | host => host

def SnmpCommunity.resolveHosts (here : String) (community : SnmpCommunity) : SnmpCommunity :=
  { community with allowedHosts := community.allowedHosts.map (·.resolve here) }

/-- The read community without managers is restricted to this host. -/
def readsDefault (snmp : SnmpConfig) : Bool :=
  snmp.reads.any fun reads =>
    reads.mode == .auto && reads.community.any (·.allowedHosts.isEmpty)

def needsResolution (switch : SwitchConfig) : Bool :=
  switch.snmp.any fun snmp =>
    snmp.communities.any (·.allowedHosts.contains .auto)
      || (snmp.reads.bind (·.community)).any (·.allowedHosts.contains .auto)
      || readsDefault snmp

def SnmpConfig.resolveHosts (here : String) (snmp : SnmpConfig) : SnmpConfig :=
  { snmp with
    communities := snmp.communities.map (·.resolveHosts here)
    reads := snmp.reads.map fun reads =>
      { reads with
        community := reads.community.map fun community =>
          (if readsDefault snmp then { community with allowedHosts := [.network here] }
            else community).resolveHosts here } }

/-- Replace every `auto`. The address comes from the routing table of this host, which is asked
only where it is needed. -/
def resolveAutoHosts (localAddressTowards : String → Except Error String)
    (switch : SwitchConfig) : Except Error SwitchConfig :=
  if !needsResolution switch then .ok switch
  else
    let managementIp := switch.managementIp.getD ""
    match localAddressTowards managementIp with
    | .error e => .error
        (s!"switch '{switch.id}': cannot resolve SNMP allowed_hosts 'auto' (the address this host reaches {managementIp} from)" :: e)
    | .ok here => .ok { switch with snmp := switch.snmp.map (·.resolveHosts here) }

/-! ## What resolution leaves -/

/-- A host that was resolved is not `auto`. -/
theorem resolve_ne_auto {here : String} (host : AllowedHost) : host.resolve here ≠ .auto := by
  cases host <;> simp [AllowedHost.resolve]

/-- Nor is any of a community. -/
theorem auto_notMem_resolveHosts {here : String} (community : SnmpCommunity) :
    AllowedHost.auto ∉ (community.resolveHosts here).allowedHosts := by
  intro h
  obtain ⟨host, -, hhost⟩ := List.mem_map.mp h
  exact resolve_ne_auto host hhost

/-- Without `auto` there is nothing to replace. -/
theorem resolveHosts_eq_self {here : String} {community : SnmpCommunity}
    (h : AllowedHost.auto ∉ community.allowedHosts) : community.resolveHosts here = community := by
  have hhosts : community.allowedHosts.map (·.resolve here) = community.allowedHosts := by
    conv_rhs => rw [← List.map_id community.allowedHosts]
    refine List.map_congr_left fun host hhost => ?_
    cases host with
    | auto => exact absurd hhost h
    | network network => rfl
  rw [SnmpCommunity.resolveHosts, hhosts]

/-- Without `auto` there is nothing to resolve. -/
theorem SnmpConfig.resolveHosts_eq_self {here : String} {snmp : SnmpConfig}
    (hcommunities : ∀ community ∈ snmp.communities, AllowedHost.auto ∉ community.allowedHosts)
    (hreads : ∀ community, snmp.reads.bind (·.community) = some community →
      AllowedHost.auto ∉ community.allowedHosts) (hdefault : readsDefault snmp = false) :
    snmp.resolveHosts here = snmp := by
  have hlisted : snmp.communities.map (·.resolveHosts here) = snmp.communities := by
    conv_rhs => rw [← List.map_id snmp.communities]
    exact List.map_congr_left fun community hc =>
      SwitchConfigurator.resolveHosts_eq_self (hcommunities community hc)
  obtain ⟨communities, trapReceivers, enabledTraps, reads⟩ := snmp
  simp only [SnmpConfig.resolveHosts, hlisted, hdefault]
  cases reads with
  | none => rfl
  | some reads =>
    obtain ⟨mode, community⟩ := reads
    cases community with
    | none => rfl
    | some community =>
      simp [SwitchConfigurator.resolveHosts_eq_self (hreads community rfl)]

/-- A resolved switch has this host's address in the place of every `auto`, asked for or not. -/
theorem resolveAutoHosts_ok {localAddressTowards : String → Except Error String}
    {switch resolved : SwitchConfig} (h : resolveAutoHosts localAddressTowards switch = .ok resolved) :
    ∃ here, resolved = { switch with snmp := switch.snmp.map (·.resolveHosts here) } := by
  rw [resolveAutoHosts] at h
  split at h
  · next hneeds =>
    obtain rfl := Except.ok.inj h
    refine ⟨"", ?_⟩
    have hself : switch.snmp.map (·.resolveHosts "") = switch.snmp := by
      cases hsnmp : switch.snmp with
      | none => rfl
      | some snmp =>
        rw [Bool.not_eq_true', needsResolution, hsnmp, Option.any_some, Bool.or_eq_false_iff,
          Bool.or_eq_false_iff] at hneeds
        obtain ⟨⟨hlisted, hreads⟩, hdefault⟩ := hneeds
        rw [Option.map_some, SnmpConfig.resolveHosts_eq_self _ _ hdefault]
        · intro community hc hauto
          have hnot := List.any_eq_false.mp hlisted community hc
          exact hnot (List.contains_iff_mem.mpr hauto)
        · intro community hc hauto
          rw [hc, Option.any_some, Bool.eq_false_iff] at hreads
          exact hreads (List.contains_iff_mem.mpr hauto)
    rw [hself]
  · dsimp only at h
    split at h
    · cases h
    · next here _ => exact ⟨here, (Except.ok.inj h).symm⟩

/-- The read community that is switched on has managers once it is resolved. -/
theorem reads_resolveHosts (here : String) {snmp : SnmpConfig} {community : SnmpCommunity}
    (h : snmp.reads = some { mode := .auto, community := some community }) :
    ∃ managed, (snmp.resolveHosts here).reads =
        some { mode := .auto, community := some managed } ∧
      managed.name = community.name ∧ AllowedHost.auto ∉ managed.allowedHosts ∧
        managed.allowedHosts ≠ [] := by
  by_cases hdefault : readsDefault snmp = true
  · refine ⟨{ community with allowedHosts := [.network here] }, ?_, rfl, by simp, by simp⟩
    simp only [SnmpConfig.resolveHosts, hdefault, h]
    rfl
  · refine ⟨community.resolveHosts here, ?_, rfl, auto_notMem_resolveHosts community, ?_⟩
    · simp only [SnmpConfig.resolveHosts, hdefault, h]
      rfl
    · have hempty : community.allowedHosts ≠ [] := by
        simpa [readsDefault, h] using hdefault
      simpa [SnmpCommunity.resolveHosts] using hempty

/-! ## The effective configuration -/

/-- The service's community stands next to the listed ones, once, restricted and never removed. -/
structure KeepsServiceCommunity (listed : List SnmpCommunity) (name : String)
    (resolved : SwitchConfig) (effective : SnmpConfig) : Prop where
  listed : ∃ here, ∀ community ∈ listed, community.resolveHosts here ∈ effective.communities
  once : (effective.communities.map SnmpCommunity.name).count name = 1
  no_auto : ∀ community ∈ effective.communities, AllowedHost.auto ∉ community.allowedHosts
  restricted : ∀ community ∈ effective.communities, community.name = name →
    community.access = .operator ∧ community.allowedHosts ≠ []
  not_removed : ∀ current enforce diff,
    (Diff.computeDiff current resolved enforce).snmpDiff = some diff →
      name ∉ diff.communitiesToRemove

/-- Who lists the service's community lists it once, read-only, and says who may use it. -/
def ListedRestricted (listed : List SnmpCommunity) (name : String) : Prop :=
  (listed.map SnmpCommunity.name).count name ≤ 1 ∧
    ∀ community ∈ listed, community.name = name →
      community.access = .operator ∧ community.allowedHosts ≠ []

/-- A name that is wanted is not removed. -/
theorem notMem_communitiesToRemove {current : SwitchState} {resolved : SwitchConfig}
    {effective : SnmpConfig} {name : String} (heffective : effectiveSnmp resolved = some effective)
    (hname : name ∈ effective.communities.map SnmpCommunity.name) {enforce : Bool}
    {diff : SnmpStateDiff}
    (h : (Diff.computeDiff current resolved enforce).snmpDiff = some diff) :
    name ∉ diff.communitiesToRemove := by
  rw [Diff.computeDiff_eq] at h
  simp only [Diff.diffSnmp, heffective] at h
  cases hcurrent : current.snmp with
  | none =>
    simp only [hcurrent, Option.some.injEq] at h
    obtain rfl := h
    exact List.not_mem_nil
  | some currentConfig =>
    simp only [hcurrent, Option.some.injEq] at h
    obtain rfl := h
    rw [Diff.computeSnmpDiff, List.mem_insertionSort, mem_removed_iff]
    exact fun hremoved => hremoved.2 hname

section

variable {snmp resolved : SnmpConfig} {community managed : SnmpCommunity} {name here : String}

/-- The two ways to have the service's community: it is listed, or it is added. -/
theorem effective_cases {switch : SwitchConfig} (hsnmp : switch.snmp = some resolved)
    (hreads : resolved.reads = some { mode := .auto, community := some managed }) :
    managed.name ∈ resolved.communities.map SnmpCommunity.name ∧
        effectiveSnmp switch = some resolved ∨
      managed.name ∉ resolved.communities.map SnmpCommunity.name ∧
        effectiveSnmp switch = some { resolved with
          communities := resolved.communities ++ [{ managed with access := .operator }] } := by
  have henabled : readsEnabled switch = true := by
    simp [readsEnabled, hsnmp, hreads]
  rw [effectiveSnmp, hsnmp, Option.map_some, henabled, if_pos rfl, hreads, Option.bind_some]
  dsimp only
  by_cases hmem : managed.name ∈ resolved.communities.map SnmpCommunity.name
  · refine .inl ⟨hmem, ?_⟩
    obtain ⟨listed, hlisted, hname⟩ := List.mem_map.mp hmem
    have hany : resolved.communities.any (·.name == managed.name) = true :=
      List.any_eq_true.mpr ⟨listed, hlisted, beq_iff_eq.mpr hname⟩
    rw [if_pos hany]
  · refine .inr ⟨hmem, ?_⟩
    have hany : ¬resolved.communities.any (·.name == managed.name) = true := by
      intro hany
      obtain ⟨listed, hlisted, hname⟩ := List.any_eq_true.mp hany
      exact hmem (beq_iff_eq.mp hname ▸ List.mem_map_of_mem hlisted)
    rw [if_neg hany]

@[simp] theorem map_name_resolveHosts (communities : List SnmpCommunity) :
    (communities.map (·.resolveHosts here)).map SnmpCommunity.name =
      communities.map SnmpCommunity.name := by
  rw [List.map_map]
  rfl

/-- Resolving hosts restricts no community. -/
theorem listedRestricted_resolveHosts (here : String) {listed : List SnmpCommunity} :
    ListedRestricted (listed.map (·.resolveHosts here)) name ↔ ListedRestricted listed name := by
  rw [ListedRestricted, ListedRestricted, map_name_resolveHosts, List.forall_mem_map]
  refine and_congr_right fun _ => forall₂_congr fun community _ => ?_
  simp [SnmpCommunity.resolveHosts]

/-- The service's community is kept exactly if a listed one of its name is restricted. -/
theorem keepsServiceCommunity_iff {switch : SwitchConfig}
    (hsnmp : switch.snmp = some (snmp.resolveHosts here))
    (hreads : snmp.reads = some { mode := .auto, community := some community }) :
    ∃ effective, effectiveSnmp switch = some effective ∧
      (KeepsServiceCommunity snmp.communities community.name switch effective ↔
        ListedRestricted snmp.communities community.name) := by
  obtain ⟨managed, hmanaged, hname, hauto, hhosts⟩ := reads_resolveHosts here hreads
  have hlisted : (snmp.resolveHosts here).communities =
      snmp.communities.map (·.resolveHosts here) := rfl
  have hautoListed : ∀ c ∈ (snmp.resolveHosts here).communities,
      AllowedHost.auto ∉ c.allowedHosts := by
    rw [hlisted, List.forall_mem_map]
    exact fun c _ => auto_notMem_resolveHosts c
  rw [← listedRestricted_resolveHosts here, ← hlisted, ← hname]
  -- a listed community of that name stands in for the service's, else it is appended
  rcases effective_cases hsnmp hmanaged with ⟨hmem, heffective⟩ | ⟨hnew, heffective⟩
  · refine ⟨_, heffective, fun h => ⟨h.once.le, h.restricted⟩, fun h => ?_⟩
    exact {
      listed := ⟨here, fun c hc => hlisted ▸ List.mem_map_of_mem hc⟩
      once := le_antisymm h.1 (List.count_pos_iff.mpr hmem)
      no_auto := hautoListed
      restricted := h.2
      not_removed := fun current enforce diff =>
        notMem_communitiesToRemove heffective hmem }
  · have hcount : ((snmp.resolveHosts here).communities.map SnmpCommunity.name).count
        managed.name = 0 := List.count_eq_zero.mpr hnew
    have hnone : ∀ c ∈ (snmp.resolveHosts here).communities, c.name ≠ managed.name :=
      fun c hc heq => hnew (heq ▸ List.mem_map_of_mem hc)
    refine ⟨_, heffective, fun _ => ⟨hcount.le.trans (by omega), fun c hc heq => ?_⟩, fun _ => ?_⟩
    · exact absurd heq (hnone c hc)
    · exact {
        listed := ⟨here, fun c hc =>
          List.mem_append_left _ (hlisted ▸ List.mem_map_of_mem hc)⟩
        once := by simp [hcount]
        no_auto := by
          rw [List.forall_mem_append, List.forall_mem_singleton]
          exact ⟨hautoListed, hauto⟩
        restricted := by
          rw [List.forall_mem_append, List.forall_mem_singleton]
          exact ⟨fun c hc heq => absurd heq (hnone c hc), fun _ => ⟨rfl, hhosts⟩⟩
        not_removed := fun current enforce diff =>
          notMem_communitiesToRemove heffective (by simp) }

end

/-- With `snmp.reads` on, the service's community is kept as it should be exactly where nobody
lists it in another form. -/
theorem resolveAutoHosts_keepsServiceCommunity_iff
    {localAddressTowards : String → Except Error String} {switch resolved : SwitchConfig}
    {snmp : SnmpConfig} {community : SnmpCommunity} (hsnmp : switch.snmp = some snmp)
    (hreads : snmp.reads = some { mode := .auto, community := some community })
    (hresolved : resolveAutoHosts localAddressTowards switch = .ok resolved) :
    ∃ effective, effectiveSnmp resolved = some effective ∧
      (KeepsServiceCommunity snmp.communities community.name resolved effective ↔
        ListedRestricted snmp.communities community.name) := by
  obtain ⟨here, rfl⟩ := resolveAutoHosts_ok hresolved
  exact keepsServiceCommunity_iff (by rw [hsnmp]; rfl) hreads

/-- A switch that the service reads from with a community of its own, "poller". -/
def polledSwitch (communities : List SnmpCommunity) : SwitchConfig where
  id := "sw1"
  hostname := some "sw1"
  model := some .fortiswitch124F_FPOE
  managementIp := some "192.0.2.10"
  credentials := some { username := "admin", password := some "pw" }
  snmp := some {
    communities
    reads := some { mode := .auto, community := some { name := "poller" } } }

theorem polledSwitch_keepsServiceCommunity : ∃ resolved effective,
    resolveAutoHosts (fun _ => .ok "192.0.2.1") (polledSwitch [{ name := "ops" }]) = .ok resolved ∧
      effectiveSnmp resolved = some effective ∧
        KeepsServiceCommunity [{ name := "ops" }] "poller" resolved effective := by
  obtain ⟨resolved, hresolved⟩ : ∃ resolved, resolveAutoHosts (fun _ => .ok "192.0.2.1")
      (polledSwitch [{ name := "ops" }]) = .ok resolved := ⟨_, rfl⟩
  obtain ⟨effective, heffective, hiff⟩ :=
    resolveAutoHosts_keepsServiceCommunity_iff rfl rfl hresolved
  refine ⟨resolved, effective, hresolved, heffective, hiff.mpr ⟨by decide, ?_⟩⟩
  intro community hc hname
  obtain rfl := List.mem_singleton.mp hc
  exact absurd hname (by decide)

/-- Listed once more, the service's community may write and may be used by anyone. -/
theorem exists_not_keepsServiceCommunity : Accepted (polledSwitch [{ name := "poller" }]) ∧
    ∃ resolved effective,
      resolveAutoHosts (fun _ => .ok "192.0.2.1") (polledSwitch [{ name := "poller" }]) =
        .ok resolved ∧
      effectiveSnmp resolved = some effective ∧
      effective.communities = [{ name := "poller", access := .unrestricted }] ∧
      ¬KeepsServiceCommunity [{ name := "poller" }] "poller" resolved effective := by
  refine ⟨⟨plainEnvironment, polledSwitch [{ name := "poller" }], ?_⟩, _, _, rfl, rfl, rfl, ?_⟩
  · show validateSwitchConfig plainEnvironment _ = (_, .ok ())
    decide +kernel
  · intro h
    exact (h.restricted _ List.mem_cons_self rfl).2 rfl

end SwitchConfigurator
