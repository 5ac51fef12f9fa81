import SwitchConfigurator.Api.DesiredConfig
import SwitchConfigurator.Config.Stable

/-!
# What a PATCH makes of the stored switch

A PATCH is merged by the keys as they are written, and port ranges are expanded afterwards. A
range and a port in it are different keys for the merge and one port for everything else. The
result is a merge by what the keys name exactly where no two of the port ids that come together
name one port.
-/

namespace SwitchConfigurator.Api

open Keyed RelatedLists

/-- The request is accepted and makes `result` of the switch `stored`. -/
structure Patches (env : Environment) (id : String) (request : PatchSwitchConfigRequest)
    (store : ConfigStore) (stored result : SwitchConfig) : Prop where
  stored : store.switches.find? (·.id = id) = some stored
  accepted : (patchSwitchConfig env id request store).answer.isError = false
  result : (patchSwitchConfig env id request store).store.switches.find? (·.id = id) = some result

/-- What the request does not name is as it is in the stored switch. -/
structure KeepsRest (request : PatchSwitchConfigRequest) (stored result : SwitchConfig) : Prop where
  ports : ∀ portId, portId ∉ namedPorts (request.ports.getD []) →
    lookup Port.portId portId result.ports = lookup Port.portId portId stored.ports
  portMirrors : ∀ sessionId,
    sessionId ∉ (request.portMirrors.getD []).map PortMirror.sessionId →
      lookup PortMirror.sessionId sessionId result.portMirrors =
        lookup PortMirror.sessionId sessionId stored.portMirrors
  snmp : request.snmp = none → result.snmp = stored.snmp

/-- The result is the merge of the request into the stored switch, by what their keys name. The
stored switch may be one that was not validated yet: its ports are then settled, too. -/
structure MergesByKey (env : Environment) (request : PatchSwitchConfigRequest)
    (stored result : SwitchConfig) : Prop where
  unique : result.Unique
  vlans : ∀ id, lookup Vlan.id id result.vlans =
    (lookup Vlan.id id (request.vlans.getD [])).or (lookup Vlan.id id stored.vlans)
  ports : ∀ portId, lookup Port.portId portId result.ports =
    ((lookup Port.portId portId ((request.ports.getD []).flatMap expandedPorts)).or
      (lookup Port.portId portId (stored.ports.flatMap expandedPorts))).map
        (settledPort (request.merge stored))
  portMirrors : ∀ sessionId, lookup PortMirror.sessionId sessionId result.portMirrors =
    ((lookup PortMirror.sessionId sessionId (request.portMirrors.getD [])).or
      (lookup PortMirror.sessionId sessionId stored.portMirrors)).map expandedMirror
  snmp : result.snmp = (resolvedSnmp env { stored with snmp := request.snmp.or stored.snmp }).1
  fields : { result with vlans := [], ports := [], portMirrors := [], snmp := none } =
    { id := stored.id
      hostname := request.hostname.or stored.hostname
      model := request.model.or stored.model
      managementIp := request.managementIp.or stored.managementIp
      credentials := request.credentials.or stored.credentials
      managementVlan := request.managementVlan.or stored.managementVlan
      validation := stored.validation
      vendorSpecific := stored.vendorSpecific
      settings := stored.settings }
  rest : Accepted stored → KeepsRest request stored result

/-- The ids that a port id text names. -/
def portIds (text : String) : List String := (parsePortId text).toOption.getD []

/-- No key is stored twice, and the port ids of the stored switch and of the request, taken as
texts, name distinct ports. -/
structure KeysApart (request : PatchSwitchConfigRequest) (stored : SwitchConfig) : Prop where
  vlans : (stored.vlans.map Vlan.id).Nodup
  portMirrors : (stored.portMirrors.map PortMirror.sessionId).Nodup
  ports : ((stored.ports.map Port.portId ++ (((request.ports.getD []).map Port.portId).filter
    (· ∉ stored.ports.map Port.portId)).dedup).flatMap portIds).Nodup

section

variable {env : Environment} {id : String} {request : PatchSwitchConfigRequest}
variable {store : ConfigStore} {stored result : SwitchConfig}

/-- The first switch that `p` holds of, when it is replaced by another such. -/
theorem find?_set {switches : List SwitchConfig} {p : SwitchConfig → Bool} {config : SwitchConfig}
    {i : Fin switches.length} (hi : switches.findFinIdx? p = some i) (hp : p config = true) :
    switches.find? p = some switches[i] ∧ (switches.set i config).find? p = some config := by
  obtain ⟨hpi, hfirst⟩ := List.findFinIdx?_eq_some_iff.mp hi
  constructor
  · rw [List.find?_eq_some_iff_getElem]
    refine ⟨hpi, i, i.isLt, rfl, fun j hj => ?_⟩
    have hnot := hfirst ⟨j, hj.trans i.isLt⟩ hj
    simpa using hnot
  · rw [List.find?_eq_some_iff_getElem]
    refine ⟨hp, i, by simp, List.getElem_set_self _, fun j hj => ?_⟩
    have hne : (i : ℕ) ≠ j := Nat.ne_of_gt hj
    rw [List.getElem_set_ne hne]
    have hnot := hfirst ⟨j, hj.trans i.isLt⟩ hj
    simpa using hnot

/-- An accepted request has run the validation on the merged switch. -/
theorem Patches.validated (h : Patches env id request store stored result) :
    (validateSwitchConfig env).Succeeds (request.merge stored) result := by
  have haccepted := h.accepted
  have hresult := h.result
  unfold patchSwitchConfig at haccepted hresult
  split at haccepted
  · cases haccepted
  · split at haccepted
    · cases haccepted
    · next hmismatch _ i hindex =>
      have hid : store.switches[i].id = id :=
        of_decide_eq_true (List.findFinIdx?_eq_some_iff.mp hindex).1
      have hvalidated := validateSwitchConfig_id env (request.merge store.switches[i])
      obtain ⟨hfind, hset⟩ := find?_set hindex (decide_eq_true (hvalidated.trans hid))
      obtain rfl := Option.some.inj (hfind.symm.trans h.stored)
      simp only [hmismatch, hindex] at hresult
      dsimp only at haccepted
      split at haccepted
      · cases haccepted
      · next hok =>
        rw [hok] at hresult
        obtain rfl := Option.some.inj (hset.symm.trans hresult)
        exact InPlace.succeeds_iff.mpr ⟨hok, rfl⟩

/-- The ports that are named are those of the port texts. -/
theorem namedPorts_eq (ports : List Port) :
    namedPorts ports = (ports.map Port.portId).flatMap portIds := by
  rw [List.flatMap_map]
  rfl

/-- The keys of the merged switch are distinct exactly if the keys of the two are apart. -/
theorem distinctKeys_merge_iff : (request.merge stored).DistinctKeys ↔ KeysApart request stored := by
  have hports : (namedPorts (request.merge stored).ports).Nodup ↔
      ((stored.ports.map Port.portId ++ (((request.ports.getD []).map Port.portId).filter
        (· ∉ stored.ports.map Port.portId)).dedup).flatMap portIds).Nodup := by
    rw [namedPorts_eq]
    exact (perm_keys_putAll.flatMap_right portIds).nodup_iff
  constructor
  · rintro ⟨hvlans, hnamed, hmirrors⟩
    exact ⟨nodup_putAll_iff.mp hvlans, nodup_putAll_iff.mp hmirrors, hports.mp hnamed⟩
  · rintro ⟨hvlans, hmirrors, hnamed⟩
    exact ⟨nodup_putAll_iff.mpr hvlans, hports.mpr hnamed, nodup_putAll_iff.mpr hmirrors⟩

/-- VLANs are not taken away, so what could be tagged before can be tagged afterwards. -/
theorem taggable_merge (hmodel : (request.merge stored).model.isSome = true) {vlan : ℕ}
    (h : vlan ∈ taggable stored) : vlan ∈ taggable (request.merge stored) := by
  obtain ⟨model, hmodel⟩ := Option.isSome_iff_exists.mp hmodel
  rw [taggable, List.mem_append] at h ⊢
  rcases h with hvlan | himplicit
  · exact .inl (mem_map_putAll.mpr (.inl hvlan))
  · right
    rw [hmodel]
    -- the same VLANs exist on every model
    have himplied : ∀ model : SwitchModel, model.implicitVlans = [1] := by
      intro model
      cases model <;> rfl
    cases hstored : stored.model with
    | none => simp [hstored] at himplicit
    | some old => simpa [hstored, himplied] using himplicit

/-- What the request does not name is as it was stored. -/
theorem keepsRest (hvalidated : ValidatedAs env (request.merge stored) result)
    (hports : ∀ portId, lookup Port.portId portId result.ports =
      ((lookup Port.portId portId ((request.ports.getD []).flatMap expandedPorts)).or
        (lookup Port.portId portId (stored.ports.flatMap expandedPorts))).map
          (settledPort (request.merge stored)))
    (hmirrors : ∀ sessionId, lookup PortMirror.sessionId sessionId result.portMirrors =
      ((lookup PortMirror.sessionId sessionId (request.portMirrors.getD [])).or
        (lookup PortMirror.sessionId sessionId stored.portMirrors)).map expandedMirror)
    (haccepted : Accepted stored) : KeepsRest request stored result where
  ports portId hnot := by
    -- the request names no such port, so the stored one is looked up
    have hnone : lookup Port.portId portId ((request.ports.getD []).flatMap expandedPorts) = none := by
      rw [lookup_eq_none_iff]
      intro port hport hid
      obtain ⟨entry, hentry, hmem⟩ := List.mem_flatMap.mp hport
      refine hnot (List.mem_flatMap.mpr ⟨entry, hentry, ?_⟩)
      rw [← expandedPorts_portIds, ← hid]
      exact List.mem_map_of_mem hmem
    -- a stored port is a single one already
    have hexpanded : stored.ports.flatMap expandedPorts = stored.ports := by
      rw [List.flatMap_congr fun port hport =>
        expandedPorts_of_single (haccepted.final port hport).single]
      exact List.flatMap_singleton' _
    rw [hports, hnone, Option.none_or, hexpanded]
    cases hlookup : lookup Port.portId portId stored.ports with
    | none => rfl
    | some port =>
      have hfinal := haccepted.final port (mem_of_lookup hlookup)
      rw [Option.map_some, hfinal.settledPort_eq fun _ h => taggable_merge hvalidated.model h]
  portMirrors sessionId hnot := by
    have hnone : lookup PortMirror.sessionId sessionId (request.portMirrors.getD []) = none := by
      rw [lookup_eq_none_iff]
      exact fun mirror hmirror hid => hnot (hid ▸ List.mem_map_of_mem hmirror)
    rw [hmirrors, hnone, Option.none_or]
    cases hlookup : lookup PortMirror.sessionId sessionId stored.portMirrors with
    | none => rfl
    | some mirror => rw [Option.map_some, haccepted.mirrors mirror (mem_of_lookup hlookup)]
  snmp hnone := by
    have hsame : (request.merge stored).snmp = stored.snmp := by
      show request.snmp.or stored.snmp = stored.snmp
      rw [hnone, Option.none_or]
    rw [hvalidated.result]
    exact haccepted.secrets hsame hvalidated.secrets

/-- An accepted request is merged by what its keys name exactly where the keys are apart. -/
theorem patch_merges_iff (h : Patches env id request store stored result) :
    MergesByKey env request stored result ↔ KeysApart request stored := by
  have hsucceeds := h.validated
  have hunique : result.Unique ↔ KeysApart request stored :=
    (unique_of_accepted_iff hsucceeds).trans distinctKeys_merge_iff
  have hvalidated := validatedAs hsucceeds
  constructor
  · exact fun hmerges => hunique.mp hmerges.unique
  · intro hapart
    have hdistinct := distinctKeys_merge_iff.mpr hapart
    have hports (portId : String) : lookup Port.portId portId result.ports =
        ((lookup Port.portId portId ((request.ports.getD []).flatMap expandedPorts)).or
          (lookup Port.portId portId (stored.ports.flatMap expandedPorts))).map
            (settledPort (request.merge stored)) := by
      rw [hvalidated.result]
      dsimp only
      rw [lookup_map (portId_settledPort _)]
      congr 1
      -- the merge compares ids before the ranges are expanded, so the keys must be apart
      apply lookup_flatMap_putAll portIds expandedPorts_portIds
      rw [map_flatMap_keys portIds expandedPorts_portIds, ← namedPorts_eq]
      exact hdistinct.ports
    have hmirrors (sessionId : String) :
        lookup PortMirror.sessionId sessionId result.portMirrors =
          ((lookup PortMirror.sessionId sessionId (request.portMirrors.getD [])).or
            (lookup PortMirror.sessionId sessionId stored.portMirrors)).map expandedMirror := by
      rw [hvalidated.result]
      dsimp only
      rw [lookup_map sessionId_expandedMirror]
      congr 1
      exact lookup_putAll hapart.portMirrors
    exact
      { unique := hunique.mpr hapart
        vlans := fun id => by
          rw [hvalidated.result]
          exact lookup_putAll hapart.vlans
        ports := hports
        portMirrors := hmirrors
        snmp := by rw [hvalidated.result]; rfl
        fields := by rw [hvalidated.result]; rfl
        rest := keepsRest hvalidated hports hmirrors }

end

/-! ## A range and a port in it -/

def officeSwitch : SwitchConfig where
  id := "sw1"
  hostname := some "office"
  model := some .aruba2930F
  managementIp := some "10.0.0.2"
  credentials := some { username := "admin" }
  ports := [{ portId := "1", vlan := 1 }]

def officeStore : ConfigStore := { switches := [officeSwitch] }

def patchPorts (portId : String) : PatchSwitchConfigRequest where
  ports := some [{ portId, vlan := 1, description := some "new" }]

/-- The switch with the ports that a PATCH appends. -/
def officeWith (portIds : List String) : SwitchConfig :=
  { officeSwitch with
    ports := officeSwitch.ports ++ portIds.map fun portId =>
      { portId, vlan := 1, description := some "new" } }

/-- The range names no stored port. -/
theorem patches_apart : Patches plainEnvironment "sw1" (patchPorts "2-3") officeStore officeSwitch
    (officeWith ["2", "3"]) where
  stored := rfl
  accepted := by decide +kernel
  result := by decide +kernel

/-- The range names the stored port as well. -/
theorem patches_overlapping : Patches plainEnvironment "sw1" (patchPorts "1-3") officeStore
    officeSwitch (officeWith ["1", "2", "3"]) where
  stored := rfl
  accepted := by decide +kernel
  result := by decide +kernel

theorem patch_merges_iff_apart :
    MergesByKey plainEnvironment (patchPorts "2-3") officeSwitch (officeWith ["2", "3"]) ↔
      KeysApart (patchPorts "2-3") officeSwitch := patch_merges_iff patches_apart

/-- Port 1 is stored and the request gives ports 1 to 3: it is in the switch twice then. -/
theorem overlapping_patch_repeats_port : Accepted officeSwitch ∧
    Patches plainEnvironment "sw1" (patchPorts "1-3") officeStore officeSwitch
      (officeWith ["1", "2", "3"]) ∧
    ¬MergesByKey plainEnvironment (patchPorts "1-3") officeSwitch
      (officeWith ["1", "2", "3"]) := by
  have haccepted : validateSwitchConfig plainEnvironment officeSwitch = (officeSwitch, .ok ()) := by
    decide +kernel
  refine ⟨⟨plainEnvironment, officeSwitch, haccepted⟩, patches_overlapping, fun h => ?_⟩
  have hports := h.unique.ports
  revert hports
  decide

end SwitchConfigurator.Api
