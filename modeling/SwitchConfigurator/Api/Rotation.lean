import SwitchConfigurator.Config.Stored

/-!
# Secrets that change

A stored switch has the strings its references had when it was validated. Later the files may have
other ones; what a validation and a PATCH make of the switch then depends on nothing else.
-/

namespace SwitchConfigurator

open Keyed RelatedLists

/-- The communities that a validation reads, each under its label. -/
def SwitchConfig.readCommunities (switch : SwitchConfig) : List (String × SnmpCommunity) :=
  (switch.snmp.map labelledCommunities).getD []

/-- Every reference can be read, and gives a valid value. -/
def Readable (env : Environment) (switch : SwitchConfig) : Prop :=
  ∀ entry ∈ switch.readCommunities, entry.2.hasReference = true →
    ∃ value source, readReference env switch.id entry.1 entry.2 = some (.ok value, source)

/-- Every community that has a reference has the value its source has now. -/
def Current (env : Environment) (switch : SwitchConfig) : Prop :=
  ∀ entry ∈ switch.readCommunities, ∀ value source,
    readReference env switch.id entry.1 entry.2 = some (.ok value, source) → entry.2.name = value

/-- The same machine with other contents of its files. -/
def Environment.later (env : Environment) (readToString : String → Except String String) :
    Environment :=
  { env with readToString }

section

variable {env : Environment} {switchId label : String} {community : SnmpCommunity}
variable {snmp : SnmpConfig} {switch : SwitchConfig}

/-- Without a reference there is nothing to read. -/
theorem readReference_eq_none (h : community.hasReference = false) :
    readReference env switchId label community = none := by
  unfold SnmpCommunity.hasReference at h
  rw [Bool.or_eq_false_iff, Option.isSome_eq_false_iff, Option.isNone_iff_eq_none,
    Option.isSome_eq_false_iff, Option.isNone_iff_eq_none] at h
  unfold readReference
  rw [h.1, h.2]

/-- A community that is up to date is left alone. -/
theorem resolveCommunity_current
    (hread : community.hasReference = true →
      ∃ value source, readReference env switchId label community = some (.ok value, source))
    (hcurrent : ∀ value source,
      readReference env switchId label community = some (.ok value, source) →
        community.name = value) :
    (resolveCommunity env switchId label).Succeeds community community := by
  rw [resolveCommunity, InPlace.assign_succeeds]
  cases hreference : community.hasReference with
  | false => rw [readReference_eq_none hreference]
  | true =>
    obtain ⟨value, source, hvalue⟩ := hread hreference
    rw [hvalue]
    refine bind_ok_iff.mpr ⟨value, rfl, ?_⟩
    rw [← hcurrent value source hvalue, if_neg (by simp)]

/-- Every listed community has its label. -/
theorem mem_labelledCommunities {i : ℕ} (hi : i < snmp.communities.length) :
    (communityLabel i, snmp.communities[i]) ∈ labelledCommunities snmp := by
  refine List.mem_append_left _ (List.mem_map.mpr ⟨(snmp.communities[i], i), ?_, rfl⟩)
  rw [List.mem_zipIdx_iff_getElem?]
  exact List.getElem?_eq_getElem hi

/-- So has the one that reads. -/
theorem mem_labelledCommunities_reads (h : snmp.readsCommunity = some community) :
    (readsLabel, community) ∈ labelledCommunities snmp := by
  refine List.mem_append_right _ ?_
  rw [h]
  exact List.mem_cons_self

/-- Where the reading community is current, the step leaves it so. -/
theorem withReadsCommunity_current {f : InPlace Error SnmpCommunity}
    (h : ∀ community, snmp.readsCommunity = some community → f.Succeeds community community) :
    (withReadsCommunity f).Succeeds snmp snmp := by
  unfold InPlace.Succeeds withReadsCommunity
  split
  · next reads community hreads hcommunity =>
    have hgiven : reads.community = some community := by
      rw [SnmpConfig.readsCommunity, hreads] at hcommunity
      obtain ⟨_, hfilter, hgiven⟩ := Option.bind_eq_some_iff.mp hcommunity
      obtain ⟨heq, -⟩ := Option.filter_eq_some_iff.mp hfilter
      rwa [Option.some.inj heq]
    have hkeep : f community = (community, .ok ()) := h community hcommunity
    rw [hkeep, ← hgiven, ← hreads]
  · rfl

/-- The secrets of a switch that is up to date are left alone. -/
theorem resolvedSnmp_current (hsources : checkSnmpSecretSources switch = .ok ())
    (hread : Readable env switch) (hcurrent : Current env switch) :
    resolvedSnmp env switch = (switch.snmp, .ok ()) := by
  have hsucceeds : (resolveSnmpSecrets env).Succeeds switch switch := by
    refine InPlace.andThen_succeeds.mpr
      ⟨switch, InPlace.check_succeeds.mpr ⟨rfl, hsources⟩, ?_⟩
    unfold InPlace.Succeeds
    dsimp only
    cases hsnmp : switch.snmp with
    | none => rfl
    | some snmp =>
      have hlabelled : switch.readCommunities = labelledCommunities snmp := by
        rw [SwitchConfig.readCommunities, hsnmp]
        rfl
      -- every community still reads as what is stored, so nothing disagrees
      have hentry (label : String) (community : SnmpCommunity)
          (hmem : (label, community) ∈ labelledCommunities snmp) :
          (resolveCommunity env switch.id label).Succeeds community community :=
        resolveCommunity_current (hread _ (hlabelled ▸ hmem)) (hcurrent _ (hlabelled ▸ hmem))
      have hall : (resolveCommunities env switch.id).Succeeds snmp snmp := by
        refine InPlace.andThen_succeeds.mpr
          ⟨snmp, InPlace.within_succeeds.mpr ⟨snmp.communities, ?_, rfl⟩, ?_⟩
        · refine InPlace.forEach_succeeds_self fun j hj => ?_
          rw [Nat.zero_add]
          exact hentry _ _ (mem_labelledCommunities hj)
        · refine withReadsCommunity_current fun community hcommunity => ?_
          exact hentry _ _ (mem_labelledCommunities_reads hcommunity)
      unfold InPlace.Succeeds at hall
      dsimp only
      rw [hall, ← hsnmp]
  unfold InPlace.Succeeds at hsucceeds
  rw [resolveSnmpSecrets_eq] at hsucceeds
  obtain ⟨hswitch, hok⟩ := Prod.mk.inj hsucceeds
  have hsnmp := congrArg SwitchConfig.snmp hswitch
  exact Prod.ext hsnmp hok

end

/-! ## Validating with other contents -/

section

variable {env : Environment} {readToString : String → Except String String}
variable {switch raw stored result : SwitchConfig}

/-- The other checks of a validation do not look at files. -/
theorem validates_later (h : (validateSwitchConfig env).Succeeds raw result)
    (hsame : resolvedSnmp (env.later readToString) raw = resolvedSnmp env raw) :
    (validateSwitchConfig (env.later readToString)).Succeeds raw result := by
  obtain ⟨switch, hexpand, hsteps⟩ := validateSwitchConfig_succeeds_iff.mp h
  obtain ⟨model, hmodel, hsettles, rfl⟩ := resolutionSteps_succeeds_iff.mp hsteps
  have hsame' : resolvedSnmp (env.later readToString) switch = resolvedSnmp env switch := by
    have hframe := expandPortRanges_frame hexpand.1
    rw [hframe]
    exact hsame
  refine validateSwitchConfig_succeeds_iff.mpr
    ⟨switch, hexpand, resolutionSteps_succeeds_iff.mpr ⟨model, hmodel, ?_, ?_⟩⟩
  · exact {
      required := hsettles.required
      snmp := hsame' ▸ hsettles.snmp
      vendor := hsame' ▸ hsettles.vendor
      agree := hsettles.agree
      names := hsettles.names
      untagged := hsettles.untagged
      speeds := hsettles.speeds
      mirrors := hsettles.mirrors }
  · rw [settled, settled, hsame']

/-- The secrets of a switch depend on its id and its SNMP only. -/
theorem resolvedSnmp_congr (hid : raw.id = switch.id) (hsnmp : raw.snmp = switch.snmp) :
    resolvedSnmp env raw = resolvedSnmp env switch := by
  rw [resolvedSnmp, resolvedSnmp, hid, hsnmp]

/-- The secrets of a stored switch are read already. -/
theorem Stored.resolvedSnmp_eq (h : Stored env stored) :
    resolvedSnmp env stored = (stored.snmp, .ok ()) := by
  have hvalidated := validatedAs h
  exact Prod.ext (h.accepted.secrets rfl hvalidated.secrets) hvalidated.secrets

/-- The sources of a stored switch's secrets are in order. -/
theorem Stored.checkSnmpSecretSources (h : Stored env stored) :
    checkSnmpSecretSources stored = .ok () := by
  have hok : resolveSnmpSecrets env stored = (stored, .ok ()) := by
    rw [resolveSnmpSecrets_eq, h.resolvedSnmp_eq]
  obtain ⟨_, hcheck, -⟩ := InPlace.andThen_succeeds.mp hok
  exact (InPlace.check_succeeds.mp hcheck).2

/-- Whatever else it holds, a switch with the secrets of a stored one is validated as before while
these are up to date. -/
theorem Stored.validates_later (hstored : Stored env stored)
    (hid : raw.id = stored.id) (hsnmp : raw.snmp = stored.snmp)
    (h : (validateSwitchConfig env).Succeeds raw result)
    (hread : Readable (env.later readToString) stored)
    (hcurrent : Current (env.later readToString) stored) :
    (validateSwitchConfig (env.later readToString)).Succeeds raw result := by
  refine SwitchConfigurator.validates_later h ?_
  rw [resolvedSnmp_congr hid hsnmp, resolvedSnmp_congr hid hsnmp, hstored.resolvedSnmp_eq]
  exact resolvedSnmp_current hstored.checkSnmpSecretSources hread hcurrent

/-- A validation that succeeds has not changed the secrets of a stored switch. -/
theorem Stored.snmp_validated {env' : Environment} (hstored : Stored env stored)
    (hsnmp : raw.snmp = stored.snmp) (h : (validateSwitchConfig env').Succeeds raw result) :
    result.snmp = stored.snmp := by
  have hvalidated := validatedAs h
  rw [hvalidated.result]
  exact hstored.accepted.secrets hsnmp hvalidated.secrets

/-- Whether secrets are current depends on the id and the SNMP only. -/
theorem current_congr (hid : result.id = stored.id) (hsnmp : result.snmp = stored.snmp) :
    Current env result ↔ Current env stored := by
  unfold Current SwitchConfig.readCommunities
  rw [hid, hsnmp]

end

/-! ## PATCH -/

namespace Api

variable {env : Environment} {id : String} {request : PatchSwitchConfigRequest}
variable {store : ConfigStore} {stored result : SwitchConfig}

/-- A PATCH goes through exactly if the switch is stored and the merge is valid. -/
theorem patches_iff : Patches env id request store stored result ↔
    request.id.filter (· ≠ id) = none ∧ store.switches.find? (·.id = id) = some stored ∧
      (validateSwitchConfig env).Succeeds (request.merge stored) result := by
  constructor
  · intro h
    refine ⟨?_, h.stored, h.validated⟩
    have haccepted := h.accepted
    unfold patchSwitchConfig at haccepted
    split at haccepted
    · cases haccepted
    · next hid => exact hid
  · rintro ⟨hid, hfind, hvalidated⟩
    obtain ⟨i, hindex⟩ : ∃ i, store.switches.findFinIdx? (·.id = id) = some i := by
      rw [← Option.isSome_iff_exists, List.isSome_findFinIdx?, List.any_eq_true]
      exact ⟨stored, List.mem_of_find?_eq_some hfind, by simpa using List.find?_some hfind⟩
    have hstored : stored.id = id := by simpa using List.find?_some hfind
    have hresult : result.id = id := by
      -- the validation keeps the id, so the replaced switch is found under it
      have hkeeps := (validateSwitchConfig_id env).of_succeeds hvalidated
      exact hkeeps.trans hstored
    obtain ⟨hold, hnew⟩ := find?_set hindex (decide_eq_true hresult)
    obtain rfl := Option.some.inj (hold.symm.trans hfind)
    have hrun : patchSwitchConfig env id request store =
        { store := { store with switches := store.switches.set i result }
          answer :=
            { status := .ok
              body := [("status", .text "ok"),
                ("message", .text s!"Switch '{id}' config updated"), ("switch_id", .text id)] } } := by
      unfold InPlace.Succeeds at hvalidated
      unfold patchSwitchConfig
      simp only [hid, hindex, hvalidated]
    refine ⟨hfind, ?_, ?_⟩
    · rw [hrun]
      rfl
    · rw [hrun]
      exact hnew

/-- Validated again or changed in some other field, a stored switch succeeds and has the values its
sources have now exactly where it had them already. -/
theorem rotation_picked_up_iff {readToString : String → Except String String}
    (hstored : Stored env stored) (hread : Readable (env.later readToString) stored) :
    ((∃ result, (validateSwitchConfig (env.later readToString)).Succeeds stored result ∧
        Current (env.later readToString) result) ↔
      Current (env.later readToString) stored) ∧
    ∀ id request store before, request.snmp = none → Patches env id request store stored before →
      ((∃ result, Patches (env.later readToString) id request store stored result ∧
          Current (env.later readToString) result) ↔
        Current (env.later readToString) stored) := by
  constructor
  · constructor
    · rintro ⟨result, hvalidated, hcurrent⟩
      rwa [hstored.accepted.stable hvalidated] at hcurrent
    · intro hcurrent
      exact ⟨stored, hstored.validates_later rfl rfl hstored hread hcurrent, hcurrent⟩
  · intro id request store before hsnmp hbefore
    -- a patch without an SNMP section resends the stored one, with the resolved names in it
    have hmerged : (request.merge stored).snmp = stored.snmp := by
      show request.snmp.or stored.snmp = stored.snmp
      rw [hsnmp, Option.none_or]
    have hmergedId : (request.merge stored).id = stored.id := rfl
    have hid {env' : Environment} {result : SwitchConfig}
        (h : (validateSwitchConfig env').Succeeds (request.merge stored) result) :
        result.id = stored.id := by
      have hkeeps := (validateSwitchConfig_id env').of_succeeds h
      exact hkeeps.trans hmergedId
    constructor
    · rintro ⟨result, hpatches, hcurrent⟩
      have hvalidated := hpatches.validated
      rwa [current_congr (hid hvalidated) (hstored.snmp_validated hmerged hvalidated)] at hcurrent
    · intro hcurrent
      obtain ⟨hmatch, hfind, hvalidated⟩ := patches_iff.mp hbefore
      have hlater := hstored.validates_later hmergedId hmerged hvalidated hread hcurrent
      refine ⟨before, patches_iff.mpr ⟨hmatch, hfind, hlater⟩, ?_⟩
      rwa [current_congr (hid hlater) (hstored.snmp_validated hmerged hlater)]

/-! ## A file that gets another content -/

/-- A switch with a community that is in a file. -/
def fileSwitch : SwitchConfig where
  id := "sw1"
  hostname := some "office"
  model := some .aruba2930F
  managementIp := some "10.0.0.2"
  credentials := some { username := "admin" }
  snmp := some {
    communities := [{ name := "first", access := .operator, nameFile := some "/run/snmp" }] }

def fileEnvironment (content : String) : Environment :=
  plainEnvironment.later fun _ => .ok content

/-- A switch with a secret from a file, stored while the file held `first`. -/
theorem stored_fileSwitch : Stored (fileEnvironment "first\n") fileSwitch := by
  show validateSwitchConfig _ _ = (_, .ok ())
  decide +kernel

/-- The file can be read if what it holds is allowed as a secret. -/
theorem readable_fileSwitch (content : String)
    (hvalid : ∀ label, ∃ value, validateValue content label = .ok value) :
    Readable (fileEnvironment content) fileSwitch := by
  intro entry hentry _
  obtain rfl := List.mem_singleton.mp hentry
  obtain ⟨value, hvalue⟩ := hvalid
    s!"switch 'sw1' {communityLabel 0} (name_file /run/snmp)"
  exact ⟨value, _, congrArg (fun read => some (read, _)) hvalue⟩

theorem validates_fileSwitch : ∃ result,
    (validateSwitchConfig (fileEnvironment "first")).Succeeds fileSwitch result ∧
      Current (fileEnvironment "first") result := by
  have hread : Readable (fileEnvironment "first") fileSwitch :=
    readable_fileSwitch "first" fun _ => ⟨"first", by rfl⟩
  refine (rotation_picked_up_iff stored_fileSwitch hread).1.mpr ?_
  intro entry hentry value source hvalue
  obtain rfl := List.mem_singleton.mp hentry
  exact (Except.ok.inj (Prod.mk.inj (Option.some.inj hvalue)).1)

/-- Once the file says something else, the switch is refused: by itself and with another hostname. -/
theorem rotation_refused : Stored (fileEnvironment "first\n") fileSwitch ∧
    Readable (fileEnvironment "second\n") fileSwitch ∧
    (validateSwitchConfig (fileEnvironment "second\n") fileSwitch).2 = .error
      ["switch 'sw1' SNMP community #1 has an inline name that disagrees with its name_file /run/snmp: use only one source"] ∧
    (patchSwitchConfig (fileEnvironment "second\n") "sw1" { hostname := some "lobby" }
      { switches := [fileSwitch] }).answer.status = .badRequest := by
  refine ⟨stored_fileSwitch, readable_fileSwitch _ fun _ => ⟨"second", by rfl⟩, ?_, ?_⟩
  · decide +kernel
  · decide +kernel

end Api

end SwitchConfigurator
