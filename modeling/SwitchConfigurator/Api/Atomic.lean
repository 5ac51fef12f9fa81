import SwitchConfigurator.Api.Reload
import SwitchConfigurator.Config.LoadPaths

/-!
# A failed update leaves the configuration alone

The four requests that change the configuration in memory. One that is answered with an error
has changed no switch, whichever step it failed at; a PUT, a PATCH or the reload of one switch
that succeeds has changed no other switch.
-/

namespace SwitchConfigurator.Api

open Keyed

inductive UpdateRequest where
  | set (id : String) (request : SetSwitchConfigRequest)
  | patch (id : String) (request : PatchSwitchConfigRequest)
  | reload (files : ConfigFiles)
  | reloadSwitch (id : String) (files : ConfigFiles)

/-- The one switch that the request is about. -/
def UpdateRequest.target : UpdateRequest → Option String
  | set id _ | patch id _ | reloadSwitch id _ => some id
  | reload _ => none

def handle (env : Environment) (order : MapOrder) : UpdateRequest → ConfigStore → Handled
  | .set id request => setSwitchConfig env id request
  | .patch id request => patchSwitchConfig env id request
  | .reload files => reloadConfig env order files
  | .reloadSwitch id files => reloadSwitchConfig env order files id

/-- The switches that are not named `id`, in their order. -/
def others (id : String) (switches : List SwitchConfig) : List SwitchConfig :=
  switches.filter (·.id ≠ id)

/-- What an update may do to the switches. -/
structure Atomic (target : Option String) (store : ConfigStore) (handled : Handled) : Prop where
  failed : handled.answer.isError = true → handled.store.switches = store.switches
  others : handled.answer.isError = false → ∀ id ∈ target,
    others id handled.store.switches = others id store.switches

section

variable {env : Environment} {order : MapOrder} {store : ConfigStore} {target : Option String}
variable {id : String} {status : StatusCode} {body : List (String × JsonValue)}

/-- A refusal that leaves the configurations alone is atomic. -/
theorem atomic_refuse (store' : ConfigStore) (h : store'.switches = store.switches) :
    Atomic target store (refuse store' status body) where
  failed _ := h
  others _ id _ := congrArg (others id) h

/-- An answer that is no error may follow a change of the one switch. -/
theorem atomic_change {handled : Handled} (herror : handled.answer.isError = false)
    (h : others id handled.store.switches = others id store.switches) :
    Atomic (some id) store handled where
  failed hfailed := by
    rw [herror] at hfailed
    cases hfailed
  others _ id' hid := by
    obtain rfl := Option.some.inj hid
    exact h

/-- To replace a switch leaves the others as they were. -/
theorem others_set {switches : List SwitchConfig} {i : ℕ} {config : SwitchConfig}
    (hi : ∀ old ∈ switches[i]?, old.id = id) (hid : config.id = id) :
    others id (switches.set i config) = others id switches := by
  induction switches generalizing i with
  | nil => rfl
  | cons old rest ih =>
    unfold others at ih ⊢
    cases i with
    | zero =>
      have hold : old.id = id := hi old rfl
      rw [List.set_cons_zero, List.filter_cons_of_neg (by simp [hid]),
        List.filter_cons_of_neg (by simp [hold])]
    | succ i =>
      rw [List.set_cons_succ, List.filter_cons, List.filter_cons, ih]
      intro old hold
      exact hi old hold

/-- So does adding one. -/
theorem others_append {switches : List SwitchConfig} {config : SwitchConfig} (hid : config.id = id) :
    others id (switches ++ [config]) = others id switches := by
  unfold others
  rw [List.filter_append, List.filter_cons_of_neg (by simp [hid]), List.filter_nil,
    List.append_nil]

/-- The validation does not rename the switch. -/
theorem id_validated (raw : SwitchConfig) : (validateSwitchConfig env raw).1.id = raw.id :=
  validateSwitchConfig_id env raw

/-! ## The four handlers -/

/-- A PUT changes the one switch it names, or nothing. -/
theorem atomic_setSwitchConfig (request : SetSwitchConfigRequest) :
    Atomic (some id) store (setSwitchConfig env id request store) := by
  unfold setSwitchConfig
  split
  · exact atomic_refuse _ rfl
  · dsimp only
    split
    · exact atomic_refuse _ rfl
    · have hvalidated := @id_validated env (request.newConfig id)
      split
      · exact atomic_refuse _ rfl
      · next newConfig _ hvalidate =>
        rw [hvalidate] at hvalidated
        split
        · next i hindex =>
          apply atomic_change rfl
          refine others_set ?_ hvalidated
          intro old hold
          obtain ⟨hi, hp, -⟩ := List.findIdx?_eq_some_iff_getElem.mp hindex
          rw [List.getElem?_eq_getElem hi] at hold
          obtain rfl := Option.some.inj hold
          exact of_decide_eq_true hp
        · exact atomic_change rfl (others_append hvalidated)

/-- What was replaced can be put back. -/
theorem set_set_original {switches : List SwitchConfig} {i : ℕ} {config : SwitchConfig}
    (hi : i < switches.length) : (switches.set i config).set i switches[i] = switches := by
  rw [List.set_set]
  exact List.set_getElem_self hi

/-- A PATCH changes the one switch it names, or nothing. -/
theorem atomic_patchSwitchConfig (request : PatchSwitchConfigRequest) :
    Atomic (some id) store (patchSwitchConfig env id request store) := by
  unfold patchSwitchConfig
  split
  · exact atomic_refuse _ rfl
  · split
    · exact atomic_refuse _ rfl
    · next i hindex =>
      dsimp only
      split
      · -- the roll back writes the switch as it was over the edited one
        exact atomic_refuse _ (set_set_original i.isLt)
      · apply atomic_change rfl
        have hid : store.switches[i].id = id :=
          of_decide_eq_true (List.findFinIdx?_eq_some_iff.mp hindex).1
        refine others_set ?_ ((id_validated _).trans hid)
        intro old hold
        rw [List.getElem?_eq_getElem i.isLt] at hold
        obtain rfl := Option.some.inj hold
        exact hid

/-- A reload of all switches replaces them all, or none. -/
theorem atomic_reloadConfig (files : ConfigFiles) :
    Atomic none store (reloadConfig env order files store) := by
  unfold reloadConfig
  split
  · exact atomic_refuse _ rfl
  · split
    · exact atomic_refuse _ rfl
    · exact
        { failed := fun hfailed => by cases hfailed
          others := fun _ _ h => by cases h }

/-- A reload of one switch replaces that one, or nothing. -/
theorem atomic_reloadSwitchConfig (files : ConfigFiles) :
    Atomic (some id) store (reloadSwitchConfig env order files id store) := by
  unfold reloadSwitchConfig
  split
  · exact atomic_refuse _ rfl
  · dsimp only
    split
    · exact atomic_refuse _ rfl
    · split
      · exact atomic_refuse _ rfl
      · next loaded _ =>
        split
        · exact atomic_refuse _ rfl
        · next config hfind =>
          have hid : config.id = id := by simpa using List.find?_some hfind
          apply atomic_change rfl
          refine filter_putFirst (by simp [hid]) ?_
          intro old hold
          simp [hold, hid]

end

/-- Each of the requests is atomic, from any store and at any of its steps. -/
theorem handle_atomic (env : Environment) (order : MapOrder) (request : UpdateRequest)
    (store : ConfigStore) : Atomic request.target store (handle env order request store) := by
  cases request with
  | set id request => exact atomic_setSwitchConfig request
  | patch id request => exact atomic_patchSwitchConfig request
  | reload files => exact atomic_reloadConfig files
  | reloadSwitch id files => exact atomic_reloadSwitchConfig files

/-! ## What the answers say -/

/-- The object of the answer has an `error` exactly if the answer is one. -/
def Answer.Consistent (answer : Answer) : Prop :=
  answer.isError = answer.body.any fun member => member.1 == "error"

theorem consistent_refuse {store : ConfigStore} {status : StatusCode} {value : JsonValue}
    {body : List (String × JsonValue)} (h : Answer.isError ⟨status, []⟩ = true) :
    (refuse store status (("error", value) :: body)).answer.Consistent := by
  unfold Answer.Consistent
  exact h

/-- Whatever an update is answered with, its body says so. -/
theorem consistent_handle (env : Environment) (order : MapOrder) (request : UpdateRequest)
    (store : ConfigStore) : (handle env order request store).answer.Consistent := by
  cases request with
  | set id request =>
    show (setSwitchConfig env id request store).answer.Consistent
    unfold setSwitchConfig
    split
    -- every refusal answers without a store
    · exact consistent_refuse rfl
    · dsimp only
      split
      · exact consistent_refuse rfl
      · split
        · exact consistent_refuse rfl
        · split <;> rfl
  | patch id request =>
    show (patchSwitchConfig env id request store).answer.Consistent
    unfold patchSwitchConfig
    split
    · exact consistent_refuse rfl
    · split
      · exact consistent_refuse rfl
      · dsimp only
        split <;> rfl
  | reload files =>
    show (reloadConfig env order files store).answer.Consistent
    unfold reloadConfig
    split
    · exact consistent_refuse rfl
    · split
      · exact consistent_refuse rfl
      · rfl
  | reloadSwitch id files =>
    show (reloadSwitchConfig env order files id store).answer.Consistent
    unfold reloadSwitchConfig
    split
    · exact consistent_refuse rfl
    · dsimp only
      split
      · exact consistent_refuse rfl
      · split
        · exact consistent_refuse rfl
        · split
          · exact consistent_refuse rfl
          · rfl

end SwitchConfigurator.Api
