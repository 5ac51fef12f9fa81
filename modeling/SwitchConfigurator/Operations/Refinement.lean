import SwitchConfigurator.Operations.Applies
import SwitchConfigurator.Service.Handlers
import SwitchConfigurator.Vendors.Rename

/-!
# Tasks of the service

The service knows a task by its accesses to what tasks share, and not what it says to the switch.
Each task that is modelled in full goes one of the ways that the service's version of it has.
-/

namespace SwitchConfigurator.Operations

open Dialogue Deploy
open Service (Prog findSwitch)

/-! ## Ways of a program -/

/-- The service takes no notice of it. -/
def Unnoticed : Exchange → Prop
  | ⟨.emit _ _, _⟩ | ⟨.sleep, _⟩ | ⟨.record _, _⟩ => True
  | ⟨.switch (.execute _ _), _⟩ => True
  | _ => False

/-- What is said in the course of a way through a program of the service. Only where the program has
a choice, and at the end of an apply, any way will do. -/
inductive Way : Prog → List Exchange → Prop
  | done : Way .done []
  | unnoticed {p : Prog} {e : Exchange} {tr : List Exchange} (he : Unnoticed e) (h : Way p tr) :
      Way p (e :: tr)
  | choose {k : Bool → Prog} {tr : List Exchange} (b : Bool) (h : Way (k b) tr) : Way (.choose k) tr
  | acquireQueued {id : String} {toApply : Option SwitchConfig} {k : Bool → Prog}
      {tr : List Exchange} (granted : Bool) (h : Way (k granted) tr) :
      Way (.acquireQueued id toApply k) (⟨.takeTurn, granted⟩ :: tr)
  | releaseGuard {id : String} {p : Prog} {tr : List Exchange} (h : Way p tr) :
      Way (.releaseGuard id p) (⟨.releaseTurn, ()⟩ :: tr)
  | takePendingReload {id : String} {k : Bool → Prog} {tr : List Exchange} (pending : Bool)
      (h : Way (k pending) tr) :
      Way (.takePendingReload id k) (⟨.takePendingReload, pending⟩ :: tr)
  | closeIdle {id : String} {p : Prog} {tr : List Exchange} (h : Way p tr) :
      Way (.closeIdle id p) (⟨.closeIdle, ()⟩ :: tr)
  | checkout {config : SwitchConfig} {k : Bool → Prog} {tr : List Exchange}
      (lent : Except String Unit) (h : Way (k lent.isOk) tr) :
      Way (.checkout config k) (⟨.checkout, lent⟩ :: tr)
  | endSession {healthy : Bool} {p : Prog} {tr : List Exchange} (h : Way p tr) :
      Way (.endSession healthy p) (⟨.endSession healthy, ()⟩ :: tr)
  | connect {config : SwitchConfig} {k : Bool → Prog} {tr : List Exchange}
      (connected : Except String Unit) (h : Way (k connected.isOk) tr) :
      Way (.connect config k) (⟨.switch .connect, connected⟩ :: tr)
  | disconnect {p : Prog} {bye : Except String Unit} {tr : List Exchange} (h : Way p tr) :
      Way (.disconnect p) (⟨.switch .disconnect, bye⟩ :: tr)
  | apply {config : SwitchConfig} {k : Bool → Prog} {tr : List Exchange} (b : Bool)
      (h : Way (k b) tr) : Way (.apply config k) tr

section Ways

variable {p : Prog} {given : List Deploy.Exchange} {tr : List Exchange}

/-- What the service does not notice may come in front. -/
theorem Way.append (h : Way p tr) {unnoticed : List Exchange}
    (hall : ∀ e ∈ unnoticed, Unnoticed e) : Way p (unnoticed ++ tr) := by
  induction unnoticed with
  | nil => exact h
  | cons e rest ih =>
    obtain ⟨he, hrest⟩ := List.forall_mem_cons.mp hall
    exact .unnoticed he (ih hrest)

/-- Commands go to the switch behind the back of the service. -/
theorem Way.executes (h : Way p tr) {α : Type} {q : Session α} {r : Except String α}
    (hq : Executes q) (hrun : Run q given r) : Way p (ofSwitch given ++ tr) := by
  refine h.append fun e he => ?_
  obtain ⟨e', he', rfl⟩ := List.mem_map.mp he
  obtain ⟨purpose, command, hcall⟩ := hq given r hrun e'.1 (List.mem_map_of_mem he')
  obtain ⟨call, answer⟩ := e'
  dsimp only at hcall
  subst hcall
  trivial

/-- Lines to the switch are not noticed. -/
theorem Way.lines (h : Way p tr) {lines : List String} {r : Except String Unit}
    (hrun : Given lines given r) : Way p (ofSwitch given ++ tr) :=
  h.executes (executes_of_gives (gives_executeCommands lines)) hrun

theorem Way.recorded (h : Way p tr) (l : List Record) :
    Way p (l.map Operations.recorded ++ tr) := by
  refine h.append fun e he => ?_
  obtain ⟨entry, -, rfl⟩ := List.mem_map.mp he
  trivial

/-- Nor is what is told. -/
theorem Way.told (h : Way p tr) (change : PowerChange) (outcome : Except String Unit) :
    Way p (Operations.told change outcome ++ tr) :=
  .unnoticed trivial <| h.recorded (change.failures outcome)

end Ways

/-! ## The power of a port -/

/-- The service's version of an operation with its session, in front of `k`. -/
def PowerChange.withSession : PowerChange → Prog → Prog
  | set _, k => .choose fun succeeded => .endSession succeeded k
  | reset, k =>
    .choose fun disabled =>
      if disabled then
        .choose fun enabled =>
          if enabled then .endSession true k else .choose fun retried => .endSession retried k
      else .endSession false k

section Power

variable {config : SwitchConfig} {portId : String} {commands : PoeCommands} {k : Prog}
variable {change : PowerChange} {body rest : List Exchange} {outcome : Except String Unit}

/-- Opening a session is a checkout that comes out well. -/
theorem Way.opening {p : Prog} (h : Way p rest) (stage : String) :
    Way (.checkout config fun connected => if connected then p else k)
      (Operations.opening stage ++ rest) :=
  .unnoticed trivial <| .checkout (.ok ()) <| .unnoticed trivial h

theorem Way.waiting {p : Prog} (h : Way p rest) : Way p (Operations.waiting ++ rest) := by
  refine h.append ?_
  simp [Operations.waiting, waited, said, slept, Unnoticed]

/-- The first half of a reset and the seconds behind it, in front of the second half. -/
theorem Way.reset {off : List Deploy.Exchange} (h : Way (.choose fun enabled =>
      if enabled then .endSession true k else .choose fun retried => .endSession retried k) rest)
    (hoff : Given commands.disable off (.ok ())) :
    Way (.checkout config fun connected => if connected then PowerChange.reset.withSession k else k)
      (Operations.opening "disabling" ++ (ofSwitch off ++ (Operations.waiting ++ rest))) :=
  .opening (.choose true <| .lines h.waiting hoff) "disabling"

/-- However the lines fare, the service has a choice for it. -/
theorem way_of_powerRun (h : PowerRun portId commands change body outcome) (hrest : Way k rest) :
    Way (.checkout config fun connected => if connected then change.withSession k else k)
      (body ++ rest) := by
  cases h with
  | @unconnected change e => exact .unnoticed trivial <| .checkout (.error e) hrest
  | set hset =>
    simp only [List.append_assoc]
    exact .opening (.choose true <| .lines (.endSession hrest) hset) "setting"
  | notSet hset =>
    simp only [List.append_assoc]
    exact .opening (.choose false <| .lines (.endSession hrest) hset) "setting"
  | notDisabled hoff =>
    simp only [List.append_assoc]
    exact .opening (.choose false <| .lines (.endSession hrest) hoff) "disabling"
  | restored hoff hon =>
    simp only [List.append_assoc, List.cons_append]
    exact .reset (.unnoticed trivial <| .choose true <| .lines (.endSession hrest) hon) hoff
  | retried hoff hcut hon =>
    have hretry : Way (.choose fun retried => .endSession retried k)
        (slept :: (ofSwitch _ ++ ([ended true] ++ rest))) :=
      .unnoticed trivial <| .choose true <| .lines (.endSession hrest) hon
    simp only [List.append_assoc, List.cons_append]
    exact .reset (.unnoticed trivial <| .choose false <| .lines hretry hcut) hoff
  | leftOff hoff hcut hcut' =>
    have hretry : Way (.choose fun retried => .endSession retried k)
        (slept :: (ofSwitch _ ++ ([ended false] ++ rest))) :=
      .unnoticed trivial <| .choose false <| .lines (.endSession hrest) hcut'
    simp only [List.append_assoc, List.cons_append]
    exact .reset (.unnoticed trivial <| .choose false <| .lines hretry hcut) hoff

end Power

/-! ## Applies -/

section Applies

variable {hardwareWarnings : List Char → List String} {switch : VendorSwitch} {id : String}
variable {config : SwitchConfig} {k : Prog} {session : List Deploy.Exchange}
variable {tr rest : List Exchange} {outcome : Outcome}

/-- An apply is a way through the service's own. -/
theorem way_of_applying (h : Applying hardwareWarnings switch session outcome)
    (hrest : Way k rest) : Way (.applySingleSwitch config k) (ofSwitch session ++ rest) := by
  refine .choose true ?_
  cases h with
  | @unreachable e => exact .connect (.error e) hrest
  | @refused work e bye hwork =>
    have hleave : Way (.disconnect k) (ofSwitch [⟨.disconnect, bye⟩] ++ rest) := .disconnect hrest
    have happly := hleave.executes executes_applyConfiguration hwork
    rw [← List.append_assoc, ← ofSwitch_append] at happly
    exact .connect (.ok ()) <| .apply false happly
  | @applied work saving applied saved bye hwork hsave =>
    have hleave : Way (.disconnect k) (ofSwitch [⟨.disconnect, bye⟩] ++ rest) := .disconnect hrest
    have hsaving := hleave.executes (executes_of_gives (gives_executeCommands _)) hsave
    have happly := (Way.choose (k := fun _ => .disconnect k) true hsaving).executes
      executes_applyConfiguration hwork
    rw [← List.append_assoc, ← List.append_assoc, ← ofSwitch_append, ← ofSwitch_append,
      List.append_assoc] at happly
    exact .connect (.ok ()) <| .apply true happly

/-- So is a reload. -/
theorem way_of_reload {r : Except String Unit}
    (h : Run (applySwitchWithPending hardwareWarnings switch) tr r) :
    Way (.applySwitchWithPending config .done) tr := by
  obtain ⟨_, tr₁, rfl, hfirst⟩ := run_call_bind_iff.mp h
  obtain ⟨session, outcome, tr₂, happlying, rfl, hrest⟩ := run_recorded hfirst
  obtain ⟨pending, tr₃, rfl, hlater⟩ := run_call_bind_iff.mp hrest
  have hend : ∀ {tr : List Exchange}, Run (do
      releaseTurn
      (.ofExcept (outcome.reloaded.map fun _ => ()) : Task Unit)) tr r →
      Way (.releaseGuard config.id .done) tr := by
    intro tr hrun
    obtain ⟨_, tr₄, rfl, hresult⟩ := run_call_bind_iff.mp hrun
    obtain ⟨rfl, -⟩ := run_ofExcept_iff.mp hresult
    exact .releaseGuard .done
  refine .closeIdle <| way_of_applying happlying <| .recorded ?_ _
  cases pending with
  | false => exact .takePendingReload false (hend hlater)
  -- one that was queued meanwhile is applied in the same turn
  | true =>
    obtain ⟨session', outcome', tr₄, happlying', rfl, hlast⟩ := run_recorded hlater
    exact .takePendingReload true <| way_of_applying happlying' <| .recorded (hend hlast) _

/-- So is a failure. -/
theorem way_of_failApply {kind message reason e : String} {r : Except String (List (List String))}
    (h : Run (failApply kind message reason e) tr r) : Way (.releaseGuard id .done) tr := by
  obtain ⟨rfl, -⟩ := run_failApply h
  exact .unnoticed trivial <| .unnoticed trivial <| .releaseGuard .done

/-- So is the end of an apply. -/
theorem way_of_leave {result : Applied} {r : Except String (List (List String))}
    (h : Run (leave result) tr r) : Way (.disconnect <| .releaseGuard id .done) tr := by
  obtain ⟨bye, rfl, -⟩ := run_leave h
  exact .disconnect <| .unnoticed trivial <| .unnoticed trivial <| .releaseGuard .done

/-- So is the whole task of a request. -/
theorem way_of_applyConfigImpl {r : Except String (List (List String))}
    (h : Run (applyConfigImpl hardwareWarnings switch) tr r) :
    Way (.applyConfigImpl id config) tr := by
  obtain ⟨_, tr₁, rfl, hfirst⟩ := run_call_bind_iff.mp h
  obtain ⟨connected, tr₂, rfl, hrest⟩ := run_call_bind_iff.mp hfirst
  refine .closeIdle <| .choose true <| .connect _ ?_
  cases connected with
  | error e => exact way_of_failApply hrest
  | ok _ =>
    obtain ⟨worked, tr₃, tr₄, rfl, hwork, hlater⟩ := run_attempt_bind_iff.mp hrest
    obtain ⟨work, hwork', rfl⟩ := run_onSwitch_iff.mp hwork
    cases worked with
    | error e =>
      obtain ⟨bye, tr₅, rfl, hfail⟩ := run_call_bind_iff.mp hlater
      exact .apply false <| .executes (.disconnect <| way_of_failApply hfail)
        executes_applyConfiguration hwork'
    | ok result =>
      obtain ⟨saved, tr₅, tr₆, rfl, hsave, hleave⟩ := run_attempt_bind_iff.mp hlater
      obtain ⟨saving, hsave', rfl⟩ := run_onSwitch_iff.mp hsave
      -- whether it could be saved makes no difference to what follows
      have hleft : Way (.disconnect <| .releaseGuard id .done) tr₆ := by
        cases saved with
        | ok _ =>
          have hleave' : Run (leave result) _ _ := hleave
          exact way_of_leave hleave'
        | error e =>
          obtain ⟨_, tr₇, rfl, hrest'⟩ := run_call_bind_iff.mp hleave
          have hleave' : Run (leave result) _ _ := hrest'
          exact .unnoticed trivial <| way_of_leave hleave'
      have hsaving := hleft.executes (executes_of_gives (gives_executeCommands _)) hsave'
      exact .apply true <| .executes (.choose saved.isOk hsaving)
        executes_applyConfiguration hwork'

end Applies

/-! ## Every task -/

/-- What a program of the service leaves to a task of its own, where nothing is in the way. -/
def spawned (switches : List SwitchConfig) : Prog → Option Prog
  | .readConfig k => spawned switches (k switches)
  | .choose k => spawned switches (k true)
  | .spawn p _ _ => some p
  | _ => none

namespace Job

/-- The configuration of the switch that it works on. -/
def config : Job → SwitchConfig
  | power _ config _ => config
  | apply switch | reload switch => switch.config

/-- The same task, as the service knows it. -/
def inService (switches : List SwitchConfig) : Job → Option Prog
  | power (.set _) config _ => spawned switches (.poeSet config.id)
  | power .reset config _ => spawned switches (.poeReset config.id)
  | apply switch => spawned switches (.applyConfig switch.config.id)
  | reload switch => some (.applySwitchWithPending switch.config .done)

end Job

/-- Whatever is said in the course of a task and however the lines fare: all that it does with what
tasks share is a way through the program that the service has for it. -/
theorem job_refines_service {hardwareWarnings : List Char → List String} {job : Job}
    {switches : List SwitchConfig} (hfind : findSwitch job.config.id switches = some job.config)
    {tr : List Exchange} {r : Except String Unit} (h : Run (job.task hardwareWarnings) tr r) :
    ∃ p, job.inService switches = some p ∧ Way p tr := by
  cases job with
  | power change config portId =>
    have hspawned : (Job.power change config portId).inService switches =
        some (.acquireQueued config.id none fun granted =>
          if granted then
            .checkout config fun connected =>
              if connected then change.withSession (.releaseGuard config.id .done)
              else .releaseGuard config.id .done
          else .done) := by
      have hfind' : findSwitch config.id switches = some config := hfind
      cases change with
      | set turnOn => simp [Job.inService, spawned, Prog.poeSet, Prog.poeTask, hfind',
          PowerChange.withSession]
      | reset => simp [Job.inService, spawned, Prog.poeReset, Prog.poeTask, hfind',
          PowerChange.withSession]
    refine ⟨_, hspawned, ?_⟩
    rcases run_power h with rfl | ⟨body, outcome, rfl, hbody⟩
    -- the turn did not come in time
    · have hdone := Way.told .done change (.error gaveUp)
      rw [List.append_nil] at hdone
      exact .acquireQueued false hdone
    · rw [List.append_assoc]
      exact .acquireQueued true <| way_of_powerRun hbody <|
        .told (.releaseGuard .done) change outcome
  | apply switch =>
    have hfind' : findSwitch switch.config.id switches = some switch.config := hfind
    have hspawned : (Job.apply switch).inService switches =
        some (.acquireQueued switch.config.id (some switch.config) fun granted =>
          if granted then .applyConfigImpl switch.config.id switch.config else .done) := by
      simp [Job.inService, spawned, Prog.applyConfig, hfind']
    refine ⟨_, hspawned, ?_⟩
    obtain ⟨granted, tr₁, rfl, hrest⟩ := run_call_bind_iff.mp h
    cases granted with
    | false =>
      obtain ⟨_, rfl, -⟩ := run_call_iff.mp hrest
      exact .acquireQueued false <| .unnoticed trivial .done
    | true =>
      obtain ⟨result, tr₂, tr₃, rfl, hrun, hpure⟩ := run_attempt_bind_iff.mp hrest
      obtain ⟨rfl, -⟩ := run_pure_iff.mp hpure
      rw [List.append_nil]
      exact .acquireQueued true <| way_of_applyConfigImpl hrun
  | reload switch => exact ⟨_, rfl, way_of_reload h⟩

theorem job_refines_service_reset : ∃ p,
    (Job.power .reset camera "7").inService [camera] = some p ∧ Way p cameraReset.1 := by
  have hrun : Run ((Job.power .reset camera "7").task fun _ => []) cameraReset.1 cameraReset.2 :=
    run_exec _ [] _
  exact job_refines_service (by decide) hrun

end SwitchConfigurator.Operations
