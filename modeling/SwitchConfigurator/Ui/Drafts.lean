import SwitchConfigurator.Foundations.Interleaving
import SwitchConfigurator.Ui.Edit
import Mathlib.Data.List.Permutation
import Mathlib.Logic.Function.Basic

/-!
# Edits side by side

A handler copies the draft under one lock and writes the whole of it back under another. In
between it may ask the service for the path of its main configuration. Requests run side by
side, and what another one has written in between is overwritten.
-/

namespace SwitchConfigurator.Ui

/-- The drafts of a `DraftStore`. -/
abbrev Drafts := String → Option SwitchDraft

/-- `DraftStore::update`. -/
def Drafts.update (drafts : Drafts) (switchId : String) (config : SwitchConfig) : Drafts :=
  match drafts switchId with
  | some draft => Function.update drafts switchId (some { draft with edited := config })
  | none => drafts

/-- A request of one of the editing handlers. -/
structure EditRequest where
  switchId : String
  edit : Edit
  deriving DecidableEq

/-- How far a handler has come. -/
inductive Progress where
  | requested
  /-- It has its copy of the draft and waits for the path of the main configuration. -/
  | asking (draft : SwitchDraft)
  /-- It has made its change on the copy and is about to write it back. -/
  | writing (draft : SwitchDraft) (mainConfig : String) (edited : SwitchConfig)
  deriving DecidableEq

structure EditTask where
  request : EditRequest
  progress : Progress := .requested
  deriving DecidableEq

inductive EditEvent where
  | go
  /-- The service has answered with this path, or has not (`unwrap_or_default`). -/
  | mainConfig (path : Option String)
  deriving DecidableEq

/-- The handler has what it needs: it goes on to write, or answers without that. -/
def finish (request : EditRequest) (draft : SwitchDraft) (mainConfig : String) : List EditTask :=
  match request.edit.result mainConfig draft with
  | some edited => [⟨request, .writing draft mainConfig edited⟩]
  | none => []

/-- One atomic step of a handler. -/
def advance (drafts : Drafts) (task : EditTask) (e : EditEvent) : Option (Drafts × List EditTask) :=
  match task.progress, e with
  | .requested, .go =>
    match drafts task.request.switchId with
    | none => some (drafts, [])
    | some draft =>
      if task.request.edit.asksForMainConfig then some (drafts, [⟨task.request, .asking draft⟩])
      else some (drafts, finish task.request draft "")
  | .asking draft, .mainConfig path => some (drafts, finish task.request draft (path.getD ""))
  | .writing _ _ edited, .go => some (drafts.update task.request.switchId edited, [])
  | _, _ => none

/-- All interleavings of edit requests, on drafts that were started before. -/
def editing (initial : Drafts) : TaskSystem Drafts EditTask EditRequest EditEvent where
  init := initial
  admits _ _ _ := true
  start _ request := { request }
  advance := advance

/-! ## One after the other -/

/-- A request with the answer that it got from the service. -/
structure Executed where
  request : EditRequest
  mainConfig : String

/-- A request that runs alone. -/
def Executed.run (drafts : Drafts) (x : Executed) : Drafts :=
  match drafts x.request.switchId with
  | none => drafts
  | some draft =>
    match x.request.edit.result x.mainConfig draft with
    | some edited => drafts.update x.request.switchId edited
    | none => drafts

def serial (drafts : Drafts) (order : List Executed) : Drafts := order.foldl Executed.run drafts

/-- The requests that have arrived. -/
def arrivals (tr : List (TaskState Drafts EditTask × TaskLabel EditRequest EditEvent)) :
    List EditRequest :=
  tr.filterMap fun p => match p.2 with
    | .arrive request => some request
    | .go _ _ => none

/-- The drafts are what some order of the requests makes of them, but for the pending ones. -/
def Serializable (initial : Drafts) (requests pending : List EditRequest) (drafts : Drafts) : Prop :=
  ∃ order, (order.map Executed.request ++ pending).Perm requests ∧ drafts = serial initial order

/-! ## What a run keeps -/

/-- What the handler writes back, if that is its next step, is made from the draft as it still
is. -/
def Undisturbed (drafts : Drafts) (task : EditTask) : Prop :=
  match task.progress with
  | .writing draft _ _ => drafts task.request.switchId = some draft
  | _ => True

def EachUndisturbed (s : TaskState Drafts EditTask) : TaskLabel EditRequest EditEvent → Prop
  | .arrive _ => True
  | .go i _ => ∀ task ∈ s.tasks[i]?, Undisturbed s.shared task

/-- The draft was there at some point of the order. -/
def Visited (initial : Drafts) (order : List Executed) (switchId : String) (draft : SwitchDraft) :
    Prop :=
  ∃ past, past <+: order ∧ serial initial past switchId = some draft

/-- What a handler knows of the draft that it has copied. -/
def Knows (initial : Drafts) (order : List Executed) (task : EditTask) : Prop :=
  match task.progress with
  | .requested => True
  | .asking draft => Visited initial order task.request.switchId draft
  | .writing draft mainConfig edited => Visited initial order task.request.switchId draft ∧
      task.request.edit.result mainConfig draft = some edited

/-- A serial execution up to now, with the tasks that are not in it yet. -/
structure Serialized (initial : Drafts) (requests : List EditRequest)
    (s : TaskState Drafts EditTask) (order : List Executed) : Prop where
  perm : (order.map Executed.request ++ s.tasks.map EditTask.request).Perm requests
  drafts : s.shared = serial initial order
  tasks : ∀ task ∈ s.tasks, Knows initial order task

section

variable {initial drafts drafts' : Drafts} {order order' : List Executed} {x : Executed}
variable {requests : List EditRequest} {task : EditTask} {e : EditEvent} {new : List EditTask}
variable {switchId mainConfig : String} {draft : SwitchDraft} {edited : SwitchConfig}

theorem serial_append : serial initial (order ++ order') = serial (serial initial order) order' :=
  List.foldl_append

theorem serial_concat : serial initial (order ++ [x]) = Executed.run (serial initial order) x := by
  rw [serial_append]
  rfl

/-- What was visited stays visited. -/
theorem Visited.mono (h : Visited initial order switchId draft) (hstart : order <+: order') :
    Visited initial order' switchId draft := by
  obtain ⟨past, hpast, hdraft⟩ := h
  exact ⟨past, hpast.trans hstart, hdraft⟩

/-- What the drafts are now was visited. -/
theorem visited_now (h : serial initial order switchId = some draft) :
    Visited initial order switchId draft := ⟨order, List.prefix_rfl, h⟩

section Insert

variable {past rest : List Executed}

/-- A request that changes nothing can be put where it changes nothing. -/
theorem serial_insert (h : Executed.run (serial initial past) x = serial initial past) :
    serial initial (past ++ x :: rest) = serial initial (past ++ rest) := by
  rw [serial_append, serial_append]
  show serial (Executed.run (serial initial past) x) rest = _
  rw [h]

/-- A request that changes nothing may be put in the past. -/
theorem Visited.insert (h : Visited initial (past ++ rest) switchId draft)
    (hx : Executed.run (serial initial past) x = serial initial past) :
    Visited initial (past ++ x :: rest) switchId draft := by
  obtain ⟨seen, hseen, hdraft⟩ := h
  rcases List.prefix_or_prefix_of_prefix hseen (List.prefix_append past rest) with hbefore | hafter
  · exact ⟨seen, hbefore.trans (List.prefix_append _ _), hdraft⟩
  · -- the draft was there after the point where the request is put
    obtain ⟨between, rfl⟩ := hafter
    refine ⟨past ++ x :: between, ?_, (congrFun (serial_insert hx) switchId).trans hdraft⟩
    rw [List.prefix_append_right_inj] at hseen ⊢
    exact List.cons_prefix_cons.mpr ⟨rfl, hseen⟩

end Insert

/-- What a task has seen stays seen. -/
theorem Knows.mono (h : Knows initial order task)
    (hvisited : ∀ switchId draft, Visited initial order switchId draft →
      Visited initial order' switchId draft) : Knows initial order' task := by
  obtain ⟨request, progress⟩ := task
  cases progress with
  | requested => trivial
  | asking draft => exact hvisited _ _ h
  | writing draft mainConfig edited => exact ⟨hvisited _ _ h.1, h.2⟩

/-- What a step of a handler can be. -/
theorem advance_cases (h : advance drafts task e = some (drafts', new)) :
    (task.progress = .requested ∧ drafts task.request.switchId = none ∧ drafts' = drafts ∧
      new = []) ∨
    (∃ draft, drafts task.request.switchId = some draft ∧ drafts' = drafts ∧
      new = [⟨task.request, .asking draft⟩]) ∨
    (∃ draft mainConfig, (drafts task.request.switchId = some draft ∨
        task.progress = .asking draft) ∧ drafts' = drafts ∧
      new = finish task.request draft mainConfig) ∨
    ∃ draft mainConfig edited, task.progress = .writing draft mainConfig edited ∧
      drafts' = drafts.update task.request.switchId edited ∧ new = [] := by
  obtain ⟨request, progress⟩ := task
  cases progress with
  | requested =>
    cases e with
    | mainConfig path => cases h
    | go =>
      unfold advance at h
      dsimp only at h
      split at h
      · next hnone =>
        cases h
        exact .inl ⟨rfl, hnone, rfl, rfl⟩
      · next draft hsome =>
        split at h
        · cases h
          exact .inr (.inl ⟨draft, hsome, rfl, rfl⟩)
        · cases h
          -- the draft knows its main file, so no other is asked for
          exact .inr (.inr (.inl ⟨draft, _, .inl hsome, rfl, rfl⟩))
  | asking draft =>
    cases e with
    | go => cases h
    | mainConfig path =>
      cases h
      exact .inr (.inr (.inl ⟨draft, _, .inr rfl, rfl, rfl⟩))
  | writing draft mainConfig edited =>
    cases e with
    | mainConfig path => cases h
    | go =>
      cases h
      exact .inr (.inr (.inr ⟨draft, mainConfig, edited, rfl, rfl, rfl⟩))

section Step

variable {pre post : List EditTask}

/-- A task that is done moves over to the others. -/
theorem perm_done {done₁ done₂ before after : List EditRequest} {r : EditRequest}
    (h : (done₁ ++ done₂ ++ (before ++ r :: after)).Perm requests) :
    (done₁ ++ r :: done₂ ++ (before ++ after)).Perm requests := by
  refine List.Perm.trans ?_ h
  have hfront : (done₁ ++ r :: done₂ ++ (before ++ after)).Perm
      (r :: (done₁ ++ done₂ ++ (before ++ after))) := List.perm_middle.append_right _
  have hback : (done₁ ++ done₂ ++ (before ++ r :: after)).Perm
      (r :: (done₁ ++ done₂ ++ (before ++ after))) := by
    rw [← List.append_assoc, ← List.append_assoc]
    exact List.perm_middle
  exact hfront.trans hback.symm

/-- A request that is over takes its place in the order. -/
theorem Serialized.over {past rest : List Executed}
    (h : Serialized initial requests ⟨drafts, pre ++ task :: post⟩ (past ++ rest))
    (hx : x.request = task.request)
    (hvisited : ∀ switchId draft, Visited initial (past ++ rest) switchId draft →
      Visited initial (past ++ x :: rest) switchId draft)
    (hdrafts : drafts' = serial initial (past ++ x :: rest)) :
    Serialized initial requests ⟨drafts', pre ++ [] ++ post⟩ (past ++ x :: rest) where
  perm := by
    have hperm := h.perm
    simp only [List.map_append, List.map_cons] at hperm
    simp only [List.map_append, List.map_cons, List.append_nil, hx]
    exact perm_done hperm
  drafts := hdrafts
  tasks t ht := by
    rw [List.append_nil, List.mem_append] at ht
    refine (h.tasks t ?_).mono hvisited
    rw [List.mem_append, List.mem_cons]
    exact ht.imp_right Or.inr

/-- A request that is over just now. -/
theorem Serialized.last (h : Serialized initial requests ⟨drafts, pre ++ task :: post⟩ order)
    (hx : x.request = task.request) (hdrafts : drafts' = Executed.run drafts x) :
    Serialized initial requests ⟨drafts', pre ++ [] ++ post⟩ (order ++ [x]) := by
  have hnow : drafts = serial initial order := h.drafts
  have h' : Serialized initial requests ⟨drafts, pre ++ task :: post⟩ (order ++ []) := by
    rwa [List.append_nil]
  refine h'.over hx (fun _ _ hv => hv.mono (by simp)) ?_
  rw [serial_concat, ← hnow, hdrafts]

/-- A request goes on without a change of the drafts. -/
theorem Serialized.goesOn {next : EditTask}
    (h : Serialized initial requests ⟨drafts, pre ++ task :: post⟩ order)
    (hrequest : next.request = task.request) (hknows : Knows initial order next) :
    Serialized initial requests ⟨drafts, pre ++ [next] ++ post⟩ order where
  perm := by
    have hperm := h.perm
    simp only [List.map_append, List.map_cons] at hperm
    simpa only [List.map_append, List.map_cons, List.map_nil, List.append_assoc,
      List.singleton_append, hrequest] using hperm
  drafts := h.drafts
  tasks t ht := by
    rw [List.append_assoc, List.singleton_append, List.mem_append, List.mem_cons] at ht
    rcases ht with hpre | rfl | hpost
    · exact h.tasks t (List.mem_append_left _ hpre)
    · exact hknows
    · exact h.tasks t (List.mem_append_right _ (List.mem_cons_of_mem _ hpost))

theorem run_of_none (h : drafts x.request.switchId = none) : Executed.run drafts x = drafts := by
  unfold Executed.run
  rw [h]

theorem run_of_some (h : drafts x.request.switchId = some draft) : Executed.run drafts x =
    match x.request.edit.result x.mainConfig draft with
    | some edited => drafts.update x.request.switchId edited
    | none => drafts := by
  unfold Executed.run
  rw [h]

/-- An undisturbed step keeps the requests in one order. -/
theorem Serialized.step (h : Serialized initial requests ⟨drafts, pre ++ task :: post⟩ order)
    (hundisturbed : Undisturbed drafts task) (hadv : advance drafts task e = some (drafts', new)) :
    ∃ order', Serialized initial requests ⟨drafts', pre ++ new ++ post⟩ order' := by
  have hknows := h.tasks task (by simp)
  have hdrafts : drafts = serial initial order := h.drafts
  obtain ⟨-, hnone, rfl, rfl⟩ | ⟨draft, hsome, rfl, rfl⟩ | ⟨draft, mainConfig, hcopy, rfl, rfl⟩ |
    ⟨draft, mainConfig, edited, hwriting, rfl, rfl⟩ := advance_cases hadv
  · -- there is no draft to edit
    exact ⟨order ++ [⟨task.request, ""⟩], h.last rfl (run_of_none hnone).symm⟩
  · exact ⟨order, h.goesOn rfl (visited_now (hdrafts ▸ hsome))⟩
  · have hvisited : Visited initial order task.request.switchId draft := by
      rcases hcopy with hsome | hasking
      · exact visited_now (hdrafts ▸ hsome)
      · rw [Knows, hasking] at hknows
        exact hknows
    unfold finish
    cases hresult : task.request.edit.result mainConfig draft with
    | some edited => exact ⟨order, h.goesOn rfl ⟨hvisited, hresult⟩⟩
    | none =>
      -- the request was refused for the draft as it had read it
      obtain ⟨past, ⟨rest, rfl⟩, hdraft⟩ := hvisited
      have hsame : Executed.run (serial initial past) ⟨task.request, mainConfig⟩ =
          serial initial past := by
        rw [run_of_some hdraft, hresult]
      refine ⟨past ++ ⟨task.request, mainConfig⟩ :: rest, ?_⟩
      refine h.over rfl (fun _ _ hv => hv.insert hsame) ?_
      rw [serial_insert hsame, ← hdrafts]
  · rw [Knows, hwriting] at hknows
    rw [Undisturbed, hwriting] at hundisturbed
    refine ⟨order ++ [⟨task.request, mainConfig⟩], h.last rfl ?_⟩
    rw [run_of_some hundisturbed, hknows.2]

end Step

end

section

variable {initial : Drafts} {s : TaskState Drafts EditTask}
variable {tr : List (TaskState Drafts EditTask × TaskLabel EditRequest EditEvent)}

/-- In an undisturbed run the requests have one order. -/
theorem serialized_of_run (hrun : (editing initial).Run tr s)
    (hundisturbed : TransitionSystem.Along EachUndisturbed tr) :
    ∃ order, Serialized initial (arrivals tr) s order := by
  induction hrun with
  | nil => exact ⟨[], .refl _, rfl, fun _ h => absurd h List.not_mem_nil⟩
  | @snoc tr m l s' _ hs ih =>
    obtain ⟨htr, hl⟩ := TransitionSystem.along_append.mp hundisturbed
    obtain ⟨order, h⟩ := ih htr
    have harrivals : arrivals (tr ++ [(m, l)]) = arrivals tr ++ arrivals [(m, l)] :=
      List.filterMap_append
    obtain ⟨shared, tasks⟩ := m
    rw [harrivals]
    obtain ⟨r, rfl, -, rfl⟩ | ⟨e, pre, task, post, shared', new, rfl, rfl, hadv, rfl⟩ :=
      TaskSystem.step_cases hs
    · refine ⟨order, ?_, h.drafts, ?_⟩
      · have hperm := h.perm
        show (order.map Executed.request ++ (r :: tasks.map EditTask.request)).Perm
          (arrivals tr ++ [r])
        exact List.perm_middle.trans ((hperm.cons r).trans (List.perm_append_singleton r _).symm)
      · exact List.forall_mem_cons.mpr ⟨trivial, h.tasks⟩
    · have htask := TransitionSystem.along_singleton.mp hl
      have hmem : task ∈ (pre ++ task :: post)[pre.length]? := by simp
      have hnone : arrivals [(TaskState.mk shared (pre ++ task :: post), .go pre.length e)] = [] :=
        rfl
      rw [hnone, List.append_nil]
      exact h.step (htask task hmem) hadv

/-- Where every handler that writes back finds the draft as it has read it, the drafts are in
every state what the requests that are over make of them one after the other. -/
theorem serializable_of_undisturbed (hrun : (editing initial).Run tr s)
    (hundisturbed : TransitionSystem.Along EachUndisturbed tr) :
    Serializable initial (arrivals tr) (s.tasks.map EditTask.request) s.shared := by
  obtain ⟨order, h⟩ := serialized_of_run hrun hundisturbed
  exact ⟨order, h.perm, h.drafts⟩

end

instance (drafts : Drafts) : ∀ task : EditTask, Decidable (Undisturbed drafts task)
  | ⟨_, .requested⟩ => .isTrue trivial
  | ⟨_, .asking _⟩ => .isTrue trivial
  | ⟨request, .writing draft _ _⟩ =>
    inferInstanceAs (Decidable (drafts request.switchId = some draft))

instance (s : TaskState Drafts EditTask) :
    ∀ l : TaskLabel EditRequest EditEvent, Decidable (EachUndisturbed s l)
  | .arrive _ => .isTrue trivial
  | .go i _ => inferInstanceAs (Decidable (∀ task ∈ s.tasks[i]?, Undisturbed s.shared task))

/-- A draft of a switch with one VLAN and no ports. -/
def officeDrafts : Drafts := fun switchId =>
  if switchId = "sw1" then
    let config : SwitchConfig := { id := "sw1", vlans := [{ id := 10, name := "users" }] }
    some { switchId := "sw1", original := config, edited := config }
  else none

def addsVlan : EditRequest := ⟨"sw1", .addVlan 20 "guests" "none"⟩

def addsPort : EditRequest := ⟨"sw1", .addPort { portId := "5", vlan := 10 }⟩

theorem serializable_of_undisturbed_twoEdits : ∃ tr s, (editing officeDrafts).Run tr s ∧
    Serializable officeDrafts (arrivals tr) (s.tasks.map EditTask.request) s.shared ∧
      arrivals tr = [addsVlan, addsPort] ∧ s.tasks = [] := by
  have hrun := TransitionSystem.run_of_replay
    (show (editing officeDrafts).system.replay (editing officeDrafts).system.init
      [.arrive addsVlan, .go 0 .go, .go 0 .go, .arrive addsPort, .go 0 .go, .go 0 .go] =
        some (_, _) from rfl)
  exact ⟨_, _, hrun, serializable_of_undisturbed hrun (by decide), rfl, rfl⟩

/-- Whichever of the two requests runs first, the port is in the draft afterwards. -/
theorem port_of_serial {order : List Executed}
    (h : (order.map Executed.request).Perm [addsVlan, addsPort]) :
    ((serial officeDrafts order "sw1").map (·.edited.ports)) =
      some [formToPort { portId := "5", vlan := 10 }] := by
  rcases List.perm_pair.mp h with hmap | hmap
  all_goals
    obtain ⟨⟨_, a⟩, rest, rfl, rfl, hrest⟩ := List.map_eq_cons_iff.mp hmap
    obtain ⟨⟨_, b⟩, rest, rfl, rfl, hnil⟩ := List.map_eq_cons_iff.mp hrest
    obtain rfl := List.map_eq_nil_iff.mp hnil
    rfl

/-- Two edits of different parts, each with its own copy of the draft: one of them is lost. -/
theorem edit_is_lost : ∃ tr s, (editing officeDrafts).Run tr s ∧ s.tasks = [] ∧
    ¬Serializable officeDrafts (arrivals tr) [] s.shared := by
  have hrun := TransitionSystem.run_of_replay
    (show (editing officeDrafts).system.replay (editing officeDrafts).system.init
      [.arrive addsVlan, .arrive addsPort, .go 0 .go, .go 1 .go, .go 0 .go, .go 0 .go] =
        some (_, _) from rfl)
  refine ⟨_, _, hrun, rfl, ?_⟩
  rintro ⟨order, hperm, hdrafts⟩
  rw [List.append_nil] at hperm
  have hports := congrArg (fun drafts : Drafts => (drafts "sw1").map (·.edited.ports)) hdrafts
  have hlost := hports.trans (port_of_serial hperm)
  revert hlost
  decide

end SwitchConfigurator.Ui
