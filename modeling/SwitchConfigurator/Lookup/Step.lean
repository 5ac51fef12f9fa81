import SwitchConfigurator.Lookup.Program

/-!
# What a step can do

One constructor for each kind of step, with the world and the task that it leaves; the invariants
of the later modules are cases on it.
-/

namespace SwitchConfigurator.Lookup

namespace Prog

/-- The program goes on to clear the entry of a switch from a cache, without a branch before. -/
def clears (kind : Kind) (id : String) : Prog → Bool
  | .retainCached kind' keep k => (kind' = kind && !keep id) || clears kind id k
  | .initializeSwitches _ k => clears kind id k
  | _ => false

end Prog

variable {w w' : World} {t : Task} {e : Event} {new : List Task}

inductive Steps (w : World) (t : Task) : Event → World → List Task → Prop
  /-- Only the program moves on. -/
  | move {e : Event} {p : Prog} (hcancel : e ≠ .cancel) (hclears : ∀ kind id, t.prog.clears kind id = false) :
    Steps w t e w [t.goTo p]
  | write {f k} (hprog : t.prog = .writeConfig f k) :
    Steps w t .go { w with config := f w.config } [t.goTo (k w.config)]
  | initialized {switches k} (hprog : t.prog = .initializeSwitches switches k) :
    Steps w t .go { w with status := initializeSwitches w.status switches } [t.goTo k]
  | record {id change k report} (hprog : t.prog = .record id change k) :
    Steps w t (.report report) { w with status := recordChange w.status id change report }
      [t.goTo k]
  | retain {kind keep k} (hprog : t.prog = .retainCached kind keep k) :
    Steps w t .go { w with caches := w.caches.retain kind keep } [t.goTo k]
  | acquire {id k} (hprog : t.prog = .acquire id k) (hfree : id ∉ w.held) :
    Steps w t (.outcome true) { w with held := insert id w.held }
      [{ t with prog := k true, guards := id :: t.guards }]
  | release {id k} (hprog : t.prog = .release id k) (hid : id ∈ t.guards) :
    Steps w t .go (w.free [id]) [(t.lose id).goTo k]
  | fetch {kind id k answer} (hprog : t.prog = .fetch kind id k) :
    Steps w t (.answer (some answer)) { w with readings := w.readings + 1 }
      [(t.setReading (take w t kind id answer)).goTo (k true)]
  | giveUp {k} (hprog : t.prog = .giveUp k) :
    Steps w t .go w [{ t with prog := k, readings := fun _ => none }]
  | stamp {kind k now uuid reading} (hprog : t.prog = .stamp kind k)
    (hreading : t.pending kind = some reading) (hfresh : uuid ∉ w.uuids) :
    Steps w t (.drawn now uuid)
      { w with made := ⟨kind, ⟨reading.data, now, uuid⟩⟩ :: w.made }
      [(t.setReading { reading with stamp := some (now, uuid) }).goTo k]
  | insert {kind k reading entry} (hprog : t.prog = .insert kind k)
    (hreading : t.pending kind = some reading) (hentry : reading.entry = some entry) :
    Steps w t .go (w.store entry) [(t.setReading { reading with stored := true }).goTo k]
  | cached {kind id query k now response} (hprog : t.prog = .answerCached kind id query k)
    (hresponse : cacheResponse w.caches kind id query now = some response) :
    Steps w t (.clock now) (w.serve response) [t.goTo (k true)]
  | live {kind query source fellBack k now reading entry}
    (hprog : t.prog = .respond kind query source fellBack k)
    (hreading : t.readings kind = some reading) (hentry : reading.entry = some entry) :
    Steps w t (.clock now) (w.serve (liveResponse entry query source fellBack now)) [t.goTo k]
  | spawn {p guard k} (hprog : t.prog = .spawn p guard k) (hguard : ∀ id ∈ guard, id ∈ t.guards) :
    Steps w t .go w [(t.hand guard).goTo k, { prog := p, guards := guard.toList }]
  | ended {e : Event} (h : e = .cancel ∨ t.prog = .done) : Steps w t e (w.free t.guards) []

/-- What the model computes is one of the steps. -/
theorem steps_of_advanceProg (hcancel : e ≠ .cancel)
    (h : advanceProg w t t.prog e = some (w', new)) : Steps w t e w' new := by
  generalize hprog : t.prog = p at h
  -- a node without a clearing step leaves every cache as it was
  have hclears (hnone : ∀ kind id, p.clears kind id = false) (kind : Kind) (id : String) :
      t.prog.clears kind id = false := by
    rw [hprog]
    exact hnone kind id
  unfold advanceProg at h
  split at h
  · cases h
    exact .ended (.inr hprog)
  · cases h
    exact .move hcancel (hclears fun _ _ => rfl)
  · cases h
    exact .move hcancel (hclears fun _ _ => rfl)
  · cases h
    exact .move hcancel (hclears fun _ _ => rfl)
  · cases h
    exact .write hprog
  · cases h
    exact .initialized hprog
  · cases h
    exact .record hprog
  · cases h
    exact .retain hprog
  -- the lock of a switch: taken where it is free, else the program waits
  · obtain ⟨hfree, h⟩ := Option.ite_none_left_eq_some.mp h
    cases h
    exact .acquire hprog hfree
  · cases h
    exact .move hcancel (hclears fun _ _ => rfl)
  · obtain ⟨hid, h⟩ := Option.ite_none_right_eq_some.mp h
    cases h
    exact .release hprog hid
  · split at h
    -- the cache is asked: a hit is answered from it, a miss goes on
    · next hresponse =>
      cases h
      exact .cached hprog hresponse
    · cases h
      exact .move hcancel (hclears fun _ _ => rfl)
  · cases h
    exact .fetch hprog
  · cases h
    exact .move hcancel (hclears fun _ _ => rfl)
  · cases h
    exact .giveUp hprog
  · obtain ⟨reading, hreading, h⟩ := Option.bind_eq_some_iff.mp h
    obtain ⟨hfresh, h⟩ := Option.ite_none_left_eq_some.mp h
    cases h
    -- no two entries carry one stamp
    exact .stamp hprog hreading hfresh
  · obtain ⟨reading, hreading, h⟩ := Option.bind_eq_some_iff.mp h
    obtain ⟨entry, hentry, h⟩ := Option.map_eq_some_iff.mp h
    cases h
    -- what the task read: put in the cache, or served as it is
    exact .insert hprog hreading hentry
  · obtain ⟨reading, hreading, h⟩ := Option.bind_eq_some_iff.mp h
    obtain ⟨entry, hentry, h⟩ := Option.map_eq_some_iff.mp h
    cases h
    exact .live hprog hreading hentry
  · obtain ⟨hguard, h⟩ := Option.ite_none_right_eq_some.mp h
    cases h
    exact .spawn hprog hguard
  · cases h

/-- What a step can do. -/
theorem steps_of_advance (h : advance w t e = some (w', new)) : Steps w t e w' new := by
  unfold advance at h
  split at h
  · obtain ⟨-, h⟩ := Option.ite_none_left_eq_some.mp h
    cases h
    exact .ended (.inl rfl)
  · next hcancel => exact steps_of_advanceProg (fun heq => hcancel heq) h

end SwitchConfigurator.Lookup
