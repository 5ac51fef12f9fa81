import Mathlib.Algebra.Ring.Nat
import Mathlib.Data.List.Basic

/-!
# Dialogues

A program that makes calls and goes on from their answers. Nothing is known of whoever answers: a
run has any sequence of answers, so what holds of every run holds whatever is at the other end.
-/

/-- A program that ends with a value or an error, or makes a call first. -/
inductive Dialogue {κ : Type} (Answer : κ → Type) (ε α : Type) where
  | ok (a : α)
  | fail (e : ε)
  | ask (c : κ) (k : Answer c → Dialogue Answer ε α)

namespace Dialogue

variable {κ : Type} {Answer : κ → Type} {ε ε' α β γ : Type}

/-! ## Programs -/

def call (c : κ) : Dialogue Answer ε (Answer c) := .ask c .ok

protected def bind : Dialogue Answer ε α → (α → Dialogue Answer ε β) → Dialogue Answer ε β
  | .ok a, f => f a
  | .fail e, _ => .fail e
  | .ask c k, f => .ask c fun a => (k a).bind f

instance : Monad (Dialogue Answer ε) where
  pure := .ok
  bind := Dialogue.bind

/-- The outcome as a value, so that an error does not end the program. -/
def attempt {E : Type} : Dialogue Answer ε α → Dialogue Answer E (Except ε α)
  | .ok a => .ok (.ok a)
  | .fail e => .ok (.error e)
  | .ask c k => .ask c fun a => (k a).attempt

def ofExcept : Except ε α → Dialogue Answer ε α
  | .ok a => .ok a
  | .error e => .fail e

/-- The error that is passed on is made from the one that was met. -/
def mapError (f : ε → ε') (p : Dialogue Answer ε α) : Dialogue Answer ε' α := do
  ofExcept ((← p.attempt).mapError f)

/-- A program for one part of a system: what is asked of the part is asked of the system. -/
def embed {κ' : Type} {Answer' : κ' → Type} (f : κ → κ') :
    Dialogue (fun c => Answer' (f c)) ε α → Dialogue Answer' ε α
  | .ok a => .ok a
  | .fail e => .fail e
  | .ask c k => .ask (f c) fun a => (k a).embed f

/-! ## Runs -/

/-- A call and its answer. -/
abbrev Event (Answer : κ → Type) : Type := (c : κ) × Answer c

inductive Run : Dialogue Answer ε α → List (Event Answer) → Except ε α → Prop
  | ok (a : α) : Run (.ok a) [] (.ok a)
  | fail (e : ε) : Run (.fail e) [] (.error e)
  | ask {c : κ} {k : Answer c → Dialogue Answer ε α} {a : Answer c} {tr : List (Event Answer)}
      {r : Except ε α} : Run (k a) tr r → Run (.ask c k) (⟨c, a⟩ :: tr) r

/-- The run in which `env` gives the answers, which may depend on all that was said before. -/
def exec (env : List (Event Answer) → (c : κ) → Answer c) :
    List (Event Answer) → Dialogue Answer ε α → List (Event Answer) × Except ε α
  | _, .ok a => ([], .ok a)
  | _, .fail e => ([], .error e)
  | before, .ask c k =>
    let a := env before c
    let rest := exec env (before ++ [⟨c, a⟩]) (k a)
    (⟨c, a⟩ :: rest.1, rest.2)

/-- To run a dialogue against an environment is one of its runs. -/
theorem run_exec (env : List (Event Answer) → (c : κ) → Answer c) (before : List (Event Answer))
    (p : Dialogue Answer ε α) : Run p (exec env before p).1 (exec env before p).2 := by
  induction p generalizing before with
  | ok a => exact .ok a
  | fail e => exact .fail e
  | ask c k ih => exact .ask (ih _ _)

@[simp] theorem run_pure_iff {a : α} {tr : List (Event Answer)} {r : Except ε α} :
    Run (pure a : Dialogue Answer ε α) tr r ↔ tr = [] ∧ r = .ok a := by
  constructor
  · intro h
    cases h with
    | ok => exact ⟨rfl, rfl⟩
  · rintro ⟨rfl, rfl⟩
    exact .ok a

@[simp] theorem run_fail_iff {e : ε} {tr : List (Event Answer)} {r : Except ε α} :
    Run (.fail e : Dialogue Answer ε α) tr r ↔ tr = [] ∧ r = .error e := by
  constructor
  · intro h
    cases h with
    | fail => exact ⟨rfl, rfl⟩
  · rintro ⟨rfl, rfl⟩
    exact .fail e

/-- A question is answered by anything, and the rest follows on the answer. -/
theorem run_ask_iff {c : κ} {k : Answer c → Dialogue Answer ε α} {tr : List (Event Answer)}
    {r : Except ε α} : Run (.ask c k) tr r ↔ ∃ a tr', tr = ⟨c, a⟩ :: tr' ∧ Run (k a) tr' r := by
  constructor
  · intro h
    cases h with
    | ask h => exact ⟨_, _, rfl, h⟩
  · rintro ⟨a, tr', rfl, h⟩
    exact .ask h

theorem run_call_iff {c : κ} {tr : List (Event Answer)} {r : Except ε (Answer c)} :
    Run (call c) tr r ↔ ∃ a, tr = [⟨c, a⟩] ∧ r = .ok a := by
  rw [call, run_ask_iff]
  constructor
  · rintro ⟨a, tr', rfl, h⟩
    obtain ⟨rfl, rfl⟩ := run_pure_iff.mp h
    exact ⟨a, rfl, rfl⟩
  · rintro ⟨a, rfl, rfl⟩
    exact ⟨a, [], rfl, .ok a⟩

theorem run_call_bind_iff {c : κ} {f : Answer c → Dialogue Answer ε α} {tr : List (Event Answer)}
    {r : Except ε α} :
    Run (call c >>= f) tr r ↔ ∃ a tr', tr = ⟨c, a⟩ :: tr' ∧ Run (f a) tr' r :=
  run_ask_iff (k := f)

/-- A result that is given without a question leaves no trace. -/
@[simp] theorem run_ofExcept_iff {x : Except ε α} {tr : List (Event Answer)} {r : Except ε α} :
    Run (ofExcept x : Dialogue Answer ε α) tr r ↔ tr = [] ∧ r = x := by
  cases x with
  | ok a => exact run_pure_iff
  | error e => exact run_fail_iff

/-- A run of two programs, one behind the other, is a run of the first up to an error, or a run of
each. -/
theorem run_bind_iff {p : Dialogue Answer ε β} {f : β → Dialogue Answer ε α}
    {tr : List (Event Answer)} {r : Except ε α} : Run (p >>= f) tr r ↔
      (∃ e, Run p tr (.error e) ∧ r = .error e) ∨
        ∃ b tr₁ tr₂, tr = tr₁ ++ tr₂ ∧ Run p tr₁ (.ok b) ∧ Run (f b) tr₂ r := by
  -- on the first dialogue: its answers come before those of the second
  induction p generalizing tr with
  | ok b =>
    constructor
    · intro h
      exact .inr ⟨b, [], tr, rfl, .ok b, h⟩
    · rintro (⟨e, h, -⟩ | ⟨b', tr₁, tr₂, rfl, h, hrest⟩)
      · cases h
      · cases h
        exact hrest
  | fail e =>
    constructor
    · intro h
      obtain ⟨rfl, rfl⟩ := run_fail_iff.mp h
      exact .inl ⟨e, .fail e, rfl⟩
    · rintro (⟨e', h, rfl⟩ | ⟨b', tr₁, tr₂, rfl, h, hrest⟩)
      · cases h
        exact .fail e
      · cases h
  | ask c k ih =>
    constructor
    · intro h
      obtain ⟨a, tr', rfl, hk⟩ := run_ask_iff.mp h
      rcases (ih a).mp hk with ⟨e, hp, rfl⟩ | ⟨b, tr₁, tr₂, rfl, hp, hrest⟩
      · exact .inl ⟨e, .ask hp, rfl⟩
      · exact .inr ⟨b, ⟨c, a⟩ :: tr₁, tr₂, rfl, .ask hp, hrest⟩
    · rintro (⟨e, hp, rfl⟩ | ⟨b, tr₁, tr₂, rfl, hp, hrest⟩)
      · obtain ⟨a, tr', rfl, hk⟩ := run_ask_iff.mp hp
        exact .ask ((ih a).mpr (.inl ⟨e, hk, rfl⟩))
      · obtain ⟨a, tr', rfl, hk⟩ := run_ask_iff.mp hp
        exact .ask ((ih a).mpr (.inr ⟨b, tr', tr₂, rfl, hk, hrest⟩))

/-- An attempt never fails: the failure is its result. -/
theorem run_attempt_iff {p : Dialogue Answer ε' α} {tr : List (Event Answer)}
    {r : Except ε (Except ε' α)} : Run p.attempt tr r ↔ ∃ r', Run p tr r' ∧ r = .ok r' := by
  induction p generalizing tr with
  | ok a =>
    constructor
    · intro h
      obtain ⟨rfl, rfl⟩ := run_pure_iff.mp h
      exact ⟨.ok a, .ok a, rfl⟩
    · rintro ⟨r', h, rfl⟩
      cases h
      exact .ok _
  | fail e =>
    constructor
    · intro h
      obtain ⟨rfl, rfl⟩ := run_pure_iff.mp h
      exact ⟨.error e, .fail e, rfl⟩
    · rintro ⟨r', h, rfl⟩
      cases h
      exact .ok _
  | ask c k ih =>
    constructor
    · intro h
      obtain ⟨a, tr', rfl, hk⟩ := run_ask_iff.mp h
      obtain ⟨r', hp, rfl⟩ := (ih a).mp hk
      exact ⟨r', .ask hp, rfl⟩
    · rintro ⟨r', hp, rfl⟩
      obtain ⟨a, tr', rfl, hk⟩ := run_ask_iff.mp hp
      exact .ask ((ih a).mpr ⟨r', hk, rfl⟩)

/-- What comes behind an attempt goes on from either outcome. -/
theorem run_attempt_bind_iff {p : Dialogue Answer ε' β}
    {f : Except ε' β → Dialogue Answer ε α} {tr : List (Event Answer)} {r : Except ε α} :
    Run (p.attempt >>= f) tr r ↔
      ∃ r' tr₁ tr₂, tr = tr₁ ++ tr₂ ∧ Run p tr₁ r' ∧ Run (f r') tr₂ r := by
  rw [run_bind_iff]
  constructor
  · rintro (⟨e, h, -⟩ | ⟨r', tr₁, tr₂, rfl, h, hrest⟩)
    · obtain ⟨r', -, hr⟩ := run_attempt_iff.mp h
      cases hr
    · obtain ⟨r'', h, hr⟩ := run_attempt_iff.mp h
      obtain rfl := Except.ok.inj hr
      exact ⟨r', tr₁, tr₂, rfl, h, hrest⟩
  · rintro ⟨r', tr₁, tr₂, rfl, h, hrest⟩
    exact .inr ⟨r', tr₁, tr₂, rfl, run_attempt_iff.mpr ⟨r', h, rfl⟩, hrest⟩

/-- Another error leaves the trace as it is. -/
theorem run_mapError_iff {f : ε' → ε} {p : Dialogue Answer ε' α} {tr : List (Event Answer)}
    {r : Except ε α} : Run (p.mapError f) tr r ↔ ∃ r', Run p tr r' ∧ r = r'.mapError f := by
  rw [mapError, run_bind_iff]
  constructor
  · rintro (⟨e, h, rfl⟩ | ⟨x, tr₁, tr₂, rfl, h, hrest⟩)
    · obtain ⟨r', -, hr⟩ := run_attempt_iff.mp h
      cases hr
    · obtain ⟨r', h, hr⟩ := run_attempt_iff.mp h
      obtain rfl := Except.ok.inj hr
      obtain ⟨rfl, rfl⟩ := run_ofExcept_iff.mp hrest
      exact ⟨x, by rwa [List.append_nil], rfl⟩
  · rintro ⟨r', h, rfl⟩
    exact .inr ⟨r', tr, [], (List.append_nil _).symm, run_attempt_iff.mpr ⟨r', h, rfl⟩,
      run_ofExcept_iff.mpr ⟨rfl, rfl⟩⟩

/-- A dialogue among more calls says the same as before. -/
theorem run_embed_iff {κ' : Type} {Answer' : κ' → Type} {f : κ → κ'}
    {p : Dialogue (fun c => Answer' (f c)) ε α} {tr : List (Event Answer')} {r : Except ε α} :
    Run (p.embed f) tr r ↔ ∃ tr', Run p tr' r ∧ tr = tr'.map fun e => ⟨f e.1, e.2⟩ := by
  induction p generalizing tr with
  | ok a =>
    constructor
    · intro h
      obtain ⟨rfl, rfl⟩ := run_pure_iff.mp h
      exact ⟨[], .ok a, rfl⟩
    · rintro ⟨tr', h, rfl⟩
      cases h
      exact .ok a
  | fail e =>
    constructor
    · intro h
      obtain ⟨rfl, rfl⟩ := run_fail_iff.mp h
      exact ⟨[], .fail e, rfl⟩
    · rintro ⟨tr', h, rfl⟩
      cases h
      exact .fail e
  | ask c k ih =>
    constructor
    · intro h
      obtain ⟨a, rest, rfl, hk⟩ := run_ask_iff.mp h
      obtain ⟨tr', hp, rfl⟩ := (ih a).mp hk
      exact ⟨⟨c, a⟩ :: tr', .ask hp, rfl⟩
    · rintro ⟨tr', h, rfl⟩
      obtain ⟨a, rest, rfl, hk⟩ := run_ask_iff.mp h
      exact .ask ((ih a).mpr ⟨rest, hk, rfl⟩)

/-! ## What holds of every run -/

section Keeps

variable {allowed : List (Event Answer) → κ → Prop}
variable {post post' : List (Event Answer) → Except ε α → Prop} {before : List (Event Answer)}

/-- Every call is allowed after what was said before it, and the outcome fits all that was said. -/
def Keeps (allowed : List (Event Answer) → κ → Prop)
    (post : List (Event Answer) → Except ε α → Prop) :
    List (Event Answer) → Dialogue Answer ε α → Prop
  | before, .ok a => post before (.ok a)
  | before, .fail e => post before (.error e)
  | before, .ask c k => allowed before c ∧ ∀ a, Keeps allowed post (before ++ [⟨c, a⟩]) (k a)

/-- The postcondition holds of what a run ends in. -/
theorem Keeps.outcome {p : Dialogue Answer ε α} (h : Keeps allowed post before p)
    {tr : List (Event Answer)} {r : Except ε α} (hrun : Run p tr r) : post (before ++ tr) r := by
  induction hrun generalizing before with
  | ok a =>
    rw [List.append_nil]
    exact h
  | fail e =>
    rw [List.append_nil]
    exact h
  | ask hrun ih =>
    have hrest := ih (h.2 _)
    rwa [List.append_assoc] at hrest

/-- Every question of a run was allowed behind what came before it. -/
theorem Keeps.allows {p : Dialogue Answer ε α} (h : Keeps allowed post before p)
    {tr₁ tr₂ : List (Event Answer)} {e : Event Answer} {r : Except ε α}
    (hrun : Run p (tr₁ ++ e :: tr₂) r) : allowed (before ++ tr₁) e.1 := by
  induction tr₁ generalizing before p with
  | nil =>
    cases hrun with
    | ask hrun => simpa using h.1
  | cons first tr₁ ih =>
    cases hrun with
    | ask hrun =>
      have hrest := ih (h.2 _) hrun
      rwa [List.append_assoc] at hrest

/-- The postcondition may be weakened. -/
theorem Keeps.mono {p : Dialogue Answer ε α} (h : Keeps allowed post before p)
    (hpost : ∀ tr r, post tr r → post' tr r) : Keeps allowed post' before p := by
  induction p generalizing before with
  | ok a => exact hpost _ _ h
  | fail e => exact hpost _ _ h
  | ask c k ih => exact ⟨h.1, fun a => ih a (h.2 a)⟩

@[simp] theorem keeps_pure {a : α} :
    Keeps allowed post before (pure a : Dialogue Answer ε α) ↔ post before (.ok a) := Iff.rfl

@[simp] theorem keeps_fail {e : ε} :
    Keeps allowed post before (.fail e : Dialogue Answer ε α) ↔ post before (.error e) := Iff.rfl

@[simp] theorem keeps_call {c : κ} {post : List (Event Answer) → Except ε (Answer c) → Prop} :
    Keeps allowed post before (call c) ↔
      allowed before c ∧ ∀ a, post (before ++ [⟨c, a⟩]) (.ok a) := Iff.rfl

@[simp] theorem keeps_ofExcept {r : Except ε α} :
    Keeps allowed post before (ofExcept r : Dialogue Answer ε α) ↔ post before r := by
  cases r <;> rfl

/-- What comes next starts from all that was said so far. -/
@[simp] theorem keeps_bind {p : Dialogue Answer ε β} {f : β → Dialogue Answer ε α} :
    Keeps allowed post before (p >>= f) ↔
      Keeps allowed (fun tr r =>
        match r with
        | .ok b => Keeps allowed post tr (f b)
        | .error e => post tr (.error e)) before p := by
  induction p generalizing before with
  | ok b => exact Iff.rfl
  | fail e => exact Iff.rfl
  | ask c k ih => exact and_congr_right fun _ => forall_congr' fun a => ih a

/-- The second part starts behind what the first one promises, and so does an error. -/
theorem Keeps.bind {mid : List (Event Answer) → Except ε β → Prop} {p : Dialogue Answer ε β}
    {f : β → Dialogue Answer ε α} (h : Keeps allowed mid before p)
    (hok : ∀ tr b, mid tr (.ok b) → Keeps allowed post tr (f b))
    (herror : ∀ tr e, mid tr (.error e) → post tr (.error e)) :
    Keeps allowed post before (p >>= f) := by
  refine keeps_bind.mpr (h.mono fun tr r hr => ?_)
  cases r with
  | ok b => exact hok tr b hr
  | error e => exact herror tr e hr

/-- An attempt gives its failure to the postcondition as a result. -/
@[simp] theorem keeps_attempt {p : Dialogue Answer ε' β}
    {post : List (Event Answer) → Except ε (Except ε' β) → Prop} :
    Keeps allowed post before p.attempt ↔
      Keeps allowed (fun tr r => post tr (.ok r)) before p := by
  induction p generalizing before with
  | ok b => exact Iff.rfl
  | fail e => exact Iff.rfl
  | ask c k ih => exact and_congr_right fun _ => forall_congr' fun a => ih a

@[simp] theorem keeps_mapError {f : ε' → ε} {p : Dialogue Answer ε' α} :
    Keeps allowed post before (p.mapError f) ↔
      Keeps allowed (fun tr r => post tr (r.mapError f)) before p := by
  rw [mapError, keeps_bind, keeps_attempt]
  simp only [keeps_ofExcept]

/-- Either branch is only looked at under its condition. -/
@[simp] theorem keeps_ite {c : Prop} [Decidable c] {p q : Dialogue Answer ε α} :
    Keeps allowed post before (if c then p else q) ↔
      (c → Keeps allowed post before p) ∧ (¬c → Keeps allowed post before q) := by
  by_cases hc : c <;> simp [hc]

end Keeps

/-! ## What a run costs -/

section Within

variable {cost : κ → ℕ} {m n : ℕ}

/-- The calls of a run cost no more than the bound, whatever they are answered. -/
def Within (cost : κ → ℕ) : ℕ → Dialogue Answer ε α → Prop
  | _, .ok _ => True
  | _, .fail _ => True
  | n, .ask c k => cost c ≤ n ∧ ∀ a, Within cost (n - cost c) (k a)

/-- A run costs no more than its budget. -/
theorem Within.sum_le {p : Dialogue Answer ε α} (h : Within cost n p)
    {tr : List (Event Answer)} {r : Except ε α} (hrun : Run p tr r) :
    (tr.map fun e => cost e.1).sum ≤ n := by
  induction hrun generalizing n with
  | ok a => exact Nat.zero_le n
  | fail e => exact Nat.zero_le n
  | ask hrun ih =>
    have hrest := ih (h.2 _)
    have hfirst := h.1
    rw [List.map_cons, List.sum_cons]
    dsimp only
    omega

/-- A larger budget will do. -/
theorem Within.mono {p : Dialogue Answer ε α} (h : Within cost m p) (hle : m ≤ n) :
    Within cost n p := by
  induction p generalizing m n with
  | ok a => trivial
  | fail e => trivial
  | ask c k ih =>
    refine ⟨Nat.le_trans h.1 hle, fun a => ih a (h.2 a) ?_⟩
    omega

theorem within_pure {a : α} : Within cost n (pure a : Dialogue Answer ε α) := trivial

theorem within_fail {e : ε} : Within cost n (.fail e : Dialogue Answer ε α) := trivial

theorem within_ofExcept {x : Except ε α} :
    Within cost n (ofExcept x : Dialogue Answer ε α) := by
  cases x <;> trivial

/-- The budgets of two parts add up. -/
theorem Within.bind {p : Dialogue Answer ε β} {f : β → Dialogue Answer ε α}
    (h : Within cost m p) (hf : ∀ b, Within cost n (f b)) : Within cost (m + n) (p >>= f) := by
  induction p generalizing m with
  | ok b => exact (hf b).mono (Nat.le_add_left _ _)
  | fail e => trivial
  | ask c k ih =>
    have hfirst := h.1
    refine ⟨by omega, fun a => ?_⟩
    rw [Nat.sub_add_comm hfirst]
    exact ih a (h.2 a)

/-- An attempt costs what it attempts. -/
theorem Within.attempt {p : Dialogue Answer ε' α} (h : Within cost n p) :
    Within cost n (p.attempt : Dialogue Answer ε (Except ε' α)) := by
  induction p generalizing n with
  | ok a => trivial
  | fail e => trivial
  | ask c k ih => exact ⟨h.1, fun a => ih a (h.2 a)⟩

theorem Within.mapError {f : ε' → ε} {p : Dialogue Answer ε' α} (h : Within cost n p) :
    Within cost n (p.mapError f) :=
  h.attempt.bind fun _ => within_ofExcept (n := 0)

end Within

/-! ## Protocols -/

section Follows

variable {σ : Type} {step : σ → Event Answer → Option σ} {s : σ}
variable {mid : σ → Except ε' β → Prop} {post : σ → Except ε α → Prop}

/-- A protocol is a machine that takes calls with their answers and stops at one that is out of
place. The program never stops it, whatever it is answered, and leaves it where the outcome fits. -/
def Follows (step : σ → Event Answer → Option σ) (post : σ → Except ε α → Prop) (s : σ)
    (p : Dialogue Answer ε α) : Prop :=
  ∀ tr r, Run p tr r → ∃ s', tr.foldlM step s = some s' ∧ post s' r

theorem follows_pure {a : α} (h : post s (.ok a)) :
    Follows step post s (pure a : Dialogue Answer ε α) := by
  intro tr r hrun
  obtain ⟨rfl, rfl⟩ := run_pure_iff.mp hrun
  exact ⟨s, rfl, h⟩

theorem follows_fail {e : ε} (h : post s (.error e)) :
    Follows step post s (.fail e : Dialogue Answer ε α) := by
  intro tr r hrun
  obtain ⟨rfl, rfl⟩ := run_fail_iff.mp hrun
  exact ⟨s, rfl, h⟩

/-- A result that is given without a question leaves the machine where it is. -/
theorem follows_ofExcept {x : Except ε α} (h : post s x) :
    Follows step post s (ofExcept x : Dialogue Answer ε α) := by
  cases x with
  | ok a => exact follows_pure h
  | error e => exact follows_fail h

/-- A call is one step of the machine, whatever the answer. -/
theorem follows_call {c : κ} {post : σ → Except ε (Answer c) → Prop}
    (h : ∀ a, ∃ s', step s ⟨c, a⟩ = some s' ∧ post s' (.ok a)) :
    Follows step post s (call c) := by
  intro tr r hrun
  obtain ⟨a, rfl, rfl⟩ := run_call_iff.mp hrun
  obtain ⟨s', hstep, hpost⟩ := h a
  refine ⟨s', ?_, hpost⟩
  rw [List.foldlM_cons, hstep]
  rfl

theorem follows_call_bind {c : κ} {f : Answer c → Dialogue Answer ε α}
    (h : ∀ a, ∃ s', step s ⟨c, a⟩ = some s' ∧ Follows step post s' (f a)) :
    Follows step post s (call c >>= f) := by
  intro tr r hrun
  obtain ⟨a, tr', rfl, hrest⟩ := run_call_bind_iff.mp hrun
  obtain ⟨s', hstep, hfollows⟩ := h a
  rw [List.foldlM_cons, hstep]
  exact hfollows tr' r hrest

/-- The second part follows on from every state that the first one may end in. -/
theorem Follows.bind {mid : σ → Except ε β → Prop} {p : Dialogue Answer ε β}
    {f : β → Dialogue Answer ε α} (h : Follows step mid s p)
    (hok : ∀ s' b, mid s' (.ok b) → Follows step post s' (f b))
    (herror : ∀ s' e, mid s' (.error e) → post s' (.error e)) :
    Follows step post s (p >>= f) := by
  intro tr r hrun
  rcases run_bind_iff.mp hrun with ⟨e, hp, rfl⟩ | ⟨b, tr₁, tr₂, rfl, hp, hrest⟩
  · obtain ⟨s', hfold, hmid⟩ := h tr _ hp
    exact ⟨s', hfold, herror s' e hmid⟩
  · obtain ⟨s', hfold, hmid⟩ := h tr₁ _ hp
    rw [List.foldlM_append, hfold]
    exact hok s' b hmid tr₂ r hrest

/-- What comes behind an attempt follows on from its failures too. -/
theorem Follows.attempt_bind {p : Dialogue Answer ε' β}
    {f : Except ε' β → Dialogue Answer ε α} (h : Follows step mid s p)
    (hrest : ∀ s' r, mid s' r → Follows step post s' (f r)) :
    Follows step post s (p.attempt >>= f) := by
  intro tr r hrun
  obtain ⟨r', tr₁, tr₂, rfl, hp, hlater⟩ := run_attempt_bind_iff.mp hrun
  obtain ⟨s', hfold, hmid⟩ := h tr₁ r' hp
  rw [List.foldlM_append, hfold]
  exact hrest s' r' hmid tr₂ r hlater

/-- A stretch that the protocol takes no notice of. -/
theorem follows_of_steady {p : Dialogue Answer ε α}
    (hsteady : ∀ tr r, Run p tr r → ∀ e ∈ tr, step s e = some s) (hpost : ∀ r, post s r) :
    Follows step post s p := by
  intro tr r hrun
  refine ⟨s, ?_, hpost r⟩
  have hall := hsteady tr r hrun
  clear hrun
  induction tr with
  | nil => rfl
  | cons e tr ih =>
    obtain ⟨hfirst, hlater⟩ := List.forall_mem_cons.mp hall
    rw [List.foldlM_cons, hfirst]
    exact ih hlater

end Follows

end Dialogue
