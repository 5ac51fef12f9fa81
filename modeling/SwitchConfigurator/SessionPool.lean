import SwitchConfigurator.Foundations.Interleaving
import SwitchConfigurator.Models
import Mathlib.Data.List.Nodup
import Mathlib.Logic.Function.Basic

/-!
# The session pool

One logged-in session per switch is kept open between operations. A session passes between
the operation that uses it, the slot of its switch, and the idle timer that closes it. The
pool's lock covers single accesses to the slots only, so an operation goes through several
phases, and other operations and timers may run between any two of them.
-/

namespace SwitchConfigurator

/-- What a connection is built from: the parts of a configuration that `fingerprint` hashes. -/
structure ConnectionKey where
  id : String
  model : Option SwitchModel
  managementIp : Option String
  credentials : Option Credentials
  sshTimeoutSecs : ℕ
  maxRetries : ℕ
  enforcePortConfig : Bool
  deriving DecidableEq

def SwitchConfig.connectionKey (config : SwitchConfig) : ConnectionKey where
  id := config.id
  model := config.model
  managementIp := config.managementIp
  credentials := config.credentials
  sshTimeoutSecs := config.settings.sshTimeoutSecs
  maxRetries := config.settings.maxRetries
  enforcePortConfig := config.settings.enforcePortConfig

/-- The hasher is a parameter; nothing depends on which one it is. -/
def fingerprint (hash : ConnectionKey → UInt64) (config : SwitchConfig) : UInt64 :=
  hash config.connectionKey

/-- An opened vendor session: which one it is, the switch it is for, and the fingerprint of
the configuration it was opened with. -/
structure VendorSession where
  id : ℕ
  switch : String
  openedWith : UInt64
  deriving DecidableEq, Repr

/-- `release` counts the releases that kept a session, to tell them apart here; the code
has the token only. -/
structure Slot where
  vendor : VendorSession
  fingerprint : UInt64
  token : ℕ
  release : ℕ
  deriving DecidableEq, Repr

/-- A slot holds a session of its own switch, under the fingerprint that the session was
opened with; its token is the number of the release that filled it. -/
structure Slot.Wf (slot : Slot) (id : String) : Prop where
  switch : slot.vendor.switch = id
  openedWith : slot.vendor.openedWith = slot.fingerprint
  token : slot.token = slot.release

/-- `PoolState`, with a record of the sessions opened so far, of those handed to `close` or
dropped, and of the number of releases that kept a session. -/
structure SessionPool where
  slots : String → Option Slot := fun _ => none
  nextToken : ℕ := 0
  opened : List VendorSession := []
  closed : List VendorSession := []
  releases : ℕ := 0

namespace SessionPool

def takeSlot (p : SessionPool) (id : String) : SessionPool :=
  { p with slots := Function.update p.slots id none }

/-- Put a session into the slot of its switch, under the next token. -/
def keep (p : SessionPool) (id : String) (vendor : VendorSession) (fingerprint : UInt64) :
    SessionPool :=
  { p with
    slots := Function.update p.slots id (some ⟨vendor, fingerprint, p.nextToken, p.releases⟩)
    nextToken := p.nextToken + 1
    releases := p.releases + 1 }

/-- A session is handed to `close`, or dropped, and is not used again. -/
def close (p : SessionPool) (vendor : VendorSession) : SessionPool :=
  { p with closed := vendor :: p.closed }

def newSession (p : SessionPool) (id : String) (fingerprint : UInt64) : VendorSession :=
  ⟨p.opened.length, id, fingerprint⟩

def recordOpen (p : SessionPool) (vendor : VendorSession) : SessionPool :=
  { p with opened := vendor :: p.opened }

/-- How far an operation on the pool, or an idle timer, has come. -/
inductive Phase where
  /-- `checkout` has been called. -/
  | requested (fingerprint : UInt64)
  /-- `checkout` took a kept session and waits for `resume_session`. -/
  | resuming (vendor : VendorSession) (fingerprint : UInt64)
  /-- `checkout` closes a kept session it cannot use. -/
  | closingKept (vendor : VendorSession) (fingerprint : UInt64)
  /-- `checkout` has called the opener. -/
  | opening (fingerprint : UInt64)
  /-- The caller has the `Session`. -/
  | out (vendor : VendorSession) (fingerprint : UInt64)
  /-- `release` waits for the lock. -/
  | keeping (vendor : VendorSession) (fingerprint : UInt64)
  /-- `release` closes the session that its own replaced in the slot. -/
  | closingReplaced (vendor : VendorSession) (token release : ℕ)
  /-- `release` is about to spawn the idle timer. -/
  | arming (token release : ℕ)
  /-- `close_idle` has been called. -/
  | idleRequested
  /-- The last thing the operation does is to close this session. -/
  | closing (vendor : VendorSession)
  /-- An idle timer, before it looks at the slot. -/
  | sleeping (token release : ℕ)
  /-- An idle timer closes the session it took. -/
  | expiring (vendor : VendorSession)
  deriving DecidableEq, Repr

namespace Phase

/-- The session that the operation still means to use or to keep. -/
def inHand : Phase → Option VendorSession
  | resuming vendor _ | out vendor _ | keeping vendor _ => some vendor
  | _ => none

/-- The session that it is closing. -/
def inClose : Phase → Option VendorSession
  | closingKept vendor _ | closingReplaced vendor _ _ | closing vendor | expiring vendor =>
    some vendor
  | _ => none

/-- The operation has an open session: one is closed only when the awaited close ends. -/
def hasOpen (phase : Phase) : Bool := phase.inHand.isSome || phase.inClose.isSome

def isOpening : Phase → Bool
  | opening _ => true
  | _ => false

def isExpiring : Phase → Bool
  | expiring _ => true
  | _ => false

def isTimer : Phase → Bool
  | sleeping _ _ | expiring _ => true
  | _ => false

end Phase

structure Op where
  switch : String
  phase : Phase
  deriving DecidableEq, Repr

/-- What the operation waited for went well, or it did not: `resume_session` or the opener
failed, the session is discarded or its vendor supports no reuse. `drop`: the future of the
operation, or the `Session` it returned, is dropped, which closes its connection. -/
inductive PoolEvent where
  | ok
  | err
  | drop
  deriving DecidableEq, Repr

/-- One atomic step of an operation or a timer. -/
def advance (p : SessionPool) (op : Op) : PoolEvent → Option (SessionPool × List Op)
  | .ok =>
    match op.phase with
    | .requested fingerprint =>
      match p.slots op.switch with
      | none => some (p, [⟨op.switch, .opening fingerprint⟩])
      | some slot =>
        if slot.fingerprint = fingerprint then
          some (p.takeSlot op.switch, [⟨op.switch, .resuming slot.vendor fingerprint⟩])
        else
          some ((p.takeSlot op.switch).close slot.vendor,
            [⟨op.switch, .closingKept slot.vendor fingerprint⟩])
    | .resuming vendor fingerprint => some (p, [⟨op.switch, .out vendor fingerprint⟩])
    | .closingKept _ fingerprint => some (p, [⟨op.switch, .opening fingerprint⟩])
    | .opening fingerprint =>
      some (p.recordOpen (p.newSession op.switch fingerprint),
        [⟨op.switch, .out (p.newSession op.switch fingerprint) fingerprint⟩])
    | .out vendor fingerprint => some (p, [⟨op.switch, .keeping vendor fingerprint⟩])
    | .keeping vendor fingerprint =>
      match p.slots op.switch with
      | none =>
        some (p.keep op.switch vendor fingerprint,
          [⟨op.switch, .arming p.nextToken p.releases⟩])
      | some old =>
        some ((p.keep op.switch vendor fingerprint).close old.vendor,
          [⟨op.switch, .closingReplaced old.vendor p.nextToken p.releases⟩])
    | .closingReplaced _ token release => some (p, [⟨op.switch, .arming token release⟩])
    | .arming token release => some (p, [⟨op.switch, .sleeping token release⟩])
    | .idleRequested =>
      match p.slots op.switch with
      | none => some (p, [])
      | some slot =>
        some ((p.takeSlot op.switch).close slot.vendor, [⟨op.switch, .closing slot.vendor⟩])
    | .sleeping token _ =>
      -- `close_if_token`: the lock covers the look at the token and the removal, not the close
      match p.slots op.switch with
      | none => some (p, [])
      | some slot =>
        if slot.token = token then
          some ((p.takeSlot op.switch).close slot.vendor, [⟨op.switch, .expiring slot.vendor⟩])
        else some (p, [])
    | .closing _ | .expiring _ => some (p, [])
  | .err =>
    match op.phase with
    | .resuming vendor fingerprint =>
      some (p.close vendor, [⟨op.switch, .closingKept vendor fingerprint⟩])
    | .opening _ => some (p, [])
    | .out vendor _ => some (p.close vendor, [⟨op.switch, .closing vendor⟩])
    | _ => none
  | .drop =>
    match op.phase with
    | .resuming vendor _ | .out vendor _ | .keeping vendor _ => some (p.close vendor, [])
    | .requested _ | .closingKept _ _ | .opening _ | .closingReplaced _ _ _ | .idleRequested
    | .closing _ => some (p, [])
    -- `arming` awaits nothing, and the task of a timer is not dropped
    | .arming _ _ | .sleeping _ _ | .expiring _ => none

inductive PoolRequest where
  | checkout (config : SwitchConfig)
  | closeIdle (id : String)

def PoolRequest.switch : PoolRequest → String
  | .checkout config => config.id
  | .closeIdle id => id

/-- All interleavings of operations on one pool. -/
def ops (hash : ConnectionKey → UInt64) : TaskSystem SessionPool Op PoolRequest PoolEvent where
  init := {}
  admits _ _ _ := true
  start _
    | .checkout config => ⟨config.id, .requested (fingerprint hash config)⟩
    | .closeIdle id => ⟨id, .idleRequested⟩
  advance := advance

section

variable {p p' : SessionPool} {op : Op} {e : PoolEvent} {new ops ops' : List Op}
variable {id id' : String} {v w : VendorSession} {slot : Slot} {f : UInt64}

@[simp] theorem slots_takeSlot :
    (p.takeSlot id').slots id = if id = id' then none else p.slots id := by
  unfold takeSlot
  exact Function.update_apply ..

@[simp] theorem slots_keep : (p.keep id' v f).slots id =
    if id = id' then some ⟨v, f, p.nextToken, p.releases⟩ else p.slots id := by
  unfold keep
  exact Function.update_apply ..

@[simp] theorem slots_close : (p.close v).slots = p.slots := rfl

@[simp] theorem slots_recordOpen : (p.recordOpen v).slots = p.slots := rfl

@[simp] theorem closed_close : (p.close v).closed = v :: p.closed := rfl

@[simp] theorem closed_takeSlot : (p.takeSlot id).closed = p.closed := rfl

@[simp] theorem closed_keep : (p.keep id v f).closed = p.closed := rfl

@[simp] theorem closed_recordOpen : (p.recordOpen v).closed = p.closed := rfl

@[simp] theorem opened_close : (p.close v).opened = p.opened := rfl

@[simp] theorem opened_takeSlot : (p.takeSlot id).opened = p.opened := rfl

@[simp] theorem opened_keep : (p.keep id v f).opened = p.opened := rfl

@[simp] theorem opened_recordOpen : (p.recordOpen v).opened = v :: p.opened := rfl

@[simp] theorem keep_takeSlot : (p.takeSlot id).keep id v f = p.keep id v f := by
  unfold keep takeSlot
  simp

/-- What the phase of an operation says about its session and its token. -/
def Op.Wf (op : Op) : Prop :=
  match op.phase with
  | .resuming v f | .out v f | .keeping v f => v.switch = op.switch ∧ v.openedWith = f
  | .arming token release | .sleeping token release | .closingReplaced _ token release =>
    token = release
  | _ => True

structure Wf (p : SessionPool) : Prop where
  token : p.nextToken = p.releases
  slot : ∀ id slot, p.slots id = some slot → slot.Wf id
  fresh : ∀ v ∈ p.opened, v.id < p.opened.length
  nodup : p.opened.Nodup

theorem Wf.takeSlot (hp : p.Wf) : (p.takeSlot id).Wf where
  token := hp.token
  slot id' slot h := by
    rw [slots_takeSlot] at h
    split_ifs at h
    exact hp.slot id' slot h
  fresh := hp.fresh
  nodup := hp.nodup

theorem Wf.close (hp : p.Wf) : (p.close v).Wf := ⟨hp.token, hp.slot, hp.fresh, hp.nodup⟩

/-- A session may be kept for the switch and the fingerprint it was opened with. -/
theorem Wf.keep (hp : p.Wf) (hid : v.switch = id) (hv : v.openedWith = f) :
    (p.keep id v f).Wf where
  token := congrArg (· + 1) hp.token
  slot id' slot h := by
    rw [slots_keep] at h
    split_ifs at h with heq
    · cases h
      exact ⟨hid.trans heq.symm, hv, hp.token⟩
    · exact hp.slot id' slot h
  fresh := hp.fresh
  nodup := hp.nodup

theorem Wf.recordOpen (hp : p.Wf) : (p.recordOpen (p.newSession id f)).Wf where
  token := hp.token
  slot := hp.slot
  fresh w hw := by
    have hlen : (p.recordOpen (p.newSession id f)).opened.length = p.opened.length + 1 := rfl
    rw [hlen]
    rcases List.mem_cons.mp hw with rfl | hw
    · exact Nat.lt_succ_self _
    · exact Nat.lt_succ_of_lt (hp.fresh w hw)
  nodup := by
    refine List.nodup_cons.mpr ⟨fun hmem => ?_, hp.nodup⟩
    exact absurd (hp.fresh _ hmem) (Nat.lt_irrefl _)

/-- The step after which `checkout` calls the opener. -/
def callsOpener (p : SessionPool) (op : Op) : PoolEvent → Bool
  | .ok =>
    match op.phase with
    | .requested _ => (p.slots op.switch).isNone
    | .closingKept _ _ => true
    | _ => false
  | _ => false

/-- What an operation goes over to, when it does not touch the slot and starts no close. -/
structure Goes (p : SessionPool) (op : Op) (e : PoolEvent) (phase : Phase) : Prop where
  inHand : phase.inHand = op.phase.inHand
  inClose : phase.inClose = none
  wf : op.Wf → Op.Wf ⟨op.switch, phase⟩
  timer : phase.isTimer = false → op.phase.isTimer = false
  opening : phase.isOpening = true → callsOpener p op e = true

/-- All that one step can do. -/
inductive Effect (p : SessionPool) (op : Op) : PoolEvent → SessionPool → List Op → Prop
  | go {a : PoolEvent} (phase : Phase) : Goes p op a phase →
      Effect p op a p [⟨op.switch, phase⟩]
  | done {a : PoolEvent} : op.phase.inHand = none → Effect p op a p []
  | giveUp {a : PoolEvent} (v : VendorSession) (phase : Phase) : op.phase.inHand = some v →
      phase.inHand = none → phase.inClose = some v → phase.isTimer = op.phase.isTimer →
      Op.Wf ⟨op.switch, phase⟩ → Effect p op a (p.close v) [⟨op.switch, phase⟩]
  | dropped {a : PoolEvent} (v : VendorSession) : op.phase.inHand = some v →
      Effect p op a (p.close v) []
  | take {a : PoolEvent} (slot : Slot) (f : UInt64) : p.slots op.switch = some slot →
      op.phase = .requested f → slot.fingerprint = f →
      Effect p op a (p.takeSlot op.switch) [⟨op.switch, .resuming slot.vendor f⟩]
  | takeClose {a : PoolEvent} (slot : Slot) (phase : Phase) : p.slots op.switch = some slot →
      op.phase.hasOpen = false → phase.inHand = none → phase.inClose = some slot.vendor →
      phase.isTimer = op.phase.isTimer → Op.Wf ⟨op.switch, phase⟩ →
      Effect p op a ((p.takeSlot op.switch).close slot.vendor) [⟨op.switch, phase⟩]
  | opened (f : UInt64) : op.phase = .opening f →
      Effect p op .ok (p.recordOpen (p.newSession op.switch f))
        [⟨op.switch, .out (p.newSession op.switch f) f⟩]
  | keep {a : PoolEvent} (v : VendorSession) (f : UInt64) : op.phase = .keeping v f →
      p.slots op.switch = none →
      Effect p op a (p.keep op.switch v f) [⟨op.switch, .arming p.nextToken p.releases⟩]
  | replace {a : PoolEvent} (v : VendorSession) (f : UInt64) (old : Slot) :
      op.phase = .keeping v f → p.slots op.switch = some old →
      Effect p op a ((p.keep op.switch v f).close old.vendor)
        [⟨op.switch, .closingReplaced old.vendor p.nextToken p.releases⟩]

/-- What one step of an operation does to the pool. -/
theorem advance_effect (h : advance p op e = some (p', new)) : Effect p op e p' new := by
  obtain ⟨switch, phase⟩ := op
  cases e with
  | ok =>
    cases phase with
    | requested f =>
      simp only [advance] at h
      cases hslot : p.slots switch with
      | none =>
        simp only [hslot] at h
        cases h
        have hopener : callsOpener p ⟨switch, .requested f⟩ .ok = true := by
          simp [callsOpener, hslot]
        exact .go _ ⟨rfl, rfl, fun _ => trivial, fun _ => rfl, fun _ => hopener⟩
      | some slot =>
        simp only [hslot] at h
        split_ifs at h with hf
        · cases h
          exact .take slot f hslot rfl hf
        · cases h
          -- the kept session has another fingerprint: it is closed and a new one opened
          exact .takeClose slot _ hslot rfl rfl rfl rfl trivial
    | resuming v f =>
      cases h
      exact .go _ ⟨rfl, rfl, id, fun _ => rfl, nofun⟩
    | closingKept v f =>
      cases h
      exact .go _ ⟨rfl, rfl, fun _ => trivial, fun _ => rfl, fun _ => rfl⟩
    | opening f =>
      cases h
      exact .opened f rfl
    | out v f =>
      cases h
      exact .go _ ⟨rfl, rfl, id, fun _ => rfl, nofun⟩
    | keeping v f =>
      simp only [advance] at h
      cases hslot : p.slots switch with
      | none =>
        simp only [hslot] at h
        cases h
        exact .keep v f rfl hslot
      | some old =>
        simp only [hslot] at h
        cases h
        -- another caller kept its session meanwhile; the older one is closed
        exact .replace v f old rfl hslot
    | closingReplaced v token release =>
      cases h
      exact .go _ ⟨rfl, rfl, id, fun _ => rfl, nofun⟩
    | arming token release =>
      cases h
      exact .go _ ⟨rfl, rfl, id, nofun, nofun⟩
    | idleRequested =>
      simp only [advance] at h
      cases hslot : p.slots switch with
      | none =>
        simp only [hslot] at h
        cases h
        exact .done rfl
      | some slot =>
        simp only [hslot] at h
        cases h
        exact .takeClose slot _ hslot rfl rfl rfl rfl trivial
    | closing v =>
      cases h
      exact .done rfl
    | sleeping token release =>
      simp only [advance] at h
      cases hslot : p.slots switch with
      | none =>
        simp only [hslot] at h
        cases h
        exact .done rfl
      | some slot =>
        simp only [hslot] at h
        -- a timer closes only the session it was armed for
        split_ifs at h
        · cases h
          exact .takeClose slot _ hslot rfl rfl rfl rfl trivial
        · cases h
          exact .done rfl
    | expiring v =>
      cases h
      exact .done rfl
  | err =>
    cases phase <;> cases h
    -- a kept session that does not answer is given up for a new one
    case resuming.refl v f => exact .giveUp v _ rfl rfl rfl rfl trivial
    case opening.refl f => exact .done rfl
    case out.refl v f => exact .giveUp v _ rfl rfl rfl rfl trivial
  | drop =>
    cases phase <;> cases h
    case resuming.refl v f => exact .dropped v rfl
    case out.refl v f => exact .dropped v rfl
    -- a task that is dropped takes the session in its hand along
    case keeping.refl v f => exact .dropped v rfl
    all_goals exact .done rfl

theorem inHand_of_hasOpen_eq_false {phase : Phase} (h : phase.hasOpen = false) :
    phase.inHand = none := by
  simp only [Phase.hasOpen, Bool.or_eq_false_iff, Option.isSome_eq_false_iff] at h
  simpa using h.1

/-- A step keeps pool and operations well formed. -/
theorem advance_wf (hp : p.Wf) (hop : op.Wf) (h : advance p op e = some (p', new)) :
    p'.Wf ∧ ∀ op' ∈ new, op'.Wf := by
  cases advance_effect h with
  | go phase hgo => exact ⟨hp, by simpa using hgo.wf hop⟩
  | done _ => exact ⟨hp, nofun⟩
  | giveUp v phase _ _ _ _ hwf => exact ⟨hp.close, by simpa using hwf⟩
  | dropped v _ => exact ⟨hp.close, nofun⟩
  | take slot f hslot _ hf =>
    have hwf := hp.slot _ _ hslot
    refine ⟨hp.takeSlot, ?_⟩
    simpa [Op.Wf] using ⟨hwf.switch, hwf.openedWith.trans hf⟩
  | takeClose slot phase _ _ _ _ _ hwf => exact ⟨hp.takeSlot.close, by simpa using hwf⟩
  | opened f _ => exact ⟨hp.recordOpen, by simp [Op.Wf, newSession]⟩
  | keep v f hphase _ =>
    have hv : v.switch = op.switch ∧ v.openedWith = f := by simpa [Op.Wf, hphase] using hop
    exact ⟨hp.keep hv.1 hv.2, by simpa [Op.Wf] using hp.token⟩
  | replace v f old hphase _ =>
    have hv : v.switch = op.switch ∧ v.openedWith = f := by simpa [Op.Wf, hphase] using hop
    exact ⟨(hp.keep hv.1 hv.2).close, by simpa [Op.Wf] using hp.token⟩

/-- The operations that have the session in hand. -/
def inHands (v : VendorSession) (ops : List Op) : ℕ :=
  ops.countP fun op => op.phase.inHand = some v

/-- One if the session is kept in the slot of its switch. -/
def kept (p : SessionPool) (v : VendorSession) : ℕ :=
  if (p.slots v.switch).map Slot.vendor = some v then 1 else 0

@[simp] theorem inHands_nil : inHands v [] = 0 := rfl

@[simp] theorem inHands_append : inHands v (ops ++ ops') = inHands v ops + inHands v ops' :=
  List.countP_append

theorem inHands_cons : inHands v (op :: ops) =
    inHands v ops + if op.phase.inHand = some v then 1 else 0 := by
  unfold inHands
  simp [List.countP_cons]

/-- A session in somebody's hand is counted. -/
theorem inHands_pos (hmem : op ∈ ops) (hop : op.phase.inHand = some v) : 0 < inHands v ops :=
  List.countP_pos_iff.mpr ⟨op, hmem, by simpa using hop⟩

@[simp] theorem kept_close : kept (p.close w) v = kept p v := rfl

@[simp] theorem kept_recordOpen : kept (p.recordOpen w) v = kept p v := rfl

/-- The session leaves the slot. -/
theorem kept_takeSlot (hslot : p.slots id = some slot) (hwf : slot.Wf id) :
    kept (p.takeSlot id) v + (if slot.vendor = v then 1 else 0) = kept p v := by
  unfold kept
  rw [slots_takeSlot]
  by_cases hv : v.switch = id
  · simp [hv, hslot]
  · have hne : slot.vendor ≠ v := fun heq => hv (heq ▸ hwf.switch)
    simp [hv, hne]

/-- It enters an empty slot. -/
theorem kept_keep (hslot : p.slots id = none) (hw : w.switch = id) :
    kept (p.keep id w f) v = kept p v + if w = v then 1 else 0 := by
  unfold kept
  rw [slots_keep]
  by_cases hv : v.switch = id
  · simp [hv, hslot]
  · have hne : w ≠ v := fun heq => hv (heq ▸ hw)
    simp [hv, hne]

/-- It takes the place of the session that was there. -/
theorem kept_keep_replace (hslot : p.slots id = some slot) (hwf : slot.Wf id)
    (hw : w.switch = id) : kept (p.keep id w f) v + (if slot.vendor = v then 1 else 0) =
      kept p v + if w = v then 1 else 0 := by
  have htake := @kept_takeSlot p id v slot hslot hwf
  have hempty : (p.takeSlot id).slots id = none := by simp
  have hkeep := @kept_keep (p.takeSlot id) id v w f hempty hw
  rw [keep_takeSlot] at hkeep
  omega

/-- A step moves a session from one place to another; only the opener makes a new one. -/
theorem advance_accounts (hp : p.Wf) (hop : op.Wf) (h : advance p op e = some (p', new))
    (v : VendorSession) :
    inHands v new + kept p' v + p'.closed.count v + p.opened.count v =
      inHands v [op] + kept p v + p.closed.count v + p'.opened.count v := by
  -- each effect moves one session from one of the four places to another
  cases advance_effect h with
  | go phase hgo => simp [inHands_cons, hgo.inHand]
  | done hnone => simp [inHands_cons, hnone]
  | giveUp w phase hw hnone _ _ _ =>
    simp [inHands_cons, hw, hnone, List.count_cons]
    omega
  | dropped w hw =>
    simp [inHands_cons, hw, List.count_cons]
    omega
  | take slot f hslot hphase _ =>
    have hkept := @kept_takeSlot p _ v slot hslot (hp.slot _ _ hslot)
    simp [inHands_cons, hphase, Phase.inHand]
    omega
  | takeClose slot phase hslot hopen hnone _ _ _ =>
    have hkept := @kept_takeSlot p _ v slot hslot (hp.slot _ _ hslot)
    simp [inHands_cons, inHand_of_hasOpen_eq_false hopen, hnone, List.count_cons]
    omega
  | opened f hphase =>
    simp [inHands_cons, hphase, Phase.inHand, List.count_cons]
    omega
  | keep w f hphase hslot =>
    have hw : w.switch = op.switch := by
      simp only [Op.Wf, hphase] at hop
      exact hop.1
    simp [inHands_cons, hphase, Phase.inHand, kept_keep hslot hw]
    omega
  | replace w f old hphase hslot =>
    have hw : w.switch = op.switch := by
      simp only [Op.Wf, hphase] at hop
      exact hop.1
    have hkept := @kept_keep_replace p _ v w old f hslot (hp.slot _ _ hslot) hw
    simp [inHands_cons, hphase, Phase.inHand, List.count_cons]
    omega

/-- Every session that was opened is in one place. -/
structure Accounted (s : TaskState SessionPool Op) : Prop where
  pool : s.shared.Wf
  op : ∀ op ∈ s.tasks, op.Wf
  place : ∀ v, inHands v s.tasks + kept s.shared v + s.shared.closed.count v =
    s.shared.opened.count v

/-- A step keeps every session accounted for. -/
theorem Accounted.step {pre post : List Op} (hs : Accounted ⟨p, pre ++ op :: post⟩)
    (h : advance p op e = some (p', new)) : Accounted ⟨p', pre ++ new ++ post⟩ := by
  have hp : p.Wf := hs.pool
  have hop : op.Wf := hs.op op (by simp)
  obtain ⟨hp', hnew⟩ := advance_wf hp hop h
  refine ⟨hp', ?_, fun v => ?_⟩
  · intro op' hop'
    simp only [List.mem_append] at hop'
    rcases hop' with (hpre | hmem) | hpost
    · exact hs.op op' (by simp [hpre])
    · exact hnew op' hmem
    · exact hs.op op' (by simp [hpost])
  · have hmoved := advance_accounts hp hop h v
    have hplace : inHands v (pre ++ ([op] ++ post)) + kept p v + p.closed.count v =
        p.opened.count v := hs.place v
    simp only [inHands_append] at hplace ⊢
    omega

/-- In every run every session is accounted for. -/
theorem accounted_of_run {hash : ConnectionKey → UInt64}
    {tr : List (TaskState SessionPool Op × TaskLabel PoolRequest PoolEvent)}
    {s : TaskState SessionPool Op} (hrun : (SessionPool.ops hash).Run tr s) : Accounted s := by
  have hempty : SessionPool.Wf {} := ⟨rfl, nofun, nofun, List.nodup_nil⟩
  refine @TaskSystem.run_invariant _ _ _ _ (SessionPool.ops hash) (fun _ _ => True) Accounted _ _
    hrun (fun _ _ => trivial) ⟨hempty, nofun, fun _ => rfl⟩ ?_ ?_
  · intro _ shared ops r _ _ _ _ hs
    have hentry : ((SessionPool.ops hash).start shared r).Wf ∧
        ((SessionPool.ops hash).start shared r).phase.inHand = none := by
      cases r <;> exact ⟨trivial, rfl⟩
    refine ⟨hs.pool, ?_, fun v => ?_⟩
    · exact List.forall_mem_cons.mpr ⟨hentry.1, hs.op⟩
    · rw [inHands_cons, hentry.2]
      simpa using hs.place v
  · intro _ shared pre op post e shared' new _ _ _ hadv hs
    exact hs.step hadv

/-- In every run each session that was opened is in the hands of one operation, kept in the
slot of its switch, or closed, and nowhere twice. One that is handed out has not been closed
and was opened with the fingerprint of the checkout that gets it, and an idle timer takes
from the slot only the session that its own release has put there. -/
theorem pool_accounting {hash : ConnectionKey → UInt64}
    {tr : List (TaskState SessionPool Op × TaskLabel PoolRequest PoolEvent)}
    {s : TaskState SessionPool Op} (hrun : (SessionPool.ops hash).Run tr s) :
    (∀ v, inHands v s.tasks + kept s.shared v + s.shared.closed.count v =
      if v ∈ s.shared.opened then 1 else 0) ∧
    s.shared.closed.Nodup ∧
    (∀ op ∈ s.tasks, ∀ v f, op.phase = .resuming v f ∨ op.phase = .out v f →
      v ∉ s.shared.closed ∧ v.switch = op.switch ∧ v.openedWith = f) ∧
    (∀ op ∈ s.tasks, ∀ token release slot p' new, op.phase = .sleeping token release →
      s.shared.slots op.switch = some slot → advance s.shared op .ok = some (p', new) →
      p'.slots op.switch = some slot ∨ slot.release = release) := by
  have hs := accounted_of_run hrun
  have hplace (v : VendorSession) : inHands v s.tasks + kept s.shared v +
      s.shared.closed.count v = if v ∈ s.shared.opened then 1 else 0 :=
    (hs.place v).trans hs.pool.nodup.count
  refine ⟨hplace, ?_, ?_, ?_⟩
  · refine List.nodup_iff_count.mpr fun v => ?_
    have := hplace v
    split_ifs at this <;> omega
  · intro op hop v f hphase
    have hhand : op.phase.inHand = some v := by
      rcases hphase with hphase | hphase <;> rw [hphase] <;> rfl
    have hwf : v.switch = op.switch ∧ v.openedWith = f := by
      have hwf := hs.op op hop
      rcases hphase with hphase | hphase <;> simpa only [Op.Wf, hphase] using hwf
    refine ⟨fun hclosed => ?_, hwf⟩
    have hpos : 0 < inHands v s.tasks := inHands_pos hop hhand
    have hcount : 0 < s.shared.closed.count v := List.count_pos_iff.mpr hclosed
    have := hplace v
    split_ifs at this <;> omega
  · intro op hop token release slot p' new hphase hslot hadv
    have htoken : token = release := by
      have hwf := hs.op op hop
      simpa only [Op.Wf, hphase] using hwf
    simp only [advance, hphase, hslot] at hadv
    split_ifs at hadv with heq
    · -- the token of the slot is the timer's own
      right
      rw [← (hs.pool.slot _ _ hslot).token, heq, htoken]
    · left
      cases hadv
      exact hslot

/-- A session is used, kept, used again, and closed when it has been idle. -/
def reuseThenExpire : List (TaskLabel PoolRequest PoolEvent) :=
  [.arrive (.checkout { id := "office" }), .go 0 .ok, .go 0 .ok, .go 0 .ok, .go 0 .ok, .go 0 .ok,
    .arrive (.checkout { id := "office" }), .go 0 .ok, .go 0 .ok, .go 0 .ok, .go 0 .ok, .go 0 .ok,
    .go 1 .ok, .go 0 .ok]

theorem pool_accounting_reuseThenExpire : ∃ tr s,
    (SessionPool.ops fun _ => 0).Run tr s ∧ s.shared.closed.Nodup ∧
      s.tasks = [⟨"office", .expiring ⟨0, "office", 0⟩⟩] := by
  have hrun := TransitionSystem.run_of_replay
    (show (SessionPool.ops fun _ => 0).system.replay (SessionPool.ops fun _ => 0).system.init
      reuseThenExpire = some (_, _) from rfl)
  exact ⟨_, _, hrun, (pool_accounting hrun).2.1, rfl⟩

end

end SessionPool

end SwitchConfigurator
