import Mathlib.Algebra.GroupWithZero.Nat
import SwitchConfigurator.Ssh.PromptWait

/-!
# Slices of received text

The offsets of the slices count bytes, and a text is a list of characters of one to four bytes. A
slice of the last so many bytes exists where characters at the end of the text take exactly these
bytes.
-/

namespace SwitchConfigurator.Ssh

open Snmp (fromUtf8Lossy)
open Aruba (stripAnsi)

/-! ## Boundaries of characters -/

def byteCount (text : List Char) : ℕ := (text.map Char.utf8Size).sum

/-- A text has as many bytes as are written for it. -/
theorem length_utf8 (text : List Char) : (utf8 text).length = byteCount text := by
  rw [utf8, List.length_flatMap, byteCount]
  simp only [String.length_utf8EncodeChar]

/-- The byte starts a character. -/
def starts (b : UInt8) : Bool := b < 0x80 || 0xC0 ≤ b

/-- A character starts with a byte that continues none. -/
theorem starts_ofNat {n : ℕ} (h : n < 256) :
    starts (UInt8.ofNat n) = decide (n < 0x80 ∨ 0xC0 ≤ n) := by
  have hn : (UInt8.ofNat n).toNat = n := by
    rw [UInt8.toNat_ofNat']
    omega
  rw [starts, Bool.or_eq_decide]
  simp only [decide_eq_true_eq, UInt8.lt_iff_toNat_lt, UInt8.le_iff_toNat_le, hn]
  rfl

/-- The other bytes continue it. -/
theorem starts_tail (v : ℕ) : starts (UInt8.ofNat (v % 0x40 + 0x80)) = false := by
  rw [starts_ofNat (by omega), decide_eq_false_iff_not]
  omega

/-- Of the bytes of a character, the first one starts it. -/
theorem starts_utf8EncodeChar (c : Char) : ∃ b rest, String.utf8EncodeChar c = b :: rest ∧
    starts b = true ∧ ∀ b ∈ rest, starts b = false := by
  have hlead {n : ℕ} (h : n < 256) (hlead : n < 0x80 ∨ 0xC0 ≤ n) :
      starts (UInt8.ofNat n) = true := by
    rw [starts_ofNat h]
    exact decide_eq_true hlead
  rw [String.utf8EncodeChar]
  split
  · exact ⟨_, _, rfl, hlead (by omega) (by omega), List.forall_mem_nil _⟩
  · split
    · exact ⟨_, _, rfl, hlead (by omega) (by omega),
        List.forall_mem_singleton.mpr (starts_tail _)⟩
    · split
      · exact ⟨_, _, rfl, hlead (by omega) (by omega),
          List.forall_mem_cons.mpr ⟨starts_tail _, List.forall_mem_singleton.mpr (starts_tail _)⟩⟩
      · exact ⟨_, _, rfl, hlead (by omega) (by omega),
          List.forall_mem_cons.mpr ⟨starts_tail _, List.forall_mem_cons.mpr
            ⟨starts_tail _, List.forall_mem_singleton.mpr (starts_tail _)⟩⟩⟩

section Boundary

variable {text : List Char} {n : ℕ}

theorem utf8_cons (c : Char) (text : List Char) :
    utf8 (c :: text) = String.utf8EncodeChar c ++ utf8 text := rfl

/-- The first byte of a text starts a character, so it needs no case of its own. -/
theorem isCharBoundary_eq : isCharBoundary text n =
    (((utf8 text)[n]?.map starts).getD (n == (utf8 text).length)) := by
  rw [isCharBoundary]
  by_cases hzero : n = 0
  · rw [if_pos hzero, hzero]
    cases text with
    | nil => rfl
    | cons c text =>
      obtain ⟨b, rest, hbytes, hfirst, -⟩ := starts_utf8EncodeChar c
      rw [utf8_cons, hbytes, List.cons_append, List.getElem?_cons_zero, Option.map_some,
        Option.getD_some, hfirst]
  · rw [if_neg hzero]
    cases (utf8 text)[n]? <;> rfl

/-- The places where a character starts or the text ends are those that whole characters reach. -/
theorem isCharBoundary_iff : isCharBoundary text n = true ↔ ∃ k, byteCount (text.take k) = n := by
  induction text generalizing n with
  | nil =>
    have hnone (k : ℕ) : byteCount ([].take k) = 0 := by
      rw [List.take_nil]
      rfl
    simp only [hnone, exists_const]
    rw [isCharBoundary_eq]
    exact beq_iff_eq.trans eq_comm
  | cons c text ih =>
    obtain ⟨b, rest, hbytes, hfirst, hrest⟩ := starts_utf8EncodeChar c
    have hsize : c.utf8Size = rest.length + 1 := by
      rw [← String.length_utf8EncodeChar, hbytes, List.length_cons]
    have htake (k : ℕ) : byteCount ((c :: text).take (k + 1)) =
        rest.length + 1 + byteCount (text.take k) := by
      rw [List.take_succ_cons, byteCount, List.map_cons, List.sum_cons, hsize]
      rfl
    rcases Nat.lt_or_ge n (rest.length + 1) with hlt | hge
    · -- inside the bytes of the character, only its start is a boundary
      have hinside : (utf8 (c :: text))[n]? = (b :: rest)[n]? := by
        rw [utf8_cons, hbytes, List.getElem?_append_left (by simpa using hlt)]
      rw [isCharBoundary_eq, hinside]
      constructor
      · intro h
        cases n with
        | zero => exact ⟨0, rfl⟩
        | succ n =>
          have hn : n < rest.length := by omega
          rw [List.getElem?_cons_succ, List.getElem?_eq_getElem hn, Option.map_some,
            Option.getD_some, hrest _ (List.getElem_mem hn)] at h
          cases h
      · rintro ⟨k, hk⟩
        cases k with
        | zero =>
          obtain rfl : 0 = n := hk
          exact hfirst
        | succ k =>
          rw [htake] at hk
          omega
    · -- behind it, the boundaries are those of the rest
      obtain ⟨m, rfl⟩ := Nat.exists_eq_add_of_le hge
      have hbehind : (utf8 (c :: text))[rest.length + 1 + m]? = (utf8 text)[m]? := by
        rw [utf8_cons, hbytes, List.getElem?_append_right (by simp), List.length_cons,
          Nat.add_sub_cancel_left]
      have hlength : (utf8 (c :: text)).length = rest.length + 1 + (utf8 text).length := by
        rw [utf8_cons, hbytes, List.length_append, List.length_cons]
      have hsame : isCharBoundary (c :: text) (rest.length + 1 + m) = isCharBoundary text m := by
        rw [isCharBoundary_eq, isCharBoundary_eq, hbehind, hlength]
        congr 1
        rw [Bool.eq_iff_iff, beq_iff_eq, beq_iff_eq]
        omega
      rw [hsame, ih]
      constructor
      · rintro ⟨k, hk⟩
        exact ⟨k + 1, by rw [htake, hk]⟩
      · rintro ⟨k, hk⟩
        cases k with
        | zero =>
          rw [List.take_zero] at hk
          have hzero : byteCount [] = 0 := rfl
          omega
        | succ k =>
          rw [htake] at hk
          exact ⟨k, by omega⟩

/-! ## Slices -/

/-- The text is at most `n` bytes long, or some of its last characters take exactly `n`. -/
def LastCharsTake (n : ℕ) (text : List Char) : Prop :=
  byteCount text ≤ n ∨ ∃ k, byteCount (text.drop k) = n

/-- The text is at most `n` bytes long, or some of its first characters take exactly `n`. -/
def FirstCharsTake (n : ℕ) (text : List Char) : Prop :=
  byteCount text ≤ n ∨ ∃ k, byteCount (text.take k) = n

theorem byteCount_take_add_drop (k : ℕ) (text : List Char) :
    byteCount (text.take k) + byteCount (text.drop k) = byteCount text := by
  rw [byteCount, byteCount, byteCount, ← List.sum_append, ← List.map_append, List.take_append_drop]

/-- A slice from the end is possible exactly if a character begins there. -/
theorem canSliceLast_iff : canSliceLast n text = true ↔ LastCharsTake n text := by
  rw [canSliceLast, isCharBoundary_iff, length_utf8, LastCharsTake]
  rcases Nat.le_total (byteCount text) n with hle | hle
  · refine ⟨fun _ => .inl hle, fun _ => ⟨0, ?_⟩⟩
    rw [Nat.sub_eq_zero_of_le hle]
    rfl
  · constructor
    · rintro ⟨k, hk⟩
      have hsum := byteCount_take_add_drop k text
      exact .inr ⟨k, by omega⟩
    · rintro (hshort | ⟨k, hk⟩)
      · refine ⟨0, ?_⟩
        rw [Nat.sub_eq_zero_of_le hshort]
        rfl
      · have hsum := byteCount_take_add_drop k text
        exact ⟨k, by omega⟩

/-- One from the start is possible exactly if a character ends there. -/
theorem canSliceFirst_iff : canSliceFirst n text = true ↔ FirstCharsTake n text := by
  rw [canSliceFirst, isCharBoundary_iff, length_utf8, FirstCharsTake]
  rcases Nat.le_total (byteCount text) n with hle | hle
  · rw [Nat.min_eq_left hle]
    refine ⟨fun _ => .inl hle, fun _ => ⟨text.length, ?_⟩⟩
    rw [List.take_length]
  · rw [Nat.min_eq_right hle]
    refine ⟨.inr, ?_⟩
    rintro (hshort | h)
    · refine ⟨text.length, ?_⟩
      rw [List.take_length]
      omega
    · exact h

end Boundary

/-! ## Runs -/

/-- What is received ends in characters that take exactly as many bytes as the event prints. -/
def Fits (client : Client) (wait : Wait) : Event → Prop
  | .timeout => LastCharsTake 200 (clean wait.output)
  | .data chunk _ =>
    (client = .serial ∧ chunk = []) ∨ LastCharsTake 100 (fromUtf8Lossy (wait.output ++ chunk))
  | _ => True

section Runs

variable {isWord : Char → Bool} {client : Client} {wait : Wait} {event : Event}

/-- An answer slices nothing. -/
theorem answer_ne_panicked {key : Answer} {sent : Bool} {output : List UInt8} :
    (answer key sent output).2 ≠ .panicked := by
  rw [answer]
  cases sent <;> exact fun h => nomatch h

/-- Data panics exactly if the last hundred bytes begin inside a character. -/
theorem onData_panicked_iff {output : List UInt8} {sent : Bool} :
    (onData isWord output sent).2 = .panicked ↔ ¬LastCharsTake 100 (fromUtf8Lossy output) := by
  rw [← canSliceLast_iff, Bool.not_eq_true, onData]
  by_cases hslice : canSliceLast 100 (fromUtf8Lossy output) = false
  · rw [if_pos hslice]
    exact ⟨fun _ => hslice, fun _ => rfl⟩
  · rw [if_neg hslice]
    refine ⟨fun h => ?_, fun h => absurd h hslice⟩
    split at h
    · exact absurd h answer_ne_panicked
    split at h
    · exact absurd h answer_ne_panicked
    split at h <;> exact nomatch h

/-- An idle look slices nothing. -/
theorem onIdle_ne_panicked {output : List UInt8} {sent : Bool} :
    (onIdle isWord client output sent).2 ≠ .panicked := by
  rw [onIdle]
  intro h
  split at h
  · exact absurd h answer_ne_panicked
  split at h
  · exact absurd h answer_ne_panicked
  split at h <;> exact nomatch h

/-- One event panics where a character lies across the start of what it prints. -/
theorem step_panicked_iff : (step isWord client wait event).2 = .panicked ↔
    ¬Fits client wait event := by
  cases event with
  | timeout =>
    rw [step, Fits, ← canSliceLast_iff]
    by_cases hslice : canSliceLast 200 (clean wait.output) = true <;> simp [hslice]
  | settled =>
    rw [step]
    refine ⟨fun h => ?_, fun h => absurd trivial h⟩
    split at h <;> exact nomatch h
  | data chunk sent =>
    rw [step, Fits]
    by_cases hempty : client = .serial ∧ chunk = []
    · rw [if_pos (by simp [hempty])]
      refine ⟨fun h => (nomatch h), fun h => absurd ?_ h⟩
      exact Or.inl hempty
    · rw [if_neg (by simpa using hempty), onData_panicked_iff, or_iff_right hempty]
  | quiet => exact ⟨fun h => (nomatch h), fun h => absurd trivial h⟩
  | idle sent =>
    rw [step]
    refine ⟨fun h => ?_, fun h => absurd trivial h⟩
    split at h
    · exact nomatch h
    · exact absurd h onIdle_ne_panicked
  | closed => exact ⟨fun h => (nomatch h), fun h => absurd trivial h⟩

theorem waitForPrompt_cons_waiting {events : List Event} {next : Wait}
    (h : (step isWord client wait event).2 = .waiting next) :
    (waitForPrompt isWord client wait (event :: events)).2 =
      (waitForPrompt isWord client next events).2 := by
  rw [waitForPrompt]
  rcases hstep : step isWord client wait event with ⟨key, status⟩
  rw [hstep] at h
  dsimp only at h
  subst h
  rfl

theorem waitForPrompt_cons_of_left {events : List Event}
    (h : ∀ next, (step isWord client wait event).2 ≠ .waiting next) :
    (waitForPrompt isWord client wait (event :: events)).2 =
      (step isWord client wait event).2 := by
  rw [waitForPrompt]
  rcases hstep : step isWord client wait event with ⟨key, status⟩
  rw [hstep] at h
  cases status with
  | waiting next => exact absurd rfl (h next)
  | returned text => rfl
  | failed => rfl
  | panicked => rfl

/-- A run panics at the first event that does not fit. -/
theorem waitForPrompt_panicked_iff {events : List Event} :
    (waitForPrompt isWord client wait events).2 = .panicked ↔
      ∃ seen event rest reached, events = seen ++ event :: rest ∧
        (waitForPrompt isWord client wait seen).2 = .waiting reached ∧
          ¬Fits client reached event := by
  induction events generalizing wait with
  | nil =>
    constructor
    · exact fun h => nomatch h
    · rintro ⟨seen, event, rest, reached, h, -⟩
      cases seen <;> cases h
  | cons event events ih =>
    -- the first event: the loop goes on behind it, or this is where it ends
    by_cases hwaiting : ∃ next, (step isWord client wait event).2 = .waiting next
    · obtain ⟨next, hnext⟩ := hwaiting
      rw [waitForPrompt_cons_waiting hnext, ih]
      constructor
      · rintro ⟨seen, other, rest, reached, rfl, hseen, hfits⟩
        refine ⟨event :: seen, other, rest, reached, rfl, ?_, hfits⟩
        rw [waitForPrompt_cons_waiting hnext, hseen]
      · rintro ⟨seen, other, rest, reached, h, hseen, hfits⟩
        cases seen with
        | nil =>
          obtain ⟨rfl, rfl⟩ := List.cons.inj h
          obtain rfl := Status.waiting.inj hseen
          have hpanicked := (@step_panicked_iff isWord _ _ _).mpr hfits
          rw [hnext] at hpanicked
          cases hpanicked
        | cons first seen =>
          obtain ⟨rfl, rfl⟩ := List.cons.inj h
          rw [waitForPrompt_cons_waiting hnext] at hseen
          exact ⟨seen, other, rest, reached, rfl, hseen, hfits⟩
    · have hleft : ∀ next, (step isWord client wait event).2 ≠ .waiting next :=
        fun next h => hwaiting ⟨next, h⟩
      rw [waitForPrompt_cons_of_left hleft, step_panicked_iff]
      constructor
      · exact fun hfits => ⟨[], event, events, wait, rfl, rfl, hfits⟩
      · rintro ⟨seen, other, rest, reached, h, hseen, hfits⟩
        cases seen with
        | nil =>
          obtain ⟨rfl, rfl⟩ := List.cons.inj h
          obtain rfl := Status.waiting.inj hseen
          exact hfits
        | cons first seen =>
          obtain ⟨rfl, rfl⟩ := List.cons.inj h
          rw [waitForPrompt_cons_of_left hleft] at hseen
          -- the loop never came past the first event
          exact absurd hseen (hleft reached)

/-- The warning that no prompt shows is reached. -/
def Warns (text : List Char) : Prop :=
  text ≠ [] ∧ '#' ∉ text ∧ '>' ∉ text ∧ ¬"Password:".toList <:+: text ∧
    ¬"login:".toList <:+: text ∧ ¬"Username:".toList <:+: text

/-- The check panics exactly if it warns and its slice ends inside a character. -/
theorem verifyConnectivity_panicked_iff {chunks : List (List UInt8)} :
    verifyConnectivity chunks = .panicked ↔
      Warns (trim (stripAnsi (chunks.flatMap fromUtf8Lossy))) ∧
        ¬FirstCharsTake 200 (trim (stripAnsi (chunks.flatMap fromUtf8Lossy))) := by
  rw [verifyConnectivity, ← canSliceFirst_iff, Warns]
  generalize trim (stripAnsi (chunks.flatMap fromUtf8Lossy)) = text
  constructor
  · intro h
    split at h
    · cases h
    next hempty =>
    split at h
    · cases h
    next hprompt =>
    split at h
    · cases h
    next hlogin =>
    split at h
    · cases h
    next hslice =>
    rw [List.isEmpty_iff] at hempty
    push Not at hprompt hlogin
    exact ⟨⟨hempty, hprompt.1, hprompt.2, hlogin⟩, hslice⟩
  · rintro ⟨⟨hempty, hhash, hangle, hpassword, hlogin, huser⟩, hslice⟩
    rw [if_neg (by rwa [List.isEmpty_iff]), if_neg (by tauto), if_neg (by tauto), if_neg hslice]

end Runs

/-- No slice panics, on either client, exactly when every event that prints one finds characters at
the end of the text that take its bytes, and the warning finds them at the start of its text. -/
theorem reading_never_panics_iff (isWord : Char → Bool) :
    (∀ client events, (waitForPrompt isWord client {} events).2 ≠ .panicked ↔
      ∀ seen event rest reached, events = seen ++ event :: rest →
        (waitForPrompt isWord client {} seen).2 = .waiting reached → Fits client reached event) ∧
      ∀ chunks, verifyConnectivity chunks ≠ .panicked ↔
        (Warns (trim (stripAnsi (chunks.flatMap fromUtf8Lossy))) →
          FirstCharsTake 200 (trim (stripAnsi (chunks.flatMap fromUtf8Lossy)))) := by
  refine ⟨fun client events => ?_, fun chunks => ?_⟩
  · rw [ne_eq, waitForPrompt_panicked_iff]
    constructor
    · intro h seen event rest reached hevents hseen
      by_contra hfits
      exact h ⟨seen, event, rest, reached, hevents, hseen, hfits⟩
    · rintro h ⟨seen, event, rest, reached, hevents, hseen, hfits⟩
      exact hfits (h seen event rest reached hevents hseen)
  · rw [ne_eq, verifyConnectivity_panicked_iff, not_and, not_not]

/-- Bytes that are no UTF-8 are read as three bytes each. -/
def noise (n : ℕ) : List UInt8 := List.replicate n 0xFF

/-- Thirty-four such bytes are enough while data is read, one that stands before 199 others when
the time is over, sixty-seven when the connection is verified. -/
theorem exists_reading_panics :
    (∀ client, (waitForPrompt Char.isAlphanum client {} [.data (noise 34) true]).2 = .panicked) ∧
      (∀ client, (waitForPrompt Char.isAlphanum client {}
        [.data (noise 1 ++ List.replicate 199 0x78) true, .timeout]).2 = .panicked) ∧
      verifyConnectivity [noise 67] = .panicked := by
  refine ⟨?_, ?_, ?_⟩
  · rintro (_ | _) <;> decide +kernel
  · rintro (_ | _) <;> decide +kernel
  · decide +kernel

end SwitchConfigurator.Ssh
