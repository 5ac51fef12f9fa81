import SwitchConfigurator.Foundations.InPlace
import SwitchConfigurator.Models

/-!
# Error values

An `anyhow` error is the chain of its messages, the outermost context first. The rest is
`config/errors.rs`, the report on a switch that lacks required fields.
-/

namespace SwitchConfigurator

/-- The messages of an error, outermost first. -/
abbrev Error := List String

/-- `Result::with_context`. -/
def withContext {α : Type} (context : String) : Except Error α → Except Error α
  | .ok a => .ok a
  | .error e => .error (context :: e)

@[simp] theorem withContext_ok {α : Type} {context : String} {r : Except Error α} {a : α} :
    withContext context r = .ok a ↔ r = .ok a := by
  cases r <;> simp [withContext]

/-- A bind comes out well exactly if both parts do. -/
theorem bind_ok_iff {ε α β : Type} {x : Except ε α} {f : α → Except ε β} {b : β} :
    x >>= f = .ok b ↔ ∃ a, x = .ok a ∧ f a = .ok b := by
  cases x with
  | ok a => exact ⟨fun h => ⟨a, rfl, h⟩, fun ⟨_, ha, h⟩ => Except.ok.inj ha ▸ h⟩
  | error e =>
    constructor
    · intro h
      cases h
    · rintro ⟨a, h, -⟩
      cases h

/-- A list is collected into one result when each of its entries has one. -/
theorem mapM_ok_iff {ε α β : Type} {f : α → Except ε β} {l : List α} {l' : List β} :
    l.mapM f = .ok l' ↔ List.Forall₂ (fun a b => f a = .ok b) l l' := by
  induction l generalizing l' with
  | nil =>
    rw [List.mapM_nil, List.forall₂_nil_left_iff]
    exact ⟨fun h => (Except.ok.inj h).symm, fun h => congrArg Except.ok h.symm⟩
  | cons a l ih =>
    rw [List.mapM_cons, List.forall₂_cons_left_iff]
    cases hf : f a with
    | error e =>
      constructor
      · intro h
        cases h
      · rintro ⟨b, l', hb, -⟩
        cases hb
    | ok b =>
      cases hl : l.mapM f with
      | error e =>
        constructor
        · intro h
          cases h
        · rintro ⟨b, l', -, hl', -⟩
          rw [ih.mpr hl'] at hl
          cases hl
      | ok rest =>
        constructor
        · intro h
          cases h
          exact ⟨b, rest, rfl, ih.mp hl, rfl⟩
        · rintro ⟨b', rest', hb, hl', rfl⟩
          cases hb
          rw [ih.mpr hl'] at hl
          cases hl
          rfl

/-- A check of every entry passes when each of them passes. -/
theorem forM_ok_iff {ε α : Type} {f : α → Except ε Unit} {l : List α} :
    l.forM f = .ok () ↔ ∀ a ∈ l, f a = .ok () := by
  induction l with
  | nil => exact ⟨fun _ _ h => absurd h List.not_mem_nil, fun _ => rfl⟩
  | cons a l ih =>
    have hcons : (a :: l).forM f = f a >>= fun _ => l.forM f := rfl
    rw [hcons, List.forall_mem_cons, ← ih]
    cases hf : f a with
    | error e =>
      constructor
      · intro h
        cases h
      · rintro ⟨h, -⟩
        cases h
    | ok _ => exact ⟨fun h => ⟨rfl, h⟩, fun h => h.2⟩

/-- `Path::file_name`, or the whole path where there is none. -/
def fileName (path : String) : String :=
  let components := (path.toList.splitOn '/').filter fun c => c ≠ [] ∧ c ≠ ['.']
  match components.getLast? with
  | some c => if c = ['.', '.'] then path else String.ofList c
  | none => path

/-- A file that contributed to a switch, and what it provides. -/
structure ConfigSource where
  filePath : String
  priority : ℕ
  providesFields : List String
  deriving DecidableEq, Repr

structure SwitchValidationError where
  switchId : String
  missingFields : List String
  contributingSources : List ConfigSource
  deriving DecidableEq, Repr

namespace SwitchValidationError

def identityFields : List String := ["hostname", "model", "management_ip", "credentials"]

def getContextualHint (error : SwitchValidationError) : String :=
  let anySourceHasIdentity := error.contributingSources.any fun s =>
    s.providesFields.any identityFields.contains
  match error.contributingSources.length with
  | 0 => "This switch ID was not found in any config file. Check for typos in the 'id' field."
  | 1 => "Add the missing fields to your config file."
  | _ =>
    if !anySourceHasIdentity then
      "No config file provides identity fields (hostname, model, etc.). Check if switch ID matches between main config and folder configs."
    else
      "Identity fields are split across files but some are missing. Ensure all required fields exist in at least one config file."

def sourceSummary (source : ConfigSource) : String :=
  let fields := if source.providesFields.isEmpty then "empty"
    else ", ".intercalate source.providesFields
  s!"{fileName source.filePath} (priority {source.priority}, provides: {fields})"

def formatLogMessage (error : SwitchValidationError) : String :=
  let filenameContext := (error.contributingSources.head?.map fun s => fileName s.filePath).getD
    "unknown"
  let missing := ", ".intercalate error.missingFields
  let sources := "; ".intercalate (error.contributingSources.map sourceSummary)
  s!"Switch ID '{error.switchId}' (from {filenameContext}) missing required fields: {missing}. Contributing files: [{sources}]. Hint: {error.getContextualHint}"

end SwitchValidationError

end SwitchConfigurator
