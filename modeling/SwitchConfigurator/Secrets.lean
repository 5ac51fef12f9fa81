import Mathlib.Data.Finset.Insert
import Mathlib.Data.List.Sort
import SwitchConfigurator.Foundations.Document
import SwitchConfigurator.Foundations.Replacement
import SwitchConfigurator.Vendors.Redact

/-!
# Known secret values

`register_secret`, `scrub` and `scrub_json` of `secrets.rs`. The registered values are a hash set:
the order in which they come when they are looked through is any order.
-/

namespace SwitchConfigurator.Secrets

open Document Replacement

/-! ## Registering and scrubbing -/

def registerSecret (registry : Finset String) (value : String) : Finset String :=
  if value = "" then registry else insert value registry

def registered (values : List String) : Finset String := values.foldl registerSecret ∅

/-- An order in which the hash set is looked through. -/
def Iterates (registry : Finset String) (order : List String) : Prop :=
  order.Nodup ∧ ∀ secret, secret ∈ order ↔ secret ∈ registry

/-- The secrets in the text, longest first; those of one length keep their order. -/
def ordered (order : List String) (text : List Char) : List String :=
  (order.filter fun secret => decide (secret.toList <:+: text)).mergeSort fun secret other =>
    decide (other.utf8ByteSize ≤ secret.utf8ByteSize)

/-- `text` with every registered secret replaced by `<redacted>`. -/
def scrub (order : List String) (text : List Char) : List Char :=
  (ordered order text).foldl (fun out secret => replace secret.toList Redact.mask out) text

mutual

/-- `scrub` applied to every string inside a JSON value (keys untouched). -/
def scrubJson (order : List String) : Value → Value
  | .string s => .string (String.ofList (scrub order s.toList))
  | .sequence items => .sequence (scrubItems order items)
  | .mapping entries => .mapping (scrubEntries order entries)
  | other => other

def scrubItems (order : List String) : List Value → List Value
  | [] => []
  | item :: items => scrubJson order item :: scrubItems order items

def scrubEntries (order : List String) : Entries → Entries
  | [] => []
  | (key, value) :: entries => (key, scrubJson order value) :: scrubEntries order entries

end

/-! ## What scrubbing promises -/

/-- The place lies in an occurrence of a registered value. -/
def Covered (values : List String) (text : List Char) (i : ℕ) : Prop :=
  ∃ secret ∈ values, ∃ start, secret.toList <+: text.drop start ∧ start ≤ i ∧
    i < start + secret.toList.length

/-- No character of a secret is left, and every other character is. -/
def Scrubbed (values : List String) (text out : List Char) : Prop :=
  Replaced (Covered values text) Redact.mask 0 text out

mutual

/-- Two values that differ in their strings only, each of them related to the other one. -/
inductive Each (R : List Char → List Char → Prop) : Value → Value → Prop
  | null : Each R .null .null
  | bool {b} : Each R (.bool b) (.bool b)
  | integer {n} : Each R (.integer n) (.integer n)
  | float {text} : Each R (.float text) (.float text)
  | string {text out : String} (h : R text.toList out.toList) : Each R (.string text) (.string out)
  | sequence {items outs} (h : EachItem R items outs) : Each R (.sequence items) (.sequence outs)
  | mapping {entries outs} (h : EachEntry R entries outs) :
      Each R (.mapping entries) (.mapping outs)

inductive EachItem (R : List Char → List Char → Prop) : List Value → List Value → Prop
  | nil : EachItem R [] []
  | cons {item out items outs} (h : Each R item out) (hrest : EachItem R items outs) :
      EachItem R (item :: items) (out :: outs)

inductive EachEntry (R : List Char → List Char → Prop) : Entries → Entries → Prop
  | nil : EachEntry R [] []
  | cons {key value out entries outs} (h : Each R value out) (hrest : EachEntry R entries outs) :
      EachEntry R ((key, value) :: entries) ((key, out) :: outs)

end

/-- Scrubbing a text is complete, and neither the order in which the secrets were registered nor
the one in which they are looked through matters. -/
structure ScrubsText (values : List String) (text : List Char) : Prop where
  complete : ∀ order, Iterates (registered values) order → Scrubbed values text (scrub order text)
  orderFree : ∀ others : List String, (∀ value, value ∈ others ↔ value ∈ values) →
    ∀ order order', Iterates (registered values) order → Iterates (registered others) order' →
      scrub order' text = scrub order text

structure ScrubsJson (values : List String) (value : Value) : Prop where
  complete : ∀ order, Iterates (registered values) order →
    Each (Scrubbed values) value (scrubJson order value)
  orderFree : ∀ others : List String, (∀ value, value ∈ others ↔ value ∈ values) →
    ∀ order order', Iterates (registered values) order → Iterates (registered others) order' →
      scrubJson order' value = scrubJson order value

mutual

def strings : Value → List (List Char)
  | .string s => [s.toList]
  | .sequence items => itemStrings items
  | .mapping entries => entryStrings entries
  | _ => []

def itemStrings : List Value → List (List Char)
  | [] => []
  | item :: items => strings item ++ itemStrings items

def entryStrings : Entries → List (List Char)
  | [] => []
  | (_, value) :: entries => strings value ++ entryStrings entries

end

/-- The registered values that are in the text. -/
def present (values : List String) (text : List Char) : Set (List Char) :=
  {secret | secret ≠ [] ∧ secret <:+: text ∧ String.ofList secret ∈ values}

def byteSize (text : List Char) : ℕ := (String.ofList text).utf8ByteSize

/-- Secrets that share a character lie together in one, and no secret is found on a mask. -/
structure Separate (values : List String) (text : List Char) : Prop where
  nested : Nested (present values text) text
  undisturbed : Undisturbed Redact.mask byteSize (present values text) text

/-! ## The registry -/

section

variable {values order : List String} {text : List Char}

/-- A secret is registered unless it is empty. -/
theorem mem_registerSecret {registry : Finset String} {value secret : String} :
    secret ∈ registerSecret registry value ↔ (secret ≠ "" ∧ secret = value) ∨ secret ∈ registry := by
  rw [registerSecret]
  by_cases hempty : value = ""
  · rw [if_pos hempty]
    constructor
    · exact .inr
    · rintro (⟨hne, rfl⟩ | hmem)
      · exact absurd hempty hne
      · exact hmem
  · rw [if_neg hempty, Finset.mem_insert]
    constructor
    · rintro (rfl | hmem)
      · exact .inl ⟨hempty, rfl⟩
      · exact .inr hmem
    · exact Or.imp_left And.right

/-- The registered secrets are the values that are not empty. -/
theorem mem_registered {secret : String} :
    secret ∈ registered values ↔ secret ≠ "" ∧ secret ∈ values := by
  have hfold (registry : Finset String) : secret ∈ values.foldl registerSecret registry ↔
      (secret ≠ "" ∧ secret ∈ values) ∨ secret ∈ registry := by
    induction values generalizing registry with
    | nil => simp
    | cons value values ih =>
      rw [List.foldl_cons, ih, mem_registerSecret, List.mem_cons]
      tauto
  rw [registered, hfold]
  simp

theorem byteSize_append (text rest : List Char) :
    byteSize (text ++ rest) = byteSize text + byteSize rest := by
  rw [byteSize, String.ofList_append, String.utf8ByteSize_append]
  rfl

theorem byteSize_pos (hne : text ≠ []) : 0 < byteSize text := by
  rw [Nat.pos_iff_ne_zero, byteSize, ne_eq, String.utf8ByteSize_eq_zero_iff]
  intro hempty
  exact hne (by simpa using congrArg String.toList hempty)

/-- A text that is part of another has fewer bytes. -/
theorem sized_byteSize : Sized byteSize := by
  rintro word other ⟨front, behind, rfl⟩ hne
  rw [byteSize_append, byteSize_append]
  rcases List.eq_nil_or_concat front with rfl | ⟨front, c, rfl⟩
  · rcases List.eq_nil_or_concat behind with rfl | ⟨behind, c, rfl⟩
    · exact absurd (by simp) hne
    · have hpos : 0 < byteSize (behind.concat c) := byteSize_pos (by simp)
      omega
  · have hpos : 0 < byteSize (front.concat c) := byteSize_pos (by simp)
    omega

/-- The secrets that are replaced are those in the text. -/
theorem mem_ordered {secret : String} :
    secret ∈ ordered order text ↔ secret ∈ order ∧ secret.toList <:+: text := by
  rw [ordered, List.mem_mergeSort, List.mem_filter, decide_eq_true_iff]

theorem nodup_ordered (h : order.Nodup) : (ordered order text).Nodup :=
  (List.mergeSort_perm _ _).nodup_iff.mpr (h.filter _)

/-- They are replaced longest first. -/
theorem sorted_ordered : (ordered order text).Pairwise fun secret other =>
    other.utf8ByteSize ≤ secret.utf8ByteSize := by
  have hsorted : (ordered order text).Pairwise fun secret other =>
      decide (other.utf8ByteSize ≤ secret.utf8ByteSize) = true :=
    List.pairwise_mergeSort (fun secret other third h h' => by
      rw [decide_eq_true_iff] at h h' ⊢
      exact h'.trans h) (fun secret other => by
      rw [Bool.or_eq_true, decide_eq_true_iff, decide_eq_true_iff]
      exact Nat.le_total _ _) _
  exact hsorted.imp fun h => of_decide_eq_true h

/-- The secrets that are looked for are those that are in the text. -/
theorem mem_map_ordered (h : Iterates (registered values) order) (word : List Char) :
    word ∈ (ordered order text).map String.toList ↔ word ∈ present values text := by
  rw [List.mem_map]
  constructor
  · rintro ⟨secret, hsecret, rfl⟩
    obtain ⟨hin, hinfix⟩ := mem_ordered.mp hsecret
    obtain ⟨hne, hvalue⟩ := mem_registered.mp ((h.2 secret).mp hin)
    refine ⟨?_, hinfix, by rwa [String.ofList_toList]⟩
    rwa [ne_eq, String.toList_eq_nil_iff]
  · rintro ⟨hne, hinfix, hvalue⟩
    refine ⟨String.ofList word, mem_ordered.mpr ⟨?_, ?_⟩, String.toList_ofList⟩
    · refine (h.2 _).mpr (mem_registered.mpr ⟨?_, hvalue⟩)
      intro hempty
      exact hne (by simpa using congrArg String.toList hempty)
    · rwa [String.toList_ofList]

/-! ## Separate secrets -/

/-- Of separate secrets the outermost occurrences are masked. -/
theorem scrub_eq (hseparate : Separate values text) (h : Iterates (registered values) order) :
    scrub order text = masked Redact.mask (outermost (present values text) text) 0 text := by
  have hwords : {word | word ∈ (ordered order text).map String.toList} = present values text := by
    ext word
    exact mem_map_ordered h word
  have hfold : ((ordered order text).map String.toList).foldl
      (fun out secret => replace secret Redact.mask out) text = _ := foldl_replace sized_byteSize
    (fun word hword => ((mem_map_ordered h word).mp hword).1)
    ((nodup_ordered h.1).map fun _ _ => String.toList_injective)
    (List.pairwise_map.mpr (sorted_ordered.imp fun hle => by
      rwa [byteSize, byteSize, String.ofList_toList, String.ofList_toList]))
    (hwords ▸ hseparate.nested) (hwords ▸ hseparate.undisturbed)
  rw [hwords, List.foldl_map] at hfold
  exact hfold

/-- What the occurrences cover is what the secrets cover. -/
theorem coveredBy_occurrences :
    CoveredBy (occurrences (present values text) text) = Covered values text := by
  funext i
  refine propext ⟨?_, ?_⟩
  · rintro ⟨span, hspan, hstart, hend⟩
    have hlength := length_slice hspan
    refine ⟨String.ofList (span.slice text), hspan.2.2.2.2, span.start, ?_, hstart, ?_⟩
    · rw [String.toList_ofList]
      exact List.take_prefix _ _
    · rwa [String.toList_ofList, hlength]
  · rintro ⟨secret, hsecret, start, hprefix, hstart, hend⟩
    have hle := hprefix.length_le
    have hslice : Span.slice ⟨start, secret.toList.length⟩ text = secret.toList :=
      (List.prefix_iff_eq_take.mp hprefix).symm
    rw [List.length_drop] at hle
    refine ⟨⟨start, secret.toList.length⟩, ⟨by dsimp only; omega, by dsimp only; omega, ?_⟩,
      hstart, hend⟩
    rw [hslice]
    refine ⟨?_, hprefix.isInfix.trans (List.drop_suffix _ _).isInfix, by rwa [String.ofList_toList]⟩
    rintro hnil
    rw [hnil, List.length_nil] at hend
    omega

/-- So nothing of a secret is left, and all else is. -/
theorem scrubbed_scrub (hseparate : Separate values text)
    (h : Iterates (registered values) order) : Scrubbed values text (scrub order text) := by
  rw [Scrubbed, scrub_eq hseparate h, ← coveredBy_occurrences]
  exact replaced_outermost hseparate.nested

/-- So the order of the set makes no difference. -/
theorem scrub_orderFree (hseparate : Separate values text) {others order' : List String}
    (hothers : ∀ value, value ∈ others ↔ value ∈ values) (h : Iterates (registered values) order)
    (h' : Iterates (registered others) order') : scrub order' text = scrub order text := by
  have hsame : Iterates (registered values) order' := by
    refine ⟨h'.1, fun secret => ?_⟩
    rw [h'.2, mem_registered, mem_registered, hothers]
  rw [scrub_eq hseparate h, scrub_eq hseparate hsame]

/-! ## Inside a JSON value -/

mutual

/-- A JSON value is scrubbed string by string. -/
theorem each_scrubJson {R : List Char → List Char → Prop} :
    ∀ value : Value, (∀ text ∈ strings value, R text (scrub order text)) →
      Each R value (scrubJson order value)
  | .null, _ => .null
  | .bool _, _ => .bool
  | .integer _, _ => .integer
  | .float _, _ => .float
  | .string s, h => .string (by
      rw [String.toList_ofList]
      exact h s.toList List.mem_cons_self)
  | .sequence items, h => .sequence (eachItem_scrubItems items h)
  | .mapping entries, h => .mapping (eachEntry_scrubEntries entries h)

theorem eachItem_scrubItems {R : List Char → List Char → Prop} :
    ∀ items : List Value, (∀ text ∈ itemStrings items, R text (scrub order text)) →
      EachItem R items (scrubItems order items)
  | [], _ => .nil
  | item :: items, h =>
    .cons (each_scrubJson item fun text htext => h text (List.mem_append_left _ htext))
      (eachItem_scrubItems items fun text htext => h text (List.mem_append_right _ htext))

theorem eachEntry_scrubEntries {R : List Char → List Char → Prop} :
    ∀ entries : Entries, (∀ text ∈ entryStrings entries, R text (scrub order text)) →
      EachEntry R entries (scrubEntries order entries)
  | [], _ => .nil
  | (_, value) :: entries, h =>
    .cons (each_scrubJson value fun text htext => h text (List.mem_append_left _ htext))
      (eachEntry_scrubEntries entries fun text htext => h text (List.mem_append_right _ htext))

end

mutual

/-- Orders that scrub the strings alike scrub the value alike. -/
theorem scrubJson_congr {order' : List String} : ∀ value : Value,
    (∀ text ∈ strings value, scrub order' text = scrub order text) →
      scrubJson order' value = scrubJson order value
  | .null, _ | .bool _, _ | .integer _, _ | .float _, _ => rfl
  | .string s, h => by
    rw [scrubJson, scrubJson, h s.toList List.mem_cons_self]
  | .sequence items, h => by
    rw [scrubJson, scrubJson, scrubItems_congr items h]
  | .mapping entries, h => by
    rw [scrubJson, scrubJson, scrubEntries_congr entries h]

theorem scrubItems_congr {order' : List String} : ∀ items : List Value,
    (∀ text ∈ itemStrings items, scrub order' text = scrub order text) →
      scrubItems order' items = scrubItems order items
  | [], _ => rfl
  | item :: items, h => by
    rw [scrubItems, scrubItems,
      scrubJson_congr item fun text htext => h text (List.mem_append_left _ htext),
      scrubItems_congr items fun text htext => h text (List.mem_append_right _ htext)]

theorem scrubEntries_congr {order' : List String} : ∀ entries : Entries,
    (∀ text ∈ entryStrings entries, scrub order' text = scrub order text) →
      scrubEntries order' entries = scrubEntries order entries
  | [], _ => rfl
  | (_, value) :: entries, h => by
    rw [scrubEntries, scrubEntries,
      scrubJson_congr value fun text htext => h text (List.mem_append_left _ htext),
      scrubEntries_congr entries fun text htext => h text (List.mem_append_right _ htext)]

end

end

/-- Separate secrets are scrubbed completely and in any order, in a text and inside a JSON value. -/
theorem scrub_of_separate (values : List String) :
    (∀ text, Separate values text → ScrubsText values text) ∧
      ∀ value, (∀ text ∈ strings value, Separate values text) → ScrubsJson values value := by
  refine ⟨fun text hseparate => ⟨fun order h => scrubbed_scrub hseparate h, ?_⟩,
    fun value hseparate => ⟨fun order h => ?_, ?_⟩⟩
  · exact fun others hothers order order' h h' => scrub_orderFree hseparate hothers h h'
  · exact each_scrubJson value fun text htext => scrubbed_scrub (hseparate text htext) h
  · exact fun others hothers order order' h h' => scrubJson_congr value fun text htext =>
      scrub_orderFree (hseparate text htext) hothers h h'

/-- Secrets without a character of the mask, whose occurrences are apart or one inside the other. -/
theorem separate_of_spans {values : List String} {text : List Char} (spans : List Span)
    (hdisjoint : ∀ value ∈ values, ∀ c ∈ value.toList, c ∉ Redact.mask)
    (hoccurs : ∀ value ∈ values, ∀ start < text.length, value.toList <+: text.drop start →
      ⟨start, value.toList.length⟩ ∈ spans)
    (hinside : ∀ span ∈ spans, ∀ other ∈ spans, span.start + span.length ≤ other.start ∨
      other.start + other.length ≤ span.start ∨ span.Inside other ∨ other.Inside span) :
    Separate values text := by
  refine ⟨nested_of_inside (fun span hspan => ?_) hinside,
    undisturbed_of_disjoint (by decide) fun word hword => ⟨hword.1, fun c hc => ?_⟩⟩
  · obtain ⟨hpos, hfits, hpresent⟩ := hspan
    have hlength : (span.slice text).length = span.length := length_slice ⟨hpos, hfits, hpresent⟩
    have hmem := hoccurs _ hpresent.2.2 span.start (by omega)
    rw [String.toList_ofList, hlength] at hmem
    exact hmem (List.take_prefix _ _)
  · exact hdisjoint _ hword.2.2 c (by rwa [String.toList_ofList])

/-- The second one holds the first one. -/
def nestedSecrets : List String := ["Lin0", "Lin0psk9", "Pub7"]

/-- A secret inside another one, and one behind it. -/
theorem separate_nestedSecrets :
    Separate nestedSecrets "login Lin0psk9Pub7 of Lin0: failed".toList :=
  separate_of_spans [⟨6, 4⟩, ⟨6, 8⟩, ⟨14, 4⟩, ⟨22, 4⟩] (by decide) (by decide +kernel) (by decide)

/-- A secret inside another one with a third one right behind, in a text and in a JSON value. -/
theorem scrubs_nested :
    ScrubsText nestedSecrets "login Lin0psk9Pub7 of Lin0: failed".toList ∧
      ScrubsJson nestedSecrets (.mapping
        [("error", .string "login Lin0psk9Pub7 of Lin0: failed"), ("status", .integer 502)]) := by
  obtain ⟨htext, hjson⟩ := scrub_of_separate nestedSecrets
  refine ⟨htext _ separate_nestedSecrets, hjson _ fun text htext => ?_⟩
  obtain rfl := List.mem_singleton.mp htext
  exact separate_nestedSecrets

/-- A list of secrets is one order of their set. -/
theorem iterates_self {values : List String} (hnodup : values.Nodup) (hne : "" ∉ values) :
    Iterates (registered values) values := by
  refine ⟨hnodup, fun secret => ?_⟩
  rw [mem_registered]
  exact ⟨fun hmem => ⟨fun hempty => hne (hempty ▸ hmem), hmem⟩, And.right⟩

/-- Two secrets in a text are replaced one after the other, the longer first. -/
theorem scrub_pair (first second : String) {text : List Char} (h : first.toList <:+: text)
    (h' : second.toList <:+: text) (hsize : second.utf8ByteSize ≤ first.utf8ByteSize) :
    scrub [first, second] text =
      replace second.toList Redact.mask (replace first.toList Redact.mask text) := by
  rw [scrub, ordered]
  simp [h, h', List.mergeSort_of_pairwise, hsize]

/-- Of two secrets of one length that overlap, the one that comes first leaves a character of the
other, and the order decides which one. -/
theorem exists_not_scrubsText : ¬ScrubsText ["ab", "bc"] "abc".toList ∧
    ¬ScrubsJson ["ab", "bc"] (.string "abc") ∧
    scrub ["ab", "bc"] "abc".toList = "<redacted>c".toList ∧
    scrub ["bc", "ab"] "abc".toList = "a<redacted>".toList := by
  have hfirst : scrub ["ab", "bc"] "abc".toList = "<redacted>c".toList := by
    rw [scrub_pair _ _ (by decide) (by decide) (by decide)]
    decide
  have hsecond : scrub ["bc", "ab"] "abc".toList = "a<redacted>".toList := by
    rw [scrub_pair _ _ (by decide) (by decide) (by decide)]
    decide
  have hiterates : Iterates (registered ["ab", "bc"]) ["ab", "bc"] :=
    iterates_self (by decide) (by decide)
  have hiterates' : Iterates (registered ["ab", "bc"]) ["bc", "ab"] := by
    refine ⟨by decide, fun secret => ?_⟩
    rw [← hiterates.2 secret]
    exact (List.Perm.swap "ab" "bc" []).mem_iff
  refine ⟨fun h => ?_, fun h => ?_, hfirst, hsecond⟩
  · have hsame := h.orderFree _ (fun _ => Iff.rfl) _ _ hiterates' hiterates
    rw [hfirst, hsecond] at hsame
    exact absurd hsame (by decide)
  · have hsame := h.orderFree _ (fun _ => Iff.rfl) _ _ hiterates' hiterates
    rw [scrubJson, scrubJson] at hsame
    have htexts := String.ofList_injective (Value.string.inj hsame)
    rw [hfirst, hsecond] at htexts
    exact absurd htexts (by decide)

end SwitchConfigurator.Secrets
