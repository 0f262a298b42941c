import AnalysisSettings.Proofs.Json.Accepted
import AnalysisSettings.Proofs.Json.Record

/-!
# Readers accept nothing that breaks off

A reader is strict if it accepts no tree that has a fault for a reader that passes over it (`Strict`).
The readers of texts, flags and counts are strict, and those of lists, maps and records are if the
readers of their parts are: each of them follows its value to the closing bracket.

What a strict reader accepts as a payload is exactly the documents of the trees that it accepts
(`readPayload_eq_ok_iff`). If these are lists and objects only, the end of the document shows:
behind it only blanks may follow (`readPayload_append_blanks`, `readPayload_append_junk`). A number,
in contrast, could go on.
-/

namespace AnalysisSettings.Json

/-- The reader accepts no tree with a fault for a reader that passes over it. -/
def Strict {α : Type} (read : Tree → Except Fault α) : Prop :=
  ∀ ⦃t a⦄, read t = .ok a → t.skipFault? = none

/-- The reader accepts lists and objects only. -/
def Bracketing {α : Type} (read : Tree → Except Fault α) : Prop :=
  ∀ ⦃t a⦄, read t = .ok a → t.Bracketed

/-! ## Payloads -/

section Payload

variable {α : Type} {read : Tree → Except Fault α} {octets blanks junk : List UInt8} {a : α}

/-- **What is accepted**: the documents of the trees that the reader accepts, and nothing else. -/
theorem readPayload_eq_ok_iff (strict : Strict read) :
    readPayload read octets = .ok a ↔ ∃ t : Tree, t.Document octets ∧ read t = .ok a := by
  constructor
  · intro h
    rw [readPayload] at h
    split at h
    · cases h
    · next value =>
      split at h
      · next behind =>
        cases h
        obtain ⟨before, bs, blank, written, split⟩ := Tree.written_of_read rfl (strict value)
        obtain ⟨after, blank', split'⟩ := exists_blanks (Tree.read octets).rest
        rw [List.isEmpty_iff.mp behind, List.append_nil] at split'
        exact ⟨_, ⟨before, bs, after, blank, written, blank', split' ▸ split⟩, value⟩
      · cases h
  · rintro ⟨t, document, value⟩
    rw [readPayload_of_document document, value]

/-- Blanks may follow. -/
theorem readPayload_append_blanks (strict : Strict read) (h : readPayload read octets = .ok a)
    (blank : Blank blanks) : readPayload read (octets ++ blanks) = .ok a := by
  obtain ⟨t, ⟨before, bs, after, blank', written, blank'', rfl⟩, value⟩ :=
    (readPayload_eq_ok_iff strict).mp h
  have document : t.Document (before ++ (bs ++ after) ++ blanks) := by
    refine ⟨before, bs, after ++ blanks, blank', written, ?_, by simp⟩
    exact List.forall_mem_append.mpr ⟨blank'', blank⟩
  exact (readPayload_eq_ok_iff strict).mpr ⟨t, document, value⟩

/-- Something is left of octets that are not all blanks. -/
theorem skipBlanks_ne_nil (h : ¬ Blank junk) : skipBlanks junk ≠ [] := by
  intro nothing
  obtain ⟨blanks, blank, split⟩ := exists_blanks junk
  rw [nothing, List.append_nil] at split
  exact h (split ▸ blank)

/-- **Nothing else may follow** a list or an object. -/
theorem readPayload_append_junk (strict : Strict read) (bracketing : Bracketing read)
    (h : readPayload read octets = .ok a) (more : ¬ Blank junk) :
    readPayload read (octets ++ junk) = .error .trailingCharacters := by
  obtain ⟨t, ⟨before, bs, after, blank, written, blank', rfl⟩, value⟩ :=
    (readPayload_eq_ok_iff strict).mp h
  have taken : (Tree.read (before ++ (bs ++ after) ++ junk)).Is t (after ++ junk) := by
    rw [List.append_assoc, List.append_assoc]
    exact Tree.read_of_written written blank (.inl (bracketing value))
  obtain ⟨hvalue, hrest⟩ := Prod.mk.inj taken
  rw [readPayload, hvalue, hrest, value, skipBlanks_append blank']
  exact if_neg fun nothing => skipBlanks_ne_nil more (List.isEmpty_iff.mp nothing)

/-- Cutting a payload short, not only by blanks, leaves one that is refused. -/
theorem readPayload_cut (strict : Strict read) (bracketing : Bracketing read)
    (h : readPayload read (octets ++ junk) = .ok a) (more : ¬ Blank junk) (b : α) :
    readPayload read octets ≠ .ok b := by
  intro accepted
  rw [readPayload_append_junk strict bracketing accepted more] at h
  cases h

end Payload

/-! ## Readers of values without parts -/

/-- A literal that is a text has no fault. -/
theorem Literal.skipFault?_of_text {l : Literal} {text : String} (h : l.text = .ok text) :
    l.skipFault? = none := by
  rw [Literal.text] at h
  split at h
  · cases h
  · cases h
  · assumption

/-- A value of the wrong type is not accepted. -/
theorem Tree.mismatch_ne_ok {α : Type} (t : Tree) (expected : String) (a : α) :
    t.mismatch expected ≠ .ok a := by
  intro h
  obtain ⟨words, -, h⟩ := bind_eq_ok.mp h
  cases h

/-- A value that is accepted as a text has no fault. -/
theorem strict_asText : Strict Tree.asText := by
  intro t text h
  cases t with
  | string l => exact Literal.skipFault?_of_text h
  | _ => exact absurd h (Tree.mismatch_ne_ok _ _ _)

/-- A value that is accepted as a flag has no fault. -/
theorem strict_asFlag : Strict Tree.asFlag := by
  intro t b h
  cases t with
  | bool b => rfl
  | _ => exact absurd h (Tree.mismatch_ne_ok _ _ _)

/-- A value that is accepted as a count has no fault. -/
theorem strict_asCount : Strict Tree.asCount := by
  intro t n h
  cases t with
  | number n => rfl
  | _ => exact absurd h (Tree.mismatch_ne_ok _ _ _)

/-! ## Readers of values with parts -/

section Parts

variable {α β ρ τ : Type} {read : Tree → Except Fault α}

/-- What is done with an accepted value does not matter. -/
theorem Strict.map (strict : Strict read) (f : α → β) : Strict fun t => (read t).map f := by
  intro t b h
  obtain ⟨a, value, -⟩ := map_eq_ok.mp h
  exact strict value

/-- An optional value is accepted without a fault if it is where it is required. -/
theorem Strict.asOptional (strict : Strict read) : Strict (Tree.asOptional read) := by
  intro t a h
  rw [Tree.asOptional.eq_def] at h
  split at h
  · rfl
  · exact strict.map some h

/-- A list that ends without a fault for a strict reader has none for any. -/
theorem Items.skipFault?_of_listFault? {ending : Ending} (h : ending.listFault? = none) :
    (Items.finish ending).skipFault? = none := by
  cases ending with
  | closed => rfl
  | _ => cases h

/-- An object that ends without a fault for a strict reader has none for any. -/
theorem Members.skipFault?_of_objectFault? {ending : Ending} (h : ending.objectFault? = none) :
    (Members.finish ending).skipFault? = none := by
  cases ending with
  | closed => rfl
  | _ => cases h

/-- A list whose values are all read is read to its closing bracket. -/
theorem Items.skipFault?_of_values (strict : Strict read) {items : Items} {as : List α}
    (h : items.values read = .ok as) : items.skipFault? = none := by
  cases items with
  | finish ending =>
    rw [Items.values] at h
    split at h
    · cases h
    · exact Items.skipFault?_of_listFault? ‹_›
  | item value rest =>
    obtain ⟨a, first, h⟩ := bind_eq_ok.mp h
    obtain ⟨as', others, -⟩ := bind_eq_ok.mp h
    rw [Items.skipFault?, strict first, Option.none_or]
    exact skipFault?_of_values strict others

/-- A list is accepted without a fault if its items are. -/
theorem Strict.asList (strict : Strict read) : Strict (Tree.asList read) := by
  intro t as h
  cases t with
  | list items => exact Items.skipFault?_of_values strict h
  | _ => exact absurd h (Tree.mismatch_ne_ok _ _ _)

/-- A list is accepted only in brackets. -/
theorem bracketing_asList : Bracketing (Tree.asList read) := by
  intro t as h
  cases t with
  | list items => trivial
  | _ => exact absurd h (Tree.mismatch_ne_ok _ _ _)

/-- A map whose values are all read is read to its closing brace. -/
theorem Members.skipFault?_of_pairs (strict : Strict read) {members : Members}
    {as : List (String × α)} (h : members.pairs read = .ok as) : members.skipFault? = none := by
  cases members with
  | finish ending =>
    rw [Members.pairs] at h
    split at h
    · cases h
    · exact Members.skipFault?_of_objectFault? ‹_›
  | bare key cut =>
    obtain ⟨name, -, h⟩ := bind_eq_ok.mp h
    cases h
  | member key value rest =>
    obtain ⟨name, text, h⟩ := bind_eq_ok.mp h
    obtain ⟨a, first, h⟩ := bind_eq_ok.mp h
    obtain ⟨as', others, -⟩ := bind_eq_ok.mp h
    rw [Members.skipFault?, Literal.skipFault?_of_text text, strict first, Option.none_or,
      Option.none_or]
    exact skipFault?_of_pairs strict others

/-- An object with any keys is accepted without a fault if its values are. -/
theorem Strict.asMap (strict : Strict read) : Strict (Tree.asMap read) := by
  intro t as h
  cases t with
  | object members => exact Members.skipFault?_of_pairs strict h
  | _ => exact absurd h (Tree.mismatch_ne_ok _ _ _)

/-! ### Records

A record accepts members of other names, but only if they have no fault. -/

/-- Members that are collected have no fault, if none of the fields accepts one. -/
theorem Members.skipFault?_of_collect {fields : List (Field ρ)}
    (strict : ∀ f ∈ fields, ∀ parts, Strict (f.read · parts)) {members : Members} {parts parts' : ρ}
    (h : members.collect fields parts = .ok parts') : members.skipFault? = none := by
  cases members with
  | finish ending =>
    rw [Members.collect] at h
    split at h
    · cases h
    · exact Members.skipFault?_of_objectFault? ‹_›
  | bare key cut =>
    obtain ⟨name, -, h⟩ := bind_eq_ok.mp h
    split at h <;> cases h
  | member key value rest =>
    obtain ⟨name, text, h⟩ := bind_eq_ok.mp h
    rw [Members.skipFault?, Literal.skipFault?_of_text text, Option.none_or]
    split at h
    · -- the member of a field
      next f found =>
      split at h
      · cases h
      · obtain ⟨parts'', first, others⟩ := bind_eq_ok.mp h
        rw [strict f (List.mem_of_find?_eq_some found) parts first, Option.none_or]
        exact skipFault?_of_collect strict others
    · -- a member of another name, which is passed over
      split at h
      · cases h
      · next noFault =>
        rw [noFault, Option.none_or]
        exact skipFault?_of_collect strict h

/-- Items that are passed over without a fault have none. -/
theorem Items.skipFault?_of_surplusFault? {items : Items} (h : items.surplusFault? = none) :
    items.skipFault? = none := by
  rw [Items.surplusFault?.eq_def] at h
  split at h
  · rfl
  all_goals cases h

/-- Items that are collected have no fault, if none of the fields accepts one. -/
theorem Items.skipFault?_of_collect {expected : String} {fields : List (Field ρ)}
    (strict : ∀ f ∈ fields, ∀ parts, Strict (f.read · parts)) {index : Nat} {items : Items}
    {parts parts' : ρ} (h : items.collect expected fields index parts = .ok parts') :
    items.skipFault? = none := by
  induction fields generalizing index items parts with
  | nil =>
    rw [Items.collect.eq_def] at h
    dsimp only at h
    split at h
    · cases h
    · exact Items.skipFault?_of_surplusFault? ‹_›
  | cons f fields ih =>
    obtain ⟨strict, others⟩ := List.forall_mem_cons.mp strict
    cases items with
    | item value rest =>
      obtain ⟨parts'', first, h⟩ := bind_eq_ok.mp h
      rw [Items.skipFault?, strict parts first, Option.none_or]
      exact ih others h
    | finish ending =>
      rw [Items.collect.eq_def] at h
      dsimp only at h
      split at h
      · cases h
      · exact Items.skipFault?_of_listFault? ‹_›

/-- **A record is read strictly**, whether it is an object or a list. -/
theorem Shape.strict_read {s : Shape ρ τ}
    (strict : ∀ f ∈ s.fields, ∀ parts, Strict (f.read · parts)) : Strict s.read := by
  intro t a h
  cases t with
  | object members =>
    obtain ⟨parts, collected, -⟩ := bind_eq_ok.mp h
    exact Members.skipFault?_of_collect strict collected
  | list items =>
    obtain ⟨parts, collected, -⟩ := map_eq_ok.mp h
    exact Items.skipFault?_of_collect strict collected
  | _ => exact absurd h (Tree.mismatch_ne_ok _ _ _)

/-- A record is accepted only in brackets or braces. -/
theorem Shape.bracketing_read {s : Shape ρ τ} : Bracketing s.read := by
  intro t a h
  cases t with
  | object members => trivial
  | list items => trivial
  | _ => exact absurd h (Tree.mismatch_ne_ok _ _ _)

end Parts

end AnalysisSettings.Json
