import AnalysisSettings.Json.Record
import AnalysisSettings.Proofs.Json.Literal
import AnalysisSettings.Proofs.Json.Number

/-!
# The grammar of payloads, and that the reader follows it

`Tree.Written` relates a tree to the octets of the value it stands for, with blanks wherever the
format allows them. `Tree.Document` adds the blanks around a whole payload.

The main statement is `readPayload_of_document`: reading a payload is reading the tree that is written
in it. Below it stands `Tree.read_of_written`, an induction over the tree. Its invariant is that the
reader of a value stops right behind the value, whatever blank, comma or bracket follows; each shape of
tree has one step lemma, which says what the reader does once the parts are read.
-/

namespace AnalysisSettings.Json

/-! ## The grammar -/

/-- The octets are blanks. -/
def Blank (bs : List UInt8) : Prop := ∀ b ∈ bs, isBlankOctet b = true

instance (bs : List UInt8) : Decidable (Blank bs) :=
  List.decidableBAll _ _

mutual

/-- The octets are the value, without blanks around it. -/
inductive Tree.Written : Tree → List UInt8 → Prop
  | nullWord : Tree.Written .null (ascii ['n', 'u', 'l', 'l'])
  | trueWord : Tree.Written (.bool true) (ascii ['t', 'r', 'u', 'e'])
  | falseWord : Tree.Written (.bool false) (ascii ['f', 'a', 'l', 's', 'e'])
  | number {n : NumberText} {bs : List UInt8} (h : n.Written bs) : Tree.Written (.number n) bs
  | string {l : Literal} {bs : List UInt8} (h : l.Written bs) :
      Tree.Written (.string l) (0x22 :: bs)
  | emptyList {blanks : List UInt8} (h : Blank blanks) :
      Tree.Written (.list (.finish .closed)) (0x5B :: (blanks ++ [0x5D]))
  | list {items : Items} {bs : List UInt8} (h : items.Written bs) :
      Tree.Written (.list items) (0x5B :: bs)
  | emptyObject {blanks : List UInt8} (h : Blank blanks) :
      Tree.Written (.object (.finish .closed)) (0x7B :: (blanks ++ [0x7D]))
  | object {members : Members} {blanks bs : List UInt8} (before : Blank blanks)
      (h : members.Written bs) : Tree.Written (.object members) (0x7B :: (blanks ++ 0x22 :: bs))

/-- The octets are at least one value and the closing bracket. -/
inductive Items.Written : Items → List UInt8 → Prop
  | item {value : Tree} {rest : Items} {before bs after tail : List UInt8} (blank : Blank before)
      (h : value.Written bs) (blank' : Blank after) (ending : rest.Tail tail) :
      Items.Written (.item value rest) (before ++ (bs ++ (after ++ tail)))

/-- The octets are what follows a value of a list: the closing bracket, or a comma and more values. -/
inductive Items.Tail : Items → List UInt8 → Prop
  | closed : Items.Tail (.finish .closed) [0x5D]
  | comma {rest : Items} {bs : List UInt8} (h : rest.Written bs) : Items.Tail rest (0x2C :: bs)

/-- The octets are at least one member, without the quote that opens its key, and the closing
brace. -/
inductive Members.Written : Members → List UInt8 → Prop
  | member {key : Literal} {value : Tree} {rest : Members}
      {name behind before bs after tail : List UInt8} (k : key.Written name) (blank : Blank behind)
      (blank' : Blank before) (h : value.Written bs) (blank'' : Blank after)
      (ending : rest.Tail tail) :
      Members.Written (.member key value rest)
        (name ++ (behind ++ 0x3A :: (before ++ (bs ++ (after ++ tail)))))

/-- The octets are what follows a member: the closing brace, or a comma and more members. -/
inductive Members.Tail : Members → List UInt8 → Prop
  | closed : Members.Tail (.finish .closed) [0x7D]
  | comma {rest : Members} {blanks bs : List UInt8} (before : Blank blanks)
      (h : rest.Written bs) : Members.Tail rest (0x2C :: (blanks ++ 0x22 :: bs))

end

/-- The octets are a payload: the value of the tree between blanks. -/
def Tree.Document (t : Tree) (octets : List UInt8) : Prop :=
  ∃ before bs after, Blank before ∧ t.Written bs ∧ Blank after ∧ octets = before ++ (bs ++ after)

/-! ### Writing without blanks and escapes -/

/-- A text without escapes is written between quotes. -/
theorem Tree.Written.plain {text : String} (h : NoEscapes text) :
    Tree.Written (.string (.plain text)) (0x22 :: (Utf8.encode text ++ [0x22])) :=
  .string (Literal.written_plain h)

/-- Values of a list without blanks around them. -/
theorem Items.Written.tight {value : Tree} {rest : Items} {bs tail : List UInt8}
    (h : value.Written bs) (ending : rest.Tail tail) :
    Items.Written (.item value rest) (bs ++ tail) :=
  .item (List.forall_mem_nil _) h (List.forall_mem_nil _) ending

/-- Members of an object without blanks around them; their keys need no escapes. -/
theorem Members.Written.tight {name : String} {value : Tree} {rest : Members}
    {bs tail : List UInt8} (k : NoEscapes name) (h : value.Written bs) (ending : rest.Tail tail) :
    Members.Written (.member (.plain name) value rest)
      (Utf8.encode name ++ [0x22] ++ 0x3A :: (bs ++ tail)) :=
  .member (Literal.written_plain k) (List.forall_mem_nil _) (List.forall_mem_nil _) h
    (List.forall_mem_nil _) ending

/-- A comma and the next member without a blank between them. -/
theorem Members.Tail.tight {rest : Members} {bs : List UInt8} (h : rest.Written bs) :
    rest.Tail (0x2C :: 0x22 :: bs) :=
  .comma (List.forall_mem_nil _) h

/-- An object without a blank behind its brace. -/
theorem Tree.Written.tightObject {members : Members} {bs : List UInt8} (h : members.Written bs) :
    Tree.Written (.object members) (0x7B :: 0x22 :: bs) :=
  .object (List.forall_mem_nil _) h

/-! ## Blanks and delimiters -/

/-- Blanks in front are skipped. -/
theorem skipBlanks_append {blanks : List UInt8} (h : Blank blanks) (rest : List UInt8) :
    skipBlanks (blanks ++ rest) = skipBlanks rest :=
  List.dropWhile_append_of_pos h

/-- Nothing is skipped in front of an octet that is no blank. -/
theorem skipBlanks_cons {b : UInt8} (h : isBlankOctet b = false) (rest : List UInt8) :
    skipBlanks (b :: rest) = b :: rest := by
  rw [skipBlanks, List.dropWhile_cons_of_neg (by rw [h]; exact Bool.false_ne_true)]

/-- Nothing is left of octets that are all blanks. -/
theorem skipBlanks_blank {blanks : List UInt8} (h : Blank blanks) : skipBlanks blanks = [] :=
  (congrArg skipBlanks (List.append_nil blanks)).symm.trans (skipBlanks_append h [])

/-- What may follow a value: nothing, a blank, a comma or a closing bracket. -/
def Delimited (bs : List UInt8) : Prop :=
  ∀ b ∈ bs.head?, isBlankOctet b = true ∨ b = 0x2C ∨ b = 0x5D ∨ b = 0x7D

/-- A number ends where any value may end. -/
theorem Delimited.endsNumber {bs : List UInt8} (h : Delimited bs) : EndsNumber bs := by
  have blank : ∀ b, isBlankOctet b = true → b = 0x20 ∨ b = 0x09 ∨ b = 0x0A ∨ b = 0x0D := by
    intro b hb
    simpa [isBlankOctet, or_assoc] using hb
  intro b hb
  rcases h b hb with hb | rfl | rfl | rfl
  · rcases blank b hb with rfl | rfl | rfl | rfl <;> decide
  · decide
  · decide
  · decide

/-- Blanks behind a value do not matter. -/
theorem delimited_append {blanks rest : List UInt8} (h : Blank blanks) (hrest : Delimited rest) :
    Delimited (blanks ++ rest) := by
  cases blanks with
  | nil => exact hrest
  | cons b blanks =>
    intro c hc
    cases hc
    exact .inl (h b List.mem_cons_self)

/-- A value of a list may end in front of what follows it there. -/
theorem Items.Tail.delimited {items : Items} {bs : List UInt8} (h : items.Tail bs)
    (rest : List UInt8) : Delimited (bs ++ rest) := by
  cases h <;> · intro b hb; cases hb; decide

/-- A value of an object may end in front of what follows it there. -/
theorem Members.Tail.delimited {members : Members} {bs : List UInt8} (h : members.Tail bs)
    (rest : List UInt8) : Delimited (bs ++ rest) := by
  cases h <;> · intro b hb; cases hb; decide

/-! ## One step of the reader

The first lemmas unfold the readers where the next octet behind the blanks is known. The others
follow the grammar: what is read, once the parts are read. -/

/-- The value was taken, and the reader stopped before `rest`. -/
def Taken.Is {α : Type} {octets : List UInt8} (taken : Taken α octets) (value : α)
    (rest : List UInt8) : Prop :=
  (taken.value, taken.rest) = (value, rest)

section Steps

variable {octets after after' mid behind next rest : List UInt8} {b : UInt8} {value : Tree}
  {items : Items} {members : Members} {key : Literal}

/-- Where only blanks are left there is no value. -/
theorem Tree.read_nil (h : skipBlanks octets = []) :
    ((Tree.read octets).value, (Tree.read octets).rest) = (.missing .nothing, []) := by
  rw [Tree.read]
  split
  · rfl
  · next heq =>
    rw [h] at heq
    cases heq

/-- The first octet of a value decides between a list, an object and the rest. -/
theorem Tree.read_cons (h : skipBlanks octets = b :: after) :
    ((Tree.read octets).value, (Tree.read octets).rest) =
      if b = 0x5B then (.list (Items.read after).value, (Items.read after).rest)
      else if b = 0x7B then (.object (Members.read after).value, (Members.read after).rest)
      else ((readScalar b after).value, (readScalar b after).rest) := by
  rw [Tree.read]
  split
  · next heq =>
    rw [h] at heq
    cases heq
  · next heq =>
    rw [h] at heq
    cases heq
    split
    · rfl
    · split <;> rfl

/-- A list breaks off behind its opening bracket. -/
theorem Items.read_nil (h : skipBlanks octets = []) :
    ((Items.read octets).value, (Items.read octets).rest) = (.finish .cut, []) := by
  rw [Items.read]
  split
  · rfl
  · next heq =>
    rw [h] at heq
    cases heq

/-- A list ends right behind its opening bracket, or has a value there. -/
theorem Items.read_cons (h : skipBlanks octets = b :: after) :
    ((Items.read octets).value, (Items.read octets).rest) =
      if b = 0x5D then (.finish .closed, after)
      else ((Items.readFrom octets).value, (Items.readFrom octets).rest) := by
  rw [Items.read]
  split
  · next heq =>
    rw [h] at heq
    cases heq
  · next heq =>
    rw [h] at heq
    cases heq
    split <;> rfl

/-- An object breaks off behind its opening brace. -/
theorem Members.read_nil (h : skipBlanks octets = []) :
    ((Members.read octets).value, (Members.read octets).rest) = (.finish .cut, []) := by
  rw [Members.read]
  split
  · rfl
  · next heq =>
    rw [h] at heq
    cases heq

/-- An object ends right behind its opening brace, or has a key there. -/
theorem Members.read_cons (h : skipBlanks octets = b :: after) :
    ((Members.read octets).value, (Members.read octets).rest) =
      if b = 0x7D then (.finish .closed, after)
      else if b = 0x22 then ((Members.readFrom after).value, (Members.readFrom after).rest)
      else (.finish .noKey, after) := by
  rw [Members.read]
  split
  · next heq =>
    rw [h] at heq
    cases heq
  · next heq =>
    rw [h] at heq
    cases heq
    split
    · rfl
    · split <;> rfl

/-- A list is read once its items are. -/
theorem Tree.read_list (h : skipBlanks octets = 0x5B :: after)
    (inner : (Items.read after).Is items rest) : (Tree.read octets).Is (.list items) rest := by
  obtain ⟨rfl, rfl⟩ := Prod.mk.inj inner
  rw [Taken.Is, Tree.read_cons h, if_pos rfl]

/-- An object is read once its members are. -/
theorem Tree.read_object (h : skipBlanks octets = 0x7B :: after)
    (inner : (Members.read after).Is members rest) :
    (Tree.read octets).Is (.object members) rest := by
  obtain ⟨rfl, rfl⟩ := Prod.mk.inj inner
  rw [Taken.Is, Tree.read_cons h, if_neg (by decide), if_pos rfl]

/-- Any other value is read as the scalar it begins like. -/
theorem Tree.read_scalar (h : skipBlanks octets = b :: after) (noList : b ≠ 0x5B)
    (noObject : b ≠ 0x7B) (inner : (readScalar b after).Is value rest) :
    (Tree.read octets).Is value rest := by
  rw [Taken.Is, Tree.read_cons h, if_neg noList, if_neg noObject]
  exact inner

/-- The empty list. -/
theorem Items.read_closed (h : skipBlanks octets = 0x5D :: rest) :
    (Items.read octets).Is (.finish .closed) rest := by
  rw [Taken.Is, Items.read_cons h, if_pos rfl]

/-- A list with at least one value. -/
theorem Items.read_values (h : skipBlanks octets = b :: after) (noClose : b ≠ 0x5D)
    (inner : (Items.readFrom octets).Is items rest) : (Items.read octets).Is items rest := by
  rw [Taken.Is, Items.read_cons h, if_neg noClose]
  exact inner

/-- The empty object. -/
theorem Members.read_closed (h : skipBlanks octets = 0x7D :: rest) :
    (Members.read octets).Is (.finish .closed) rest := by
  rw [Taken.Is, Members.read_cons h, if_pos rfl]

/-- An object with at least one member. -/
theorem Members.read_members (h : skipBlanks octets = 0x22 :: after)
    (inner : (Members.readFrom after).Is members rest) :
    (Members.read octets).Is members rest := by
  rw [Taken.Is, Members.read_cons h, if_neg (by decide), if_pos rfl]
  exact inner

/-- What is read from a value of a list on, without the proofs that the reader carries. -/
theorem Items.readFrom_eq (octets : List UInt8) :
    ((Items.readFrom octets).value, (Items.readFrom octets).rest) =
      let value := (Tree.read octets).value
      match skipBlanks (Tree.read octets).rest with
      | [] => (.item value (.finish .cut), [])
      | b :: after =>
        if b = 0x5D then (.item value (.finish .closed), after)
        else if b = 0x2C then
          match skipBlanks after with
          | [] => (.item value (.finish .commaCut), [])
          | c :: after' =>
            if c = 0x5D then (.item value (.finish .commaClosed), after')
            else (.item value (Items.readFrom after).value, (Items.readFrom after).rest)
        else (.item value (.finish .stray), after) := by
  rw [Items.readFrom]
  dsimp only
  split
  · next h => simp only [h]
  · next b after h =>
    simp only [h]
    split
    · rfl
    · split
      · split
        · next h' => simp only [h']
        · next c after' h' =>
          simp only [h']
          split <;> rfl
      · rfl

/-- What is read from a key of an object on, without the proofs that the reader carries. -/
theorem Members.readFrom_eq (octets : List UInt8) :
    ((Members.readFrom octets).value, (Members.readFrom octets).rest) =
      let key := (Literal.read octets).1
      match skipBlanks (Literal.read octets).2 with
      | [] => (.bare key true, [])
      | b :: rest =>
        if b = 0x3A then
          let value := (Tree.read rest).value
          match skipBlanks (Tree.read rest).rest with
          | [] => (.member key value (.finish .cut), [])
          | c :: after =>
            if c = 0x7D then (.member key value (.finish .closed), after)
            else if c = 0x2C then
              match skipBlanks after with
              | [] => (.member key value (.finish .commaCut), [])
              | d :: after' =>
                if d = 0x7D then (.member key value (.finish .commaClosed), after')
                else if d = 0x22 then
                  (.member key value (Members.readFrom after').value, (Members.readFrom after').rest)
                else (.member key value (.finish .noKey), after')
            else (.member key value (.finish .stray), after)
        else (.bare key false, rest) := by
  rw [Members.readFrom]
  dsimp only
  split
  · next h => simp only [h]
  · next b rest h =>
    simp only [h]
    split
    · split
      · next h' => simp only [h']
      · next c after h' =>
        simp only [h']
        split
        · rfl
        · split
          · split
            · next h'' => simp only [h'']
            · next d after' h'' =>
              simp only [h'']
              split
              · rfl
              · split <;> rfl
          · rfl
    · rfl

/-- The last value of a list. -/
theorem Items.readFrom_last (first : (Tree.read octets).Is value mid)
    (h : skipBlanks mid = 0x5D :: rest) :
    (Items.readFrom octets).Is (.item value (.finish .closed)) rest := by
  obtain ⟨rfl, rfl⟩ := Prod.mk.inj first
  rw [Taken.Is, Items.readFrom_eq, h]
  rfl

/-- A value of a list and a comma behind it: the others follow. -/
theorem Items.readFrom_comma (first : (Tree.read octets).Is value mid)
    (h : skipBlanks mid = 0x2C :: after) (h' : skipBlanks after = b :: after') (noClose : b ≠ 0x5D)
    (others : (Items.readFrom after).Is items rest) :
    (Items.readFrom octets).Is (.item value items) rest := by
  obtain ⟨rfl, rfl⟩ := Prod.mk.inj first
  obtain ⟨rfl, rfl⟩ := Prod.mk.inj others
  rw [Taken.Is, Items.readFrom_eq, h]
  dsimp only
  rw [if_neg (by decide), if_pos rfl, h']
  exact if_neg noClose

/-- The last member of an object. -/
theorem Members.readFrom_last (name : Literal.read octets = (key, mid))
    (colon : skipBlanks mid = 0x3A :: after) (first : (Tree.read after).Is value behind)
    (h : skipBlanks behind = 0x7D :: rest) :
    (Members.readFrom octets).Is (.member key value (.finish .closed)) rest := by
  obtain ⟨rfl, rfl⟩ := Prod.mk.inj first
  rw [Taken.Is, Members.readFrom_eq, name]
  dsimp only
  rw [colon]
  dsimp only
  rw [h]
  rfl

/-- A member of an object and a comma behind it: the others follow. -/
theorem Members.readFrom_comma (name : Literal.read octets = (key, mid))
    (colon : skipBlanks mid = 0x3A :: after) (first : (Tree.read after).Is value behind)
    (h : skipBlanks behind = 0x2C :: after') (h' : skipBlanks after' = 0x22 :: next)
    (others : (Members.readFrom next).Is members rest) :
    (Members.readFrom octets).Is (.member key value members) rest := by
  obtain ⟨rfl, rfl⟩ := Prod.mk.inj first
  obtain ⟨rfl, rfl⟩ := Prod.mk.inj others
  rw [Taken.Is, Members.readFrom_eq, name]
  dsimp only
  rw [colon]
  dsimp only
  rw [h]
  dsimp only
  rw [h']
  rfl

end Steps

/-! ## Values without parts -/

/-- A text is read up to its closing quote. -/
theorem readScalar_string {l : Literal} {bs rest : List UInt8} (h : l.Written bs) :
    (readScalar 0x22 (bs ++ rest)).Is (.string l) rest := by
  have read := Literal.read_of_written h rest
  exact congrArg (fun r : Literal × List UInt8 => (Tree.string r.1, r.2)) read

/-- The octet that starts a number starts no other value, and is no blank. -/
theorem numberHead {b : UInt8} (h : b = 0x2D ∨ NumberText.isDigitOctet b = true) :
    Char.ofNat b.toNat ≠ '"' ∧ Char.ofNat b.toNat ≠ 'n' ∧ Char.ofNat b.toNat ≠ 't' ∧
      Char.ofNat b.toNat ≠ 'f' ∧ isBlankOctet b = false ∧ b ≠ 0x5D ∧ b ≠ 0x5B ∧ b ≠ 0x7B := by
  have all : ∀ n < 58, n = 45 ∨ 48 ≤ n → Char.ofNat n ≠ '"' ∧ Char.ofNat n ≠ 'n' ∧
      Char.ofNat n ≠ 't' ∧ Char.ofNat n ≠ 'f' ∧ isBlankOctet (UInt8.ofNat n) = false ∧
      UInt8.ofNat n ≠ 0x5D ∧ UInt8.ofNat n ≠ 0x5B ∧ UInt8.ofNat n ≠ 0x7B := by
    decide
  have bounds : b.toNat < 58 ∧ (b.toNat = 45 ∨ 48 ≤ b.toNat) := by
    rcases h with rfl | h
    · decide
    · rw [NumberText.isDigitOctet, Bool.and_eq_true, decide_eq_true_iff, decide_eq_true_iff] at h
      have low : 48 ≤ b.toNat := h.1
      have high : b.toNat ≤ 57 := h.2
      omega
  have head := all b.toNat bounds.1 bounds.2
  rwa [UInt8.ofNat_toNat] at head

/-- A number is read up to where it ends. -/
theorem readScalar_number {n : NumberText} {b : UInt8} {more rest : List UInt8}
    (h : n.Written (b :: more)) (hrest : EndsNumber rest) :
    (readScalar b (more ++ rest)).Is (.number n) rest := by
  have read : NumberText.read (b :: (more ++ rest)) = (.ok n, rest) :=
    NumberText.read_of_written h hrest
  have start : b = 0x2D ∨ NumberText.isDigitOctet b = true := by
    obtain ⟨b', more', heq, hb⟩ := h.head
    rwa [(List.cons.inj heq).1]
  obtain ⟨quote, hn, ht, hf, -⟩ := numberHead start
  rw [readScalar]
  split
  · exact absurd ‹_› quote
  · exact absurd ‹_› hn
  · exact absurd ‹_› ht
  · exact absurd ‹_› hf
  · rw [if_pos start]
    rw [Taken.Is]
    dsimp only
    rw [read]

/-- A value starts neither with a blank nor with the bracket that closes a list. -/
theorem Tree.Written.head {t : Tree} {bs : List UInt8} (h : t.Written bs) :
    ∃ b more, bs = b :: more ∧ isBlankOctet b = false ∧ b ≠ 0x5D := by
  cases h with
  | number h =>
    obtain ⟨b, more, rfl, hb⟩ := h.head
    obtain ⟨-, -, -, -, blank, close, -⟩ := numberHead hb
    exact ⟨b, more, rfl, blank, close⟩
  | _ => exact ⟨_, _, rfl, by decide, by decide⟩

/-- Nothing of a value is skipped, only the blanks in front of it. -/
theorem skipBlanks_value {t : Tree} {blanks bs : List UInt8} (h : t.Written bs)
    (blank : Blank blanks) (rest : List UInt8) :
    skipBlanks (blanks ++ (bs ++ rest)) = bs ++ rest := by
  obtain ⟨b, more, rfl, hb, -⟩ := h.head
  exact (skipBlanks_append blank _).trans (skipBlanks_cons hb _)

/-! ## Reading what is written

The induction is along the derivation. A list and an object end with a bracket of their own, so they
are read whatever follows; a value may be a number, so what follows it must be a delimiter. -/

/-- The value ends with a bracket of its own. -/
def Tree.Bracketed : Tree → Prop
  | .list _ | .object _ => True
  | _ => False

/-- The first octet of a list that is not empty does not close it. -/
theorem Items.Written.head {items : Items} {bs : List UInt8} (h : items.Written bs)
    (rest : List UInt8) : ∃ b more, skipBlanks (bs ++ rest) = b :: more ∧ b ≠ 0x5D := by
  cases h with
  | item blank h blank' ending =>
    obtain ⟨b, more, rfl, -, close⟩ := h.head
    have start := skipBlanks_value h blank
    simp only [List.append_assoc] at start ⊢
    exact ⟨b, _, start _, close⟩

mutual

/-- **A value is read as it was written**, behind blanks and up to its last octet. -/
theorem Tree.read_of_written {t : Tree} {blanks bs : List UInt8} (h : t.Written bs)
    (blank : Blank blanks) {rest : List UInt8} (hrest : t.Bracketed ∨ Delimited rest) :
    (Tree.read (blanks ++ (bs ++ rest))).Is t rest := by
  have start := skipBlanks_value h blank rest
  cases h with
  | nullWord | trueWord | falseWord =>
    exact Tree.read_scalar start (by decide) (by decide) rfl
  | number h =>
    obtain ⟨b, more, rfl, hb⟩ := h.head
    obtain ⟨-, -, -, -, -, -, noList, noObject⟩ := numberHead hb
    exact Tree.read_scalar start noList noObject
      (readScalar_number h (hrest.resolve_left id).endsNumber)
  | string h => exact Tree.read_scalar start (by decide) (by decide) (readScalar_string h)
  | emptyList h =>
    rw [List.cons_append, List.append_assoc] at start ⊢
    exact Tree.read_list start (Items.read_closed (skipBlanks_append h _))
  | list h =>
    obtain ⟨b, more, first, close⟩ := h.head rest
    exact Tree.read_list start (Items.read_values first close (Items.readFrom_of_written h rest))
  | emptyObject h =>
    rw [List.cons_append, List.append_assoc] at start ⊢
    exact Tree.read_object start (Members.read_closed (skipBlanks_append h _))
  | object before h =>
    rw [List.cons_append, List.append_assoc] at start ⊢
    exact Tree.read_object start (Members.read_members (skipBlanks_append before _)
      (Members.readFrom_of_written h rest))

/-- The values of a list are read as they are written, whatever follows. -/
theorem Items.readFrom_of_written {items : Items} {bs : List UInt8} (h : items.Written bs)
    (rest : List UInt8) : (Items.readFrom (bs ++ rest)).Is items rest := by
  cases h with
  | item blank h blank' ending =>
    rw [List.append_assoc, List.append_assoc, List.append_assoc]
    have first :=
      Tree.read_of_written h blank (.inr (delimited_append blank' (ending.delimited rest)))
    cases ending with
    | closed => exact Items.readFrom_last first (skipBlanks_append blank' _)
    | comma others =>
      obtain ⟨b, more, next, close⟩ := others.head rest
      exact Items.readFrom_comma first (skipBlanks_append blank' _) next close
        (Items.readFrom_of_written others rest)

/-- The members of an object are read as they are written, whatever follows. -/
theorem Members.readFrom_of_written {members : Members} {bs : List UInt8} (h : members.Written bs)
    (rest : List UInt8) : (Members.readFrom (bs ++ rest)).Is members rest := by
  cases h with
  | member k blank blank' h blank'' ending =>
    rw [List.append_assoc, List.append_assoc, List.cons_append, List.append_assoc,
      List.append_assoc, List.append_assoc]
    have name := Literal.read_of_written k
    have first :=
      Tree.read_of_written h blank' (.inr (delimited_append blank'' (ending.delimited rest)))
    cases ending with
    | closed =>
      exact Members.readFrom_last (name _) (skipBlanks_append blank _) first
        (skipBlanks_append blank'' _)
    | comma before others =>
      rw [List.cons_append, List.append_assoc, List.cons_append] at first ⊢
      exact Members.readFrom_comma (name _) (skipBlanks_append blank _) first
        (skipBlanks_append blank'' _) (skipBlanks_append before _)
        (Members.readFrom_of_written others rest)

end

/-- **A payload is read as the tree that is written in it**, whatever it is read for. -/
theorem readPayload_of_document {α : Type} {t : Tree} {octets : List UInt8} (h : t.Document octets)
    (read : Tree → Except Fault α) : readPayload read octets = read t := by
  obtain ⟨before, bs, after, blank, written, blank', rfl⟩ := h
  have behind : Delimited after := by
    intro b hb
    exact .inl (blank' b (List.mem_of_mem_head? hb))
  obtain ⟨hvalue, hrest⟩ := Prod.mk.inj (Tree.read_of_written written blank (.inr behind))
  rw [readPayload, hvalue, hrest, skipBlanks_blank blank']
  cases read t with
  | error f => rfl
  | ok a => rfl

/-! ## The last octet -/

/-- A list that is not empty ends in its bracket. -/
theorem Items.Written.last {items : Items} {bs : List UInt8} (h : items.Written bs) :
    [0x5D] <:+ bs := by
  cases h with
  | @item value rest before bs after tail _ _ _ ending =>
    have last : [0x5D] <:+ tail := by
      cases ending with
      | closed => exact List.suffix_refl _
      | comma others => exact others.last.trans (List.suffix_cons ..)
    exact ((last.trans (List.suffix_append ..)).trans (List.suffix_append ..)).trans
      (List.suffix_append ..)

/-- An object that is not empty ends in its brace. -/
theorem Members.Written.last {members : Members} {bs : List UInt8} (h : members.Written bs) :
    [0x7D] <:+ bs := by
  cases h with
  | @member key value rest name behind before bs after tail _ _ _ _ _ ending =>
    have last : [0x7D] <:+ tail := by
      cases ending with
      | closed => exact List.suffix_refl _
      | comma _ others =>
        exact ((others.last.trans (List.suffix_cons ..)).trans (List.suffix_append ..)).trans
          (List.suffix_cons ..)
    have value : [0x7D] <:+ before ++ (bs ++ (after ++ tail)) :=
      ((last.trans (List.suffix_append ..)).trans (List.suffix_append ..)).trans
      (List.suffix_append ..)
    exact ((value.trans (List.suffix_cons ..)).trans (List.suffix_append ..)).trans
      (List.suffix_append ..)

/-- A list or an object ends with a closing bracket. -/
theorem Tree.Written.last {t : Tree} {bs : List UInt8} (h : t.Written bs) (bracketed : t.Bracketed) :
    [0x5D] <:+ bs ∨ [0x7D] <:+ bs := by
  cases h with
  | nullWord | trueWord | falseWord | number _ | string _ => exact bracketed.elim
  | emptyList _ => exact .inl ((List.suffix_append ..).trans (List.suffix_cons ..))
  | list h => exact .inl (h.last.trans (List.suffix_cons ..))
  | emptyObject _ => exact .inr ((List.suffix_append ..).trans (List.suffix_cons ..))
  | object _ h =>
    exact .inr (((h.last.trans (List.suffix_cons ..)).trans (List.suffix_append ..)).trans
      (List.suffix_cons ..))

/-! ## Passing over what is written -/

mutual

/-- **A written value has no fault** for a reader that passes over it. -/
theorem Tree.skipFault?_of_written {t : Tree} {bs : List UInt8} (h : t.Written bs) :
    t.skipFault? = none := by
  cases h with
  | nullWord | trueWord | falseWord | number _ | emptyList _ | emptyObject _ => rfl
  | string h =>
    rw [Tree.skipFault?]
    exact Literal.skipFault?_of_written h
  | list h =>
    rw [Tree.skipFault?]
    exact Items.skipFault?_of_written h
  | object _ h =>
    rw [Tree.skipFault?]
    exact Members.skipFault?_of_written h

/-- A list that is written as a whole has no fault. -/
theorem Items.skipFault?_of_written {items : Items} {bs : List UInt8} (h : items.Written bs) :
    items.skipFault? = none := by
  cases h with
  | item _ h _ ending =>
    rw [Items.skipFault?, Tree.skipFault?_of_written h, Option.none_or]
    cases ending with
    | closed => rfl
    | comma others => exact Items.skipFault?_of_written others

/-- An object that is written as a whole has no fault. -/
theorem Members.skipFault?_of_written {members : Members} {bs : List UInt8}
    (h : members.Written bs) : members.skipFault? = none := by
  cases h with
  | member k _ _ h _ ending =>
    rw [Members.skipFault?, Literal.skipFault?_of_written k, Tree.skipFault?_of_written h,
      Option.none_or, Option.none_or]
    cases ending with
    | closed => rfl
    | comma _ others => exact Members.skipFault?_of_written others

end

/-- A payload that is written as a whole has no fault. -/
theorem Tree.Document.skipFault? {t : Tree} {octets : List UInt8} (h : t.Document octets) :
    t.skipFault? = none := by
  obtain ⟨-, bs, -, -, written, -, -⟩ := h
  exact Tree.skipFault?_of_written written

end AnalysisSettings.Json
