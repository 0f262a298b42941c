import AnalysisSettings.Proofs.Json.Grammar

/-!
# What is read without a fault is written

The converse of the statements about the grammar. A tree without a fault for a reader that passes
over it is written in the octets it was read from (`Tree.written_of_read`), so the reader takes
nothing that is not in the grammar.

Each shape of tree has a lemma that goes one step back: where the tree has no fault, the reader found
the octet that the grammar asks for. The induction over the tree puts the octets together again.
-/

namespace AnalysisSettings.Json

/-- The octets are blanks, and what is left without them. -/
theorem exists_blanks (octets : List UInt8) :
    ∃ blanks, Blank blanks ∧ octets = blanks ++ skipBlanks octets :=
  ⟨octets.takeWhile isBlankOctet, List.all_eq_true.mp List.all_takeWhile,
    List.takeWhile_append_dropWhile.symm⟩

/-! ## Values without parts -/

/-- A word that does not break off is written as a whole. -/
theorem written_of_wordBreak? {letters : List Char} {octets : List UInt8}
    (h : wordBreak? letters octets = none) :
    octets = ascii letters ++ octets.drop letters.length := by
  induction letters generalizing octets with
  | nil => rfl
  | cons c letters ih =>
    cases octets with
    | nil => cases h
    | cons b octets =>
      rw [wordBreak?] at h
      split at h
      · next hb =>
        rw [hb]
        exact congrArg (c.toUInt8 :: ·) (ih h)
      · cases h

/-- A word without a fault is written behind its first letter. -/
theorem written_of_readWord {value : Tree} {c : Char} {letters : List Char} {octets : List UInt8}
    (word : value.Written (ascii (c :: letters)))
    (sound : (readWord value letters octets).skipFault? = none) :
    ∃ bs, (readWord value letters octets).Written bs ∧
      c.toUInt8 :: octets = bs ++ octets.drop letters.length := by
  rw [readWord] at sound ⊢
  cases h : wordBreak? letters octets with
  | none => exact ⟨_, word, congrArg (c.toUInt8 :: ·) (written_of_wordBreak? h)⟩
  | some cut =>
    rw [h] at sound
    cases cut <;> cases sound

/-- What the reader of a value without parts takes, if there is no fault. -/
theorem written_of_readScalar {b : UInt8} {octets rest : List UInt8} {t : Tree}
    (h : (readScalar b octets).Is t rest) (sound : t.skipFault? = none) :
    ∃ bs, t.Written bs ∧ b :: octets = bs ++ rest := by
  rw [readScalar] at h
  split at h
  · next hb =>
    cases h
    rw [Tree.skipFault?] at sound
    obtain ⟨bs, written, heq⟩ := Literal.written_of_read (Literal.closed_of_skipFault? sound)
    rw [octet_of_ofNat hb]
    exact ⟨_, .string written, congrArg (0x22 :: ·) heq⟩
  · next hb =>
    cases h
    rw [octet_of_ofNat hb]
    exact written_of_readWord .nullWord sound
  · next hb =>
    cases h
    rw [octet_of_ofNat hb]
    exact written_of_readWord .trueWord sound
  · next hb =>
    cases h
    rw [octet_of_ofNat hb]
    exact written_of_readWord .falseWord sound
  · split at h
    · cases hread : NumberText.read (b :: octets) with
      | mk result rest' =>
        rw [Taken.Is] at h
        dsimp only at h
        rw [hread] at h
        cases result with
        | ok n =>
          cases h
          obtain ⟨bs, written, heq⟩ := NumberText.written_of_read hread
          exact ⟨bs, .number written, heq⟩
        | error why =>
          cases h
          cases sound
    · cases h
      cases sound

/-! ## One step back

If what was read has no fault, the next octet was one of those that the grammar allows. -/

section Steps

variable {octets rest : List UInt8} {t : Tree} {items : Items} {members : Members}

/-- A value without a fault is a list, an object or a scalar, by its first octet. -/
theorem Tree.read_back (h : (Tree.read octets).Is t rest) (sound : t.skipFault? = none) :
    (∃ after items, skipBlanks octets = 0x5B :: after ∧ t = .list items ∧
      (Items.read after).Is items rest) ∨
    (∃ after members, skipBlanks octets = 0x7B :: after ∧ t = .object members ∧
      (Members.read after).Is members rest) ∨
    ∃ b after, skipBlanks octets = b :: after ∧ (readScalar b after).Is t rest := by
  cases start : skipBlanks octets with
  | nil =>
    rw [Taken.Is, Tree.read_nil start] at h
    cases h
    cases sound
  | cons b after =>
    rw [Taken.Is, Tree.read_cons start] at h
    split at h
    · next hb =>
      cases h
      rw [hb]
      exact .inl ⟨after, _, rfl, rfl, rfl⟩
    · split at h
      · next hb =>
        cases h
        rw [hb]
        exact .inr (.inl ⟨after, _, rfl, rfl, rfl⟩)
      · exact .inr (.inr ⟨b, after, rfl, h⟩)

/-- Items without a fault are none, or begin with a value. -/
theorem Items.read_back (h : (Items.read octets).Is items rest) (sound : items.skipFault? = none) :
    (skipBlanks octets = 0x5D :: rest ∧ items = .finish .closed) ∨
    (Items.readFrom octets).Is items rest := by
  cases start : skipBlanks octets with
  | nil =>
    rw [Taken.Is, Items.read_nil start] at h
    cases h
    cases sound
  | cons b after =>
    rw [Taken.Is, Items.read_cons start] at h
    split at h
    · next hb =>
      cases h
      rw [hb]
      exact .inl ⟨rfl, rfl⟩
    · exact .inr h

/-- A value without a fault is followed by the closing bracket, or by a comma and more values. -/
theorem Items.readFrom_back (h : (Items.readFrom octets).Is items rest)
    (sound : items.skipFault? = none) :
    ∃ value others mid, items = .item value others ∧ (Tree.read octets).Is value mid ∧
      ((skipBlanks mid = 0x5D :: rest ∧ others = .finish .closed) ∨
        ∃ after, skipBlanks mid = 0x2C :: after ∧ (Items.readFrom after).Is others rest) := by
  rw [Taken.Is, Items.readFrom_eq] at h
  dsimp only at h
  cases behind : skipBlanks (Tree.read octets).rest with
  | nil =>
    rw [behind] at h
    cases h
    cases (Option.or_eq_none_iff.mp sound).2
  | cons b after =>
    rw [behind] at h
    dsimp only at h
    split at h
    · next hb =>
      cases h
      rw [hb] at behind
      exact ⟨_, _, _, rfl, rfl, .inl ⟨behind, rfl⟩⟩
    · split at h
      · next hb =>
        rw [hb] at behind
        split at h
        · cases h
          cases (Option.or_eq_none_iff.mp sound).2
        · split at h
          · cases h
            cases (Option.or_eq_none_iff.mp sound).2
          · cases h
            exact ⟨_, _, _, rfl, rfl, .inr ⟨after, behind, rfl⟩⟩
      · cases h
        cases (Option.or_eq_none_iff.mp sound).2

/-- Members without a fault are none, or begin with a key. -/
theorem Members.read_back (h : (Members.read octets).Is members rest)
    (sound : members.skipFault? = none) :
    (skipBlanks octets = 0x7D :: rest ∧ members = .finish .closed) ∨
    ∃ after, skipBlanks octets = 0x22 :: after ∧ (Members.readFrom after).Is members rest := by
  cases start : skipBlanks octets with
  | nil =>
    rw [Taken.Is, Members.read_nil start] at h
    cases h
    cases sound
  | cons b after =>
    rw [Taken.Is, Members.read_cons start] at h
    split at h
    · next hb =>
      cases h
      rw [hb]
      exact .inl ⟨rfl, rfl⟩
    · split at h
      · next hb =>
        rw [hb]
        exact .inr ⟨after, rfl, h⟩
      · cases h
        cases sound

/-- A member without a fault is followed by the closing brace, or by a comma and more members. -/
theorem Members.readFrom_back (h : (Members.readFrom octets).Is members rest)
    (sound : members.skipFault? = none) :
    ∃ key value others mid after behind, members = .member key value others ∧
      Literal.read octets = (key, mid) ∧ skipBlanks mid = 0x3A :: after ∧
      (Tree.read after).Is value behind ∧
      ((skipBlanks behind = 0x7D :: rest ∧ others = .finish .closed) ∨
        ∃ after' next, skipBlanks behind = 0x2C :: after' ∧ skipBlanks after' = 0x22 :: next ∧
          (Members.readFrom next).Is others rest) := by
  -- an object that breaks off has a fault behind the member that was read last
  have broken : ∀ {key value others}, (Members.member key value others).skipFault? = none →
      others.skipFault? = none :=
    fun h => (Option.or_eq_none_iff.mp (Option.or_eq_none_iff.mp h).2).2
  rw [Taken.Is, Members.readFrom_eq] at h
  dsimp only at h
  cases colon : skipBlanks (Literal.read octets).2 with
  | nil =>
    rw [colon] at h
    cases h
    cases (Option.or_eq_none_iff.mp sound).2
  | cons b after =>
    rw [colon] at h
    dsimp only at h
    split at h
    · next hb =>
      rw [hb] at colon
      cases behind : skipBlanks (Tree.read after).rest with
      | nil =>
        rw [behind] at h
        cases h
        cases broken sound
      | cons c after' =>
        rw [behind] at h
        dsimp only at h
        split at h
        · next hc =>
          cases h
          rw [hc] at behind
          exact ⟨_, _, _, _, after, _, rfl, rfl, colon, rfl, .inl ⟨behind, rfl⟩⟩
        · split at h
          · next hc =>
            rw [hc] at behind
            cases comma : skipBlanks after' with
            | nil =>
              rw [comma] at h
              cases h
              cases broken sound
            | cons d next =>
              rw [comma] at h
              dsimp only at h
              split at h
              · cases h
                cases broken sound
              · split at h
                · next hd =>
                  cases h
                  rw [hd] at comma
                  exact ⟨_, _, _, _, after, _, rfl, rfl, colon, rfl,
                    .inr ⟨after', next, behind, comma, rfl⟩⟩
                · cases h
                  cases broken sound
          · cases h
            cases broken sound
    · cases h
      cases (Option.or_eq_none_iff.mp sound).2

end Steps

/-! ## Writing what is read -/

mutual

/-- **What is read without a fault is written**: behind blanks, and up to where the reader
stopped. -/
theorem Tree.written_of_read {t : Tree} {octets rest : List UInt8}
    (h : (Tree.read octets).Is t rest) (sound : t.skipFault? = none) :
    ∃ blanks bs, Blank blanks ∧ t.Written bs ∧ octets = blanks ++ (bs ++ rest) := by
  obtain ⟨blanks, blank, split⟩ := exists_blanks octets
  suffices front : ∃ bs, t.Written bs ∧ skipBlanks octets = bs ++ rest by
    obtain ⟨bs, written, heq⟩ := front
    exact ⟨blanks, bs, blank, written, heq ▸ split⟩
  -- the tree is taken apart in each case, so that the induction goes on with its parts
  rcases Tree.read_back h sound with
    ⟨after, items, start, ht, inner⟩ | ⟨after, members, start, ht, inner⟩ | ⟨b, after, start, inner⟩
  · cases t with
    | list items' =>
      obtain rfl := Tree.list.inj ht
      rw [Tree.skipFault?] at sound
      rcases Items.read_back inner sound with ⟨close, rfl⟩ | values
      · obtain ⟨blanks, blank, split⟩ := exists_blanks after
        exact ⟨_, .emptyList blank, by rw [start, split, close]; simp⟩
      · obtain ⟨bs, written, heq⟩ := Items.written_of_readFrom values sound
        exact ⟨_, .list written, by rw [start, heq]; rfl⟩
    | _ => cases ht
  · cases t with
    | object members' =>
      obtain rfl := Tree.object.inj ht
      rw [Tree.skipFault?] at sound
      obtain ⟨blanks, blank, split⟩ := exists_blanks after
      rcases Members.read_back inner sound with ⟨close, rfl⟩ | ⟨after', quote, more⟩
      · exact ⟨_, .emptyObject blank, by rw [start, split, close]; simp⟩
      · obtain ⟨bs, written, heq⟩ := Members.written_of_readFrom more sound
        exact ⟨_, .object blank written, by rw [start, split, quote, heq]; simp⟩
    | _ => cases ht
  · rw [start]
    exact written_of_readScalar inner sound
termination_by structural t

/-- Values that are read without a fault are written as they are read. -/
theorem Items.written_of_readFrom {items : Items} {octets rest : List UInt8}
    (h : (Items.readFrom octets).Is items rest) (sound : items.skipFault? = none) :
    ∃ bs, items.Written bs ∧ octets = bs ++ rest := by
  obtain ⟨value, others, mid, hitems, first, close⟩ := Items.readFrom_back h sound
  cases items with
  | finish ending => cases hitems
  | item value' others' =>
    obtain ⟨rfl, rfl⟩ := Items.item.inj hitems
    rw [Items.skipFault?, Option.or_eq_none_iff] at sound
    obtain ⟨before, bs, blank, written, rfl⟩ := Tree.written_of_read first sound.1
    obtain ⟨after, blank', split⟩ := exists_blanks mid
    rcases close with ⟨close, rfl⟩ | ⟨more, comma, tail⟩
    · exact ⟨_, .item blank written blank' .closed, by rw [split, close]; simp⟩
    · obtain ⟨bs', written', rfl⟩ := Items.written_of_readFrom tail sound.2
      exact ⟨_, .item blank written blank' (.comma written'), by rw [split, comma]; simp⟩
termination_by structural items

/-- Members that are read without a fault are written as they are read. -/
theorem Members.written_of_readFrom {members : Members} {octets rest : List UInt8}
    (h : (Members.readFrom octets).Is members rest) (sound : members.skipFault? = none) :
    ∃ bs, members.Written bs ∧ octets = bs ++ rest := by
  obtain ⟨key, value, others, mid, after, behind, hmembers, name, colon, first, close⟩ :=
    Members.readFrom_back h sound
  cases members with
  | finish ending => cases hmembers
  | bare key cut => cases hmembers
  | member key' value' others' =>
    obtain ⟨rfl, rfl, rfl⟩ := Members.member.inj hmembers
    rw [Members.skipFault?, Option.or_eq_none_iff, Option.or_eq_none_iff] at sound
    obtain ⟨soundKey, soundValue, soundOthers⟩ := sound
    have closedKey : (Literal.read octets).1.ending = .closed := by
      rw [name]
      exact Literal.closed_of_skipFault? soundKey
    obtain ⟨bsKey, writtenKey, split⟩ := Literal.written_of_read closedKey
    rw [name] at writtenKey split
    obtain ⟨blanks, blank, split'⟩ := exists_blanks mid
    obtain ⟨before, bs, blank', written, rfl⟩ := Tree.written_of_read first soundValue
    obtain ⟨blanks', blank'', split''⟩ := exists_blanks behind
    rcases close with ⟨close, rfl⟩ | ⟨after', next, comma, quote, tail⟩
    · refine ⟨_, .member writtenKey blank blank' written blank'' .closed, ?_⟩
      rw [split, split', colon, split'', close]
      simp
    · obtain ⟨bs', written', rfl⟩ := Members.written_of_readFrom tail soundOthers
      obtain ⟨blanks₃, blank₃, split₃⟩ := exists_blanks after'
      refine ⟨_, .member writtenKey blank blank' written blank'' (.comma blank₃ written'), ?_⟩
      rw [split, split', colon, split'', comma, split₃, quote]
      simp
termination_by structural members

end

end AnalysisSettings.Json
