import AnalysisSettings.Json.Literal

/-!
# String literals: how they are written, and what they spell

Two relations describe literals without the reader. `Literal.Written` is the grammar of the octets: a
literal is its pieces, one after the other, and a closing quote. `Literal.Spells` is the meaning: each
character of a text stands for itself, or is one short escape, one unit, or a pair of surrogates.

The reader agrees with both. `Literal.read_of_written` says that it divides the octets into the pieces
that were written and stops behind the closing quote, and `Literal.written_of_read` that it accepts
nothing else; `Literal.text_of_spells` says that the pieces that spell a text are read as that text.
-/

namespace AnalysisSettings.Json

/-! ## The grammar -/

/-- The letters of the short escapes, each with the octet it stands for. -/
def shortEscapes : List (UInt8 × UInt8) :=
  [(0x22, 0x22), (0x5C, 0x5C), (0x2F, 0x2F), (0x62, 0x08), (0x66, 0x0C), (0x6E, 0x0A),
    (0x72, 0x0D), (0x74, 0x09)]

/-- The octet is a hexadecimal digit of the value, in either case. -/
def HexDigit (value : Nat) (b : UInt8) : Prop :=
  (value < 10 ∧ b.toNat = 0x30 + value) ∨
    (10 ≤ value ∧ value < 16 ∧ (b.toNat = 0x57 + value ∨ b.toNat = 0x37 + value))

/-- The octets are the piece. -/
inductive Piece.Written : Piece → List UInt8 → Prop
  | octet {b : UInt8} (printable : 0x20 ≤ b) (quote : b ≠ 0x22) (backslash : b ≠ 0x5C) :
      Piece.Written (.octet b) [b]
  | short {letter b : UInt8} (escape : (letter, b) ∈ shortEscapes) :
      Piece.Written (.short b) [0x5C, letter]
  | unit {w x y z : Nat} {a b c d : UInt8} (first : HexDigit w a) (second : HexDigit x b)
      (third : HexDigit y c) (fourth : HexDigit z d) :
      Piece.Written (.unit (16 * (16 * (16 * w + x) + y) + z)) [0x5C, 0x75, a, b, c, d]

/-- The octets are the pieces and the closing quote. -/
inductive Pieces.Written : List Piece → List UInt8 → Prop
  | close : Pieces.Written [] [0x22]
  | piece {p : Piece} {ps : List Piece} {bs rest : List UInt8} (head : p.Written bs)
      (tail : Pieces.Written ps rest) : Pieces.Written (p :: ps) (bs ++ rest)

/-- The octets behind an opening quote are the literal with its closing quote. -/
def Literal.Written (l : Literal) (bs : List UInt8) : Prop :=
  l.ending = .closed ∧ Pieces.Written l.pieces bs

/-! ## Reading what is written -/

namespace Literal

/-- A hexadecimal digit is read as its value. -/
theorem hexValue?_of_hexDigit {value : Nat} {b : UInt8} (h : HexDigit value b) :
    Text.hexValue? (Char.ofNat b.toNat) = some value := by
  have all : ∀ v < 16, ∀ n, (v < 10 ∧ n = 0x30 + v ∨ 10 ≤ v ∧ (n = 0x57 + v ∨ n = 0x37 + v)) →
      Text.hexValue? (Char.ofNat n) = some v := by
    intro v hv n hn
    have := (by decide : ∀ v < 16, (v < 10 → Text.hexValue? (Char.ofNat (0x30 + v)) = some v) ∧
      (10 ≤ v → Text.hexValue? (Char.ofNat (0x57 + v)) = some v ∧
        Text.hexValue? (Char.ofNat (0x37 + v)) = some v)) v hv
    rcases hn with ⟨h, rfl⟩ | ⟨h, rfl | rfl⟩
    · exact this.1 h
    · exact (this.2 h).1
    · exact (this.2 h).2
  rcases h with ⟨hv, hb⟩ | ⟨hle, hlt, hb⟩
  · exact all value (by omega) _ (.inl ⟨hv, hb⟩)
  · exact all value hlt _ (.inr ⟨hle, hb⟩)

/-- Four hexadecimal digits are read as a number in base 16. -/
theorem unit?_of_hexDigits {w x y z : Nat} {a b c d : UInt8} (first : HexDigit w a)
    (second : HexDigit x b) (third : HexDigit y c) (fourth : HexDigit z d) :
    unit? a b c d = some (16 * (16 * (16 * w + x) + y) + z) := by
  simp [unit?, Text.readHex?, hexValue?_of_hexDigit first, hexValue?_of_hexDigit second,
    hexValue?_of_hexDigit third, hexValue?_of_hexDigit fourth]

/-- The letter of a short escape is read as the octet it stands for. -/
theorem shortEscape?_of_mem {letter b : UInt8} (h : (letter, b) ∈ shortEscapes) :
    shortEscape? letter = some b ∧ letter ≠ 0x75 := by
  have all : shortEscapes.all fun e => shortEscape? e.1 = some e.2 ∧ e.1 ≠ 0x75 := by decide
  exact of_decide_eq_true (List.all_eq_true.mp all _ h)

/-- **One piece** is taken off the front. -/
theorem read_piece {p : Piece} {bs : List UInt8} (h : p.Written bs) (rest : List UInt8) :
    read (bs ++ rest) = ((read rest).1.cons p, (read rest).2) := by
  cases h with
  | @octet b printable quote backslash =>
    have hb : ¬ b < 0x20 := by
      rw [UInt8.not_lt]
      exact printable
    rw [List.singleton_append, read, if_neg hb]
    · exact quote
    all_goals
      intros
      exact backslash ‹_›
  | @short letter b escape =>
    obtain ⟨hescape, hletter⟩ := shortEscape?_of_mem escape
    show read (0x5C :: letter :: rest) = _
    rw [read, hescape]
    all_goals simp [hletter]
  | @unit w x y z a b c d first second third fourth =>
    show read (0x5C :: 0x75 :: a :: b :: c :: d :: rest) = _
    rw [read, unit?_of_hexDigits first second third fourth]

/-- The pieces of a text are read as they are written, up to the closing quote. -/
theorem read_pieces {ps : List Piece} {bs : List UInt8} (h : Pieces.Written ps bs)
    (rest : List UInt8) : read (bs ++ rest) = (⟨ps, .closed⟩, rest) := by
  induction h with
  | close => rfl
  | piece head _ ih =>
    rw [List.append_assoc, read_piece head, ih]
    rfl

/-- **A literal is read as it was written**, up to its closing quote. -/
theorem read_of_written {l : Literal} {bs : List UInt8} (h : l.Written bs) (rest : List UInt8) :
    read (bs ++ rest) = (l, rest) := by
  obtain ⟨pieces, ending⟩ := l
  obtain ⟨rfl, hpieces⟩ := h
  exact read_pieces hpieces rest

/-- A written literal has no fault for a reader that passes over it. -/
theorem skipFault?_of_written {l : Literal} {bs : List UInt8} (h : l.Written bs) :
    l.skipFault? = none := by
  rw [skipFault?, h.1]

/-- A literal without a fault for such a reader has its closing quote. -/
theorem closed_of_skipFault? {l : Literal} (h : l.skipFault? = none) : l.ending = .closed := by
  rw [skipFault?] at h
  split at h
  · assumption
  all_goals cases h

end Literal

/-! ## Writing what is read

The pieces that are read are those that were written, because each step of the reader takes the octets
of one piece. -/

/-- An octet and the character with its number have the same number. -/
theorem toNat_ofNat_octet (b : UInt8) : (Char.ofNat b.toNat).toNat = b.toNat := by
  have small : b.toNat < 256 := b.toNat_lt
  have valid : b.toNat.isValidChar := .inl (by omega)
  rw [Char.ofNat, dif_pos valid]
  rfl

/-- The octet of a character is known from it. -/
theorem octet_of_ofNat {b : UInt8} {c : Char} (h : Char.ofNat b.toNat = c) : b = c.toUInt8 := by
  have number : c.toNat = b.toNat := h ▸ toNat_ofNat_octet b
  have small : b.toNat < 256 := b.toNat_lt
  refine UInt8.toNat_inj.mp ?_
  show b.toNat = c.toNat % 256
  omega

namespace Literal

/-- What is read as the value of a digit is a hexadecimal digit. -/
theorem hexDigit_of_hexValue? {b : UInt8} {value : Nat}
    (h : Text.hexValue? (Char.ofNat b.toNat) = some value) : HexDigit value b := by
  have number := toNat_ofNat_octet b
  generalize Char.ofNat b.toNat = c at h number
  have bound : ∀ {low high : Char}, low ≤ c ∧ c ≤ high →
      low.toNat ≤ b.toNat ∧ b.toNat ≤ high.toNat :=
    fun {low high} h => number ▸ (⟨h.1, h.2⟩ : low.toNat ≤ c.toNat ∧ c.toNat ≤ high.toNat)
  rw [Text.hexValue?, number] at h
  split at h
  · next hdigit =>
    have : 0x30 ≤ b.toNat ∧ b.toNat ≤ 0x39 := bound hdigit
    cases h
    exact .inl (by omega)
  · split at h
    · next hlower =>
      have : 0x61 ≤ b.toNat ∧ b.toNat ≤ 0x66 := bound hlower
      cases h
      exact .inr (by omega)
    · split at h
      · next hupper =>
        have : 0x41 ≤ b.toNat ∧ b.toNat ≤ 0x46 := bound hupper
        cases h
        exact .inr (by omega)
      · cases h

/-- Four digits that are read as a number are written as an escape of this number. -/
theorem written_unit {a b c d : UInt8} {n : Nat} (h : unit? a b c d = some n) :
    Piece.Written (.unit n) [0x5C, 0x75, a, b, c, d] := by
  simp only [unit?, Text.readHex?, List.map_cons, List.map_nil, List.isEmpty_cons,
    Bool.false_eq_true, if_false, List.foldl_cons, List.foldl_nil, Option.bind_some, Nat.mul_zero,
    Nat.zero_add,
    Option.bind_eq_some_iff, Option.map_eq_some_iff] at h
  obtain ⟨_, ⟨_, ⟨_, ⟨w, hw, rfl⟩, x, hx, rfl⟩, y, hy, rfl⟩, z, hz, rfl⟩ := h
  exact .unit (hexDigit_of_hexValue? hw) (hexDigit_of_hexValue? hx) (hexDigit_of_hexValue? hy)
    (hexDigit_of_hexValue? hz)

/-- A letter that is read as a short escape is written as one. -/
theorem written_short {letter b : UInt8} (h : shortEscape? letter = some b) :
    Piece.Written (.short b) [0x5C, letter] := by
  refine .short ?_
  rw [shortEscape?] at h
  split at h
  case h_9 => cases h
  all_goals
    next hletter =>
    cases h
    rw [octet_of_ofNat hletter]
    decide

/-- **What is read as a whole literal is written so**: the pieces, the closing quote, and the rest. -/
theorem written_of_read {octets : List UInt8} (closed : (read octets).1.ending = .closed) :
    ∃ bs, (read octets).1.Written bs ∧ octets = bs ++ (read octets).2 := by
  have pieces : ∃ bs, Pieces.Written (read octets).1.pieces bs ∧ octets = bs ++ (read octets).2 := by
    fun_induction read octets with
    | case2 rest => exact ⟨_, .close, rfl⟩
    | case3 a b c d rest n hunit ih =>
      obtain ⟨bs, hbs, heq⟩ := ih closed
      exact ⟨_, .piece (written_unit hunit) hbs, congrArg (0x5C :: 0x75 :: a :: b :: c :: d :: ·) heq⟩
    | case6 e rest _ _ b hshort ih =>
      obtain ⟨bs, hbs, heq⟩ := ih closed
      exact ⟨_, .piece (written_short hshort) hbs, congrArg (0x5C :: e :: ·) heq⟩
    | case10 b rest quote _ _ escape single hb ih =>
      obtain ⟨bs, hbs, heq⟩ := ih closed
      have backslash : b ≠ 0x5C := by
        intro hbackslash
        cases rest with
        | nil => exact single hbackslash rfl
        | cons e rest => exact escape e rest hbackslash rfl
      exact ⟨_, .piece (.octet (UInt8.not_lt.mp hb) quote backslash) hbs, congrArg (b :: ·) heq⟩
    | _ => cases closed
  obtain ⟨bs, hbs, heq⟩ := pieces
  exact ⟨bs, ⟨closed, hbs⟩, heq⟩

end Literal

/-! ## What a literal spells -/

/-- The unit of the high surrogate of a character beyond the first 2^16. -/
def highUnit (c : Char) : Nat := 0xD800 + (c.toNat - 0x10000) / 0x400

/-- The unit of its low surrogate. -/
def lowUnit (c : Char) : Nat := 0xDC00 + (c.toNat - 0x10000) % 0x400

/-- The pieces stand for the character. -/
inductive Pieces.SpellChar (c : Char) : List Piece → Prop
  | raw : Pieces.SpellChar c ((String.utf8EncodeChar c).map .octet)
  | short {letter b : UInt8} (escape : (letter, b) ∈ shortEscapes) (char : c.toNat = b.toNat) :
      Pieces.SpellChar c [.short b]
  | unit (small : c.toNat < 0x10000) : Pieces.SpellChar c [.unit c.toNat]
  | pair (large : 0x10000 ≤ c.toNat) : Pieces.SpellChar c [.unit (highUnit c), .unit (lowUnit c)]

/-- The pieces stand for the characters, one after the other. -/
inductive Pieces.Spell : List Char → List Piece → Prop
  | nil : Pieces.Spell [] []
  | cons {c : Char} {cs : List Char} {ps qs : List Piece} (head : Pieces.SpellChar c ps)
      (tail : Pieces.Spell cs qs) : Pieces.Spell (c :: cs) (ps ++ qs)

/-- The literal stands for the text. -/
def Literal.Spells (l : Literal) (text : String) : Prop :=
  l.ending = .closed ∧ Pieces.Spell text.toList l.pieces

namespace Literal

/-- Octets that stand for themselves stay in front of what the other pieces stand for. -/
theorem octets_append_octets (ending : LiteralEnd) (bs : List UInt8) (rest : List Piece) :
    octets ending (bs.map .octet ++ rest) = (octets ending rest).map (bs ++ ·) := by
  induction bs with
  | nil =>
    rw [List.map_nil, List.nil_append]
    cases octets ending rest <;> rfl
  | cons b bs ih =>
    rw [List.map_cons, List.cons_append, octets, ih]
    cases octets ending rest <;> rfl

/-- The number of a character is no surrogate, and not too large. -/
theorem toNat_valid (c : Char) : c.toNat < 0xD800 ∨ 0xDFFF < c.toNat ∧ c.toNat < 0x110000 := by
  rcases c.valid with h | h
  · exact .inl h
  · exact .inr h

/-- **One character** is read off the front, as its UTF-8 octets. -/
theorem octets_spellChar (ending : LiteralEnd) {c : Char} {ps : List Piece}
    (h : Pieces.SpellChar c ps) (rest : List Piece) :
    octets ending (ps ++ rest) = (octets ending rest).map (String.utf8EncodeChar c ++ ·) := by
  have valid := toNat_valid c
  cases h with
  | raw => exact octets_append_octets ending _ rest
  | @short letter b escape char =>
    have all : shortEscapes.all fun e =>
        String.utf8EncodeChar (Char.ofNat e.2.toNat) = [e.2] := by decide
    have single := List.all_eq_true.mp all _ escape
    rw [decide_eq_true_iff] at single
    have hc : String.utf8EncodeChar c = [b] := by
      rw [← c.ofNat_toNat, char]
      exact single
    rw [List.singleton_append, octets, hc]
    rfl
  | unit small =>
    rw [List.singleton_append, octets.eq_def]
    dsimp only
    rw [if_neg (by omega), if_pos (by omega), c.ofNat_toNat]
  | pair large =>
    have number : 0x10000 + (highUnit c - 0xD800) * 0x400 + (lowUnit c - 0xDC00) = c.toNat := by
      rw [highUnit, lowUnit]
      omega
    have high : 0xD800 ≤ highUnit c ∧ highUnit c ≤ 0xDBFF := by
      rw [highUnit]
      omega
    have low : 0xDC00 ≤ lowUnit c ∧ lowUnit c ≤ 0xDFFF := by
      rw [lowUnit]
      omega
    show octets ending (.unit (highUnit c) :: .unit (lowUnit c) :: rest) = _
    rw [octets, if_neg (by omega), if_neg (by omega)]
    dsimp only
    rw [if_neg (by omega), number, c.ofNat_toNat]

/-- Pieces that spell some characters stand for the octets of these characters. -/
theorem octets_spell (ending : LiteralEnd) {cs : List Char} {ps : List Piece}
    (h : Pieces.Spell cs ps) : octets ending ps = .ok (cs.flatMap String.utf8EncodeChar) := by
  induction h with
  | nil => rfl
  | cons head _ ih =>
    rw [octets_spellChar ending head, ih]
    rfl

/-- **A literal is read as the text it spells**, whatever is escaped in it. -/
theorem text_of_spells {l : Literal} {text : String} (h : l.Spells text) : l.text = .ok text := by
  obtain ⟨closed, spell⟩ := h
  rw [Literal.text, octets_spell l.ending spell, skipFault?, closed, ← Utf8.encode_eq_flatMap]
  dsimp only
  rw [Utf8.decode?_encode]

end Literal

/-! ## Literals without escapes -/

/-- The text as a literal in which every octet stands for itself. -/
def Literal.plain (text : String) : Literal :=
  ⟨(Utf8.encode text).map .octet, .closed⟩

/-- No octet of the text must be escaped. -/
def NoEscapes (text : String) : Prop :=
  ∀ b ∈ Utf8.encode text, 0x20 ≤ b ∧ b ≠ 0x22 ∧ b ≠ 0x5C

instance (text : String) : Decidable (NoEscapes text) :=
  List.decidableBAll _ _

namespace Literal

/-- The literal without escapes spells its text. -/
theorem spells_plain (text : String) : (plain text).Spells text := by
  refine ⟨rfl, ?_⟩
  rw [plain, Utf8.encode_eq_flatMap]
  induction text.toList with
  | nil => exact .nil
  | cons c cs ih =>
    rw [List.flatMap_cons, List.map_append]
    exact .cons .raw ih

/-- A text without quotes, backslashes and controls is written as it is. -/
theorem written_plain {text : String} (h : NoEscapes text) :
    (plain text).Written (Utf8.encode text ++ [0x22]) := by
  refine ⟨rfl, ?_⟩
  rw [NoEscapes] at h
  rw [plain]
  generalize Utf8.encode text = octets at h ⊢
  induction octets with
  | nil => exact .close
  | cons b bs ih =>
    obtain ⟨⟨printable, quote, backslash⟩, others⟩ := List.forall_mem_cons.mp h
    show Pieces.Written _ ([b] ++ (bs ++ [0x22]))
    exact .piece (.octet printable quote backslash) (ih others)

end Literal

end AnalysisSettings.Json
