/-!
# UTF-8

Payloads are octets. `Utf8.decode?` is the text they stand for, if they are well formed;
`Utf8.lossy` always gives a text and shows each maximal malformed piece as one U+FFFD.

A malformed piece is as long as it could still have begun a character: a lead octet and the
continuations that fit it. The octet that breaks the piece starts anew.
-/

namespace AnalysisSettings.Utf8

/-- The octets of a text. -/
def encode (text : String) : List UInt8 :=
  text.toUTF8.data.toList

/-- The text of well-formed octets. -/
def decode? (octets : List UInt8) : Option String :=
  String.fromUTF8? ⟨octets.toArray⟩

/-- Reading the octets of a text gives the text back. -/
theorem decode?_encode (text : String) : decode? (encode text) = some text := by
  unfold decode? encode String.fromUTF8?
  simp only [Array.toArray_toList, String.toUTF8_eq_toByteArray, dif_pos text.isValidUTF8]
  rfl

/-- Texts with the same octets are the same. -/
theorem encode_injective {a b : String} (h : encode a = encode b) : a = b := by
  have decoded := congrArg decode? h
  rw [decode?_encode, decode?_encode] at decoded
  exact Option.some.inj decoded

/-- The octets of a text are those of its characters. -/
theorem encode_eq_flatMap (text : String) :
    encode text = text.toList.flatMap String.utf8EncodeChar := by
  rw [encode, String.toUTF8_eq_toByteArray, ← String.utf8Encode_toList, List.utf8Encode,
    List.toList_data_toByteArray]

/-- The octets of two texts are those of one and those of the other. -/
@[simp] theorem encode_append (a b : String) : encode (a ++ b) = encode a ++ encode b := by
  rw [encode_eq_flatMap, encode_eq_flatMap, encode_eq_flatMap, String.toList_append,
    List.flatMap_append]

/-! ## Malformed octets -/

/-- What a lead octet announces: how many octets follow, the range of the first of them, and the
highest bits of the character. -/
structure Lead where
  following : Nat
  low : UInt8
  high : UInt8
  bits : Nat

/-- The lead octets of characters above U+007F. Overlong forms, surrogates and numbers above
U+10FFFF are excluded by the lead or by the range of the octet after it. -/
def lead? (b : UInt8) : Option Lead :=
  let n := b.toNat
  if n < 0xC2 then none
  else if n < 0xE0 then some ⟨1, 0x80, 0xBF, n - 0xC0⟩
  else if n = 0xE0 then some ⟨2, 0xA0, 0xBF, 0⟩
  else if n = 0xED then some ⟨2, 0x80, 0x9F, 0xD⟩
  else if n < 0xF0 then some ⟨2, 0x80, 0xBF, n - 0xE0⟩
  else if n = 0xF0 then some ⟨3, 0x90, 0xBF, 0⟩
  else if n < 0xF4 then some ⟨3, 0x80, 0xBF, n - 0xF0⟩
  else if n = 0xF4 then some ⟨3, 0x80, 0x8F, 4⟩
  else none

/-- The continuations of a character whose higher bits are `bits`: the number of the character,
or nothing where they break off, and the octets after them. -/
def continuations : Nat → UInt8 → UInt8 → Nat → List UInt8 → Option Nat × List UInt8
  | 0, _, _, bits, rest => (some bits, rest)
  | _ + 1, _, _, _, [] => (none, [])
  | following + 1, low, high, bits, b :: rest =>
    if low ≤ b ∧ b ≤ high then
      continuations following 0x80 0xBF (bits * 64 + (b.toNat - 0x80)) rest
    else (none, b :: rest)

/-- The first character of octets that start with `b`, or nothing for a malformed piece, and the
octets after it. -/
def first (b : UInt8) (rest : List UInt8) : Option Char × List UInt8 :=
  if b < 0x80 then (some (Char.ofNat b.toNat), rest)
  else match lead? b with
    | none => (none, rest)
    | some l =>
      let (number, rest) := continuations l.following l.low l.high l.bits rest
      (number.map Char.ofNat, rest)

theorem continuations_length (following : Nat) (low high : UInt8) (bits : Nat) (rest : List UInt8) :
    (continuations following low high bits rest).2.length ≤ rest.length := by
  induction rest generalizing following low high bits with
  | nil => cases following <;> simp [continuations]
  | cons b rest ih =>
    cases following with
    | zero => simp [continuations]
    | succ following =>
      rw [continuations]
      split
      · exact Nat.le_succ_of_le (ih ..)
      · exact Nat.le_refl _

theorem first_length (b : UInt8) (rest : List UInt8) : (first b rest).2.length ≤ rest.length := by
  unfold first
  split
  · exact Nat.le_refl _
  · split
    · exact Nat.le_refl _
    · exact continuations_length ..

/-- The characters of the octets, nothing standing for each malformed piece. -/
def characters : List UInt8 → List (Option Char)
  | [] => []
  | b :: rest => (first b rest).1 :: characters (first b rest).2
termination_by octets => octets.length
decreasing_by exact Nat.lt_succ_of_le (first_length b rest)

/-- The text of the octets, with U+FFFD for each malformed piece. -/
def lossy (octets : List UInt8) : String :=
  match decode? octets with
  | some text => text
  | none => String.ofList ((characters octets).map (·.getD '\uFFFD'))

/-- A well-formed payload is shown as it is. -/
theorem lossy_encode (text : String) : lossy (encode text) = text := by
  rw [lossy, decode?_encode]

end AnalysisSettings.Utf8
