import AnalysisSettings.Text.Hex
import AnalysisSettings.Text.Utf8

/-!
# Percent-encoded parameters

A parameter of a request is written with the unreserved characters as they are and each other
octet of its UTF-8 form as `%XX`. So a parameter never holds a separator of the query, and
`Percent.decode?` gives every text back (`Percent.decode?_encode`).
-/

namespace AnalysisSettings.Percent

/-- The octets written as they are: ASCII letters and digits, `-`, `_`, `.` and `~`. -/
def isUnreserved (b : UInt8) : Bool :=
  let c := Char.ofNat b.toNat
  b < 0x80 && (c.isAlphanum || c == '-' || c == '_' || c == '.' || c == '~')

/-- An octet as a percent sign and two upper-case digits. -/
def escapeOctet (b : UInt8) : List Char :=
  ['%', Text.upperHexDigit (b.toNat / 16), Text.upperHexDigit (b.toNat % 16)]

/-- One octet of a parameter. -/
def encodeOctet (b : UInt8) : List Char :=
  if isUnreserved b then [Char.ofNat b.toNat] else escapeOctet b

/-- A parameter in its encoded form. -/
def encode (text : String) : List Char :=
  (Utf8.encode text).flatMap encodeOctet

/-- The octets of an encoded text. A percent sign without two digits stands for itself. -/
def decodeOctets : List Char → List UInt8
  | [] => []
  | '%' :: h :: l :: cs =>
    match Text.hexValue? h, Text.hexValue? l with
    | some hi, some lo => UInt8.ofNat (16 * hi + lo) :: decodeOctets cs
    | _, _ => 0x25 :: decodeOctets (h :: l :: cs)
  | c :: cs => String.utf8EncodeChar c ++ decodeOctets cs

/-- The text of an encoded parameter, if its octets are well-formed UTF-8. -/
def decode? (cs : List Char) : Option String :=
  Utf8.decode? (decodeOctets cs)

/-! ## Encoded texts -/

/-- A character that encoded texts are made of. -/
def isPlain (c : Char) : Bool :=
  c.isAlphanum || ['-', '_', '.', '~', '%'].contains c

/-- An octet is encoded in plain characters. -/
theorem isPlain_of_mem_encodeOctet {b : UInt8} {c : Char} (h : c ∈ encodeOctet b) :
    isPlain c = true := by
  have all : ∀ n < 256, (encodeOctet (UInt8.ofNat n)).all isPlain = true := by decide +kernel
  have plain := all b.toNat b.toNat_lt
  rw [UInt8.ofNat_toNat] at plain
  exact List.all_eq_true.mp plain c h

/-- An encoded text has no separator of a query, nor anything else that has a meaning there. -/
theorem isPlain_of_mem_encode {text : String} {c : Char} (h : c ∈ encode text) :
    isPlain c = true := by
  obtain ⟨b, -, hc⟩ := List.mem_flatMap.mp h
  exact isPlain_of_mem_encodeOctet hc

/-- A character other than the percent sign stands for itself. -/
theorem decodeOctets_cons_of_ne {c : Char} (h : c ≠ '%') (cs : List Char) :
    decodeOctets (c :: cs) = String.utf8EncodeChar c ++ decodeOctets cs := by
  rw [decodeOctets.eq_def]
  split
  · next heq => cases heq
  · next heq => exact absurd (List.cons.inj heq).1 h
  · next heq =>
    cases heq
    rfl

/-- An encoded octet is decoded again. -/
theorem decodeOctets_encodeOctet (b : UInt8) (rest : List Char) :
    decodeOctets (encodeOctet b ++ rest) = b :: decodeOctets rest := by
  have bound := b.toNat_lt
  rw [encodeOctet]
  split
  · next h =>
    have all : ∀ n < 256, isUnreserved (UInt8.ofNat n) = true → Char.ofNat n ≠ '%' ∧
        String.utf8EncodeChar (Char.ofNat n) = [UInt8.ofNat n] := by decide +kernel
    obtain ⟨ne, octets⟩ := all b.toNat bound (by rwa [UInt8.ofNat_toNat])
    rw [List.singleton_append, decodeOctets_cons_of_ne ne, octets, UInt8.ofNat_toNat]
    rfl
  · have number : 16 * (b.toNat / 16) + b.toNat % 16 = b.toNat := Nat.div_add_mod _ 16
    simp only [escapeOctet, List.cons_append, List.nil_append, decodeOctets]
    rw [Text.hexValue?_upperHexDigit (by omega), Text.hexValue?_upperHexDigit (by omega)]
    simp only [number, UInt8.ofNat_toNat]

/-- An encoded text is decoded as its octets. -/
theorem decodeOctets_encode (text : String) : decodeOctets (encode text) = Utf8.encode text := by
  rw [encode]
  induction Utf8.encode text with
  | nil => rfl
  | cons b octets ih => rw [List.flatMap_cons, decodeOctets_encodeOctet, ih]

/-- **Decoding an encoded text gives the text back.** -/
theorem decode?_encode (text : String) : decode? (encode text) = some text := by
  rw [decode?, decodeOctets_encode, Utf8.decode?_encode]

end AnalysisSettings.Percent
