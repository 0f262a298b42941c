import AnalysisSettings.Decimal.Layout
import AnalysisSettings.Json.Fault

/-!
# Numbers

`NumberText` is a number as written: sign, digits before and after the point, exponent. Its value
(`NumberText.value`) is exact where it is a whole number of at most 64 bits; every other number is
a double, and one beyond the range of doubles is a fault.

The double of a number is computed from its first digits, as many as fit into a 64-bit word, by one
multiplication with a power of ten or one division by it. It can differ in its last bit from the
double nearest to the number.
-/

namespace AnalysisSettings.Json

/-- A number as written. -/
structure NumberText where
  negative : Bool
  whole : List Char
  /-- The digits after the point; none without a point. -/
  fraction : List Char := []
  /-- The sign of the exponent (`true` for minus) and its digits. -/
  exponent : Option (Bool × List Char) := none
deriving DecidableEq, Repr

/-- The value of a number. -/
inductive Number where
  | natural (n : UInt64)
  /-- Minus the magnitude, which is from 1 to 2^63. -/
  | negative (magnitude : Nat)
  | double (x : Float)

/-- Why a number breaks off: the payload ends, or another octet stands where a digit must. -/
inductive NumberBreak where
  | cut
  | bad
deriving DecidableEq, Repr

namespace NumberText

/-! ## Reading -/

/-- The octet is an ASCII digit. -/
def isDigitOctet (b : UInt8) : Bool := 0x30 ≤ b && b ≤ 0x39

/-- The digits at the front, and the octets after them. -/
def digits : List UInt8 → List Char × List UInt8
  | [] => ([], [])
  | b :: rest =>
    if isDigitOctet b then (Char.ofNat b.toNat :: (digits rest).1, (digits rest).2)
    else ([], b :: rest)

theorem digits_length (octets : List UInt8) : (digits octets).2.length ≤ octets.length := by
  induction octets with
  | nil => simp [digits]
  | cons b rest ih =>
    rw [digits]
    split
    · exact Nat.le_succ_of_le ih
    · exact Nat.le_refl _

/-- A number, or the reason why it breaks off, and the octets that follow. -/
abbrev Reading := Except NumberBreak NumberText × List UInt8

/-- At least one digit must stand here; `k` takes the digits. -/
def someDigits (octets : List UInt8) (k : List Char → NumberText) : Reading :=
  match digits octets with
  | ([], []) => (.error .cut, [])
  | ([], rest) => (.error .bad, rest)
  | (ds, rest) => (.ok (k ds), rest)

/-- The exponent part, if one follows. -/
def readExponent (n : NumberText) : List UInt8 → Reading
  | b :: rest =>
    if b = 0x65 ∨ b = 0x45 then
      match rest with
      | 0x2B :: rest => someDigits rest fun ds => { n with exponent := some (false, ds) }
      | 0x2D :: rest => someDigits rest fun ds => { n with exponent := some (true, ds) }
      | rest => someDigits rest fun ds => { n with exponent := some (false, ds) }
    else (.ok n, b :: rest)
  | [] => (.ok n, [])

/-- The fraction, if one follows, and then the exponent part. -/
def readFraction (n : NumberText) : List UInt8 → Reading
  | 0x2E :: rest =>
    match someDigits rest fun ds => { n with fraction := ds } with
    | (.ok n, rest) => readExponent n rest
    | broken => broken
  | octets => readExponent n octets

/-- The digits before the point and what follows them. A zero stands alone. -/
def readWhole (negative : Bool) : List UInt8 → Reading
  | [] => (.error .cut, [])
  | 0x30 :: rest =>
    match rest with
    | b :: _ =>
      if isDigitOctet b then (.error .bad, rest)
      else readFraction ⟨negative, ['0'], [], none⟩ rest
    | [] => readFraction ⟨negative, ['0'], [], none⟩ rest
  | octets =>
    match someDigits octets fun ds => ⟨negative, ds, [], none⟩ with
    | (.ok n, rest) => readFraction n rest
    | broken => broken

/-- The number at the front of the octets, which start with a minus sign or a digit. -/
def read : List UInt8 → Reading
  | 0x2D :: rest => readWhole true rest
  | octets => readWhole false octets

theorem someDigits_length (octets : List UInt8) (k : List Char → NumberText) :
    (someDigits octets k).2.length ≤ octets.length := by
  have h := digits_length octets
  unfold someDigits
  split <;> simp_all

theorem readExponent_length (n : NumberText) (octets : List UInt8) :
    (readExponent n octets).2.length ≤ octets.length := by
  unfold readExponent
  split
  · next b rest =>
    split
    · split
      · exact Nat.le_trans (someDigits_length ..) (by simp only [List.length_cons]; omega)
      · exact Nat.le_trans (someDigits_length ..) (by simp only [List.length_cons]; omega)
      · exact Nat.le_trans (someDigits_length ..) (by simp only [List.length_cons]; omega)
    · exact Nat.le_refl _
  · exact Nat.le_refl _

theorem readFraction_length (n : NumberText) (octets : List UInt8) :
    (readFraction n octets).2.length ≤ octets.length := by
  unfold readFraction
  split
  · next rest =>
    have h := someDigits_length rest fun ds => { n with fraction := ds }
    split
    · next m rest' e =>
      rw [e] at h
      have := readExponent_length m rest'
      simp only [List.length_cons] at *; omega
    · exact Nat.le_succ_of_le h
  · exact readExponent_length ..

theorem readWhole_length (negative : Bool) (octets : List UInt8) :
    (readWhole negative octets).2.length ≤ octets.length := by
  unfold readWhole
  split
  · exact Nat.le_refl _
  · split
    · split
      · simp
      · exact Nat.le_succ_of_le (readFraction_length ..)
    · exact Nat.le_succ_of_le (readFraction_length ..)
  · have h := someDigits_length octets fun ds => ⟨negative, ds, [], none⟩
    split
    · next m rest e =>
      rw [e] at h
      exact Nat.le_trans (readFraction_length m rest) h
    · exact h

theorem read_length (octets : List UInt8) : (read octets).2.length ≤ octets.length := by
  unfold read
  split
  · exact Nat.le_succ_of_le (readWhole_length ..)
  · exact readWhole_length ..

/-! ## Values -/

/-- The number that the first digits stand for, as long as it fits into a word, and the number of
digits that were left out. -/
def leading (acc : Nat) : List Char → Nat × Nat
  | [] => (acc, 0)
  | d :: ds =>
    let next := 10 * acc + (d.toNat - '0'.toNat)
    if next ≤ Numeral.maxWord then leading next ds else (acc, ds.length + 1)

/-- `x · 10 ^ e` by one operation with a power of ten; for exponents below the range, after
divisions by the largest power. -/
def scaled (x : Float) (e : Int) : Except Fault Float :=
  if e.natAbs ≤ 308 then
    let power := Float.ofScientific 1 false e.natAbs
    if e < 0 then .ok (x / power)
    else if (x * power).isInf then .error .numberOutOfRange
    else .ok (x * power)
  else if x == 0 then .ok x
  else if 0 ≤ e then .error .numberOutOfRange
  else scaled (x / Float.ofScientific 1 false 308) (e + 308)
termination_by (-e).toNat
decreasing_by omega

/-- The largest exponent that is looked at; larger ones decide the value by their sign alone. -/
def maxExponent : Nat := 0x7FFFFFFF

/-- The magnitude of a number as a double. -/
def magnitude (n : NumberText) : Except Fault Float :=
  let (significand, dropped) := leading 0 n.whole
  let (significand, unused) := leading significand n.fraction
  let used := n.fraction.length - unused
  let point : Int := dropped - used
  match n.exponent with
  | none => scaled (Float.ofNat significand) point
  | some (negative, ds) =>
    let e := Nat.ofDigitChars 10 ds 0
    if e ≤ maxExponent then
      scaled (Float.ofNat significand) (if negative then point - e else point + e)
    else if significand = 0 ∨ negative then .ok 0
    else .error .numberOutOfRange

/-- The number as a double. -/
def double (n : NumberText) : Except Fault Number :=
  n.magnitude.map fun x => .double (if n.negative then -x else x)

/-- The value of a number. Minus zero is a double. -/
def value (n : NumberText) : Except Fault Number :=
  if n.fraction.isEmpty && n.exponent.isNone then
    let v := Nat.ofDigitChars 10 n.whole 0
    if n.negative then
      if 0 < v ∧ v ≤ Numeral.signBit then .ok (.negative v) else n.double
    else if v ≤ Numeral.maxWord then .ok (.natural (UInt64.ofNat v))
    else n.double
  else n.double

/-! ## Writing -/

/-- The characters of the number. -/
def write (n : NumberText) : List Char :=
  (if n.negative then ['-'] else []) ++ n.whole ++
    (if n.fraction.isEmpty then [] else '.' :: n.fraction) ++
    (match n.exponent with
      | none => []
      | some (negative, ds) => 'e' :: (if negative then '-' :: ds else ds))

end NumberText

/-- Doubles are written with the fewest digits that read back: positionally from 0.00001 up to
10^16, otherwise with a signed exponent. -/
def doubles : Decimal.Layout where
  isPlain e := -5 ≤ e && e < 16
  pointZero := true
  exponentPlus := true
  tie := .toEven

/-- The text of a number. -/
def Number.text : Number → String
  | .natural n => String.ofList (Numeral.write n.toNat)
  | .negative magnitude => String.ofList ('-' :: Numeral.write magnitude)
  | .double x => doubles.write x

/-- A number in the words of a fault. -/
def Number.described : Number → String
  | .double x => "floating point `" ++ doubles.write x ++ "`"
  | n => "integer `" ++ n.text ++ "`"

end AnalysisSettings.Json
