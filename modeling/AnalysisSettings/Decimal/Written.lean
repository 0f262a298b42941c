import AnalysisSettings.Decimal.Shortest
import AnalysisSettings.Text.Split

/-!
# Decimals as written

The decimal notation of real numbers, with an optional point and an optional exponent, and the
double that is nearest to such a number. A number beyond the range of doubles is infinite.
-/

namespace AnalysisSettings.Decimal

/-- A decimal as written: sign, digits before and after the point, exponent. -/
structure Written where
  isNegative : Bool
  whole : List Char
  fraction : List Char
  exponent : Int
deriving DecidableEq, Repr

/-- A sign and the text after it; without a sign the number is positive. -/
def cutSign : List Char → Bool × List Char
  | '-' :: rest => (true, rest)
  | '+' :: rest => (false, rest)
  | cs => (false, cs)

/-- The exponent after its mark. -/
def readExponent? (cs : List Char) : Option Int :=
  let (isNegative, digits) := cutSign cs
  (Numeral.read? digits).map fun n => if isNegative then -(n : Int) else n

/-- A decimal: digits before or after the point must be there, the point need not. -/
def Written.read? (cs : List Char) : Option Written := do
  let (isNegative, unsigned) := cutSign cs
  let isMark := fun c => c == 'e' || c == 'E'
  let significand := unsigned.takeWhile fun c => !isMark c
  let exponent ← match unsigned.dropWhile fun c => !isMark c with
    | [] => some 0
    | _ :: cs => readExponent? cs
  let (whole, fraction) := Text.cut '.' significand
  let fraction := fraction.getD []
  if (whole ++ fraction).isEmpty = false ∧ (whole ++ fraction).all Char.isDigit = true then
    some { isNegative, whole, fraction, exponent }
  else none

namespace Written

/-- The leading digit of no number with a larger exponent is in the range of doubles. -/
def maxScale : Int := 400

/-- The magnitude of a decimal, rounded to the nearest double. -/
def magnitude (n : Written) : Float :=
  let digits := (n.whole ++ n.fraction).dropWhile (· == '0')
  let significand := Nat.ofDigitChars 10 digits 0
  let exponent := n.exponent - n.fraction.length
  let scale := exponent + digits.length
  if significand = 0 ∨ scale < -maxScale then 0
  else if maxScale < scale then 1 / 0
  else Float.ofScientific significand (exponent < 0) exponent.natAbs

/-- The double nearest to a decimal. -/
def toFloat (n : Written) : Float :=
  if n.isNegative then -n.magnitude else n.magnitude

end Written

end AnalysisSettings.Decimal
