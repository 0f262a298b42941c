import AnalysisSettings.Decimal.Shortest

/-!
# How doubles are written

`Layout` is the list of decisions a format makes beside the choice of the digits: which numbers are
written positionally, whether a whole number keeps its `.0`, and what the special values are
called. `Layout.write` is the text of a double in a layout.
-/

namespace AnalysisSettings.Decimal

/-- The decisions of a format for doubles. -/
structure Layout where
  /-- The exponents of the leading digit that are written without an exponent part. -/
  isPlain : Int → Bool
  /-- A whole number written positionally ends in `.0`. -/
  pointZero : Bool
  /-- A positive exponent has a plus sign. -/
  exponentPlus : Bool
  tie : Tie
  nan : String := "NaN"
  infinity : String := "inf"

namespace Layout

/-- A decimal without an exponent part. `point` is the number of digits before the point. -/
def plainText (l : Layout) (digits : List Char) (point : Int) : List Char :=
  if point ≤ 0 then
    '0' :: '.' :: (List.replicate (-point).toNat '0' ++ digits)
  else if digits.length ≤ point.toNat then
    digits ++ List.replicate (point.toNat - digits.length) '0' ++
      (if l.pointZero then ['.', '0'] else [])
  else
    digits.take point.toNat ++ '.' :: digits.drop point.toNat

/-- A decimal with one digit before the point and an exponent part. -/
def exponentText (l : Layout) (digits : List Char) (leading : Int) : List Char :=
  let mantissa := match digits with
    | first :: second :: rest => first :: '.' :: second :: rest
    | _ => digits
  let sign := if leading < 0 then ['-'] else if l.exponentPlus then ['+'] else []
  mantissa ++ 'e' :: (sign ++ Numeral.write leading.natAbs)

/-- A decimal that is not zero. -/
def decimalText (l : Layout) (d : Shortened) : List Char :=
  let digits := Numeral.write d.digits
  let leading := d.exponent + digits.length - 1
  if l.isPlain leading then l.plainText digits (leading + 1) else l.exponentText digits leading

/-- The text of a magnitude. -/
def magnitudeText (l : Layout) (x : Float) : List Char :=
  if x.toBits.toNat % Numeral.signBit = 0 then l.plainText ['0'] 1
  else l.decimalText ((Binary.ofFloat x).shortest l.tie)

/-- The text of a double. -/
def write (l : Layout) (x : Float) : String :=
  if x.isNaN then l.nan
  else
    let sign := if x.toBits.toNat / Numeral.signBit = 1 then "-" else ""
    if x.isInf then sign ++ l.infinity else sign ++ String.ofList (l.magnitudeText x)

end Layout

end AnalysisSettings.Decimal
