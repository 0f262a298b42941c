import AnalysisSettings.Numeral

/-!
# The shortest decimal of a binary number

A double stands for an interval of reals: those that are rounded to it. `Binary.shortest` is the
decimal in that interval with the fewest digits and, of those, the one nearest to the number.
Everything is computed exactly, on naturals.

The search walks through the grids of one digit, two digits and so on. On each grid only the two
neighbours of the number can lie in the interval if any point of the grid does, so these two are
tested; the first grid with a hit is the answer. Seventeen digits always suffice; should none of
the seventeen grids have a hit, the number itself is written out.
-/

namespace AnalysisSettings.Decimal

/-- A positive number `numerator / denominator` and its distances, in the same unit, to the ends
of the interval of reals that are rounded to it. -/
structure Binary where
  numerator : Nat
  denominator : Nat
  below : Nat
  above : Nat
  /-- The ends belong to the interval. -/
  closed : Bool

/-- A decimal `digits · 10 ^ exponent`. -/
structure Shortened where
  digits : Nat
  exponent : Int
deriving DecidableEq, Repr

/-- Where a number lies exactly between two decimals of the same length: the even one, or the
upper one. -/
inductive Tie where
  | toEven
  | up
deriving DecidableEq, Repr

/-- The bit of a double's significand that is not written: the fraction is below it. -/
def leadingBit : Nat := 0x10000000000000

/-- The magnitude of a finite double that is not zero, from its bits. -/
def Binary.ofFloat (x : Float) : Binary :=
  let bits := x.toBits.toNat
  let biased := bits / leadingBit % 0x800
  let fraction := bits % leadingBit
  let mantissa := if biased = 0 then fraction else leadingBit + fraction
  let exponent : Int := ((max 1 biased : Nat) : Int) - 1075
  let unit := 1 <<< exponent.toNat
  { numerator := 4 * mantissa * unit
    denominator := 4 <<< (-exponent).toNat
    -- Below a power of two the neighbour is only half as far away.
    below := if fraction = 0 ∧ biased > 1 then unit else 2 * unit
    above := 2 * unit
    closed := mantissa % 2 == 0 }

namespace Binary

open Numeral (tenTo)

/-- The decimal lies in the interval of the number. -/
def contains (x : Binary) (d : Shortened) : Bool :=
  let scaled := d.digits * tenTo d.exponent.toNat * x.denominator
  let shift := tenTo (-d.exponent).toNat
  let low := (x.numerator - x.below) * shift
  let high := (x.numerator + x.above) * shift
  if x.closed then low ≤ scaled && scaled ≤ high else low < scaled && scaled < high

/-- The least `k` for which the number is below `10 ^ k`. -/
def scale (x : Binary) : Int :=
  if x.denominator ≤ x.numerator then
    ((Numeral.write (x.numerator / x.denominator)).length : Int)
  else
    1 - ((Numeral.write ((x.denominator - 1) / x.numerator)).length : Int)

/-- The decimal on the grid `10 ^ exponent` next below the number, or the number itself. -/
def floorAt (x : Binary) (exponent : Int) : Shortened :=
  ⟨x.numerator * tenTo (-exponent).toNat / (x.denominator * tenTo exponent.toNat), exponent⟩

/-- How the number compares with the middle between `d` and the next decimal of its grid. -/
def compareMiddle (x : Binary) (d : Shortened) : Ordering :=
  compare (2 * x.numerator * tenTo (-d.exponent).toNat)
    ((2 * d.digits + 1) * tenTo d.exponent.toNat * x.denominator)

/-- The nearest decimal of the interval on one grid, if the grid has one there. -/
def nearestOn? (x : Binary) (tie : Tie) (exponent : Int) : Option Shortened :=
  let lower := x.floorAt exponent
  let upper := { lower with digits := lower.digits + 1 }
  match x.contains lower, x.contains upper with
  | false, false => none
  | true, false => some lower
  | false, true => some upper
  | true, true =>
    match x.compareMiddle lower, tie with
    | .lt, _ => some lower
    | .gt, _ => some upper
    | .eq, .up => some upper
    | .eq, .toEven => if lower.digits % 2 = 0 then some lower else some upper

/-- A decimal without trailing zeros in its digits, at most `n` of them. -/
def stripped : (n : Nat) → Shortened → Shortened
  | 0, d => d
  | n + 1, d =>
    if d.digits % 10 = 0 then stripped n ⟨d.digits / 10, d.exponent + 1⟩ else d

/-- The number itself as a decimal: a power of two divides a power of ten. -/
def exact (x : Binary) : Shortened :=
  let places := x.denominator.log2
  ⟨x.numerator * tenTo places / x.denominator, -(places : Int)⟩

/-- The decimal with the fewest digits that is rounded to the number; of several, the nearest. -/
def shortest (x : Binary) (tie : Tie) : Shortened :=
  let k := x.scale
  let found := (List.range' 1 17).findSome? fun n => x.nearestOn? tie (k - (n : Nat))
  stripped 20 (found.getD x.exact)

end Binary

end AnalysisSettings.Decimal
