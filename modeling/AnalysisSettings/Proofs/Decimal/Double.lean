import AnalysisSettings.Proofs.Decimal.Shortest
import Mathlib

/-!
# Doubles as binary numbers

The bits of a double give the interval of the reals that are rounded to it. For every double but zero
it is an interval around the number (`ofFloat_proper`).

`Normal` is a double with all of its 53 bits, by its sign, its mantissa and its exponent. Packing it
into bits and unpacking these gives it back (`Normal.unpack_pack`), so what is computed from the bits can
be said of the three: its interval reaches half a unit to either side, and a quarter below a power of
two, with the ends in it if the mantissa is even (`Normal.holds_iff`). That is narrow enough to keep
decimals of fifteen digits apart (`Normal.narrow`), which the interval of a subnormal double is not.
-/

namespace AnalysisSettings.Decimal

open Float.Model (Format UnpackedFloat)
open Float.Model.UnpackedFloat (Sign)

/-! ## The interval of a double -/

/-- The interval of a double that is not zero. -/
theorem ofFloat_proper {x : Float} (nonzero : x.toBits.toNat % Numeral.signBit ≠ 0) :
    (Binary.ofFloat x).Proper := by
  unfold Binary.ofFloat
  dsimp only
  generalize x.toBits.toNat = bits at nonzero
  have small : bits % leadingBit < 2 ^ 52 := Nat.mod_lt _ (by decide)
  generalize hbiased : bits / leadingBit % 0x800 = biased
  generalize hexponent : ((max 1 biased : ℕ) : ℤ) - 1075 = exponent
  have split : bits % Numeral.signBit = biased * 2 ^ 52 + bits % leadingBit := by
    rw [Numeral.signBit, ← hbiased, leadingBit]
    omega
  generalize bits % leadingBit = fraction at *
  have positive : 0 < 1 <<< exponent.toNat := by
    rw [Nat.shiftLeft_eq, one_mul]
    exact Nat.pow_pos (by decide)
  generalize 1 <<< exponent.toNat = unit at *
  generalize hmantissa : (if biased = 0 then fraction else leadingBit + fraction) = mantissa
  have some : 0 < mantissa ∧ mantissa < 2 ^ 53 := by
    rw [← hmantissa, leadingBit]
    split <;> omega
  constructor <;> dsimp only
  case denominator_pos =>
    rw [Nat.shiftLeft_eq]
    positivity
  case below_pos => split <;> omega
  case above_pos => omega
  case below_lt =>
    have more : unit ≤ mantissa * unit := Nat.le_mul_of_pos_left _ some.1
    split <;> nlinarith
  case wide =>
    split
    · next power =>
      have whole : mantissa = 2 ^ 52 := by
        rw [← hmantissa, if_neg (by omega), power.1]
        rfl
      rw [whole]
      omega
    · nlinarith

/-! ## Normal doubles -/

/-- A double with all of its 53 bits. -/
structure Normal where
  sign : Sign
  mantissa : ℕ
  exponent : ℤ
  mantissa_ge : 2 ^ 52 ≤ mantissa
  mantissa_lt : mantissa < 2 ^ 53
  exponent_ge : -1074 ≤ exponent
  exponent_le : exponent ≤ 971

namespace Normal

/-- The mantissa of a normal double is not zero. -/
theorem mantissa_pos (n : Normal) : 0 < n.mantissa := lt_of_lt_of_le (by decide) n.mantissa_ge

def unpacked (n : Normal) : UnpackedFloat :=
  .finite n.sign n.mantissa n.exponent n.mantissa_pos

def toFloat (n : Normal) : Float :=
  .ofModel (.pack n.unpacked)

/-- The mantissa of a normal double has 53 bits. -/
theorem log2_mantissa (n : Normal) : n.mantissa.log2 = 52 :=
  (Nat.log2_eq_iff n.mantissa_pos.ne').mpr ⟨n.mantissa_ge, n.mantissa_lt⟩

/-- The bits of the exponent. -/
def biased (n : Normal) : ℕ := (n.exponent + 1075).toNat

/-- The biased exponent of a normal double is neither the least nor the largest of its field. -/
theorem biased_bounds (n : Normal) : 0 < n.biased ∧ n.biased < 2047 ∧ (n.biased : ℤ) = n.exponent + 1075 := by
  have := n.exponent_ge
  have := n.exponent_le
  unfold biased
  omega

/-- A normal double is packed from its sign, its biased exponent and the bits of its mantissa. -/
theorem pack_unpacked (n : Normal) : UnpackedFloat.pack Format.binary64 n.unpacked =
    UnpackedFloat.packComponents Format.binary64 n.sign
      (BitVec.ofNat 11 n.biased) (BitVec.ofNat 52 n.mantissa) := by
  have bias : n.exponent + Format.binary64.exponentBias + Format.binary64.mantissaBitsWithoutImplicit =
      n.exponent + 1075 := by
    have bits : (Format.binary64.exponentBias : ℤ) = 1023 := by decide
    rw [bits, add_assoc]
    rfl
  obtain ⟨-, small, -⟩ := n.biased_bounds
  rw [unpacked, UnpackedFloat.pack, bias, ← biased, n.log2_mantissa]
  have finite : ¬ 2 ^ Format.binary64.exponentBits ≤ n.biased + 1 := by
    show ¬ 2048 ≤ n.biased + 1
    omega
  have normal : 52 + 1 = Format.binary64.mantissaBits := rfl
  rw [if_neg finite, if_pos normal]

/-- The three fields of a packed double lie side by side. -/
theorem toNat_packComponents (s : Sign) (e : BitVec 11) (m : BitVec 52) :
    (UnpackedFloat.packComponents Format.binary64 s e m).toNat =
      s.toBitVec.toNat * 2 ^ 63 + e.toNat * 2 ^ 52 + m.toNat := by
  have he := e.isLt
  have hm := m.isLt
  show ((s.toBitVec ++ e ++ m : BitVec (1 + 11 + 52))).toNat = _
  rw [BitVec.toNat_append, BitVec.toNat_append, ← Nat.shiftLeft_add_eq_or_of_lt he,
    ← Nat.shiftLeft_add_eq_or_of_lt hm, Nat.shiftLeft_eq, Nat.shiftLeft_eq]
  ring

/-- The bits of a normal double. -/
theorem toNat_toBits (n : Normal) : n.toFloat.toBits.toNat =
    n.sign.toBitVec.toNat * 2 ^ 63 + n.biased * 2 ^ 52 + (n.mantissa - 2 ^ 52) := by
  have bits : n.toFloat.toBits.toNat = (UnpackedFloat.pack Format.binary64 n.unpacked).toNat := rfl
  obtain ⟨-, small, -⟩ := n.biased_bounds
  have ge := n.mantissa_ge
  have lt := n.mantissa_lt
  rw [bits, pack_unpacked, toNat_packComponents, BitVec.toNat_ofNat, BitVec.toNat_ofNat,
    Nat.mod_eq_of_lt (by omega)]
  omega

/-- The first bit of a double is its sign. -/
theorem toNat_signBit (n : Normal) :
    n.toFloat.toBits.toNat / Numeral.signBit = n.sign.toBitVec.toNat := by
  obtain ⟨-, small, -⟩ := n.biased_bounds
  have lt := n.mantissa_lt
  rw [n.toNat_toBits, Numeral.signBit]
  omega

/-- A packed normal double is unpacked as it was. -/
theorem unpack_pack (n : Normal) : (Float.Model.pack n.unpacked).unpack = n.unpacked := by
  have bits : (Float.Model.pack n.unpacked).unpack =
      UnpackedFloat.unpack Format.binary64 (UnpackedFloat.pack Format.binary64 n.unpacked) := rfl
  obtain ⟨some, small, biased⟩ := n.biased_bounds
  have ge := n.mantissa_ge
  have lt := n.mantissa_lt
  have exponent : (BitVec.ofNat 11 n.biased).toNat = n.biased :=
    (BitVec.toNat_ofNat _ _).trans (Nat.mod_eq_of_lt (by omega))
  have ne {e : BitVec 11} (h : n.biased ≠ e.toNat) : BitVec.ofNat 11 n.biased ≠ e := fun same =>
    h (by rw [← same, exponent])
  have finite : BitVec.ofNat 11 n.biased ≠ -1#11 := ne small.ne
  have normal : BitVec.ofNat 11 n.biased ≠ 0#11 := ne some.ne'
  have mantissa : (1#1 ++ BitVec.ofNat 52 n.mantissa).toNat = n.mantissa := by
    rw [BitVec.toNat_append, ← Nat.shiftLeft_add_eq_or_of_lt (BitVec.isLt _), BitVec.toNat_ofNat,
      Nat.shiftLeft_eq]
    show 1 * 2 ^ 52 + n.mantissa % 2 ^ 52 = n.mantissa
    omega
  have unbiased : (n.biased : ℤ) - (Format.binary64.exponentBias + Format.binary64.mantissaBitsWithoutImplicit) =
      n.exponent := by
    have bits : (Format.binary64.exponentBias : ℤ) = 1023 := by decide
    rw [bits, biased]
    show n.exponent + 1075 - (1023 + 52) = _
    omega
  rw [bits, pack_unpacked, UnpackedFloat.unpack]
  simp only [UnpackedFloat.unpackExponent_packComponents, UnpackedFloat.unpackMantissa_packComponents,
    UnpackedFloat.unpackSign_packComponents, Sign.ofBitVec_toBitVec]
  rw [if_neg finite, if_neg normal, unpacked]
  simp only [exponent, unbiased, mantissa]

/-! ### As a binary number -/

def neg (n : Normal) : Normal := { n with sign := -n.sign }

/-- Negating a normal double changes its sign. -/
theorem neg_toFloat (n : Normal) : -n.toFloat = n.neg.toFloat := by
  show Float.ofModel (.pack (Float.Model.pack n.unpacked).unpack.neg) = _
  rw [unpack_pack]
  rfl

/-- A normal double is a number. -/
theorem isNaN_toFloat (n : Normal) : n.toFloat.isNaN = false := by
  show (Float.Model.pack n.unpacked).unpack.isNaN = false
  rw [unpack_pack]
  rfl

/-- A normal double is finite. -/
theorem isInf_toFloat (n : Normal) : n.toFloat.isInf = false := by
  show (Float.Model.pack n.unpacked).unpack.isInf = false
  rw [unpack_pack]
  rfl

theorem sign_bound (n : Normal) : n.sign.toBitVec.toNat < 2 := n.sign.toBitVec.isLt

/-- The lower neighbour of a power of two is half as far away as the upper one. -/
def isPower (n : Normal) : Prop := n.mantissa = 2 ^ 52 ∧ 1 < n.biased

instance (n : Normal) : Decidable n.isPower := inferInstanceAs (Decidable (_ ∧ _))

/-- A normal double with its distances to the ends of the interval that is rounded to it. -/
theorem ofFloat_toFloat (n : Normal) : Binary.ofFloat n.toFloat =
    { numerator := 4 * n.mantissa * 2 ^ n.exponent.toNat
      denominator := 4 * 2 ^ (-n.exponent).toNat
      below := if n.isPower then 2 ^ n.exponent.toNat else 2 * 2 ^ n.exponent.toNat
      above := 2 * 2 ^ n.exponent.toNat
      closed := n.mantissa % 2 == 0 } := by
  obtain ⟨some, small, biased⟩ := n.biased_bounds
  have ge := n.mantissa_ge
  have lt := n.mantissa_lt
  have sign := n.sign_bound
  have bits := n.toNat_toBits
  have exponentBits : n.toFloat.toBits.toNat / leadingBit % 0x800 = n.biased := by
    rw [bits, leadingBit]
    omega
  have fractionBits : n.toFloat.toBits.toNat % leadingBit = n.mantissa - 2 ^ 52 := by
    rw [bits, leadingBit]
    omega
  have exponent : ((max 1 n.biased : ℕ) : ℤ) - 1075 = n.exponent := by omega
  have mantissa : leadingBit + (n.mantissa - 2 ^ 52) = n.mantissa := by
    rw [leadingBit]
    omega
  have power : n.mantissa - 2 ^ 52 = 0 ∧ n.biased > 1 ↔ n.isPower := by
    rw [isPower]
    omega
  rw [Binary.ofFloat]
  simp only [exponentBits, fractionBits, exponent, mantissa, power, if_neg some.ne', Nat.shiftLeft_eq, one_mul]

/-- The sign does not matter for the interval. -/
theorem ofFloat_neg (n : Normal) : Binary.ofFloat n.neg.toFloat = Binary.ofFloat n.toFloat := by
  rw [ofFloat_toFloat, ofFloat_toFloat]
  rfl

/-- A power of two as a quotient of two powers, one of which is 1. -/
theorem two_zpow_eq (e : ℤ) : (2 : ℚ) ^ e = 2 ^ e.toNat / 2 ^ (-e).toNat := by
  obtain ⟨n, rfl | rfl⟩ := e.eq_nat_or_neg <;> simp

/-- A number is rounded to a double if it is less than half a unit away from it, or if it is half a
unit away and the double is even. -/
theorem holds_iff {n : Normal} {r : ℚ} : (Binary.ofFloat n.toFloat).Holds (r * 2 ^ n.exponent) ↔
    if n.mantissa % 2 = 0 then
      n.mantissa - (if n.isPower then 1 / 4 else 1 / 2) ≤ r ∧ r ≤ n.mantissa + 1 / 2
    else n.mantissa - (if n.isPower then 1 / 4 else 1 / 2) < r ∧ r < n.mantissa + 1 / 2 := by
  have unit : (0 : ℚ) < 2 ^ n.exponent := zpow_pos (by norm_num) _
  have low : (Binary.ofFloat n.toFloat).low =
      (n.mantissa - (if n.isPower then 1 / 4 else 1 / 2)) * 2 ^ n.exponent := by
    rw [Binary.low, ofFloat_toFloat, two_zpow_eq]
    split
    · push_cast
      field_simp
    · push_cast
      field_simp
      ring
  have high : (Binary.ofFloat n.toFloat).high = (n.mantissa + 1 / 2) * 2 ^ n.exponent := by
    rw [Binary.high, ofFloat_toFloat, two_zpow_eq]
    push_cast
    field_simp
    ring
  have closed : (Binary.ofFloat n.toFloat).closed = true ↔ n.mantissa % 2 = 0 := by
    rw [ofFloat_toFloat]
    exact beq_iff_eq
  rw [Binary.Holds, low, high]
  simp only [closed, mul_le_mul_iff_left₀ unit, mul_lt_mul_iff_left₀ unit]

/-- A normal double is not zero. -/
theorem nonzero_toFloat (n : Normal) : n.toFloat.toBits.toNat % Numeral.signBit ≠ 0 := by
  obtain ⟨some, small, -⟩ := n.biased_bounds
  have lt := n.mantissa_lt
  have sign := n.sign_bound
  rw [n.toNat_toBits, Numeral.signBit]
  omega

/-- No two decimals of fifteen digits are rounded to one normal double. -/
theorem narrow (n : Normal) : (Binary.ofFloat n.toFloat).Narrow := by
  have ge := n.mantissa_ge
  rw [Binary.Narrow, ofFloat_toFloat]
  dsimp only
  have unit : 0 < 2 ^ n.exponent.toNat := Nat.pow_pos (by decide)
  generalize 2 ^ n.exponent.toNat = unit at *
  split <;> nlinarith

end Normal

end AnalysisSettings.Decimal
