import AnalysisSettings.Proofs.Decimal.Double

/-!
# Short decimals as doubles

A decimal with few digits is read as the quotient of two doubles, its digits and a power of ten. Both
are exact (`exists_toFloat`), and the quotient is rounded once (`exists_div`). So **the decimal lies in
the interval of the double that it is read as** (`exists_ofScientific`).

Rounding shifts a mantissa to the right and keeps two bits for what falls off. Such a mantissa is a
quotient of two natural numbers in disguise, `extended n d`: a shift by one place doubles the divisor
(`shiftRightOne_extended`), and in the end the nearest natural number is taken (`nearest`). All that is
left of the shifts is then how large the divisor is (`exists_roundWithAccuracy`).

The exponents of the doubles here are far from both ends of the range. Nothing is said of quotients that
are subnormal or infinite.
-/

namespace AnalysisSettings.Decimal

open Float.Model (Format UnpackedFloat totalExponent)
open Float.Model.UnpackedFloat (Sign ExtendedMantissa Accuracy accuracyOfFraction)

/-! ## Rounding a quotient -/

/-- The natural number nearest to a quotient; of two, the even one. -/
def nearest (n d : ℕ) : ℕ :=
  (accuracyOfFraction (n % d) d).roundToNearestEven (n / d)

theorem nearest_spec {n d : ℕ} (positive : 0 < d) :
    2 * n ≤ (2 * nearest n d + 1) * d ∧ 2 * nearest n d * d ≤ 2 * n + d ∧
      (nearest n d % 2 = 1 → 2 * n < (2 * nearest n d + 1) * d ∧ 2 * nearest n d * d < 2 * n + d) := by
  have split := Nat.div_add_mod n d
  have less := Nat.mod_lt n positive
  rw [nearest, accuracyOfFraction]
  generalize n % d = rest at *
  generalize n / d = floor at *
  split_ifs with whole
  · simp only [Accuracy.roundToNearestEven]
    exact ⟨by nlinarith, by nlinarith, fun _ => ⟨by nlinarith, by nlinarith⟩⟩
  · cases half : compare (2 * rest) d with
    | lt =>
      have half := Nat.compare_eq_lt.mp half
      simp only [Accuracy.roundToNearestEven]
      exact ⟨by nlinarith, by nlinarith, fun _ => ⟨by nlinarith, by nlinarith⟩⟩
    | gt =>
      have half := Nat.compare_eq_gt.mp half
      simp only [Accuracy.roundToNearestEven]
      exact ⟨by nlinarith, by nlinarith, fun _ => ⟨by nlinarith, by nlinarith⟩⟩
    | eq =>
      have half := Nat.compare_eq_eq.mp half
      simp only [Accuracy.roundToNearestEven]
      rcases Nat.mod_two_eq_zero_or_one floor with even | odd
      · rw [even]
        exact ⟨by nlinarith, by nlinarith, fun odd => by omega⟩
      · rw [odd]
        exact ⟨by nlinarith, by nlinarith, fun even => by omega⟩

/-- A quotient in the form in which it is shifted: the whole part, and how the rest compares with a
half. -/
def extended (n d : ℕ) : ExtendedMantissa :=
  .ofMantissaAndAccuracy (n / d) (accuracyOfFraction (n % d) d)

theorem extended_eq {n d : ℕ} (positive : 0 < d) : extended n d =
    ⟨n / d, decide (d ≤ 2 * (n % d)), decide (n % d ≠ 0 ∧ 2 * (n % d) ≠ d)⟩ := by
  rw [extended, accuracyOfFraction]
  generalize n % d = rest
  split_ifs with whole
  · simp [ExtendedMantissa.ofMantissaAndAccuracy, whole, positive.ne']
  · cases half : compare (2 * rest) d with
    | lt =>
      have half := Nat.compare_eq_lt.mp half
      simp [ExtendedMantissa.ofMantissaAndAccuracy, whole, half, half.ne]
    | gt =>
      have half := Nat.compare_eq_gt.mp half
      simp [ExtendedMantissa.ofMantissaAndAccuracy, whole, half.le, half.ne']
    | eq =>
      have half := Nat.compare_eq_eq.mp half
      simp [ExtendedMantissa.ofMantissaAndAccuracy, half]

/-- Shifting halves the quotient. -/
theorem shiftRightOne_extended {n d : ℕ} (positive : 0 < d) :
    (extended n d).shiftRightOne = extended n (d * 2) := by
  have rest : n % (d * 2) = n % d + d * (n / d % 2) := Nat.mod_mul
  have less := Nat.mod_lt n positive
  rw [extended_eq positive, extended_eq (by omega), rest, ← Nat.div_div_eq_div_mul]
  simp only [ExtendedMantissa.shiftRightOne, ExtendedMantissa.mk.injEq, true_and]
  rcases Nat.mod_two_eq_zero_or_one (n / d) with even | odd
  · rw [even]
    constructor
    · simp
      omega
    · rw [← Bool.decide_or, decide_eq_decide]
      omega
  · rw [odd]
    constructor
    · simp
      omega
    · rw [← Bool.decide_or, decide_eq_decide]
      omega

theorem shiftRight_extended {n d : ℕ} (positive : 0 < d) (k : ℕ) :
    extended n d >>> k = extended n (d * 2 ^ k) := by
  show k.repeat ExtendedMantissa.shiftRightOne (extended n d) = _
  induction k with
  | zero => rw [Nat.pow_zero, Nat.mul_one, Nat.repeat]
  | succ k ih =>
    rw [Nat.repeat, ih, shiftRightOne_extended (by positivity), Nat.pow_succ, Nat.mul_assoc]

theorem roundedMantissa_extended (n d : ℕ) : (extended n d).roundedMantissa = nearest n d := by
  rw [extended, nearest, ExtendedMantissa.roundedMantissa]
  cases accuracyOfFraction (n % d) d with
  | exact => rfl
  | inexact order => cases order <;> rfl

/-- The exponent of a double whose digits begin at a place. -/
theorem targetExponent_eq (total : ℤ) :
    Format.binary64.targetExponent total = max (total - 53) (-1074) := by
  rfl

theorem shiftToExponent_extended {n d : ℕ} (positive : 0 < d) (e t : ℤ) :
    UnpackedFloat.shiftToExponent (n / d) e (accuracyOfFraction (n % d) d) t =
      (extended n (d * 2 ^ (t - e).toNat), e + (t - e).toNat) := by
  rw [UnpackedFloat.shiftToExponent, ← extended, shiftRight_extended positive]

theorem mantissa_extended {n d : ℕ} (positive : 0 < d) : (extended n d).mantissa = n / d := by
  rw [extended_eq positive]

/-- A quotient with enough bits is shifted until 53 bits are left. -/
theorem shiftToTargetExponent_extended {n d k : ℕ} {e : ℤ} (positive : 0 < d)
    (low : 2 ^ 52 * (d * 2 ^ k) ≤ n) (high : n < 2 ^ 53 * (d * 2 ^ k)) (range : -1074 ≤ e + k) :
    UnpackedFloat.shiftToTargetExponent Format.binary64 (n / d) e (accuracyOfFraction (n % d) d) =
      (extended n (d * 2 ^ k), e + k) := by
  have least : 2 ^ (52 + k) ≤ n / d := by
    rw [Nat.le_div_iff_mul_le positive, Nat.pow_add]
    linarith
  have most : n / d < 2 ^ (52 + k + 1) := by
    have next : 52 + k + 1 = 53 + k := by omega
    rw [Nat.div_lt_iff_lt_mul positive, next, Nat.pow_add]
    linarith
  have bits : (n / d).log2 = 52 + k :=
    (Nat.log2_eq_iff (by have := Nat.pow_pos (n := 52 + k) (show 0 < 2 by decide); omega)).mpr ⟨least, most⟩
  have target : Format.binary64.targetExponent (totalExponent (n / d) e) = e + k := by
    rw [targetExponent_eq, totalExponent, bits]
    omega
  have shift : (e + k - e).toNat = k := by omega
  rw [UnpackedFloat.shiftToTargetExponent, target, shiftToExponent_extended positive, shift]

/-- The same for a whole number. -/
theorem shiftToTargetExponent_exact {r k : ℕ} {e : ℤ} (low : 2 ^ 52 * 2 ^ k ≤ r)
    (high : r < 2 ^ 53 * 2 ^ k) (range : -1074 ≤ e + k) :
    UnpackedFloat.shiftToTargetExponent Format.binary64 r e .exact = (extended r (2 ^ k), e + k) := by
  have quotient := shiftToTargetExponent_extended (n := r) (d := 1) (k := k) (by decide)
    (by rwa [Nat.one_mul]) (by rwa [Nat.one_mul]) range
  rw [Nat.div_one, Nat.mod_one, Nat.one_mul] at quotient
  exact quotient

theorem nearest_bounds {n d : ℕ} (positive : 0 < d) (low : 2 ^ 52 * d ≤ n) (high : n < 2 ^ 53 * d) :
    2 ^ 52 ≤ nearest n d ∧ nearest n d ≤ 2 ^ 53 := by
  obtain ⟨above, below, -⟩ := nearest_spec (n := n) positive
  constructor
  · have := Nat.lt_of_mul_lt_mul_right (a := d) (b := 2 ^ 53) (c := 2 * nearest n d + 2) (by linarith)
    omega
  · have := Nat.lt_of_mul_lt_mul_right (a := d) (b := 2 * nearest n d) (c := 2 ^ 54 + 1) (by linarith)
    omega

/-- **Rounding**: a quotient becomes the nearest number of 53 bits, in the next higher range if that is
`2 ^ 53`. -/
theorem exists_roundWithAccuracy (sign : Sign) {n d k : ℕ} {e : ℤ} (positive : 0 < d)
    (low : 2 ^ 52 * (d * 2 ^ k) ≤ n) (high : n < 2 ^ 53 * (d * 2 ^ k)) (least : -1074 ≤ e + k)
    (most : e + k < 971) :
    ∃ m : Normal, UnpackedFloat.roundWithAccuracy Format.binary64 sign (n / d) e
        (accuracyOfFraction (n % d) d) = m.unpacked ∧ m.sign = sign ∧
      (m.mantissa = nearest n (d * 2 ^ k) ∧ m.exponent = e + k ∨
        m.mantissa = 2 ^ 52 ∧ nearest n (d * 2 ^ k) = 2 ^ 53 ∧ m.exponent = e + k + 1) := by
  have shifted : 0 < d * 2 ^ k := Nat.mul_pos positive (Nat.pow_pos (by decide))
  obtain ⟨ge, le⟩ := nearest_bounds shifted low high
  rw [UnpackedFloat.roundWithAccuracy, shiftToTargetExponent_extended positive low high least]
  dsimp only
  rw [roundedMantissa_extended]
  generalize nearest n (d * 2 ^ k) = r at *
  -- Rounding up can carry into a further bit, which is then shifted away.
  rcases Nat.lt_or_eq_of_le le with lt | rfl
  · refine ⟨⟨sign, r, e + k, ge, lt, least, most.le⟩, ?_, rfl, .inl ⟨rfl, rfl⟩⟩
    have again := shiftToTargetExponent_exact (r := r) (k := 0) (e := e + k)
      (by omega) (by omega) (by omega)
    have mantissa : (extended r (2 ^ 0)).mantissa = r := (mantissa_extended (by decide)).trans (Nat.div_one r)
    simp only [again, mantissa, Nat.cast_zero, add_zero]
    rw [dif_neg (by omega)]
    rfl
  · refine ⟨⟨sign, 2 ^ 52, e + k + 1, le_rfl, by decide, by omega, by omega⟩, ?_, rfl,
      .inr ⟨rfl, rfl, rfl⟩⟩
    have again := shiftToTargetExponent_exact (r := 2 ^ 53) (k := 1) (e := e + k)
      (by decide) (by decide) (by omega)
    have mantissa : (extended (2 ^ 53) (2 ^ 1)).mantissa = 2 ^ 52 := mantissa_extended (by decide)
    simp only [again, mantissa, Nat.cast_one]
    rw [dif_neg (by decide)]
    rfl

/-! ## Quotients -/

/-- The magnitude of a normal double. -/
def Normal.value (m : Normal) : ℚ := m.mantissa * 2 ^ m.exponent

theorem nearest_mul {n d : ℕ} (positive : 0 < d) : nearest (n * d) d = n := by
  rw [nearest, Nat.mul_mod_left, Nat.mul_div_cancel _ positive]
  rfl

/-- A whole number is shifted to the left until it has 53 bits. -/
theorem round_natural {n k : ℕ} (positive : 0 < n) (bits : n.log2 + k = 52) :
    ∃ m : Normal, UnpackedFloat.round Format.binary64 .positive n 0 = m.unpacked ∧ m.sign = .positive ∧
      m.mantissa = n * 2 ^ k ∧ m.exponent = -k := by
  obtain ⟨ge, lt⟩ := (Nat.log2_eq_iff positive.ne').mp rfl
  have unit : 0 < 2 ^ k := Nat.pow_pos (by decide)
  have low : 2 ^ 52 ≤ n * 2 ^ k := by
    rw [← bits, Nat.pow_add]
    exact Nat.mul_le_mul_right _ ge
  have high : n * 2 ^ k < 2 ^ 53 := by
    have top : 53 = n.log2 + 1 + k := by omega
    rw [top, Nat.pow_add]
    exact Nat.mul_lt_mul_of_pos_right lt unit
  have target : Format.binary64.targetExponent (totalExponent n 0) = -(k : ℤ) := by
    rw [targetExponent_eq, totalExponent]
    omega
  have shift : UnpackedFloat.decreaseExponent n 0 (-(k : ℤ)) = (n * 2 ^ k, -(k : ℤ)) := by
    rw [UnpackedFloat.decreaseExponent]
    simp [Nat.shiftLeft_eq]
  obtain ⟨m, rounded, sign, parts⟩ := exists_roundWithAccuracy .positive (n := n * 2 ^ k)
    (d := 1) (k := 0) (e := -(k : ℤ)) (by decide) (by omega) (by omega) (by omega) (by omega)
  have itself : nearest (n * 2 ^ k) (1 * 2 ^ 0) = n * 2 ^ k := by
    have := nearest_mul (n := n * 2 ^ k) (d := 1) (by decide)
    rwa [Nat.mul_one] at this
  rw [itself] at parts
  rw [Nat.div_one, Nat.mod_one] at rounded
  refine ⟨m, ?_, sign, ?_⟩
  · rw [UnpackedFloat.round, target, shift]
    exact rounded
  · rcases parts with ⟨mantissa, exponent⟩ | ⟨-, carried, -⟩
    · exact ⟨mantissa, exponent.trans (add_zero _)⟩
    · exact absurd carried high.ne

/-- A whole number below `2 ^ 53` is a double. -/
theorem exists_toFloat {n : ℕ} (positive : 0 < n) (small : n < 2 ^ 53) :
    ∃ m : Normal, n.toUInt64.toFloat = m.toFloat ∧ m.sign = .positive ∧ m.value = n ∧
      -52 ≤ m.exponent ∧ m.exponent ≤ 0 := by
  have bits : n.log2 < 53 := (Nat.log2_lt positive.ne').mpr small
  obtain ⟨k, hk⟩ : ∃ k, n.log2 + k = 52 := ⟨52 - n.log2, by omega⟩
  obtain ⟨m, rounded, sign, mantissa, exponent⟩ := round_natural positive hk
  have word : n.toUInt64.toNat = n := by
    exact UInt64.toNat_ofNat_of_lt' (small.trans (by decide))
  refine ⟨m, ?_, sign, ?_, by omega, by omega⟩
  · show Float.ofModel (.pack (UnpackedFloat.normalize Format.binary64 n.toUInt64.toNat 0 .positive)) =
      .ofModel (.pack m.unpacked)
    rw [word, UnpackedFloat.normalize, Int.compare_eq_gt.mpr (by omega)]
    exact congrArg (fun u => Float.ofModel (.pack u)) rounded
  · rw [Normal.value, mantissa, exponent, zpow_neg, zpow_natCast]
    push_cast
    field_simp

/-- A quotient lies in the interval of the double that it is rounded to. -/
theorem holds_of_rounded {m : Normal} {n d : ℕ} {e : ℤ} (positive : 0 < d) (low : 2 ^ 52 * d ≤ n)
    (high : n < 2 ^ 53 * d)
    (rounded : m.mantissa = nearest n d ∧ m.exponent = e ∨
      m.mantissa = 2 ^ 52 ∧ nearest n d = 2 ^ 53 ∧ m.exponent = e + 1) :
    (Binary.ofFloat m.toFloat).Holds ((n : ℚ) / d * 2 ^ e) := by
  have pos : (0 : ℚ) < d := by exact_mod_cast positive
  obtain ⟨above, below, odd⟩ := nearest_spec (n := n) positive
  have least : (2 : ℚ) ^ 52 ≤ n / d := by
    rw [le_div_iff₀ pos]
    exact_mod_cast low
  have most : (n : ℚ) / d < 2 ^ 53 := by
    rw [div_lt_iff₀ pos]
    exact_mod_cast high
  have above : (n : ℚ) / d ≤ nearest n d + 1 / 2 := by
    have above : (2 * n : ℚ) ≤ (2 * nearest n d + 1) * d := by exact_mod_cast above
    rw [div_le_iff₀ pos]
    linarith
  have below : (nearest n d : ℚ) - 1 / 2 ≤ n / d := by
    have below : (2 * nearest n d * d : ℚ) ≤ 2 * n + d := by exact_mod_cast below
    rw [le_div_iff₀ pos]
    linarith
  rcases rounded with ⟨mantissa, rfl⟩ | ⟨mantissa, carried, exponent⟩
  · rw [Normal.holds_iff, mantissa]
    by_cases power : m.isPower
    · have whole : nearest n d = 2 ^ 52 := mantissa.symm.trans power.1
      rw [whole] at above ⊢
      rw [if_pos power, if_pos (by decide)]
      push_cast at above ⊢
      exact ⟨by linarith, above⟩
    · rw [if_neg power]
      split
      · exact ⟨below, above⟩
      · next uneven =>
        obtain ⟨above, below⟩ := odd (by omega)
        have above : (2 * n : ℚ) < (2 * nearest n d + 1) * d := by exact_mod_cast above
        have below : (2 * nearest n d * d : ℚ) < 2 * n + d := by exact_mod_cast below
        rw [lt_div_iff₀ pos, div_lt_iff₀ pos]
        exact ⟨by linarith, by linarith⟩
  · have half : (n : ℚ) / d * 2 ^ e = n / d / 2 * 2 ^ m.exponent := by
      rw [exponent, zpow_add_one₀ (by norm_num)]
      ring
    rw [half, Normal.holds_iff, mantissa, if_pos (by decide)]
    rw [carried] at below
    push_cast at below ⊢
    constructor
    · split <;> linarith
    · linarith

/-- The first mantissa is shifted by 53 places, so that the quotient has all its bits. -/
theorem divCore_eq {a b : Normal} (least : -1021 ≤ a.exponent - b.exponent) :
    UnpackedFloat.divCore Format.binary64 a.mantissa a.exponent b.mantissa b.exponent =
      (a.mantissa * 2 ^ 53 / b.mantissa, a.exponent - b.exponent - 53,
        accuracyOfFraction (a.mantissa * 2 ^ 53 % b.mantissa) b.mantissa) := by
  have target : Format.binary64.targetExponent
      (totalExponent a.mantissa a.exponent - totalExponent b.mantissa b.exponent) =
      a.exponent - b.exponent - 53 := by
    rw [targetExponent_eq, totalExponent, totalExponent, a.log2_mantissa, b.log2_mantissa]
    omega
  have smaller : min (a.exponent - b.exponent) (a.exponent - b.exponent - 53) =
      a.exponent - b.exponent - 53 := by omega
  have shift : (a.exponent - b.exponent - (a.exponent - b.exponent - 53)).toNat = 53 := by omega
  rw [UnpackedFloat.divCore, target, smaller, shift, Nat.shiftLeft_eq]

theorem toFloat_div {a b : Normal} (ha : a.sign = .positive) (hb : b.sign = .positive)
    (least : -1021 ≤ a.exponent - b.exponent) : a.toFloat / b.toFloat =
      Float.ofModel (.pack (UnpackedFloat.roundWithAccuracy Format.binary64 .positive
        (a.mantissa * 2 ^ 53 / b.mantissa) (a.exponent - b.exponent - 53)
        (accuracyOfFraction (a.mantissa * 2 ^ 53 % b.mantissa) b.mantissa))) := by
  show Float.ofModel (.pack (UnpackedFloat.div Format.binary64 (Float.Model.pack a.unpacked).unpack
    (Float.Model.pack b.unpacked).unpack)) = _
  rw [Normal.unpack_pack, Normal.unpack_pack]
  show Float.ofModel (.pack (UnpackedFloat.div Format.binary64
    (.finite a.sign a.mantissa a.exponent a.mantissa_pos)
    (.finite b.sign b.mantissa b.exponent b.mantissa_pos))) = _
  rw [UnpackedFloat.div, divCore_eq least, ha, hb]
  rfl

/-- **The quotient of two doubles** is the double that the quotient of their values is rounded to. -/
theorem exists_div {a b : Normal} (ha : a.sign = .positive) (hb : b.sign = .positive)
    (least : -1021 ≤ a.exponent - b.exponent) (most : a.exponent - b.exponent ≤ 1000) :
    ∃ m : Normal, a.toFloat / b.toFloat = m.toFloat ∧ m.sign = .positive ∧
      (Binary.ofFloat m.toFloat).Holds (a.value / b.value) := by
  have age := a.mantissa_ge
  have alt := a.mantissa_lt
  have bge := b.mantissa_ge
  have blt := b.mantissa_lt
  -- The quotient of the mantissas is between a half and two, so it has 53 or 54 bits.
  obtain ⟨k, one, low, high⟩ : ∃ k ≤ 1, 2 ^ 52 * (b.mantissa * 2 ^ k) ≤ a.mantissa * 2 ^ 53 ∧
      a.mantissa * 2 ^ 53 < 2 ^ 53 * (b.mantissa * 2 ^ k) := by
    by_cases less : a.mantissa < b.mantissa
    · exact ⟨0, by decide, by omega, by omega⟩
    · exact ⟨1, le_rfl, by omega, by omega⟩
  obtain ⟨m, rounded, sign, parts⟩ := exists_roundWithAccuracy .positive (e := a.exponent - b.exponent - 53)
    b.mantissa_pos low high (by omega) (by omega)
  have value : a.value / b.value = ((a.mantissa * 2 ^ 53 : ℕ) : ℚ) / (b.mantissa * 2 ^ k : ℕ) *
      2 ^ (a.exponent - b.exponent - 53 + k) := by
    have two : (2 : ℚ) ≠ 0 := by norm_num
    have divisor : (b.mantissa : ℚ) ≠ 0 := by exact_mod_cast b.mantissa_pos.ne'
    rw [Normal.value, Normal.value, zpow_add₀ two, zpow_sub₀ two, zpow_sub₀ two, zpow_natCast]
    push_cast
    field_simp
  refine ⟨m, ?_, sign, ?_⟩
  · rw [toFloat_div ha hb least, rounded]
    rfl
  · rw [value]
    exact holds_of_rounded (Nat.mul_pos b.mantissa_pos (Nat.pow_pos (by decide))) low high parts

/-- The powers of ten that are used as divisors. -/
theorem powersOfTen : ∀ e : Fin 16,
    Float.exactlyRepresentablePowersOfTen[(e : ℕ)]? = some (10 ^ (e : ℕ)).toUInt64.toFloat := by
  decide +kernel

/-- **A short decimal is read as the double that it is rounded to.** -/
theorem exists_ofScientific {digits places : ℕ} (positive : 0 < digits) (small : digits < 2 ^ 53)
    (short : places < 16) :
    ∃ m : Normal, Float.ofScientific digits true places = m.toFloat ∧ m.sign = .positive ∧
      (Binary.ofFloat m.toFloat).Holds (Shortened.value ⟨digits, -places⟩) := by
  have ten : 0 < 10 ^ places ∧ 10 ^ places < 2 ^ 53 := by
    refine ⟨Nat.pow_pos (by decide), ?_⟩
    calc 10 ^ places ≤ 10 ^ 15 := Nat.pow_le_pow_right (by decide) (by omega)
      _ < 2 ^ 53 := by decide
  obtain ⟨a, hdigits, asign, avalue, aleast, amost⟩ := exists_toFloat positive small
  obtain ⟨b, hten, bsign, bvalue, bleast, bmost⟩ := exists_toFloat ten.1 ten.2
  obtain ⟨m, quotient, sign, holds⟩ := exists_div asign bsign (by omega) (by omega)
  have divisor (h : places < Float.exactlyRepresentablePowersOfTen.size) :
      Float.exactlyRepresentablePowersOfTen[places] = b.toFloat := by
    have entry := powersOfTen ⟨places, short⟩
    rw [Array.getElem?_eq_getElem h] at entry
    exact (Option.some.inj entry).trans hten
  refine ⟨m, ?_, sign, ?_⟩
  · rw [Float.ofScientific, dif_pos ⟨small, by omega⟩]
    dsimp only
    rw [if_pos rfl, divisor, hdigits, quotient]
  · have value : Shortened.value ⟨digits, -places⟩ = a.value / b.value := by
      rw [Shortened.value, avalue, bvalue, zpow_neg, zpow_natCast, Nat.cast_pow, Nat.cast_ofNat,
        div_eq_mul_inv]
    rw [value]
    exact holds

end AnalysisSettings.Decimal
