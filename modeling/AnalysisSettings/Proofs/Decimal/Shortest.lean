import AnalysisSettings.Decimal.Shortest
import Mathlib.Algebra.Order.Field.Power
import Mathlib.Algebra.Order.Field.Rat
import Mathlib.Data.Nat.Cast.Field
import Mathlib.Data.Rat.Cast.Order
import Mathlib.Tactic.FieldSimp
import Mathlib.Tactic.Linarith
import Mathlib.Tactic.NormNum
import Mathlib.Tactic.Positivity
import Mathlib.Tactic.Ring

/-!
# The shortest decimal of a binary number

A binary number stands for an interval: the reals that are rounded to it (`Binary.Holds`). The search
for its shortest decimal walks through finer and finer grids, and the laws follow it. On one grid a
decimal is found if there is one in the interval (`exists_nearestOn?`), on the grid of seventeen digits
there is one (`exists_seventeen`), and the first grid that has one ends the search (`exists_shortest`).

What is found is in the interval and does not end in a zero (`shortest_spec`). **A decimal of at most
fifteen digits in the interval is what is found** (`shortest_eq`), provided that the interval is so
narrow that no other decimal of fifteen digits is in it. Of the decimals with sixteen or seventeen
digits several can be in the interval, and nothing is said of which of them is found.

The tests compare products of natural numbers. Each law is about the rationals that these stand for:
`contains_iff`, `floorAt_le` and `scale_bounds` are where the products are read, and nothing after them
looks at a numerator or a denominator.
-/

namespace AnalysisSettings.Decimal

open Numeral (tenTo)

/-! ## Values -/

theorem ten_zpow_eq_mul {e e' : ℤ} {n : ℕ} (h : e = e' + n) : (10 : ℚ) ^ e = 10 ^ n * 10 ^ e' := by
  rw [h, zpow_add₀ (by norm_num), zpow_natCast, mul_comm]

/-- The number that a decimal is. -/
def Shortened.value (d : Shortened) : ℚ := d.digits * 10 ^ d.exponent

/-- The next decimal of a grid is one step away. -/
theorem Shortened.value_succ (d : Shortened) :
    Shortened.value { d with digits := d.digits + 1 } = d.value + 10 ^ d.exponent := by
  rw [value, value, Nat.cast_succ, add_mul, one_mul]

/-- A decimal on a finer grid. -/
theorem Shortened.value_eq_multiple {d : Shortened} {e : ℤ} (le : e ≤ d.exponent) :
    d.value = (d.digits * 10 ^ (d.exponent - e).toNat : ℕ) * 10 ^ e := by
  have exponent : d.exponent = e + (d.exponent - e).toNat := by omega
  rw [value, ten_zpow_eq_mul exponent]
  push_cast
  ring

/-- A number has one decimal without a zero at the end. -/
theorem Shortened.eq_of_value {d d' : Shortened} (hd : d.digits % 10 ≠ 0) (hd' : d'.digits % 10 ≠ 0)
    (h : d.value = d'.value) : d = d' := by
  wlog le : d.exponent ≤ d'.exponent generalizing d d'
  · exact (this hd' hd h.symm (not_le.mp le).le).symm
  have unit : (10 : ℚ) ^ d.exponent ≠ 0 := zpow_ne_zero _ (by norm_num)
  rw [value_eq_multiple le, value] at h
  have digits : d.digits = d'.digits * 10 ^ (d'.exponent - d.exponent).toNat := by
    exact_mod_cast mul_right_cancel₀ unit h
  have same : (d'.exponent - d.exponent).toNat = 0 := by
    by_contra more
    obtain ⟨k, hk⟩ := Nat.exists_eq_succ_of_ne_zero more
    rw [hk, Nat.pow_succ, ← Nat.mul_assoc] at digits
    exact hd (digits ▸ Nat.mul_mod_left _ _)
  rw [same, Nat.pow_zero, Nat.mul_one] at digits
  have exponent : d.exponent = d'.exponent := by omega
  cases d
  cases d'
  simp_all

namespace Binary

/-- The number itself. -/
def value (x : Binary) : ℚ := x.numerator / x.denominator

/-- The lower end of the interval. -/
def low (x : Binary) : ℚ := (x.numerator - x.below) / x.denominator

/-- The upper end of the interval. -/
def high (x : Binary) : ℚ := (x.numerator + x.above) / x.denominator

theorem high_sub_low (x : Binary) : x.high - x.low = (x.below + x.above) / x.denominator := by
  rw [high, low, ← sub_div]
  ring_nf

/-- A real of the interval. -/
def Holds (x : Binary) (v : ℚ) : Prop :=
  if x.closed then x.low ≤ v ∧ v ≤ x.high else x.low < v ∧ v < x.high

/-- A number of which the ends of the interval are apart from it, and so far apart that there is a
decimal of seventeen digits between them. -/
structure Proper (x : Binary) : Prop where
  denominator_pos : 0 < x.denominator
  below_pos : 0 < x.below
  above_pos : 0 < x.above
  below_lt : x.below < x.numerator
  wide : x.numerator < (x.below + x.above) * 10 ^ 16

/-- An interval in which no two decimals of fifteen digits are. -/
def Narrow (x : Binary) : Prop :=
  (x.below + x.above) * 10 ^ 15 ≤ x.numerator

end Binary

theorem ten_zpow_eq (e : ℤ) : (10 : ℚ) ^ e = tenTo e.toNat / tenTo (-e).toNat := by
  obtain ⟨n, rfl | rfl⟩ := e.eq_nat_or_neg <;> simp [tenTo]

theorem tenTo_pos (n : ℕ) : (0 : ℚ) < tenTo n := by
  exact_mod_cast Nat.pow_pos (n := n) (show 0 < 10 by decide)

namespace Binary

variable {x : Binary} (proper : x.Proper)

section Proper
include proper

theorem Proper.pos : (0 : ℚ) < x.denominator := by
  exact_mod_cast proper.denominator_pos

theorem Proper.low_lt : x.low < x.value := by
  have pos := proper.pos
  have below : (0 : ℚ) < x.below := by exact_mod_cast proper.below_pos
  exact div_lt_div_of_pos_right (by linarith) pos

theorem Proper.lt_high : x.value < x.high := by
  have pos := proper.pos
  have above : (0 : ℚ) < x.above := by exact_mod_cast proper.above_pos
  exact div_lt_div_of_pos_right (by linarith) pos

theorem Proper.low_pos : 0 < x.low := by
  have below : (x.below : ℚ) < x.numerator := by exact_mod_cast proper.below_lt
  exact div_pos (by linarith) proper.pos

/-- The test for a decimal is the test for its value. -/
theorem contains_iff (d : Shortened) : x.contains d = true ↔ x.Holds d.value := by
  have pos := proper.pos
  have shift := tenTo_pos (-d.exponent).toNat
  have below : ((x.numerator - x.below : ℕ) : ℚ) = x.numerator - x.below :=
    Nat.cast_sub proper.below_lt.le
  have value : d.value = d.digits * tenTo d.exponent.toNat / tenTo (-d.exponent).toNat := by
    rw [Shortened.value, ten_zpow_eq, mul_div_assoc]
  rw [contains, Holds, value, low, high]
  split <;> simp only [Bool.and_eq_true, decide_eq_true_eq]
  · rw [div_le_div_iff₀ pos shift, div_le_div_iff₀ shift pos, ← below]
    norm_cast
  · rw [div_lt_div_iff₀ pos shift, div_lt_div_iff₀ shift pos, ← below]
    norm_cast

/-- The interval has no gap between a real of it and the number. -/
theorem Proper.holds_of_le_of_le {v w : ℚ} (h : x.Holds v) (vw : v ≤ w) (le : w ≤ x.value) :
    x.Holds w := by
  have high := proper.lt_high
  rw [Holds] at h ⊢
  split at h
  · next closed =>
    rw [if_pos closed]
    exact ⟨h.1.trans vw, (le.trans_lt high).le⟩
  · next opened =>
    rw [if_neg opened]
    exact ⟨h.1.trans_le vw, le.trans_lt high⟩

theorem Proper.holds_of_ge_of_ge {v w : ℚ} (h : x.Holds v) (wv : w ≤ v) (le : x.value ≤ w) :
    x.Holds w := by
  have low := proper.low_lt
  rw [Holds] at h ⊢
  split at h
  · next closed =>
    rw [if_pos closed]
    exact ⟨(low.trans_le le).le, wv.trans h.2⟩
  · next opened =>
    rw [if_neg opened]
    exact ⟨low.trans_le le, wv.trans_lt h.2⟩

omit proper in
theorem Holds.bounds {v : ℚ} (h : x.Holds v) : x.low ≤ v ∧ v ≤ x.high := by
  rw [Holds] at h
  split at h
  · exact h
  · exact ⟨h.1.le, h.2.le⟩

omit proper in
theorem holds_of_lt_of_lt {v : ℚ} (low : x.low < v) (high : v < x.high) : x.Holds v := by
  rw [Holds]
  split
  · exact ⟨low.le, high.le⟩
  · exact ⟨low, high⟩

/-! ## One grid -/

/-- The decimal below the number is the last on its grid that is. -/
theorem floorAt_le (e : ℤ) : (x.floorAt e).value ≤ x.value ∧
    x.value < Shortened.value { x.floorAt e with digits := (x.floorAt e).digits + 1 } := by
  have pos := proper.pos
  have unit := tenTo_pos e.toNat
  have shift := tenTo_pos (-e).toNat
  have scale : (0 : ℕ) < x.denominator * tenTo e.toNat := by
    exact_mod_cast mul_pos pos unit
  have floor := Nat.div_mul_le_self (x.numerator * tenTo (-e).toNat) (x.denominator * tenTo e.toNat)
  have next := Nat.lt_div_mul_add (a := x.numerator * tenTo (-e).toNat) scale
  rw [Shortened.value, Shortened.value, floorAt, value, ten_zpow_eq]
  dsimp only
  generalize x.numerator * tenTo (-e).toNat / (x.denominator * tenTo e.toNat) = digits at floor next
  constructor
  · rw [← mul_div_assoc, div_le_div_iff₀ shift pos]
    have floor : (digits : ℚ) * (x.denominator * tenTo e.toNat) ≤ x.numerator * tenTo (-e).toNat := by
      exact_mod_cast floor
    linarith
  · rw [← mul_div_assoc, div_lt_div_iff₀ pos shift, Nat.cast_succ]
    have next : (x.numerator * tenTo (-e).toNat : ℚ) <
        digits * (x.denominator * tenTo e.toNat) + x.denominator * tenTo e.toNat := by
      exact_mod_cast next
    linarith

end Proper

/-- What a grid gives is in the interval, and is a neighbour of the number. -/
theorem nearestOn?_eq_some {tie : Tie} {e : ℤ} {d : Shortened} (h : x.nearestOn? tie e = some d) :
    x.contains d = true ∧ d.exponent = e ∧ d.digits ≤ (x.floorAt e).digits + 1 := by
  have neighbour : x.contains d = true ∧
      (d = x.floorAt e ∨ d = { x.floorAt e with digits := (x.floorAt e).digits + 1 }) := by
    unfold nearestOn? at h
    dsimp only at h
    split at h
    · cases h
    · next lower _ =>
      cases h
      exact ⟨lower, .inl rfl⟩
    · next upper =>
      cases h
      exact ⟨upper, .inr rfl⟩
    · next lower upper =>
      split at h
      · cases h
        exact ⟨lower, .inl rfl⟩
      · cases h
        exact ⟨upper, .inr rfl⟩
      · cases h
        exact ⟨upper, .inr rfl⟩
      · split at h
        · cases h
          exact ⟨lower, .inl rfl⟩
        · cases h
          exact ⟨upper, .inr rfl⟩
  refine ⟨neighbour.1, ?_⟩
  rcases neighbour.2 with rfl | rfl
  · exact ⟨rfl, Nat.le_succ _⟩
  · exact ⟨rfl, le_rfl⟩

theorem exists_nearestOn?_of_neighbour {e : ℤ} (tie : Tie)
    (h : x.contains (x.floorAt e) = true ∨
      x.contains { x.floorAt e with digits := (x.floorAt e).digits + 1 } = true) :
    ∃ d, x.nearestOn? tie e = some d := by
  unfold nearestOn?
  dsimp only
  generalize x.contains (x.floorAt e) = lower at h
  generalize x.contains _ = upper at h
  cases lower with
  | false =>
    cases upper with
    | false => exact absurd h (by decide)
    | true => exact ⟨_, rfl⟩
  | true =>
    cases upper with
    | false => exact ⟨_, rfl⟩
    | true =>
      dsimp only
      split
      · exact ⟨_, rfl⟩
      · exact ⟨_, rfl⟩
      · exact ⟨_, rfl⟩
      · split <;> exact ⟨_, rfl⟩

include proper in
/-- A grid on which some decimal is in the interval gives one. -/
theorem exists_nearestOn? {d : Shortened} (tie : Tie) (h : x.contains d = true) :
    ∃ d', x.nearestOn? tie d.exponent = some d' := by
  obtain ⟨floor, next⟩ := floorAt_le proper d.exponent
  have unit : (0 : ℚ) < 10 ^ d.exponent := zpow_pos (by norm_num) _
  have held := (contains_iff proper d).mp h
  have neighbour : x.contains (x.floorAt d.exponent) = true ∨
      x.contains { x.floorAt d.exponent with digits := (x.floorAt d.exponent).digits + 1 } = true := by
    simp only [contains_iff proper]
    rcases le_or_gt d.value x.value with le | gt
    · have digits : d.digits < (x.floorAt d.exponent).digits + 1 := by
        exact_mod_cast lt_of_mul_lt_mul_right (le.trans_lt next) unit.le
      refine .inl (proper.holds_of_le_of_le held ?_ floor)
      exact mul_le_mul_of_nonneg_right (by exact_mod_cast Nat.le_of_lt_succ digits) unit.le
    · have digits : (x.floorAt d.exponent).digits < d.digits := by
        exact_mod_cast lt_of_mul_lt_mul_right (floor.trans_lt gt) unit.le
      refine .inr (proper.holds_of_ge_of_ge held ?_ ?_)
      · exact mul_le_mul_of_nonneg_right (by exact_mod_cast digits) unit.le
      · exact next.le
  exact exists_nearestOn?_of_neighbour tie neighbour

/-! ## The scale -/

/-- The digits of a number tell its size. -/
theorem exists_pow_length_write {n : ℕ} (positive : 0 < n) :
    ∃ l, (Numeral.write n).length = l + 1 ∧ 10 ^ l ≤ n ∧ n < 10 ^ (l + 1) := by
  obtain ⟨l, length⟩ := Nat.exists_eq_succ_of_ne_zero
    (List.length_pos_of_ne_nil (Numeral.write_ne_nil n)).ne'
  have atMost (k : ℕ) (some : 0 < k) : (Numeral.write n).length ≤ k ↔ n < 10 ^ k :=
    Nat.length_toDigits_le_iff (by decide) some
  refine ⟨l, length, ?_, (atMost _ l.succ_pos).mp length.le⟩
  by_contra less
  rcases Nat.eq_zero_or_pos l with rfl | some
  · omega
  · have fewer := (atMost l some).mpr (not_le.mp less)
    omega

include proper in
/-- The scale is that of the first digit. -/
theorem scale_bounds : (10 : ℚ) ^ (x.scale - 1) ≤ x.value ∧ x.value < 10 ^ x.scale := by
  have pos := proper.pos
  have numerator : 0 < x.numerator := proper.below_pos.trans proper.below_lt
  rw [scale, value]
  split
  · next large =>
    obtain ⟨l, length, low, high⟩ := exists_pow_length_write (Nat.div_pos large proper.denominator_pos)
    have floor : 10 ^ l * x.denominator ≤ x.numerator := (Nat.le_div_iff_mul_le proper.denominator_pos).mp low
    have next : x.numerator < 10 ^ (l + 1) * x.denominator := (Nat.div_lt_iff_lt_mul proper.denominator_pos).mp high
    rw [length, le_div_iff₀ pos, div_lt_iff₀ pos, Nat.cast_succ, add_sub_cancel_right, zpow_natCast,
      ← Nat.cast_succ, zpow_natCast]
    exact_mod_cast And.intro floor next
  · next small =>
    have one : 0 < (x.denominator - 1) / x.numerator := Nat.div_pos (by omega) numerator
    obtain ⟨l, length, low, high⟩ := exists_pow_length_write one
    have floor : 10 ^ l * x.numerator < x.denominator := by
      have := (Nat.le_div_iff_mul_le numerator).mp low
      omega
    have next : x.denominator ≤ 10 ^ (l + 1) * x.numerator := by
      have := (Nat.div_lt_iff_lt_mul numerator).mp high
      omega
    have exponents : (1 : ℤ) - (l + 1 : ℕ) - 1 = -(l + 1 : ℕ) ∧ (1 : ℤ) - (l + 1 : ℕ) = -(l : ℕ) := by
      omega
    rw [length, exponents.1, exponents.2, zpow_neg, zpow_neg, zpow_natCast, zpow_natCast]
    rw [inv_eq_one_div, inv_eq_one_div, div_le_div_iff₀ (by positivity) pos, div_lt_div_iff₀ pos (by positivity)]
    constructor
    · rw [one_mul, mul_comm]
      exact_mod_cast next
    · rw [one_mul, mul_comm]
      exact_mod_cast floor

/-! ## Zeros at the end -/

theorem value_stripped (n : ℕ) (d : Shortened) : (stripped n d).value = d.value := by
  induction n generalizing d with
  | zero => rfl
  | succ n ih =>
    rw [stripped]
    split
    · next zero =>
      have digits : (d.digits : ℚ) = d.digits / 10 * 10 := by ring
      rw [ih, Shortened.value, Shortened.value, Nat.cast_div (Nat.dvd_of_mod_eq_zero zero) (by norm_num),
        zpow_add_one₀ (by norm_num)]
      push_cast
      ring
    · rfl

/-- As many zeros are stripped as there can be. -/
theorem stripped_digits_mod {n : ℕ} {d : Shortened} (some : 0 < d.digits) (bound : d.digits < 10 ^ n) :
    (stripped n d).digits % 10 ≠ 0 := by
  induction n generalizing d with
  | zero => omega
  | succ n ih =>
    rw [stripped]
    split
    · refine ih ?_ ?_
      · show 0 < d.digits / 10
        omega
      · show d.digits / 10 < 10 ^ n
        omega
    · assumption

/-! ## The search -/

section Proper
include proper

/-- On the grid of `n` digits there are so many below the number. -/
theorem floorAt_digits_lt (n : ℕ) : (x.floorAt (x.scale - n)).digits < 10 ^ n := by
  have unit : (0 : ℚ) < 10 ^ (x.scale - n) := zpow_pos (by norm_num) _
  have floor := (floorAt_le proper (x.scale - n)).1
  have scale := (scale_bounds proper).2
  have split : (10 : ℚ) ^ x.scale = 10 ^ n * 10 ^ (x.scale - n) := ten_zpow_eq_mul (by omega)
  have less : ((x.floorAt (x.scale - n)).digits : ℚ) < 10 ^ n :=
    lt_of_mul_lt_mul_right ((floor.trans_lt scale).trans_eq split) unit.le
  exact_mod_cast less

/-- The distance of the ends is more than a step of the grid of seventeen digits. -/
theorem step_lt : (10 : ℚ) ^ (x.scale - 17) < x.high - x.low := by
  have pos := proper.pos
  have wide : (x.numerator : ℚ) < (x.below + x.above) * 10 ^ 16 := by exact_mod_cast proper.wide
  have first := (scale_bounds proper).1
  have split : (10 : ℚ) ^ (x.scale - 1) = 10 ^ 16 * 10 ^ (x.scale - 17) := ten_zpow_eq_mul (by omega)
  rw [high_sub_low, lt_div_iff₀ pos]
  rw [split, value, le_div_iff₀ pos] at first
  linarith

/-- On the grid of seventeen digits there is a decimal in the interval. -/
theorem exists_seventeen (tie : Tie) : ∃ d, x.nearestOn? tie (x.scale - 17) = some d := by
  obtain ⟨floor, next⟩ := floorAt_le proper (x.scale - 17)
  refine exists_nearestOn?_of_neighbour tie ?_
  simp only [contains_iff proper]
  rcases lt_or_ge x.low (x.floorAt (x.scale - 17)).value with above | below
  · exact .inl (holds_of_lt_of_lt above (floor.trans_lt proper.lt_high))
  · refine .inr (holds_of_lt_of_lt (proper.low_lt.trans next) ?_)
    have step : (10 : ℚ) ^ (x.floorAt (x.scale - 17)).exponent < x.high - x.low := step_lt proper
    rw [Shortened.value_succ]
    linarith

/-- The search ends at the first grid that gives a decimal. -/
theorem exists_shortest (tie : Tie) : ∃ (n : ℕ) (d : Shortened), 1 ≤ n ∧ n ≤ 17 ∧
    x.nearestOn? tie (x.scale - n) = some d ∧ x.shortest tie = stripped 20 d ∧
    ∀ m : ℕ, 1 ≤ m → m < n → x.nearestOn? tie (x.scale - m) = none := by
  cases found : (List.range' 1 17).findSome? fun n => x.nearestOn? tie (x.scale - (n : ℕ)) with
  | none =>
    obtain ⟨d, hd⟩ := exists_seventeen proper tie
    have last : 17 ∈ List.range' 1 17 := by decide
    have missed := List.findSome?_eq_none_iff.mp found 17 last
    rw [Nat.cast_ofNat, hd] at missed
    cases missed
  | some d =>
    obtain ⟨before, n, after, range, hit, missed⟩ := List.findSome?_eq_some_iff.mp found
    have inRange (m : ℕ) : m ∈ before ++ n :: after ↔ 1 ≤ m ∧ m < 18 := by
      rw [← range, List.mem_range'_1]
    have ascending : (before ++ n :: after).Pairwise (· < ·) := range ▸ List.pairwise_lt_range'
    obtain ⟨one, seventeen⟩ := (inRange n).mp (by simp)
    refine ⟨n, d, one, by omega, hit, by rw [shortest, found]; rfl, fun m some less => ?_⟩
    refine missed m ?_
    rcases List.mem_append.mp ((inRange m).mpr ⟨some, by omega⟩) with earlier | later
    · exact earlier
    · rcases List.mem_cons.mp later with rfl | later
      · exact absurd less (lt_irrefl _)
      · have := (List.pairwise_cons.mp (List.pairwise_append.mp ascending).2.1).1 m later
        omega

/-- **The shortest decimal** is in the interval and does not end in a zero. -/
theorem shortest_spec (tie : Tie) :
    x.Holds (x.shortest tie).value ∧ (x.shortest tie).digits % 10 ≠ 0 := by
  obtain ⟨n, d, one, seventeen, hit, shortest, -⟩ := exists_shortest proper tie
  obtain ⟨contains, exponent, digits⟩ := nearestOn?_eq_some hit
  have held := (contains_iff proper d).mp contains
  rw [shortest, value_stripped]
  refine ⟨held, stripped_digits_mod ?_ ?_⟩
  · have positive := proper.low_pos.trans_le held.bounds.1
    by_contra zero
    rw [Shortened.value, Nat.eq_zero_of_not_pos zero, Nat.cast_zero, zero_mul] at positive
    exact lt_irrefl _ positive
  · calc d.digits ≤ (x.floorAt (x.scale - n)).digits + 1 := digits
      _ ≤ 10 ^ n := floorAt_digits_lt proper n
      _ ≤ 10 ^ 17 := Nat.pow_le_pow_right (by decide) seventeen
      _ < 10 ^ 20 := by decide

/-- In a narrow interval no two decimals of one grid of fifteen digits are apart. -/
theorem distance_lt (narrow : x.Narrow) :
    (x.high - x.low) * 10 ^ 15 ≤ x.value ∧ x.high - x.low < 10 ^ (x.scale - 15) := by
  have pos := proper.pos
  have narrow : ((x.below + x.above) * 10 ^ 15 : ℚ) ≤ x.numerator := by exact_mod_cast narrow
  have relative : (x.high - x.low) * 10 ^ 15 ≤ x.value := by
    rw [high_sub_low, value, div_mul_eq_mul_div, div_le_div_iff_of_pos_right pos]
    exact narrow
  have split : (10 : ℚ) ^ x.scale = 10 ^ 15 * 10 ^ (x.scale - 15) := ten_zpow_eq_mul (by omega)
  have scale := (scale_bounds proper).2
  rw [split, mul_comm] at scale
  exact ⟨relative, lt_of_mul_lt_mul_right (relative.trans_lt scale) (by norm_num)⟩

/-- A decimal of fifteen digits in a narrow interval lies on the grid of fifteen digits. -/
theorem scale_le_exponent (narrow : x.Narrow) {d : Shortened} (held : x.Holds d.value)
    (short : d.digits < 10 ^ 15) : x.scale - 15 ≤ d.exponent := by
  by_contra fine
  have relative := (distance_lt proper narrow).1
  have first := (scale_bounds proper).1
  have unit : (0 : ℚ) < 10 ^ (x.scale - 16) := zpow_pos (by norm_num) _
  have split : (10 : ℚ) ^ (x.scale - 1) = 10 ^ 15 * 10 ^ (x.scale - 16) := ten_zpow_eq_mul (by omega)
  have digits : (d.digits : ℚ) ≤ 10 ^ 15 - 1 := by
    have less : d.digits + 1 ≤ 10 ^ 15 := short
    have less : (d.digits : ℚ) + 1 ≤ 10 ^ 15 := by exact_mod_cast less
    linarith
  have small : d.value ≤ (10 ^ 15 - 1) * 10 ^ (x.scale - 16) :=
    mul_le_mul digits (zpow_le_zpow_right₀ (by norm_num) (by omega)) (zpow_pos (by norm_num) _).le
      (by norm_num)
  have low := held.bounds.1
  have high := proper.lt_high
  rw [split] at first
  linarith

/-- In a narrow interval there is one number of the grid of fifteen digits. -/
theorem eq_of_holds (narrow : x.Narrow) {a b : ℕ} (ha : x.Holds (a * 10 ^ (x.scale - 15)))
    (hb : x.Holds (b * 10 ^ (x.scale - 15))) : a = b := by
  have unit : (0 : ℚ) < 10 ^ (x.scale - 15) := zpow_pos (by norm_num) _
  have distance := (distance_lt proper narrow).2
  have apart {a b : ℕ} (ha : x.Holds (a * 10 ^ (x.scale - 15))) (hb : x.Holds (b * 10 ^ (x.scale - 15))) :
      a < b + 1 := by
    have less : (a : ℚ) * 10 ^ (x.scale - 15) < (b + 1) * 10 ^ (x.scale - 15) := by
      have high := ha.bounds.2
      have low := hb.bounds.1
      linarith
    exact_mod_cast lt_of_mul_lt_mul_right less unit.le
  have := apart ha hb
  have := apart hb ha
  omega

/-- **A short decimal in a narrow interval** is the shortest one. -/
theorem shortest_eq (narrow : x.Narrow) (tie : Tie) {d : Shortened} (held : x.Holds d.value)
    (short : d.digits < 10 ^ 15) (plain : d.digits % 10 ≠ 0) : x.shortest tie = d := by
  obtain ⟨n, d', one, seventeen, hit, shortest, missed⟩ := exists_shortest proper tie
  obtain ⟨contains', exponent', digits'⟩ := nearestOn?_eq_some hit
  have held' := (contains_iff proper d').mp contains'
  have grid := Shortened.value_eq_multiple (scale_le_exponent proper narrow held short)
  -- The grid of fifteen digits has `d`, so the search ends there at the latest.
  have fifteen : n ≤ 15 := by
    by_contra more
    have onGrid : x.contains ⟨d.digits * 10 ^ (d.exponent - (x.scale - 15)).toNat, x.scale - 15⟩ = true := by
      rw [contains_iff proper, Shortened.value, ← grid]
      exact held
    obtain ⟨d'', found⟩ := exists_nearestOn? proper tie onGrid
    have none := missed 15 (by decide) (by omega)
    rw [Nat.cast_ofNat, found] at none
    cases none
  -- What it ends with lies on that grid too, and there is room for one only.
  have grid' : d'.value = _ * 10 ^ (x.scale - 15) := Shortened.value_eq_multiple (by rw [exponent']; omega)
  have same : d'.value = d.value := by
    rw [grid] at held
    rw [grid'] at held'
    rw [grid', grid, eq_of_holds proper narrow held' held]
  refine Shortened.eq_of_value (shortest_spec proper tie).2 plain ?_
  rw [shortest, value_stripped, same]

end Proper

end Binary

end AnalysisSettings.Decimal
