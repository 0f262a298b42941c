import AnalysisSettings.Decimal.Layout
import AnalysisSettings.Proofs.Decimal.Rounding
import AnalysisSettings.Proofs.Decimal.Spelling

/-!
# Decimals that are printed as they are read

A layout without exponents prints a double in the form `Written.Plain`: no plus sign, one digit at
least before the point and behind it, no further zeros at either end, no exponent. **A text with a point
that is printed at all is plain** (`Layout.Plain.of_write`), and **a plain decimal of at most fifteen
digits is printed as it was read** (`Layout.Plain.write_toFloat`). So a spelling that is not plain is
lost when a double is read and printed.

For longer decimals both happen. The double is the same for many of them, and only the shortest of
those is printed.
-/

namespace AnalysisSettings.Decimal

open Float.Model.UnpackedFloat (Sign)

/-! ## Plain decimals -/

/-- A decimal with a point spelled in the way in which doubles are printed without exponents. -/
structure Written.Plain (n : Written) (cs : List Char) : Prop extends n.Pointed cs where
  text : cs = (if n.isNegative then ['-'] else []) ++ (n.whole ++ '.' :: n.fraction)
  whole_eq : ∃ w, n.whole = Numeral.write w
  last_ne : ∃ d, n.fraction.getLast? = some d ∧ d ≠ '0'
  exponent_eq : n.exponent = 0

/-- A layout that writes every number positionally, and none that is whole with a point. -/
structure Layout.Plain (l : Layout) : Prop where
  positional : ∀ leading, l.isPlain leading = true
  noZero : l.pointZero = false
  nan : '.' ∉ l.nan.toList
  infinity : '.' ∉ l.infinity.toList

theorem digitChar_mod_ne (n : ℕ) : (n % 10).digitChar ≠ '0' ↔ n % 10 ≠ 0 := by
  have all : ∀ d < 10, d.digitChar ≠ '0' ↔ d ≠ 0 := by decide
  exact all _ (Nat.mod_lt _ (by decide))

/-- The digits of a number of which the last is not zero. -/
theorem ofDigitChars_mod_ne {cs : List Char} (digits : ∀ c ∈ cs, c.isDigit = true)
    (last : ∃ d, cs.getLast? = some d ∧ d ≠ '0') : Nat.ofDigitChars 10 cs 0 % 10 ≠ 0 := by
  obtain ⟨d, last, nonzero⟩ := last
  have ne : cs ≠ [] := by
    rintro rfl
    cases last
  obtain ⟨zeros, spelled⟩ := Numeral.exists_zeros_write (Numeral.read?_eq_some_iff.mpr ⟨ne, digits, rfl⟩)
  have written : cs.getLast? = some (Nat.ofDigitChars 10 cs 0 % 10).digitChar := by
    rw [spelled, List.getLast?_append_of_ne_nil _ (Numeral.write_ne_nil _), ← spelled,
      Numeral.getLast?_write]
  rw [last] at written
  exact (digitChar_mod_ne _).mp (Option.some.inj written ▸ nonzero)

namespace Written

/-- The digits of a decimal as a number, without regard to the point. -/
def significand (n : Written) : ℕ := Nat.ofDigitChars 10 (n.whole ++ n.fraction) 0

namespace Plain

variable {n : Written} {cs : List Char} (h : n.Plain cs)
include h

theorem fraction_ne : n.fraction ≠ [] := by
  obtain ⟨d, last, -⟩ := h.last_ne
  rintro none
  rw [none] at last
  cases last

theorem significand_mod_ne : n.significand % 10 ≠ 0 := by
  refine ofDigitChars_mod_ne h.digits ?_
  rw [List.getLast?_append_of_ne_nil _ h.fraction_ne]
  exact h.last_ne

theorem significand_lt (short : (n.whole ++ n.fraction).length ≤ 15) : n.significand < 10 ^ 15 := by
  obtain ⟨zeros, spelled⟩ := Numeral.exists_zeros_write
    (Numeral.read?_eq_some_iff.mpr ⟨h.digits_ne, h.digits, rfl⟩)
  rw [spelled, List.length_append] at short
  exact (Nat.length_toDigits_le_iff (by decide) (by decide)).mp ((Nat.le_add_left _ _).trans short)

/-- The magnitude of a decimal within fifteen digits is a quotient. -/
theorem magnitude_eq (short : (n.whole ++ n.fraction).length ≤ 15) :
    n.magnitude = Float.ofScientific n.significand true n.fraction.length := by
  have positive := h.significand_mod_ne
  have some := List.length_pos_of_ne_nil h.fraction_ne
  have fewer := ((List.dropWhile_sublist (fun c => c == '0')).length_le).trans short
  have value : Nat.ofDigitChars 10 ((n.whole ++ n.fraction).dropWhile (· == '0')) 0 = n.significand :=
    Numeral.ofDigitChars_dropWhile _
  rw [List.length_append] at short
  rw [magnitude, h.exponent_eq, value, if_neg (by rw [maxScale]; omega), if_neg (by rw [maxScale]; omega)]
  congr 1
  · exact decide_eq_true (by omega)
  · omega

/-- It is read as the double that it is rounded to. -/
theorem exists_normal (short : (n.whole ++ n.fraction).length ≤ 15) :
    ∃ m : Normal, n.toFloat = m.toFloat ∧ m.sign = (if n.isNegative then .negative else .positive) ∧
      (Binary.ofFloat m.toFloat).Holds (Shortened.value ⟨n.significand, -n.fraction.length⟩) := by
  have positive := h.significand_mod_ne
  have places : n.fraction.length < 16 := by
    rw [List.length_append] at short
    omega
  have exact : n.significand < 2 ^ 53 := by
    have := h.significand_lt short
    omega
  obtain ⟨m, magnitude, sign, held⟩ := exists_ofScientific (Nat.pos_of_ne_zero fun zero => by omega) exact places
  rw [toFloat, h.magnitude_eq short, magnitude]
  cases n.isNegative with
  | false => exact ⟨m, rfl, sign, held⟩
  | true =>
    refine ⟨m.neg, m.neg_toFloat, ?_, ?_⟩
    · rw [Normal.neg, sign]
      rfl
    · rw [m.ofFloat_neg]
      exact held

end Plain

end Written

namespace Layout

variable {l : Layout}

/-! ## Positional texts -/

/-- A number with so many digits behind the point, the whole part as it is written, is spelled by its
digits. -/
theorem plainText_eq {w : ℕ} {fraction : List Char} (ne : fraction ≠ [])
    (digits : ∀ c ∈ fraction, c.isDigit = true) :
    l.plainText (Numeral.write (Nat.ofDigitChars 10 fraction w))
        ((Numeral.write (Nat.ofDigitChars 10 fraction w)).length - fraction.length : ℤ) =
      Numeral.write w ++ '.' :: fraction := by
  rcases Nat.eq_zero_or_pos w with rfl | positive
  · obtain ⟨zeros, spelled⟩ := Numeral.exists_zeros_write
      (Numeral.read?_eq_some_iff.mpr ⟨ne, digits, rfl⟩)
    generalize Nat.ofDigitChars 10 fraction 0 = n at spelled ⊢
    subst spelled
    have point : ((Numeral.write n).length : ℤ) -
        (List.replicate zeros '0' ++ Numeral.write n).length = -zeros := by
      rw [List.length_append, List.length_replicate]
      omega
    have length : (- -(zeros : ℤ)).toNat = zeros := by omega
    rw [point, plainText, if_pos (by omega), length]
    rfl
  · have some := List.length_pos_of_ne_nil ne
    have some' := List.length_pos_of_ne_nil (Numeral.write_ne_nil w)
    rw [Numeral.write_ofDigitChars positive digits, List.length_append]
    generalize Numeral.write w = whole at *
    have point : ((whole.length + fraction.length : ℕ) : ℤ) - fraction.length = whole.length := by omega
    rw [point, plainText, if_neg (by omega), if_neg (by rw [List.length_append]; omega), Int.toNat_natCast,
      List.take_left, List.drop_left]

/-- With digits behind the point. -/
theorem exists_plainText {n places : ℕ} (positive : 0 < n) (some : 0 < places) :
    ∃ w fraction, l.plainText (Numeral.write n) ((Numeral.write n).length - places : ℤ) =
        Numeral.write w ++ '.' :: fraction ∧
      (∀ c ∈ fraction, c.isDigit = true) ∧ fraction.getLast? = (Numeral.write n).getLast? := by
  have digits : ∀ c ∈ Numeral.write n, c.isDigit = true := fun c => Numeral.isDigit_of_mem_write
  have ne := Numeral.write_ne_nil n
  rw [plainText]
  split
  · next inFront =>
    refine ⟨0, _, rfl, fun c hc => ?_, List.getLast?_append_of_ne_nil _ ne⟩
    rcases List.mem_append.mp hc with zero | digit
    · rw [List.eq_of_mem_replicate zero]
      rfl
    · exact digits c digit
  · next within =>
    rw [if_neg (by omega)]
    obtain ⟨w, whole⟩ := @Numeral.exists_write_take n ((Numeral.write n).length - places : ℤ).toNat
      positive (by omega)
    rw [whole]
    refine ⟨w, _, rfl, fun c hc => digits c (List.mem_of_mem_drop hc), ?_⟩
    rw [List.getLast?_drop, if_neg (by omega)]

/-! ## Printing -/

namespace Plain

variable (plain : l.Plain)
include plain

theorem decimalText_eq (d : Shortened) :
    l.decimalText d =
      l.plainText (Numeral.write d.digits) (d.exponent + (Numeral.write d.digits).length) := by
  rw [decimalText, if_pos (plain.positional _), sub_add_cancel]

theorem plainText_of_le {digits : List Char} {point : ℤ} (some : digits ≠ [])
    (le : digits.length ≤ point) :
    l.plainText digits point = digits ++ List.replicate (point.toNat - digits.length) '0' := by
  have := List.length_pos_of_ne_nil some
  rw [plainText, if_neg (by omega), if_pos (by omega), plain.noZero, if_neg Bool.false_ne_true, List.append_nil]

theorem noPoint_of_le {n : ℕ} {point : ℤ} (le : (Numeral.write n).length ≤ point) :
    '.' ∉ l.plainText (Numeral.write n) point := by
  rw [plain.plainText_of_le (Numeral.write_ne_nil n) le, List.mem_append, not_or]
  refine ⟨Numeral.not_mem_write (by decide) n, fun h => ?_⟩
  exact absurd (List.eq_of_mem_replicate h) (by decide)

/-- A magnitude is printed without a point, or as a plain decimal. -/
theorem magnitudeText_cases (x : Float) : '.' ∉ l.magnitudeText x ∨
    ∃ w fraction, l.magnitudeText x = Numeral.write w ++ '.' :: fraction ∧
      (∀ c ∈ fraction, c.isDigit = true) ∧ ∃ d, fraction.getLast? = some d ∧ d ≠ '0' := by
  rw [magnitudeText]
  split
  · exact .inl (plain.noPoint_of_le (n := 0) (by decide))
  · next nonzero =>
    have last := (Binary.shortest_spec (ofFloat_proper nonzero) l.tie).2
    generalize (Binary.ofFloat x).shortest l.tie = d at last
    rw [plain.decimalText_eq]
    rcases le_or_gt 0 d.exponent with whole | behind
    · exact .inl (plain.noPoint_of_le (by omega))
    · obtain ⟨places, exponent⟩ : ∃ places : ℕ, d.exponent = -places := ⟨(-d.exponent).toNat, by omega⟩
      obtain ⟨w, fraction, text, digits, same⟩ := @exists_plainText l d.digits places
        (by omega) (by omega)
      have point : d.exponent + ((Numeral.write d.digits).length : ℤ) =
          (Numeral.write d.digits).length - places := by omega
      refine .inr ⟨w, fraction, point ▸ text, digits, _, same.trans (Numeral.getLast?_write _), ?_⟩
      exact (digitChar_mod_ne _).mpr last

omit plain in
/-- A double is printed behind its sign. -/
theorem toList_write (x : Float) : (l.write x).toList = l.nan.toList ∨
    ∃ isNegative : Bool, (l.write x).toList = (if isNegative then ['-'] else []) ++
      if x.isInf then l.infinity.toList else l.magnitudeText x := by
  rw [write]
  split
  · exact .inl rfl
  · refine .inr ⟨x.toBits.toNat / Numeral.signBit = 1, ?_⟩
    dsimp only
    by_cases negative : x.toBits.toNat / Numeral.signBit = 1 <;> by_cases infinite : x.isInf <;>
      simp [negative, infinite]

/-- **What is printed with a point is plain.** -/
theorem of_write {x : Float} {n : Written} (pointed : n.Pointed (l.write x).toList) :
    n.Plain (l.write x).toList := by
  obtain ⟨read, point⟩ := Written.pointed_iff.mp pointed
  rcases toList_write (l := l) x with nan | ⟨isNegative, text⟩
  · exact absurd (nan ▸ point) plain.nan
  · have noSign : '.' ∉ if isNegative then ['-'] else [] := by cases isNegative <;> decide
    have point' := (List.mem_append.mp (text ▸ point)).resolve_left noSign
    split at point'
    · exact absurd point' plain.infinity
    · next finite =>
      obtain ⟨w, fraction, magnitude, digits, last⟩ := (plain.magnitudeText_cases x).resolve_left
        fun none => none point'
      rw [if_neg finite, magnitude] at text
      have whole : ∀ c ∈ Numeral.write w, c.isDigit = true := fun c => Numeral.isDigit_of_mem_write
      have spelled : Written.Pointed ⟨isNegative, Numeral.write w, fraction, 0⟩ (l.write x).toList := by
        refine ⟨List.append_ne_nil_of_left_ne_nil (Numeral.write_ne_nil w) _, fun c hc => ?_, [], .none, ?_⟩
        · exact (List.mem_append.mp hc).elim (whole c) (digits c)
        · rw [text, List.append_nil]
          cases isNegative with
          | true => exact .minus _
          | false =>
            obtain ⟨d, ds, written⟩ := List.exists_cons_of_ne_nil (Numeral.write_ne_nil w)
            rw [written] at whole ⊢
            exact .of_isDigit (whole d List.mem_cons_self) _
      cases read.symm.trans (Written.pointed_iff.mp spelled).1
      exact ⟨spelled, text, ⟨w, rfl⟩, last, rfl⟩

omit plain in
/-- A normal double is printed as its shortest decimal behind its sign. -/
theorem toList_write_normal {m : Normal} {isNegative : Bool}
    (sign : m.sign = if isNegative then .negative else .positive) :
    (l.write m.toFloat).toList = (if isNegative then ['-'] else []) ++
      l.decimalText ((Binary.ofFloat m.toFloat).shortest l.tie) := by
  have bit := m.toNat_signBit
  rw [write, m.isNaN_toFloat, m.isInf_toFloat, magnitudeText, if_neg m.nonzero_toFloat, bit, sign]
  cases isNegative <;> simp [Sign.toBitVec]

/-- **A plain decimal of at most fifteen digits is printed as it was read.** -/
theorem write_toFloat {n : Written} {cs : List Char} (h : n.Plain cs)
    (short : (n.whole ++ n.fraction).length ≤ 15) : (l.write n.toFloat).toList = cs := by
  obtain ⟨m, read, sign, held⟩ := h.exists_normal short
  obtain ⟨w, whole⟩ := h.whole_eq
  have shortest := Binary.shortest_eq (ofFloat_proper m.nonzero_toFloat) m.narrow l.tie held
    (h.significand_lt short) h.significand_mod_ne
  have digits : n.significand = Nat.ofDigitChars 10 n.fraction w := by
    rw [Written.significand, whole, Nat.ofDigitChars_append, Numeral.write,
      Nat.ofDigitChars_toDigits (by decide) (by decide)]
  rw [read, toList_write_normal sign, shortest, plain.decimalText_eq, h.text, whole, digits]
  congr 1
  rw [neg_add_eq_sub]
  exact plainText_eq h.fraction_ne fun c hc => h.digits c (List.mem_append_right _ hc)

end Plain

end Layout

end AnalysisSettings.Decimal
