import AnalysisSettings.Json.Record
import AnalysisSettings.Proofs.Json.Number
import AnalysisSettings.Proofs.Numeral
import Mathlib.Algebra.Group.Int.Defs

/-!
# Which integers keep their text

A number that is read has a value, and the value has a text. For an integer literal this text is the
literal again exactly if the value is kept as an integer: from -2^63 to 2^64 - 1, and not minus zero
(`NumberText.value_text_eq_iff`). Outside these limits the value is a double, if it has one at all,
and the text of a double shows that: it has a point or an exponent mark, or it is no number.

A count is read from an integer literal without a sign that fits into 64 bits, and from no other number
(`Tree.isCount_of_asCount`).
-/

namespace AnalysisSettings.Json

/-! ## Digits without leading zeros -/

namespace WholeDigits

variable {cs : List Char}

/-- The digits of an integer literal are those of its magnitude. -/
theorem write (h : WholeDigits cs) : Numeral.write (Nat.ofDigitChars 10 cs 0) = cs := by
  cases h with
  | zero => decide
  | digits nonzero digits => exact Numeral.write_ofDigitChars_cons nonzero digits

/-- Only one zero is written for the number zero. -/
theorem eq_zero_iff (h : WholeDigits cs) : Nat.ofDigitChars 10 cs 0 = 0 ↔ cs = ['0'] := by
  constructor
  · intro zero
    rw [← h.write, zero]
    rfl
  · rintro rfl
    rfl

/-- Whole digits are digits. -/
theorem allDigits (h : WholeDigits cs) : AllDigits cs := by
  cases h with
  | zero => decide
  | digits _ digits => exact digits

end WholeDigits

/-! ## The text of a double -/

/-- A double without an exponent is printed with a point. -/
theorem point_mem_plainText (digits : List Char) (point : Int) :
    '.' ∈ doubles.plainText digits point := by
  rw [Decimal.Layout.plainText]
  split
  · simp
  · split <;> simp [doubles]

/-- A double with an exponent is printed with its mark. -/
theorem mark_mem_exponentText (digits : List Char) (leading : Int) :
    'e' ∈ doubles.exponentText digits leading := by
  unfold Decimal.Layout.exponentText
  exact List.mem_append_right _ List.mem_cons_self

/-- So no double is printed as a whole number is. -/
theorem exists_mem_magnitudeText (x : Float) :
    ∃ c ∈ doubles.magnitudeText x, c.isDigit = false ∧ c ≠ '-' := by
  have point : ∀ digits place, ∃ c ∈ doubles.plainText digits place, c.isDigit = false ∧ c ≠ '-' :=
    fun digits place => ⟨'.', point_mem_plainText digits place, by decide⟩
  rw [Decimal.Layout.magnitudeText]
  split
  · exact point _ _
  · rw [Decimal.Layout.decimalText]
    split
    · exact point _ _
    · exact ⟨'e', mark_mem_exponentText _ _, by decide⟩

/-- The text of a double has a character that no integer literal has. -/
theorem exists_mem_doubles_write (x : Float) :
    ∃ c ∈ (doubles.write x).toList, c.isDigit = false ∧ c ≠ '-' := by
  rw [Decimal.Layout.write]
  split
  · exact ⟨'N', by decide, by decide⟩
  · dsimp only
    split
    · exact ⟨'i', by rw [String.toList_append]; exact List.mem_append_right _ (by decide), by decide⟩
    · obtain ⟨c, hc, apart⟩ := exists_mem_magnitudeText x
      refine ⟨c, ?_, apart⟩
      rw [String.toList_append, String.toList_ofList]
      exact List.mem_append_right _ hc

/-! ## Integer literals -/

/-- ASCII characters are one octet each. -/
theorem encode_ofList {cs : List Char} (h : ∀ c ∈ cs, c.toNat < 0x80) :
    Utf8.encode (String.ofList cs) = ascii cs := by
  have all : ∀ n < 0x80, String.utf8EncodeChar (Char.ofNat n) = [(Char.ofNat n).toUInt8] := by
    decide
  rw [Utf8.encode_eq_flatMap, String.toList_ofList]
  induction cs with
  | nil => rfl
  | cons c cs ih =>
    obtain ⟨hc, hcs⟩ := List.forall_mem_cons.mp h
    have one := all c.toNat hc
    rw [c.ofNat_toNat] at one
    rw [List.flatMap_cons, one, ih hcs]
    rfl

namespace NumberText

variable {n : NumberText} {literal : String}

/-- The number is written without a fraction and without an exponent. -/
def IsInteger (n : NumberText) : Prop := n.fraction = [] ∧ n.exponent = none

instance (n : NumberText) : Decidable n.IsInteger := inferInstanceAs (Decidable (_ ∧ _))

/-- The number that an integer literal stands for. -/
def integer (n : NumberText) : Int :=
  let magnitude : Int := Nat.ofDigitChars 10 n.whole 0
  if n.negative then -magnitude else magnitude

/-- The whole digits of a written number. -/
theorem Written.wholeDigits {bs : List UInt8} (h : n.Written bs) : WholeDigits n.whole := by
  cases h with
  | mk whole _ _ => exact whole

/-- A whole number is written as its sign and its digits. -/
theorem write_of_isInteger (h : n.IsInteger) :
    n.write = (if n.negative then ['-'] else []) ++ n.whole := by
  obtain ⟨negative, whole, fraction, exponent⟩ := n
  obtain ⟨rfl, rfl⟩ := h
  simp [write]

/-- The characters of an integer literal: none of them is one that only a double has. -/
theorem isDigit_of_mem_write (whole : WholeDigits n.whole) (h : n.IsInteger) :
    ∀ c ∈ n.write, c.isDigit = true ∨ c = '-' := by
  intro c hc
  rw [write_of_isInteger h, List.mem_append] at hc
  rcases hc with hc | hc
  · split at hc
    · exact .inr (List.mem_singleton.mp hc)
    · cases hc
  · exact .inl (whole.allDigits c hc)

/-- An integer literal is its sign and its digits. -/
theorem literal_of_written (written : n.Written (Utf8.encode literal)) (h : n.IsInteger) :
    literal = String.ofList n.write := by
  have small : ∀ c ∈ n.write, c.toNat < 0x80 := by
    intro c hc
    rcases isDigit_of_mem_write written.wholeDigits h c hc with digit | rfl
    · exact Nat.lt_of_le_of_lt (Char.isDigit_iff_toNat.mp digit).2 (by decide)
    · decide
  have octets : Utf8.encode literal = ascii n.write := by
    rw [write_of_isInteger h]
    generalize Utf8.encode literal = bs at written
    cases written with
    | @mk negative whole fraction exponent ebs _ _ exponentOctets =>
      obtain ⟨rfl, rfl⟩ := h
      cases exponentOctets
      cases negative with
      | false => exact List.append_nil _
      | true => exact congrArg (0x2D :: ·) (List.append_nil _)
  exact Utf8.encode_injective (octets.trans (encode_ofList small).symm)

/-- The value of a whole number is kept exactly if it fits into 64 bits, with or without a sign. -/
theorem value_of_isInteger (h : n.IsInteger) :
    n.value =
      let magnitude := Nat.ofDigitChars 10 n.whole 0
      if n.negative then
        if 0 < magnitude ∧ magnitude ≤ Numeral.signBit then .ok (.negative magnitude) else n.double
      else if magnitude ≤ Numeral.maxWord then .ok (.natural (UInt64.ofNat magnitude))
      else n.double := by
  rw [value, h.1, h.2]
  rfl

/-- A number that is kept as a double does not have the text of an integer literal. -/
theorem text_ne_of_double {v : Number} (whole : WholeDigits n.whole) (h : n.IsInteger)
    (read : n.double = .ok v) : v.text ≠ String.ofList n.write := by
  intro same
  rw [double] at read
  cases magnitude : n.magnitude with
  | error fault =>
    rw [magnitude] at read
    cases read
  | ok x =>
    rw [magnitude] at read
    cases read
    obtain ⟨c, hc, noDigit, noSign⟩ := exists_mem_doubles_write (if n.negative then -x else x)
    rw [Number.text] at same
    rw [same, String.toList_ofList] at hc
    rcases isDigit_of_mem_write whole h c hc with digit | sign
    · rw [noDigit] at digit
      cases digit
    · exact noSign sign

/-- A natural number of 64 bits is written with the digits of its literal. -/
theorem text_natural {digits : List Char} (whole : WholeDigits digits)
    (small : Nat.ofDigitChars 10 digits 0 ≤ Numeral.maxWord) :
    (Number.natural (UInt64.ofNat (Nat.ofDigitChars 10 digits 0))).text = String.ofList digits := by
  have word : (UInt64.ofNat (Nat.ofDigitChars 10 digits 0)).toNat = Nat.ofDigitChars 10 digits 0 := by
    rw [UInt64.toNat_ofNat']
    exact Nat.mod_eq_of_lt (Nat.lt_succ_of_le small)
  rw [Number.text, word, whole.write]

/-- A negative whole number is printed as it was written. -/
theorem text_negative {digits : List Char} (whole : WholeDigits digits) :
    (Number.negative (Nat.ofDigitChars 10 digits 0)).text = String.ofList ('-' :: digits) := by
  rw [Number.text, whole.write]

/-- **Which integer literals keep their text**: the ones whose number is kept as an integer. -/
theorem value_text_eq_iff (written : n.Written (Utf8.encode literal)) (h : n.IsInteger) :
    (∃ v, n.value = .ok v ∧ v.text = literal) ↔
      literal ≠ "-0" ∧ -2 ^ 63 ≤ n.integer ∧ n.integer ≤ 2 ^ 64 - 1 := by
  have whole := written.wholeDigits
  have lost : ¬ ∃ v, n.double = .ok v ∧ v.text = String.ofList n.write := by
    rintro ⟨v, read, same⟩
    exact text_ne_of_double whole h read same
  have minusZero : String.ofList n.write = "-0" ↔ n.write = ['-', '0'] :=
    @String.ofList_inj n.write ['-', '0']
  rw [literal_of_written written h, value_of_isInteger h, integer, ne_eq, minusZero]
  rw [write_of_isInteger h] at lost ⊢
  have maxWord : Numeral.maxWord = 2 ^ 64 - 1 := rfl
  have signBit : Numeral.signBit = 2 ^ 63 := rfl
  cases sign : n.negative with
  | false =>
    rw [sign] at lost
    have unsigned : ¬ n.whole = ['-', '0'] := by
      intro same
      exact absurd (whole.allDigits '-' (same ▸ List.mem_cons_self)) (by decide)
    by_cases small : Nat.ofDigitChars 10 n.whole 0 ≤ Numeral.maxWord
    · have kept := text_natural whole small
      simp only [Bool.false_eq_true, if_false, if_pos small]
      exact iff_of_true ⟨_, rfl, kept⟩ ⟨unsigned, by omega, by omega⟩
    · simp only [Bool.false_eq_true, if_false, if_neg small]
      exact iff_of_false lost fun range => by omega
  | true =>
    rw [sign] at lost
    have zero : ['-'] ++ n.whole = ['-', '0'] ↔ Nat.ofDigitChars 10 n.whole 0 = 0 := by
      rw [whole.eq_zero_iff]
      exact List.cons_inj_right '-'
    by_cases small : 0 < Nat.ofDigitChars 10 n.whole 0 ∧
        Nat.ofDigitChars 10 n.whole 0 ≤ Numeral.signBit
    · have kept := text_negative whole
      simp only [if_true, if_pos small, zero]
      exact iff_of_true ⟨_, rfl, kept⟩ ⟨by omega, by omega, by omega⟩
    · simp only [if_true, if_neg small, zero]
      exact iff_of_false lost fun range => by omega

/-! ## Counts -/

/-- The number is a natural number of 64 bits, written as an integer without a sign. -/
def IsCount (n : NumberText) : Prop :=
  n.IsInteger ∧ n.negative = false ∧ n.integer ≤ 2 ^ 64 - 1

instance (n : NumberText) : Decidable n.IsCount := inferInstanceAs (Decidable (_ ∧ _ ∧ _))

/-- The literal of a count: its digits. -/
def ofCount (count : UInt64) : NumberText :=
  ⟨false, Numeral.write count.toNat, [], none⟩

/-- A double is no whole number. -/
theorem double_ne_natural (count : UInt64) : n.double ≠ .ok (.natural count) := by
  rw [double]
  cases n.magnitude <;> exact nofun

/-- Any other number is a double. -/
theorem value_of_not_isInteger (h : ¬ n.IsInteger) : n.value = n.double := by
  have written : (n.fraction.isEmpty && n.exponent.isNone) = false := by
    rw [Bool.eq_false_iff, ne_eq, Bool.and_eq_true, List.isEmpty_iff, Option.isNone_iff_eq_none]
    exact h
  rw [value, written]
  rfl

/-- A number with a natural value is written as a count. -/
theorem isCount_of_value {count : UInt64} (h : n.value = .ok (.natural count)) : n.IsCount := by
  by_cases integer : n.IsInteger
  · rw [value_of_isInteger integer] at h
    dsimp only at h
    split at h
    · split at h
      · cases h
      · exact absurd h (double_ne_natural count)
    · next unsigned =>
      split at h
      · next small =>
        have unsigned : n.negative = false := by simpa using unsigned
        refine ⟨integer, unsigned, ?_⟩
        rw [NumberText.integer, unsigned]
        exact Int.ofNat_le.mpr small
      · exact absurd h (double_ne_natural count)
  · rw [value_of_not_isInteger integer] at h
    exact absurd h (double_ne_natural count)

/-- A count is kept exactly. -/
theorem value_ofCount (count : UInt64) : (ofCount count).value = .ok (.natural count) := by
  have digits : Nat.ofDigitChars 10 (Numeral.write count.toNat) 0 = count.toNat :=
    Nat.ofDigitChars_toDigits (by decide) (by decide)
  have small : count.toNat ≤ Numeral.maxWord := Nat.le_of_lt_succ count.toNat_lt
  rw [value_of_isInteger ⟨rfl, rfl⟩]
  simp only [ofCount, digits, Bool.false_eq_true, if_false, if_pos small, UInt64.ofNat_toNat]

end NumberText

/-- A number is read as a count only if it is written as one. -/
theorem Tree.isCount_of_asCount {n : NumberText} {count : UInt64}
    (h : (Tree.number n).asCount = .ok count) : n.IsCount := by
  rw [asCount] at h
  cases value : n.value with
  | error fault =>
    rw [value] at h
    cases h
  | ok v =>
    rw [value] at h
    cases v with
    | natural w => exact NumberText.isCount_of_value value
    | negative magnitude => cases h
    | double x => cases h

/-- The tree is the count. -/
def Tree.IsCount (count : UInt64) (t : Tree) : Prop :=
  t = .number (.ofCount count)

/-- The number of a count is read as this count. -/
theorem Tree.IsCount.asCount {count : UInt64} {t : Tree} (h : t.IsCount count) :
    t.asCount = .ok count := by
  cases h
  rw [Tree.asCount, NumberText.value_ofCount]
  rfl

/-- A count is not null. -/
theorem Tree.IsCount.ne_null {count : UInt64} {t : Tree} (h : t.IsCount count) : t ≠ .null := by
  cases h
  exact nofun

end AnalysisSettings.Json
