import AnalysisSettings.Numeral

/-!
# Digits and numbers

Every run of digits is zeros and then a numeral as it is written (`exists_zeros_write`), and the zeros
do not count (`read?_zeros_write`). So a number has one written form, and all its other spellings
differ from that in leading zeros.
-/

namespace AnalysisSettings.Numeral

/-! ## One digit more -/

/-- A digit is the character of its value. -/
theorem digitChar_of_isDigit {c : Char} (h : c.isDigit = true) :
    c.toNat - '0'.toNat < 10 ∧ (c.toNat - '0'.toNat).digitChar = c ∧
      (c ≠ '0' → 0 < c.toNat - '0'.toNat) := by
  have all : ∀ n < 58, 48 ≤ n → n - '0'.toNat < 10 ∧ (n - '0'.toNat).digitChar = Char.ofNat n ∧
      (Char.ofNat n ≠ '0' → 0 < n - '0'.toNat) := by
    decide
  have hc : 48 ≤ c.toNat ∧ c.toNat ≤ 57 := Char.isDigit_iff_toNat.mp h
  have := all c.toNat (by omega) hc.1
  rwa [c.ofNat_toNat] at this

/-- Digits behind a number that is not zero are written behind its digits. -/
theorem write_ofDigitChars {n : Nat} {ds : List Char} (positive : 0 < n)
    (digits : ∀ d ∈ ds, d.isDigit = true) :
    write (Nat.ofDigitChars 10 ds n) = write n ++ ds := by
  induction ds generalizing n with
  | nil => exact (List.append_nil _).symm
  | cons d ds ih =>
    obtain ⟨hd, hds⟩ := List.forall_mem_cons.mp digits
    obtain ⟨small, char, -⟩ := digitChar_of_isDigit hd
    have one : write (10 * n + (d.toNat - '0'.toNat)) = write n ++ [d] := by
      rw [write, ← Nat.toDigits_append_toDigits (by decide) positive small,
        Nat.toDigits_of_lt_base small, char]
      rfl
    rw [Nat.ofDigitChars_cons, ih (by omega) hds, one, List.append_assoc]
    rfl

/-- Digits of which the first is not zero are the written form of their number. -/
theorem write_ofDigitChars_cons {d : Char} {ds : List Char} (nonzero : d ≠ '0')
    (digits : ∀ c ∈ d :: ds, c.isDigit = true) :
    write (Nat.ofDigitChars 10 (d :: ds) 0) = d :: ds := by
  obtain ⟨hd, hds⟩ := List.forall_mem_cons.mp digits
  obtain ⟨small, char, positive⟩ := digitChar_of_isDigit hd
  rw [Nat.ofDigitChars_cons, Nat.mul_zero, Nat.zero_add, write_ofDigitChars (positive nonzero) hds,
    write, Nat.toDigits_of_lt_base small, char]
  rfl

/-! ## The written form -/

/-- Different numbers are written differently. -/
theorem write_injective {m n : Nat} (h : write m = write n) : m = n := by
  have read := congrArg read? h
  rw [read?_write, read?_write] at read
  exact Option.some.inj read

/-- A number is written in digits only. -/
theorem not_mem_write {c : Char} (h : c.isDigit = false) (n : Nat) : c ∉ write n := by
  intro hmem
  rw [isDigit_of_mem_write hmem] at h
  cases h

/-! ## What is read -/

/-- A text is read as a number if it consists of digits, and at least one. -/
theorem read?_eq_some_iff {cs : List Char} {n : Nat} :
    read? cs = some n ↔ cs ≠ [] ∧ (∀ c ∈ cs, c.isDigit = true) ∧ Nat.ofDigitChars 10 cs 0 = n := by
  rw [read?, ← and_assoc, ← List.all_eq_true]
  split
  · next run => exact ⟨fun h => ⟨run, Option.some.inj h⟩, fun h => congrArg some h.2⟩
  · next run =>
    constructor
    · rintro ⟨⟩
    · exact fun h => absurd h.1 run

/-- A number up to a limit is digits, perhaps behind a plus sign. -/
theorem readUpTo?_eq_some_iff {limit n : Nat} {cs : List Char} :
    readUpTo? limit cs = some n ↔
      ∃ digits, (cs = digits ∨ cs = '+' :: digits) ∧ read? digits = some n ∧ n ≤ limit := by
  have filtered {digits : List Char} : (read? digits).filter (· ≤ limit) = some n ↔
      read? digits = some n ∧ n ≤ limit := by
    rw [Option.filter_eq_some_iff, decide_eq_true_iff]
  unfold readUpTo?
  split
  · next rest =>
    rw [filtered]
    constructor
    · exact fun h => ⟨rest, .inr rfl, h⟩
    · rintro ⟨digits, rfl | same, read, le⟩
      · exact absurd ((read?_eq_some_iff.mp read).2.1 '+' List.mem_cons_self) (by decide)
      · cases same
        exact ⟨read, le⟩
  · next noPlus =>
    rw [filtered]
    constructor
    · exact fun h => ⟨cs, .inl rfl, h⟩
    · rintro ⟨digits, rfl | rfl, h⟩
      · exact h
      · exact absurd rfl (noPlus digits)

/-! ## Leading zeros -/

/-- Zeros in front do not count. -/
@[simp] theorem ofDigitChars_zeros (zeros : Nat) (ds : List Char) :
    Nat.ofDigitChars 10 (List.replicate zeros '0' ++ ds) 0 = Nat.ofDigitChars 10 ds 0 := by
  induction zeros with
  | zero => rfl
  | succ zeros ih =>
    rw [List.replicate_succ, List.cons_append, Nat.ofDigitChars_cons]
    exact ih

/-- So they can be dropped. -/
theorem ofDigitChars_dropWhile (cs : List Char) :
    Nat.ofDigitChars 10 (cs.dropWhile (· == '0')) 0 = Nat.ofDigitChars 10 cs 0 := by
  induction cs with
  | nil => rfl
  | cons c cs ih =>
    by_cases zero : c = '0'
    · subst zero
      exact ih
    · rw [List.dropWhile_cons_of_neg (by simpa using zero)]

/-- **Leading zeros do not count.** -/
theorem read?_zeros_write (zeros n : Nat) :
    read? (List.replicate zeros '0' ++ write n) = some n := by
  have digits : (List.replicate zeros '0' ++ write n).all Char.isDigit = true := by
    rw [List.all_append, Bool.and_eq_true, List.all_eq_true, List.all_eq_true]
    refine ⟨fun c hc => ?_, fun c => isDigit_of_mem_write⟩
    rw [List.eq_of_mem_replicate hc]
    rfl
  have ne : List.replicate zeros '0' ++ write n ≠ [] :=
    List.append_ne_nil_of_right_ne_nil _ (write_ne_nil n)
  rw [read?, if_pos ⟨ne, digits⟩, ofDigitChars_zeros]
  exact congrArg some (Nat.ofDigitChars_toDigits (by decide) (by decide))

/-- A run of digits is some zeros and the written form of its number. -/
theorem exists_zeros_write {cs : List Char} {n : Nat} (h : read? cs = some n) :
    ∃ zeros, cs = List.replicate zeros '0' ++ write n := by
  obtain ⟨ne, digits, rfl⟩ := read?_eq_some_iff.mp h
  clear h
  induction cs with
  | nil => exact absurd rfl ne
  | cons d ds ih =>
    by_cases zero : d = '0'
    · subst zero
      by_cases last : ds = []
      · subst last
        exact ⟨0, rfl⟩
      · obtain ⟨zeros, hds⟩ := ih last fun c hc => digits c (List.mem_cons_of_mem _ hc)
        refine ⟨zeros + 1, ?_⟩
        rw [List.replicate_succ, List.cons_append, Nat.ofDigitChars_cons]
        exact congrArg ('0' :: ·) hds
    · exact ⟨0, (write_ofDigitChars_cons zero digits).symm⟩

/-- A whole number is spelled with so many zeros in front of its digits. -/
theorem zeros_write_inj {zeros zeros' n n' : Nat}
    (h : List.replicate zeros '0' ++ write n = List.replicate zeros' '0' ++ write n') :
    zeros = zeros' ∧ n = n' := by
  have number := congrArg Numeral.read? h
  rw [read?_zeros_write, read?_zeros_write] at number
  cases number
  have length := congrArg List.length h
  simp only [List.length_append, List.length_replicate] at length
  exact ⟨by omega, rfl⟩

/-! ## First and last digits -/

/-- Only zero begins with a zero. -/
theorem head_ne_zero {n : Nat} {d : Char} {ds : List Char} (h : write n = d :: ds) (positive : 0 < n) :
    d ≠ '0' := by
  rintro rfl
  by_cases last : ds = []
  · subst last
    have zero : write n = write 0 := h
    rw [write_injective zero] at positive
    cases positive
  · have digits : ∀ c ∈ ds, c.isDigit = true := fun c hc =>
      isDigit_of_mem_write (h ▸ List.mem_cons_of_mem _ hc)
    obtain ⟨zeros, hds⟩ := exists_zeros_write (read?_eq_some_iff.mpr ⟨last, digits, rfl⟩)
    generalize Nat.ofDigitChars 10 ds 0 = rest at hds
    subst hds
    have same := @zeros_write_inj 0 (zeros + 1) _ _ h
    exact absurd same.1 (Nat.succ_ne_zero zeros).symm

/-- The first digits of a number are those of a number. -/
theorem exists_write_take {n k : Nat} (positive : 0 < n) (some : 0 < k) :
    ∃ w, (write n).take k = write w := by
  obtain ⟨d, ds, digits⟩ := List.exists_cons_of_ne_nil (write_ne_nil n)
  obtain ⟨k, rfl⟩ := Nat.exists_eq_succ_of_ne_zero (Nat.pos_iff_ne_zero.mp some)
  rw [digits, List.take_succ_cons]
  refine ⟨_, (write_ofDigitChars_cons (head_ne_zero digits positive) fun c hc => ?_).symm⟩
  refine isDigit_of_mem_write (n := n) (digits ▸ ?_)
  rcases List.mem_cons.mp hc with rfl | hc
  · exact List.mem_cons_self
  · exact List.mem_cons_of_mem _ (List.mem_of_mem_take hc)

/-- The last digit. -/
theorem getLast?_write (n : Nat) : (write n).getLast? = some (n % 10).digitChar := by
  by_cases small : n < 10
  · rw [write, Nat.toDigits_of_lt_base small, Nat.mod_eq_of_lt small]
    rfl
  · rw [write, Nat.toDigits_of_base_le (by decide) (Nat.le_of_not_lt small)]
    exact List.getLast?_concat

end AnalysisSettings.Numeral
