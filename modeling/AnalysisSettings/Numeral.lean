/-!
# Decimal numerals

Natural numbers and their decimal digits. `read?` accepts exactly the non-empty runs of ASCII
digits, leading zeros included; `write` is the shortest of them.
-/

namespace AnalysisSettings.Numeral

/-- The decimal digits of a number, without leading zeros. -/
def write (n : Nat) : List Char :=
  Nat.toDigits 10 n

/-- The number that a non-empty run of ASCII digits stands for. -/
def read? (cs : List Char) : Option Nat :=
  if cs ≠ [] ∧ cs.all Char.isDigit = true then some (Nat.ofDigitChars 10 cs 0) else none

/-- The number that an optional plus sign and a run of digits stand for, at most `limit`. -/
def readUpTo? (limit : Nat) (cs : List Char) : Option Nat :=
  let digits := match cs with
    | '+' :: rest => rest
    | _ => cs
  (read? digits).filter (· ≤ limit)

theorem write_ne_nil (n : Nat) : write n ≠ [] := Nat.toDigits_ne_nil

/-- Every digit that is written is an ASCII digit. -/
theorem isDigit_of_mem_write {n : Nat} {c : Char} (h : c ∈ write n) : c.isDigit = true :=
  Nat.isDigit_of_mem_toDigits (by decide) (by decide) h

/-- Reading what was written gives the number back. -/
theorem read?_write (n : Nat) : read? (write n) = some n := by
  have hall : (write n).all Char.isDigit = true :=
    List.all_eq_true.mpr fun _ h => isDigit_of_mem_write h
  rw [read?, if_pos ⟨write_ne_nil n, hall⟩]
  exact congrArg some (Nat.ofDigitChars_toDigits (by decide) (by decide))

/-- The largest number of an unsigned 64-bit word. -/
def maxWord : Nat := 0xFFFFFFFFFFFFFFFF

/-- The highest bit of a 64-bit word: how far below zero the numbers of a signed word reach. -/
def signBit : Nat := 0x8000000000000000

/-- The least number with more than `digits` digits. -/
def tenTo (digits : Nat) : Nat := Nat.pow 10 digits

end AnalysisSettings.Numeral
