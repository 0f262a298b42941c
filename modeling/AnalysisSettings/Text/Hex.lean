/-!
# Hexadecimal digits

One digit and its value, in both cases, and numbers written in base sixteen.
-/

namespace AnalysisSettings.Text

/-- The upper-case digit of a value below sixteen. -/
def upperHexDigit (n : Nat) : Char :=
  if n < 10 then Char.ofNat (0x30 + n) else Char.ofNat (0x37 + n)

/-- The value of a hexadecimal digit of either case. -/
def hexValue? (c : Char) : Option Nat :=
  if '0' ≤ c ∧ c ≤ '9' then some (c.toNat - 0x30)
  else if 'a' ≤ c ∧ c ≤ 'f' then some (c.toNat - 0x57)
  else if 'A' ≤ c ∧ c ≤ 'F' then some (c.toNat - 0x37)
  else none

/-- A number in base sixteen with lower-case digits and no leading zero. -/
def lowerHex (n : Nat) : List Char :=
  Nat.toDigits 16 n

/-- A digit is read as its value. -/
theorem hexValue?_upperHexDigit {n : Nat} (h : n < 16) : hexValue? (upperHexDigit n) = some n := by
  have all : ∀ m ∈ List.range 16, hexValue? (upperHexDigit m) = some m := by decide
  exact all n (List.mem_range.mpr h)

/-- The number a non-empty run of hexadecimal digits stands for. -/
def readHex? (cs : List Char) : Option Nat :=
  if cs.isEmpty then none
  else cs.foldl (fun acc c => acc.bind fun n => (hexValue? c).map (16 * n + ·)) (some 0)

/-- The character of a code point; surrogates and numbers beyond the last code point have none. -/
def charOfPoint? (n : Nat) : Option Char :=
  if n.isValidChar then some (Char.ofNat n) else none

/-- The character whose code point a run of hexadecimal digits is. -/
def readHexPoint? (cs : List Char) : Option Char :=
  (readHex? cs).bind charOfPoint?

end AnalysisSettings.Text
