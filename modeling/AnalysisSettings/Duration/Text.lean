import AnalysisSettings.Duration.Unit
import AnalysisSettings.Text.Blank
import AnalysisSettings.Text.Split

/-!
# Durations as texts

A duration is written as amounts of descending units: `1h 30m`, `2days 3h`, `500ms`.
`Duration.read?` takes amounts in any order, any number of times, with or without blanks around
them; an amount may have a fraction if it comes out in whole nanoseconds, from hours on in whole
seconds. `0` alone needs no unit.
-/

namespace AnalysisSettings.Duration

/-! ## Writing -/

/-- An amount with the abbreviation of its unit; nothing is written for none. -/
def writeAmount (name : String) (n : Nat) : List (List Char) :=
  if n = 0 then [] else [Numeral.write n ++ name.toList]

/-- An amount with the name of its unit in full, in the plural from two on. -/
def writeCounted (name : String) (n : Nat) : List (List Char) :=
  writeAmount (if n ≤ 1 then name else name ++ "s") n

/-- The amounts of a duration, from years to nanoseconds. -/
def amounts (t : Duration) : List (List Char) :=
  let seconds := t.seconds.toNat
  let inYear := seconds % TimeUnit.year.seconds
  let inMonth := inYear % TimeUnit.month.seconds
  let inDay := inMonth % TimeUnit.day.seconds
  let nanoseconds : Nat := t.nanoseconds
  writeCounted "year" (seconds / TimeUnit.year.seconds) ++
  writeCounted "month" (inYear / TimeUnit.month.seconds) ++
  writeCounted "day" (inMonth / TimeUnit.day.seconds) ++
  writeAmount "h" (inDay / 3600) ++
  writeAmount "m" (inDay % 3600 / 60) ++
  writeAmount "s" (inDay % 60) ++
  writeAmount "ms" (nanoseconds / 1000000) ++
  writeAmount "us" (nanoseconds / 1000 % 1000) ++
  writeAmount "ns" (nanoseconds % 1000)

/-- The text of a duration. -/
def write (t : Duration) : String :=
  if t = zero then "0s" else String.ofList (Text.join ' ' t.amounts)

/-! ## Reading -/

/-- Adds seconds and nanoseconds. The nanoseconds too must stay within a word. -/
def plus? (t : Duration) (seconds nanos : Nat) : Option Duration :=
  if seconds ≤ Numeral.maxWord ∧ t.nanoseconds + nanos ≤ Numeral.maxWord then
    ofParts? (t.seconds.toNat + seconds) (t.nanoseconds + nanos)
  else none

/-- Adds a whole number of units. -/
def plusUnits? (t : Duration) (n : Nat) (u : TimeUnit) : Option Duration :=
  match u.nanos? with
  | some nanos => t.plus? 0 (n * nanos)
  | none => t.plus? (n * u.seconds) 0

/-- The part of an amount of `whole` that a decimal fraction stands for, if it is a whole number.
The product on the way must stay within a word, and so must the power of ten. -/
def fractionOf? (whole : Nat) (digits : List Char) : Option Nat :=
  (Numeral.read? digits).bind fun numerator =>
    let denominator := Numeral.tenTo digits.length
    let product := numerator * whole
    if denominator ≤ Numeral.maxWord ∧ product ≤ Numeral.maxWord ∧ product % denominator = 0 then
      some (product / denominator)
    else none

/-- Adds the part of a unit that a decimal fraction stands for. Nanoseconds have no parts. -/
def plusFraction? (t : Duration) (digits : List Char) (u : TimeUnit) : Option Duration :=
  if u = .nanosecond then none
  else match u.fractionNanos? with
    | some nanos => (fractionOf? nanos digits).bind (t.plus? 0)
    | none => (fractionOf? u.seconds digits).bind fun seconds => t.plus? seconds 0

/-- A character that belongs to a number: a digit, or a blank between digits. -/
def isNumberChar (c : Char) : Bool := c.isDigit || Text.isBlank c

/-- A character of the name of a unit. -/
def isUnitChar (c : Char) : Bool := c.isAlpha || c == 'µ'

/-- An amount as it is written, and what is written after it. -/
structure Amount where
  digits : List Char
  fraction : Option (List Char)
  unit : String
  rest : List Char

/-- The amount after its digits and its fraction. -/
def Amount.ofUnit (digits : List Char) (fraction : Option (List Char)) (cs : List Char) :
    Amount where
  digits := digits
  fraction := fraction
  unit := String.ofList (cs.takeWhile isUnitChar)
  rest := cs.dropWhile isUnitChar

/-- The amount at the beginning of a text. -/
def Amount.cut (cs : List Char) : Amount :=
  let digits := (cs.takeWhile isNumberChar).filter Char.isDigit
  match cs.dropWhile isNumberChar with
  | '.' :: rest =>
    let fraction := (rest.takeWhile isNumberChar).filter Char.isDigit
    .ofUnit digits (some fraction) (rest.dropWhile isNumberChar)
  | rest => .ofUnit digits none rest

theorem length_dropWhile_le {α : Type} (p : α → Bool) (l : List α) :
    (l.dropWhile p).length ≤ l.length :=
  (List.dropWhile_sublist p).length_le

/-- What follows an amount is shorter than the text the amount was cut from. -/
theorem Amount.length_rest_cut_lt {cs : List Char} (h : cs.head?.any Char.isDigit = true) :
    (Amount.cut cs).rest.length < cs.length := by
  obtain ⟨c, cs, rfl⟩ : ∃ c r, cs = c :: r := by cases cs <;> simp_all
  have hc : isNumberChar c = true := by simp_all [isNumberChar]
  have hnum : ((c :: cs).dropWhile isNumberChar).length ≤ cs.length := by
    rw [List.dropWhile_cons_of_pos hc]
    exact length_dropWhile_le _ _
  unfold cut
  split
  · next rest heq =>
    rw [heq] at hnum
    calc ((rest.dropWhile isNumberChar).dropWhile isUnitChar).length
        ≤ (rest.dropWhile isNumberChar).length := length_dropWhile_le _ _
      _ ≤ rest.length := length_dropWhile_le _ _
      _ < (c :: cs).length := by simp only [List.length_cons] at hnum ⊢; omega
  · calc (((c :: cs).dropWhile isNumberChar).dropWhile isUnitChar).length
        ≤ ((c :: cs).dropWhile isNumberChar).length := length_dropWhile_le _ _
      _ < (c :: cs).length := by simp only [List.length_cons]; omega

/-- Adds an amount, if its number and its fraction can be read and its unit has that name. -/
def plusAmount? (t : Duration) (a : Amount) : Option Duration := do
  let n ← (Numeral.read? a.digits).filter (· ≤ Numeral.maxWord)
  let u ← TimeUnit.named? a.unit
  let whole ← t.plusUnits? n u
  match a.fraction with
  | none => return whole
  | some digits => whole.plusFraction? digits u

/-- Adds the amounts of a text one after the other. -/
def plusAmounts? (t : Duration) (cs : List Char) : Option Duration :=
  let text := cs.dropWhile Text.isBlank
  if text.isEmpty then some t
  else if _h : text.head?.any Char.isDigit = true then
    match t.plusAmount? (.cut text) with
    | none => none
    | some sum => plusAmounts? sum (Amount.cut text).rest
  else none
termination_by cs.length
decreasing_by
  calc (Amount.cut text).rest.length
      < text.length := Amount.length_rest_cut_lt ‹_›
    _ ≤ cs.length := length_dropWhile_le _ _

/-- The duration a text stands for. -/
def read? (text : String) : Option Duration :=
  if text = "0" then some zero
  else if text.toList.all Text.isBlank then none
  else plusAmounts? zero text.toList

end AnalysisSettings.Duration
