import AnalysisSettings.Text.Hex
import AnalysisSettings.Text.Split

/-!
# Tables of characters

A property of characters is a list of rows, and a row is a run of code points with the values that
belong to them. Rows are written in words of hexadecimal numerals: `3C2` is one code point,
`41-5A` every one from the first to the last, `100~12E` every second one; a colon introduces the
values, with points between them, as in `DF:73.73`.
-/

namespace AnalysisSettings.Text.Table

/-- Code points at equal distances, and the values that belong to them. -/
structure Row where
  first : Nat
  last : Nat
  stride : Nat
  values : List Nat

/-- The two ends and the distance in a run of code points. -/
def readRun? (run : List Char) : Option (Nat × Nat × Nat) :=
  match cut '-' run, cut '~' run with
  | (first, some last), _ => do return (← readHex? first, ← readHex? last, 1)
  | _, (first, some last) => do return (← readHex? first, ← readHex? last, 2)
  | (only, none), _ => do let n ← readHex? only; return (n, n, 1)

/-- The row that a word stands for. -/
def Row.ofWord? (word : List Char) : Option Row := do
  let (run, values) := cut ':' word
  let (first, last, stride) ← readRun? run
  match values with
  | none => return { first, last, stride, values := [] }
  | some written => return { first, last, stride, values := ← (split '.' written).mapM readHex? }

/-- The rows of a table; each line has words with a blank between them. -/
def rows (lines : List String) : List Row :=
  lines.flatMap fun line => (split ' ' line.toList).filterMap Row.ofWord?

/-- The character is in the run of the row. -/
def Row.covers (row : Row) (c : Char) : Bool :=
  row.first ≤ c.toNat && c.toNat ≤ row.last && (c.toNat - row.first) % row.stride == 0

/-- The first row with the character in its run. -/
def find? (table : List Row) (c : Char) : Option Row :=
  table.find? (·.covers c)

/-- The character is in the run of some row. -/
def contains (table : List Row) (c : Char) : Bool :=
  table.any (·.covers c)

/-- The characters that a row puts in the place of one in its run: a single value belongs to the
first of the run, and the others keep their distance from it. -/
def Row.image (row : Row) (c : Char) : List Char :=
  match row.values with
  | [value] => [Char.ofNat (value + (c.toNat - row.first))]
  | values => values.map Char.ofNat

end AnalysisSettings.Text.Table
