import AnalysisSettings.Decimal.Layout
import AnalysisSettings.Text.Quoted

/-!
# Configuration values

A value as it is found in a file or in the environment, before it is known which field it is for.
No field takes a list or a map, so it does not matter what is in them.
-/

namespace AnalysisSettings.Config

/-- A value of a configuration source. -/
inductive Value where
  | text (s : String)
  | char (c : Char)
  | bool (b : Bool)
  /-- A number of an unsigned 64-bit word. -/
  | unsigned (n : Nat)
  /-- A number that is written with a sign, of a signed 64-bit word. -/
  | signed (i : Int)
  /-- A whole number beyond 64 bits; it has 128 bits. -/
  | wide (i : Int)
  | float (x : Float)
  /-- The value that stands for none. -/
  | null
  | list
  | map

/-- Doubles are written with the fewest digits that read back, never with an exponent, and without
a point if they are whole. -/
def floats : Decimal.Layout where
  isPlain _ := true
  pointZero := false
  exponentPlus := false
  tie := .up

/-- A whole number in decimal digits. -/
def writeInt (i : Int) : String :=
  String.ofList ((if i < 0 then ['-'] else []) ++ Numeral.write i.natAbs)

namespace Value

/-- The text that a value stands for in a text field. -/
def text? : Value → Option String
  | .text s => some s
  | .char c => some (String.singleton c)
  | .bool b => some (if b then "true" else "false")
  | .unsigned n => some (String.ofList (Numeral.write n))
  | .signed i => some (writeInt i)
  | .float x => some (floats.write x)
  | .wide _ | .null | .list | .map => none

/-- A value in the words of an error. -/
def described : Value → String
  | .text s => "string " ++ Text.quoted s
  | .char c => "string " ++ Text.quoted (String.singleton c)
  | .bool b => "bool " ++ (if b then "true" else "false")
  | .unsigned n => "unsigned int \x60" ++ String.ofList (Numeral.write n) ++ "\x60"
  | .signed i => "signed int \x60" ++ writeInt i ++ "\x60"
  | .wide i => "integer \x60" ++ writeInt i ++ (if i < 0 then "\x60 as i128" else "\x60 as u128")
  | .float x => "float \x60" ++ floats.write x ++ "\x60"
  | .null => "unit"
  | .list => "sequence"
  | .map => "map"

end Value

end AnalysisSettings.Config
