import AnalysisSettings.Numeral
import AnalysisSettings.Text.Blank
import AnalysisSettings.Text.Split

/-!
# Server versions

A version is four numbers and a qualifier: `7.9.1.12345-SNAPSHOT`. Missing numbers are zero, and
the qualifier is everything after the first dash. Versions are ordered by their numbers alone, so
`6.3-RC1` is as new as `6.3`; a qualifier never decides which services a server is asked for.

`Version.parse` reads the text form and names the first number that is wrong; `Version.toString`
writes it with as few numbers as tell the version apart (but never fewer than two).
-/

namespace AnalysisSettings

/-- A server version: four 64-bit numbers and the text after the first dash. -/
structure Version where
  major : UInt64
  minor : UInt64
  patch : UInt64 := 0
  build : UInt64 := 0
  qualifier : String := ""
deriving Repr, DecidableEq

namespace Version

/-- Why a text is no version. -/
inductive ParseError where
  /-- Nothing is left when the blanks at both ends are removed. -/
  | empty
  /-- One of the first four parts is no number of a 64-bit word. -/
  | invalidComponent (component text : String)
  /-- Four numbers are followed by a dot. -/
  | tooManyComponents (text : String)
deriving Repr, DecidableEq

/-- The sentence that reports the error. -/
def ParseError.message : ParseError → String
  | .empty => "version string is empty"
  | .invalidComponent component text =>
    "invalid version component '" ++ component ++ "' in '" ++ text ++ "'"
  | .tooManyComponents text => "version '" ++ text ++ "' has more than 4 numeric components"

/-- A number of a version: an optional plus sign, then decimal digits, within 64 bits. -/
def component? (part : List Char) : Option UInt64 :=
  (Numeral.readUpTo? Numeral.maxWord part).map UInt64.ofNat

/-- The numbers of the parts, read from the left. `slots` numbers may still come; a part beyond
them is refused before its text is looked at. -/
def readComponents (text : String) : Nat → List (List Char) → Except ParseError (List UInt64)
  | _, [] => .ok []
  | 0, _ :: _ => .error (.tooManyComponents text)
  | slots + 1, part :: parts =>
    match component? part with
    | none => .error (.invalidComponent (String.ofList part) text)
    | some n => (readComponents text slots parts).map (n :: ·)

/-- The version with the given numbers, in order; those that are missing are zero. -/
def ofComponents (numbers : List UInt64) (qualifier : String) : Version where
  major := numbers.getD 0 0
  minor := numbers.getD 1 0
  patch := numbers.getD 2 0
  build := numbers.getD 3 0
  qualifier := qualifier

/-- Reads a version from a text, ignoring the blanks around it. -/
def parse (text : String) : Except ParseError Version :=
  let trimmed := Text.trim text.toList
  if trimmed.isEmpty then .error .empty
  else
    let (numbers, qualifier) := Text.cut '-' trimmed
    (readComponents (String.ofList trimmed) 4 (Text.split '.' numbers)).map fun ns =>
      ofComponents ns (String.ofList (qualifier.getD []))

/-- The numbers in the order of their weight. -/
def numbers (v : Version) : List UInt64 :=
  [v.major, v.minor, v.patch, v.build]

/-- The qualifier, if there is one. -/
def qualifier? (v : Version) : Option String :=
  if v.qualifier = "" then none else some v.qualifier

/-- The numbers that are written: at least two, and no further than the last that is not zero. -/
def shownNumbers (v : Version) : List UInt64 :=
  if v.build ≠ 0 then [v.major, v.minor, v.patch, v.build]
  else if v.patch ≠ 0 then [v.major, v.minor, v.patch]
  else [v.major, v.minor]

/-- The text form of a version. -/
protected def toString (v : Version) : String :=
  let shown := Text.join '.' (v.shownNumbers.map fun n => Numeral.write n.toNat)
  String.ofList shown ++ (if v.qualifier = "" then "" else "-" ++ v.qualifier)

instance : ToString Version := ⟨Version.toString⟩

/-- The order of the numbers, the first that differs deciding. -/
def compare (a b : Version) : Ordering :=
  (Ord.compare a.major b.major).then <| (Ord.compare a.minor b.minor).then <|
    (Ord.compare a.patch b.patch).then (Ord.compare a.build b.build)

/-- The version is as new as the threshold or newer. -/
def isAtLeast (v threshold : Version) : Bool :=
  v.compare threshold != .lt

end Version

/-- A generation of the server's web services. -/
inductive Generation where
  | legacy
  | modern
deriving Repr, DecidableEq

/-- The generation a version belongs to when the modern one starts at `threshold`. -/
def Version.generation (v threshold : Version) : Generation :=
  if v.isAtLeast threshold then .modern else .legacy

/-- The first version whose settings carry structure and say whether they are inherited. -/
def Version.firstWithSettings : Version where
  major := 6
  minor := 3

/-- The first version that calls the project of a profile query `project`. -/
def Version.firstWithProjectParameter : Version where
  major := 6
  minor := 5

end AnalysisSettings
