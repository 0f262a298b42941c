import AnalysisSettings.Config.Value
import AnalysisSettings.Decimal.Written
import AnalysisSettings.Text.Hex
import AnalysisSettings.Yaml.Node

/-!
# Values in documents

What the nodes of a document stand for. A plain scalar is read by its form: none, a truth value, a
whole number in one of four bases, a number with a fraction or an exponent, or else a text. A scalar
in quotes is a text, and a tag can demand one of the forms. Digits after a leading zero are no
number.
-/

namespace AnalysisSettings.Config

/-- The words for no value. -/
def isNullWord (s : String) : Bool :=
  ["null", "Null", "NULL", "~"].contains s

/-- The truth value of a word. -/
def boolWord? (s : String) : Option Bool :=
  if ["true", "True", "TRUE"].contains s then some true
  else if ["false", "False", "FALSE"].contains s then some false
  else none

/-- Digits in a base up to sixteen. -/
def digitsIn? (base : Nat) (cs : List Char) : Option Nat :=
  if cs.isEmpty then none
  else cs.foldl (fun acc c => acc.bind fun n =>
    (Text.hexValue? c).bind fun d => if d < base then some (base * n + d) else none) (some 0)

/-- A leading zero with further digits. -/
def hasLeadingZero (cs : List Char) : Bool :=
  match (Decimal.cutSign cs).2 with
  | '0' :: d :: ds => (d :: ds).all Char.isDigit
  | _ => false

/-- The magnitude of a whole number without its sign, in the base that its beginning announces. -/
def wholeMagnitude? : List Char → Option Nat
  | '0' :: 'x' :: ds => digitsIn? 16 ds
  | '0' :: 'o' :: ds => digitsIn? 8 ds
  | '0' :: 'b' :: ds => digitsIn? 2 ds
  | ds => Numeral.read? ds

/-- The largest number of an unsigned 128-bit word. -/
def maxWide : Nat := 0xFFFFFFFFFFFFFFFFFFFFFFFFFFFFFFFF

/-- How far below zero the numbers of a signed 128-bit word reach. -/
def wideSignBit : Nat := 0x80000000000000000000000000000000

/-- The value of a whole number; only the sizes of machine words have one. -/
def wholeNumber? (cs : List Char) : Option Value :=
  if hasLeadingZero cs then none
  else
    let (isNegative, ds) := Decimal.cutSign cs
    (wholeMagnitude? ds).bind fun n =>
      if isNegative then
        if n ≤ Numeral.signBit then some (.signed (-(n : Int)))
        else if n ≤ wideSignBit then some (.wide (-(n : Int)))
        else none
      else if n ≤ Numeral.maxWord then some (.unsigned n)
      else if n ≤ maxWide then some (.wide n)
      else none

/-- The value of a number with a fraction or an exponent, which must be finite, or of one of the
words for infinity and "not a number". -/
def realNumber? (s : String) : Option Float :=
  if [".inf", ".Inf", ".INF", "+.inf", "+.Inf", "+.INF"].contains s then some (1 / 0)
  else if ["-.inf", "-.Inf", "-.INF"].contains s then some (-1 / 0)
  else if [".nan", ".NaN", ".NAN"].contains s then some (0 / 0)
  else match Decimal.Written.read? s.toList with
    | none => none
    | some n => if n.toFloat.isInf then none else some n.toFloat

/-- The value of a plain scalar. -/
def plainValue (s : String) : Value :=
  if s.isEmpty ∨ isNullWord s then .null
  else match boolWord? s, wholeNumber? s.toList with
    | some b, _ => .bool b
    | none, some v => v
    | none, none =>
      match if hasLeadingZero s.toList then none else realNumber? s with
      | some x => .float x
      | none => .text s

/-- The value of a scalar; `none` if it is not what its tag demands. -/
def scalarValue? (tag : Option String) (isPlain : Bool) (s : String) : Option Value :=
  match tag with
  | some "tag:yaml.org,2002:bool" => (boolWord? s).map .bool
  | some "tag:yaml.org,2002:int" => wholeNumber? s.toList
  | some "tag:yaml.org,2002:float" => (realNumber? s).map .float
  | some "tag:yaml.org,2002:null" => if isNullWord s then some .null else none
  | some _ => some (.text s)
  | none => some (if isPlain then plainValue s else .text s)

/-- A tag of an application's own, which no value has. -/
def isOwnTag (tag : Option String) : Bool :=
  tag.any fun t => t.startsWith "!"

/-- The text of a node that is the key of an entry. -/
def keyOf? : Yaml.Node → Option String
  | .scalar _ _ content => some content
  | _ => none

/-- The value of a node; `depth` is how many more nodes may enclose each other. -/
def valueOfNode? : (depth : Nat) → Yaml.Node → Option Value
  | _, .scalar tag isPlain content =>
    if isOwnTag tag then none else scalarValue? tag isPlain content
  | 0, _ => none
  | depth + 1, .sequence tag items =>
    if isOwnTag tag ∨ items.any (fun item => (valueOfNode? depth item).isNone) then none
    else some .list
  | depth + 1, .mapping tag entries =>
    if isOwnTag tag ∨ entries.any (fun (key, value) =>
        (keyOf? key).isNone || (valueOfNode? depth value).isNone) then none
    else some .map

/-- How many nodes may enclose each other. -/
def maxDepth : Nat := 128

/-- The entries of a document that is a mapping with texts as keys, in order. An empty document has
none. -/
def entriesOfText? (text : String) : Option (List (String × Value)) := do
  match ← Yaml.document? text with
  | none | some (.scalar _ true "") => some []
  | some (.mapping _ entries) =>
    entries.mapM fun (key, value) => do
      some (← keyOf? key, ← valueOfNode? (maxDepth - 1) value)
  | some _ => none

end AnalysisSettings.Config
