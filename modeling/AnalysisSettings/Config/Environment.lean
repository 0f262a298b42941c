import AnalysisSettings.Config.Value
import AnalysisSettings.Decimal.Written
import AnalysisSettings.Text.Blank
import AnalysisSettings.Text.Hex

/-!
# Values in the environment

Variables hold texts, and the text of a configuration variable is read as a value: a truth value, a
quoted text, a character, a list, a map, a number, and in all other cases the text itself. A value
must take up the whole text; if it does not, the text stands for itself, blanks included.
-/

namespace AnalysisSettings.Config

/-- The variables of an environment, each name once. -/
abbrev Environment := List (String × String)

/-- Sets a variable. -/
def Environment.set (env : Environment) (name value : String) : Environment :=
  if env.any fun v => v.1 == name then
    env.map fun v => if v.1 == name then (name, value) else v
  else env ++ [(name, value)]

/-! ## Reading a value -/

/-- A value at the beginning of a text, and the rest of the text. -/
abbrev Found := Value × List Char

/-- The blanks that may surround a value. -/
def isValueBlank (c : Char) : Bool :=
  c == ' ' || c == '\t' || c == '\n' || c == '\x0C' || c == '\r'

/-- A character that separates values. -/
def isValueSeparator (c : Char) : Bool :=
  [',', '{', '}', '[', ']'].contains c

/-- The character of an escape that is a single letter or mark. -/
def escapedChar? : Char → Option Char
  | '"' => some '"'
  | '\\' => some '\\'
  | 'b' => some '\x08'
  | 'f' => some '\x0C'
  | 'n' => some '\n'
  | 'r' => some '\r'
  | 't' => some '\t'
  | _ => none

/-- The text in quotes, after the first of them, and the rest. -/
def quotedText? : List Char → Option (List Char × List Char)
  | [] => none
  | '"' :: rest => some ([], rest)
  | '\\' :: 'u' :: a :: b :: c :: d :: rest => do
    let point ← Text.readHexPoint? [a, b, c, d]
    let (text, rest) ← quotedText? rest
    some (point :: text, rest)
  | '\\' :: 'U' :: a :: b :: c :: d :: e :: f :: g :: h :: rest => do
    let point ← Text.readHexPoint? [a, b, c, d, e, f, g, h]
    let (text, rest) ← quotedText? rest
    some (point :: text, rest)
  | '\\' :: e :: rest => do
    let c ← escapedChar? e
    let (text, rest) ← quotedText? rest
    some (c :: text, rest)
  | ['\\'] => none
  | c :: rest => do
    let (text, rest) ← quotedText? rest
    some (c :: text, rest)

/-- The whole number that digits after an optional sign stand for, within 64 bits. -/
def readSigned? (cs : List Char) : Option Int :=
  let (isNegative, digits) := Decimal.cutSign cs
  (Numeral.read? digits).bind fun n =>
    if isNegative then if n ≤ Numeral.signBit then some (-(n : Int)) else none
    else if n < Numeral.signBit then some (n : Int) else none

/-- The value of a text without quotes and brackets: a number with a point, a whole number, or the
text. -/
def bareValue (cs : List Char) : Value :=
  let float? := if cs.contains '.' then Decimal.Written.read? cs else none
  match float?, Numeral.readUpTo? Numeral.maxWord cs, readSigned? cs with
  | some n, _, _ => .float n.toFloat
  | none, some n, _ => .unsigned n
  | none, none, some i => .signed i
  | none, none, none => .text (String.ofList cs)

/-- The name of an entry in a map. -/
def entryName? : List Char → Option (List Char)
  | '"' :: rest => (quotedText? rest).map Prod.snd
  | cs =>
    let isNameChar := fun c : Char => c.isAlphanum || c == '_' || c == '-'
    if (cs.takeWhile isNameChar).isEmpty then none else some (cs.dropWhile isNameChar)

/-- The text after the name of an entry and its equals sign. -/
def afterName? (cs : List Char) : Option (List Char) := do
  let rest ← entryName? (cs.dropWhile isValueBlank)
  match rest.dropWhile isValueBlank with
  | '=' :: rest => some rest
  | _ => none

mutual

/-- The value at the beginning of a text, with the blanks around it. -/
def valueAt? : (fuel : Nat) → List Char → Option Found
  | 0, _ => none
  | fuel + 1, cs => do
    let (value, rest) ← match cs.dropWhile isValueBlank with
      | 't' :: 'r' :: 'u' :: 'e' :: rest => some (.bool true, rest)
      | 'f' :: 'a' :: 'l' :: 's' :: 'e' :: rest => some (.bool false, rest)
      | '{' :: rest => (membersAt? true '}' fuel rest).map fun rest => (.map, rest)
      | '[' :: rest => (membersAt? false ']' fuel rest).map fun rest => (.list, rest)
      | '"' :: rest => (quotedText? rest).map fun (text, rest) => (.text (String.ofList text), rest)
      | '\'' :: c :: '\'' :: rest => some (.char c, rest)
      | '\'' :: _ => none
      | cs =>
        let bare := cs.takeWhile fun c => !isValueSeparator c
        some (bareValue (Text.trim bare), cs.drop bare.length)
    some (value, rest.dropWhile isValueBlank)

/-- The text after the members of a list or map and their closing bracket; a comma may follow the
last of them. -/
def membersAt? (named : Bool) (close : Char) : (fuel : Nat) → List Char → Option (List Char)
  | 0, _ => none
  | fuel + 1, cs => do
    if cs.head? = some close then cs.tail?
    else
      let cs ← if named then afterName? cs else some cs
      match ← valueAt? fuel cs with
      | (_, ',' :: rest) => membersAt? named close fuel rest
      | (_, c :: rest) => if c = close then some rest else none
      | (_, []) => none

end

/-- The value of a text. -/
def valueOfText (text : String) : Value :=
  match valueAt? (text.length + 1) text.toList with
  | some (value, []) => value
  | _ => .text text

end AnalysisSettings.Config
