import AnalysisSettings.Text.Percent
import AnalysisSettings.Yaml.Scalar
import AnalysisSettings.Yaml.Token

/-!
# Directives, anchors and tags

What can stand before a document or a node: directives name the version of the language and the
short forms of tags; an anchor names a node, an alias stands for the node with that name, and a tag
says of what kind a node is.
-/

namespace AnalysisSettings.Yaml

/-- A token and the text after it. -/
structure Lexed where
  token : Token
  rest : List Spot

/-- The name after `&` or `*`. -/
def anchorName? (text : List Spot) : Option (String × List Spot) :=
  let name := takeChars isNameChar text
  let rest := skipWhile isNameChar text
  if name.isEmpty = false ∧
      (isGapOrEnd (peek rest) ||
        ['?', ':', ',', ']', '}', '%', '@', '\x60'].contains (peek rest)) then
    some (String.ofList name, rest)
  else none

/-- A character of a tag, escapes apart; the separators of lists and the brackets belong to it only
between angle brackets and in directives. -/
def isTagChar (verbatim : Bool) (c : Char) : Bool :=
  isNameChar c ||
    [';', '/', '?', ':', '@', '&', '=', '+', '$', '.', '%', '!', '~', '*', '\'', '(',
      ')'].contains c ||
    (verbatim && [',', '[', ']'].contains c)

/-- The text of a tag with its escapes resolved; `none` if they are malformed. -/
def tagText? (cs : List Char) : Option String :=
  if escapesAreWhole cs then Percent.decode? cs else none
where
  /-- Each percent sign stands before two hexadecimal digits. -/
  escapesAreWhole : List Char → Bool
    | [] => true
    | '%' :: h :: l :: rest =>
      (Text.hexValue? h).isSome && (Text.hexValue? l).isSome && escapesAreWhole rest
    | '%' :: _ => false
    | _ :: rest => escapesAreWhole rest

/-- The handle of a tag: `!`, `!!` or a name between two of them. -/
def tagHandle (text : List Spot) : List Char × List Spot :=
  let name := takeChars isNameChar (text.drop 1)
  let rest := skipWhile isNameChar (text.drop 1)
  if peek rest = '!' then ('!' :: name ++ ['!'], rest.drop 1) else ('!' :: name, rest)

/-- A tag, beginning with its `!`. -/
def tag? (inFlow : Bool) (text : List Spot) : Option Lexed := do
  let ends := fun rest => isGapOrEnd (peek rest) || (inFlow && peek rest == ',')
  if peek (text.drop 1) = '<' then
    let inner := text.drop 2
    let content := takeChars (isTagChar true) inner
    let rest := skipWhile (isTagChar true) inner
    let suffix ← tagText? content
    if content.isEmpty = false ∧ peek rest = '>' ∧ ends (rest.drop 1) = true then
      some ⟨.tag "" suffix, rest.drop 1⟩
    else none
  else
    let (handle, after) := tagHandle text
    let content := takeChars (isTagChar false) after
    let rest := skipWhile (isTagChar false) after
    let suffix ← tagText? content
    if ends rest = false then none
    else if 1 < handle.length ∧ handle.getLast? = some '!' then
      if content.isEmpty then none else some ⟨.tag (String.ofList handle) suffix, rest⟩
    else
      let suffix := String.ofList (handle.drop 1) ++ suffix
      some ⟨if suffix.isEmpty then .tag "" "!" else .tag "!" suffix, rest⟩

/-! ## Directives -/

/-- A number of a version. -/
def versionNumber? (text : List Spot) : Option (Nat × List Spot) :=
  let digits := takeChars Char.isDigit text
  if digits.isEmpty = false ∧ digits.length ≤ 9 then
    some (Nat.ofDigitChars 10 digits 0, skipWhile Char.isDigit text)
  else none

/-- A directive after its name. -/
def directiveValue? (name : String) (text : List Spot) : Option Lexed := do
  let text := skipWhile isSpace text
  if name = "YAML" then
    let (major, rest) ← versionNumber? text
    if peek rest ≠ '.' then none
    else
      let (minor, rest) ← versionNumber? (rest.drop 1)
      some ⟨.version major minor, rest⟩
  else if name = "TAG" then
    if peek text ≠ '!' then none
    else
      let (handle, rest) := tagHandle text
      if (handle.getLast? ≠ some '!') ∨ isSpace (peek rest) = false then none
      else
        let rest := skipWhile isSpace rest
        let content := takeChars (isTagChar true) rest
        let after := skipWhile (isTagChar true) rest
        let lead ← tagText? content
        if content.isEmpty ∨ isGapOrEnd (peek after) = false then none
        else some ⟨.tagHandle (String.ofList handle) lead, after⟩
  else none

/-- A directive after its `%`, with the end of its line. -/
def directive? (text : List Spot) : Option Lexed := do
  let name := takeChars isNameChar text
  let rest := skipWhile isNameChar text
  if isGapOrEnd (peek rest) = false then none
  else
    let lexed ← directiveValue? (String.ofList name) rest
    let rest ← skipLineEnd? lexed.rest
    some { lexed with rest }

end AnalysisSettings.Yaml
