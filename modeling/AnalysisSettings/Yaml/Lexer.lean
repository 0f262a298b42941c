import AnalysisSettings.Yaml.Property

/-!
# From text to tokens

In block context the structure of a document follows from columns: a block begins where a dash, a
question mark or a key stands further right than the block around it, and ends before the first
token further left. That something is a key shows only at the colon after it, so every token that
could begin a key is remembered until then: it must be in the same line, and its mark is put in
front of it when the colon comes. In flow context brackets and commas tell the structure, and
columns mean nothing.
-/

namespace AnalysisSettings.Yaml

/-- A place where a key may have begun. -/
structure KeyStart where
  /-- The number of tokens before it. -/
  index : Nat
  spot : Spot
  /-- It stands where only a key can stand. -/
  isRequired : Bool

/-- A text that is read so far. -/
structure Lexer where
  text : List Spot
  tokens : Array Token := #[]
  /-- The columns of the open blocks, the innermost first. -/
  indents : List Nat := []
  keyStart : Option KeyStart := none
  /-- What was remembered as the beginning of a key before each open bracket. -/
  outerKeyStarts : List (Option KeyStart) := []
  /-- A key may begin here. -/
  keyAllowed : Bool := true

namespace Lexer

/-- A bracket is open. -/
def inFlow (l : Lexer) : Bool := !l.outerKeyStarts.isEmpty

/-- Adds a token. -/
def push (l : Lexer) (t : Token) : Lexer := { l with tokens := l.tokens.push t }

/-- Goes on after some characters. -/
def skip (l : Lexer) (n : Nat) : Lexer := { l with text := l.text.drop n }

/-! ## Keys and blocks -/

/-- A remembered beginning is given up when the line ends or the text becomes too long. What had to
be a key is then malformed. -/
def stillOpen? (here : Spot) : Option KeyStart → Option (Option KeyStart)
  | none => some none
  | some k =>
    if k.spot.line < here.line ∨ k.spot.offset + 1024 < here.offset then
      if k.isRequired then none else some none
    else some (some k)

/-- Gives up the beginnings that cannot be keys any more. -/
def dropStale? (l : Lexer) : Option Lexer := do
  let here ← l.text.head?
  let keyStart ← stillOpen? here l.keyStart
  let outerKeyStarts ← l.outerKeyStarts.mapM (stillOpen? here)
  some { l with keyStart, outerKeyStarts }

/-- Gives up the remembered beginning. -/
def forgetKey? (l : Lexer) : Option Lexer :=
  if (l.keyStart.map KeyStart.isRequired).getD false then none else some { l with keyStart := none }

/-- Remembers that a key may begin here. -/
def rememberKey? (l : Lexer) : Option Lexer :=
  if l.keyAllowed then do
    let l ← l.forgetKey?
    let spot ← l.text.head?
    let isRequired := !l.inFlow && l.indents.head? == some spot.column
    some { l with keyStart := some ⟨l.tokens.size, spot, isRequired⟩ }
  else some l

/-- Opens a block at a column, unless one is open there; the token goes to the given place. -/
def openBlock (l : Lexer) (column index : Nat) (t : Token) : Lexer :=
  if l.inFlow || (l.indents.head?.any fun indent => column ≤ indent) then l
  else
    { l with
      indents := column :: l.indents
      tokens := l.tokens.insertIdxIfInBounds index t }

/-- Closes the blocks right of a column; without a column all of them. -/
def closeBlocks (l : Lexer) (column : Option Nat) : Lexer :=
  if l.inFlow then l
  else
    let isRight := fun indent => column.all (· < indent)
    { l with
      indents := l.indents.dropWhile isRight
      tokens := l.tokens ++ ((l.indents.takeWhile isRight).map fun _ => Token.blockEnd).toArray }

/-! ## The kinds of tokens -/

/-- Ends all blocks before a mark between documents. -/
def endDocument? (l : Lexer) : Option Lexer := do
  let l ← (l.closeBlocks none).forgetKey?
  some { l with keyAllowed := false }

/-- An opening bracket. -/
def openFlow? (l : Lexer) (t : Token) : Option Lexer := do
  let l ← l.rememberKey?
  some { (l.push t).skip 1 with
    keyAllowed := true
    keyStart := none
    outerKeyStarts := l.keyStart :: l.outerKeyStarts }

/-- A closing bracket. -/
def closeFlow? (l : Lexer) (t : Token) : Option Lexer := do
  let l ← l.forgetKey?
  let l := { (l.push t).skip 1 with keyAllowed := false }
  match l.outerKeyStarts with
  | [] => some l
  | keyStart :: outerKeyStarts => some { l with keyStart, outerKeyStarts }

/-- A comma. -/
def flowEntry? (l : Lexer) : Option Lexer := do
  let l ← l.forgetKey?
  some { (l.push .flowEntry).skip 1 with keyAllowed := true }

/-- Opens a block that begins with the next token, if one may begin here. -/
def openHere? (l : Lexer) (t : Token) : Option Lexer :=
  if l.inFlow then some l
  else if l.keyAllowed then some (l.openBlock (column l.text) l.tokens.size t)
  else none

/-- A dash before an entry. -/
def blockEntry? (l : Lexer) : Option Lexer := do
  let l ← (← l.openHere? .blockSequence).forgetKey?
  some { (l.push .blockEntry).skip 1 with keyAllowed := true }

/-- A question mark before a key. -/
def explicitKey? (l : Lexer) : Option Lexer := do
  let l ← (← l.openHere? .blockMapping).forgetKey?
  some { (l.push .key).skip 1 with keyAllowed := !l.inFlow }

/-- A colon before a value. If a key may have begun before it, that was one. -/
def value? (l : Lexer) : Option Lexer :=
  match l.keyStart with
  | some k =>
    let l := { l with tokens := l.tokens.insertIdxIfInBounds k.index .key, keyStart := none }
    let l := l.openBlock k.spot.column k.index .blockMapping
    some { (l.push .value).skip 1 with keyAllowed := false }
  | none => do
    let l ← l.openHere? .blockMapping
    some { (l.push .value).skip 1 with keyAllowed := !l.inFlow }

/-- A token that may be a key or stand before one. -/
def property? (l : Lexer) (lexed : Option Lexed) : Option Lexer := do
  let l ← l.rememberKey?
  let lexed ← lexed
  some { l.push lexed.token with text := lexed.rest, keyAllowed := false }

/-- The token of a scalar that was scanned. -/
def scalarToken (isPlain : Bool) (s : Scanned) : Lexed :=
  ⟨.scalar isPlain (String.ofList s.content), s.rest⟩

/-- A scalar that is told by its indentation. -/
def blockScalar? (l : Lexer) (folded : Bool) : Option Lexer := do
  let l ← l.forgetKey?
  let lexed := scalarToken false (← block? folded l.indents.head? (l.text.drop 1))
  some { l.push lexed.token with text := lexed.rest, keyAllowed := true }

/-- A scalar without quotes. After its last line end a key may begin. -/
def plainScalar? (l : Lexer) : Option Lexer := do
  let (s, crossed) ← plain? l.inFlow ((l.indents.head?.map (· + 1)).getD 0) l.text
  let l ← l.property? (some (scalarToken true s))
  some { l with keyAllowed := crossed }

/-- A plain scalar begins here. -/
def startsPlain (inFlow : Bool) (text : List Spot) : Bool :=
  let c := peek text
  let next := peek (text.drop 1)
  let indicators := ['-', '?', ':', ',', '[', ']', '{', '}', '#', '&', '*', '!', '|', '>', '\'',
    '"', '%', '@', '\x60']
  !(isGapOrEnd c || indicators.contains c) || (c == '-' && !isSpace next) ||
    (!inFlow && (c == '?' || c == ':') && !isGapOrEnd next)

/-- The anchor or alias here. -/
def anchor? (l : Lexer) (token : String → Token) : Option Lexer :=
  l.property? ((anchorName? (l.text.drop 1)).map fun (name, rest) => ⟨token name, rest⟩)

/-- Reads the next token, which begins right here. -/
def token? (l : Lexer) : Option Lexer :=
  let c := peek l.text
  let gapAfter := isGapOrEnd (peek (l.text.drop 1))
  if c = '%' ∧ column l.text = 0 then do
    let l ← l.endDocument?
    let lexed ← directive? (l.text.drop 1)
    some { l.push lexed.token with text := lexed.rest }
  else if atMarks '-' l.text then l.endDocument?.map fun l => (l.push .documentStart).skip 3
  else if atMarks '.' l.text then l.endDocument?.map fun l => (l.push .documentEnd).skip 3
  else if c = '[' then l.openFlow? .flowSequence
  else if c = '{' then l.openFlow? .flowMapping
  else if c = ']' then l.closeFlow? .flowSequenceEnd
  else if c = '}' then l.closeFlow? .flowMappingEnd
  else if c = ',' then l.flowEntry?
  else if c = '-' ∧ gapAfter = true then l.blockEntry?
  else if c = '?' ∧ (l.inFlow || gapAfter) = true then l.explicitKey?
  else if c = ':' ∧ (l.inFlow || gapAfter) = true then l.value?
  else if c = '*' then l.anchor? .alias
  else if c = '&' then l.anchor? .anchor
  else if c = '!' then l.property? (tag? l.inFlow l.text)
  else if c = '|' ∧ l.inFlow = false then l.blockScalar? false
  else if c = '>' ∧ l.inFlow = false then l.blockScalar? true
  else if c = '\'' then
    l.property? ((singleQuoted? (l.text.drop 1)).map (scalarToken false))
  else if c = '"' then
    l.property? ((doubleQuoted? (l.text.drop 1)).map (scalarToken false))
  else if startsPlain l.inFlow l.text then l.plainScalar?
  else none

/-! ## The whole text -/

/-- The text from the next token on, and whether a key may begin there: a line end in block context
always allows one. A tab counts as a blank only where no key may begin. -/
def skipBlanks (inFlow : Bool) : (inComment keyAllowed : Bool) → List Spot → Bool × List Spot
  | _, keyAllowed, [] => (keyAllowed, [])
  | inComment, keyAllowed, s :: rest =>
    if isBreak s.char then skipBlanks inFlow false (keyAllowed || !inFlow) rest
    else if s.char = '\x00' then (keyAllowed, s :: rest)
    else if inComment || s.char == ' ' || (s.char == '\t' && (inFlow || !keyAllowed)) then
      skipBlanks inFlow inComment keyAllowed rest
    else if s.char = '#' then skipBlanks inFlow true keyAllowed rest
    else (keyAllowed, s :: rest)

/-- Goes to the next token; blocks right of it end. -/
def advance? (l : Lexer) : Option Lexer := do
  let (keyAllowed, text) := skipBlanks l.inFlow false l.keyAllowed l.text
  let l ← ({ l with text, keyAllowed } : Lexer).dropStale?
  some (l.closeBlocks (some (column text)))

/-- The tokens of a text. Every token takes at least one character, so `steps` need not exceed the
length of the text. -/
def run? : (steps : Nat) → Lexer → Option (List Token)
  | 0, _ => none
  | steps + 1, l => do
    let l ← l.advance?
    if peek l.text = '\x00' then return (← l.endDocument?).tokens.toList
    else run? steps (← l.token?)

end Lexer

/-- The tokens of a document. -/
def tokens? (text : String) : Option (List Token) := do
  let spots ← spots? text
  Lexer.run? (spots.length + 1) { text := spots }

end AnalysisSettings.Yaml
