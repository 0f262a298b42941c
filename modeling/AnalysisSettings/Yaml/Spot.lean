/-!
# Characters with their places

Indentation matters in YAML, so a document is a list of characters that know the line and the
column they stand in. The list ends with a NUL, which no document contains, so there is always a
next character to look at.
-/

namespace AnalysisSettings.Yaml

/-- A character and its place. -/
structure Spot where
  char : Char
  line : Nat
  column : Nat
  /-- How many characters stand before it. -/
  offset : Nat
deriving DecidableEq, Repr

/-- The characters that end a line. Line ends of two characters or with other codes are read as
line feeds. -/
def isBreak (c : Char) : Bool := c == '\n' || c == '\u2028' || c == '\u2029'

/-- A space or a tab. -/
def isSpace (c : Char) : Bool := c == ' ' || c == '\t'

/-- A space, a tab or the end of a line. -/
def isGap (c : Char) : Bool := isSpace c || isBreak c

/-- What may follow an indicator: a gap or the end of the document. -/
def isGapOrEnd (c : Char) : Bool := isGap c || c == '\x00'

/-- A letter or figure in a name: ASCII only, with the dash and the underscore. -/
def isNameChar (c : Char) : Bool := c.isAlphanum || c == '_' || c == '-'

/-- A character that a document may contain. -/
def isAllowed (c : Char) : Bool :=
  let n := c.toNat
  c == '\t' || c == '\n' || c == '\r' || (0x20 ≤ n && n ≤ 0x7E) || n == 0x85 ||
    (0xA0 ≤ n && n ≤ 0xFFFD) || 0x10000 ≤ n

/-- Line ends in one form. -/
def uniformBreaks : List Char → List Char
  | '\r' :: '\n' :: rest => '\n' :: uniformBreaks rest
  | c :: rest => (if c = '\r' ∨ c = '\u0085' then '\n' else c) :: uniformBreaks rest
  | [] => []

/-- The characters with their places, from a place on. -/
def place (line column offset : Nat) : List Char → List Spot
  | [] => [⟨'\x00', line, column, offset⟩]
  | c :: rest =>
    ⟨c, line, column, offset⟩ ::
      if isBreak c then place (line + 1) 0 (offset + 1) rest
      else place line (column + 1) (offset + 1) rest

/-- A document as spots. A byte order mark at the beginning does not count. -/
def spots? (text : String) : Option (List Spot) :=
  let cs := match text.toList with
    | '\ufeff' :: rest => rest
    | cs => cs
  if cs.all isAllowed then some (place 0 0 0 (uniformBreaks cs)) else none

/-! ## Looking at a text -/

/-- The next character. -/
def peek (text : List Spot) : Char :=
  (text.head?.map Spot.char).getD '\x00'

/-- The column of the next character. -/
def column (text : List Spot) : Nat :=
  (text.head?.map Spot.column).getD 0

/-- The text from the first character outside a class. -/
def skipWhile (p : Char → Bool) (text : List Spot) : List Spot :=
  text.dropWhile fun s => p s.char

/-- The characters of a class at the beginning of a text. -/
def takeChars (p : Char → Bool) (text : List Spot) : List Char :=
  (text.takeWhile fun s => p s.char).map Spot.char

/-- A text begins with three equal marks at the beginning of a line, and a gap after them. -/
def atMarks (mark : Char) (text : List Spot) : Bool :=
  column text == 0 && ((text.take 3).map Spot.char) == [mark, mark, mark] &&
    isGapOrEnd (peek (text.drop 3))

/-- The beginning or the end of a document is marked here. -/
def atDocumentMark (text : List Spot) : Bool :=
  atMarks '-' text || atMarks '.' text

/-! ## Gaps within scalars -/

/-- What a gap within a scalar stands for: blanks within a line stand for themselves, the end of a
line for a space, and each further one for itself. `isEscaped` tells that the first line end is
escaped, so that it does not stand for a space. -/
def foldGap (isEscaped : Bool) (gap : List Char) : List Char :=
  match gap.filter isBreak with
  | [] => if isEscaped then [] else gap
  | breaks@('\n' :: later) =>
    if isEscaped then breaks else if later.isEmpty then [' '] else later
  | breaks => breaks

end AnalysisSettings.Yaml
