import AnalysisSettings.Text.Hex
import AnalysisSettings.Yaml.Spot

/-!
# Scalars

The texts of a document in their five styles: plain, in single or double quotes, and as blocks that
keep or fold their lines. Each reader gives the text and what follows it, or nothing if the scalar
is malformed.
-/

namespace AnalysisSettings.Yaml

/-- A scalar and the text after it. -/
structure Scanned where
  content : List Char
  rest : List Spot

/-- The scalar with more characters in front. -/
def Scanned.cons (content : List Char) (s : Scanned) : Scanned :=
  { s with content := content ++ s.content }

theorem length_skipWhile_le (p : Char → Bool) (text : List Spot) :
    (skipWhile p text).length ≤ text.length :=
  (List.dropWhile_sublist _).length_le

/-! ## Quoted scalars -/

/-- A scalar in single quotes, after the first of them. Two quotes stand for one. -/
def singleQuoted? (text : List Spot) : Option Scanned :=
  match text with
  | [] => none
  | s :: rest =>
    if isGap s.char then
      (singleQuoted? (skipWhile isGap rest)).map
        (.cons (foldGap false (s.char :: takeChars isGap rest)))
    else if s.char = '\x00' ∨ atDocumentMark text = true then none
    else if s.char = '\'' then
      match rest with
      | ⟨'\'', _, _, _⟩ :: rest => (singleQuoted? rest).map (.cons ['\''])
      | _ => some ⟨[], rest⟩
    else (singleQuoted? rest).map (.cons [s.char])
termination_by text.length
decreasing_by
  · have := length_skipWhile_le isGap rest
    simp only [List.length_cons]; omega
  · simp only [List.length_cons]; omega
  · simp only [List.length_cons]; omega

/-- The character of an escape that is a single character. -/
def shortEscape? : Char → Option Char
  | '0' => some '\x00'
  | 'a' => some '\x07'
  | 'b' => some '\x08'
  | 't' | '\t' => some '\t'
  | 'n' => some '\n'
  | 'v' => some '\x0B'
  | 'f' => some '\x0C'
  | 'r' => some '\r'
  | 'e' => some '\x1B'
  | ' ' => some ' '
  | '"' => some '"'
  | '/' => some '/'
  | '\\' => some '\\'
  | 'N' => some '\u0085'
  | '_' => some '\u00a0'
  | 'L' => some '\u2028'
  | 'P' => some '\u2029'
  | _ => none

/-- How many hexadecimal digits follow the letter of an escape. -/
def escapeDigits? : Char → Option Nat
  | 'x' => some 2
  | 'u' => some 4
  | 'U' => some 8
  | _ => none

/-- A scalar in double quotes, after the first of them. -/
def doubleQuoted? (text : List Spot) : Option Scanned :=
  match text with
  | [] => none
  | s :: rest =>
    if isGap s.char then
      (doubleQuoted? (skipWhile isGap rest)).map
        (.cons (foldGap false (s.char :: takeChars isGap rest)))
    else if s.char = '\x00' ∨ atDocumentMark text = true then none
    else if s.char = '"' then some ⟨[], rest⟩
    else if s.char = '\\' then
      match rest with
      | [] => none
      | e :: rest =>
        if isBreak e.char then
          (doubleQuoted? (skipWhile isGap rest)).map
            (.cons (foldGap true (takeChars isGap rest)))
        else match shortEscape? e.char, escapeDigits? e.char with
          | some c, _ => (doubleQuoted? rest).map (.cons [c])
          | none, some n =>
            if n ≤ rest.length then
              (Text.readHexPoint? ((rest.take n).map Spot.char)).bind fun c =>
                (doubleQuoted? (rest.drop n)).map (.cons [c])
            else none
          | none, none => none
    else (doubleQuoted? rest).map (.cons [s.char])
termination_by text.length
decreasing_by
  all_goals
    have := length_skipWhile_le isGap rest
    simp only [List.length_cons, List.length_drop]; omega

/-! ## Plain scalars -/

/-- An indicator of a list or an object in one line. -/
def isFlowIndicator (c : Char) : Bool :=
  c == ',' || c == '[' || c == ']' || c == '{' || c == '}'

/-- A plain scalar ends before the first of these spots. -/
def endsWord (inFlow : Bool) (text : List Spot) : Bool :=
  let c := peek text
  isGapOrEnd c || (c == ':' && isGapOrEnd (peek (text.drop 1))) || (inFlow && isFlowIndicator c)

/-- A colon in a list or an object in one line, right before an indicator, where it is neither
text nor a separator. -/
def isMisplacedColon (inFlow : Bool) (text : List Spot) : Bool :=
  let next := peek (text.drop 1)
  inFlow && peek text == ':' && (isFlowIndicator next || next == '?')

/-- The part of a plain scalar without gaps. -/
def plainWord? (inFlow : Bool) : List Spot → Option Scanned
  | [] => none
  | s :: rest =>
    if isMisplacedColon inFlow (s :: rest) then none
    else if endsWord inFlow (s :: rest) then some ⟨[], s :: rest⟩
    else (plainWord? inFlow rest).map (.cons [s.char])

theorem length_rest_plainWord?_le {inFlow : Bool} {text : List Spot} {w : Scanned}
    (h : plainWord? inFlow text = some w) : w.rest.length ≤ text.length := by
  induction text generalizing w with
  | nil => simp [plainWord?] at h
  | cons s rest ih =>
    rw [plainWord?] at h
    split at h
    · simp at h
    · split at h
      · simp only [Option.some.injEq] at h
        subst h
        simp
      · obtain ⟨w', hw', rfl⟩ := Option.map_eq_some_iff.mp h
        have := ih hw'
        simp only [Scanned.cons, List.length_cons]
        omega

/-- A tab in the indentation of a further line, left of the column where the text may stand. -/
def hasTabInIndent (indent : Nat) (gap : List Spot) : Bool :=
  (gap.dropWhile fun s => !isBreak s.char).any fun s => s.char == '\t' && s.column < indent

/-- A plain scalar, and whether a line end was the last thing passed over. The scalar goes on
after a gap unless the gap leads to a comment, to a mark between documents, or in block context to
a column left of `indent`. -/
def plain? (inFlow : Bool) (indent : Nat) (text : List Spot) : Option (Scanned × Bool) :=
  match _hw : plainWord? inFlow text with
  | none => none
  | some word =>
    if _hg : isGap (peek word.rest) = true then
      let gap := word.rest.takeWhile fun s => isGap s.char
      let next := skipWhile isGap word.rest
      let crossed := gap.any fun s => isBreak s.char
      if hasTabInIndent indent gap then none
      else if (inFlow == false && column next < indent) || atDocumentMark next || peek next == '#'
          || endsWord inFlow next then
        if isMisplacedColon inFlow next then none else some (⟨word.content, next⟩, crossed)
      else (plain? inFlow indent next).map fun (more, crossed) =>
        (more.cons (word.content ++ foldGap false (gap.map Spot.char)), crossed)
    else some (word, false)
termination_by text.length
decreasing_by
  have hle := length_rest_plainWord?_le _hw
  have hlt : (skipWhile isGap word.rest).length < word.rest.length := by
    cases hr : word.rest with
    | nil => simp [hr, peek, isGap, isSpace, isBreak] at _hg
    | cons s rest =>
      have hs : isGap s.char = true := by simpa [hr, peek] using _hg
      rw [skipWhile, List.dropWhile_cons, if_pos hs]
      exact Nat.lt_succ_of_le (length_skipWhile_le isGap rest)
  omega

/-! ## Block scalars -/

/-- What happens to the line ends at the end of a block. -/
inductive Chomping where
  | strip
  | clip
  | keep
deriving DecidableEq, Repr

/-- The first line of a block scalar: the chomping and the explicit indentation. -/
structure BlockHeader where
  chomping : Chomping := .clip
  increment : Option Nat := none
  rest : List Spot

/-- The chomping that a sign stands for. -/
def chomping? : Char → Option Chomping
  | '+' => some .keep
  | '-' => some .strip
  | _ => none

/-- The increment that a digit stands for. -/
def increment? (c : Char) : Option Nat :=
  if '1' ≤ c ∧ c ≤ '9' then some (c.toNat - 0x30) else none

/-- The header after the indicator: sign and digit in either order. -/
def blockHeader (text : List Spot) : BlockHeader :=
  let c := peek text
  let d := peek (text.drop 1)
  match chomping? c, increment? c with
  | some sign, _ =>
    match increment? d with
    | some n => ⟨sign, some n, text.drop 2⟩
    | none => ⟨sign, none, text.drop 1⟩
  | none, some n =>
    match chomping? d with
    | some sign => ⟨sign, some n, text.drop 2⟩
    | none => ⟨.clip, some n, text.drop 1⟩
  | none, none => ⟨.clip, none, text⟩

/-- The text after the blanks and the comment at the end of a line, and after the line end itself;
`none` if something else follows. -/
def skipLineEnd? (text : List Spot) : Option (List Spot) :=
  let text := skipWhile isSpace text
  let text := if peek text = '#' then skipWhile (fun c => !isBreak c && c != '\x00') text else text
  if isBreak (peek text) then some (text.drop 1)
  else if peek text = '\x00' then some text
  else none

/-- The empty lines at the beginning of a text, and the text from the next line that has anything
beyond the indentation. Without a given indentation all spaces belong to it. -/
structure Breaks where
  breaks : List Char
  rest : List Spot
  /-- The greatest column that the indentation reached. -/
  widest : Nat

/-- A place left of the column where the lines of a block begin. -/
def isIndent (indent : Option Nat) (s : Spot) : Bool := indent.all (s.column < ·)

/-- Passes over empty lines; `none` at a tab where the indentation goes on. -/
def breaks? (indent : Option Nat) (widest : Nat) : List Spot → Option Breaks
  | [] => some ⟨[], [], widest⟩
  | s :: rest =>
    if isIndent indent s ∧ s.char = ' ' then breaks? indent (max widest (s.column + 1)) rest
    else if isIndent indent s ∧ s.char = '\t' then none
    else if isBreak s.char then
      (breaks? indent (max widest s.column) rest).map fun b =>
        { b with breaks := s.char :: b.breaks }
    else some ⟨[], s :: rest, max widest s.column⟩

theorem length_rest_breaks?_le {indent : Option Nat} {widest : Nat} {text : List Spot} {b : Breaks}
    (h : breaks? indent widest text = some b) : b.rest.length ≤ text.length := by
  fun_induction breaks? indent widest text generalizing b with
  | case1 => simp only [Option.some.injEq] at h; subst h; simp
  | case2 _ _ _ _ ih => exact Nat.le_succ_of_le (ih h)
  | case3 => simp at h
  | case4 _ _ _ _ _ _ ih =>
    obtain ⟨b', hb', rfl⟩ := Option.map_eq_some_iff.mp h
    have := ih hb'
    exact Nat.le_succ_of_le this
  | case5 => simp only [Option.some.injEq] at h; subst h; simp

/-- The text of the lines of a block. -/
structure BlockLines where
  content : List Char
  /-- The end of the last line, if there is one. -/
  lastBreak : List Char
  /-- The ends of the empty lines after it. -/
  trailing : List Char
  rest : List Spot

/-- What the line ends between two lines of a block stand for. Folding joins two lines that both
begin without a blank. -/
def joinLines (isFolded : Bool) (lastBreak trailing : List Char) : List Char :=
  if isFolded && lastBreak == ['\n'] then
    if trailing.isEmpty then [' '] else trailing
  else lastBreak ++ trailing

/-- The lines of a block from a line that begins at the indentation. `lastBreak` and `trailing` are
the line ends before it, and `mayFold` tells that the line before it began without a blank. -/
def blockLines? (folded : Bool) (indent : Nat) (mayFold : Bool) (lastBreak trailing : List Char)
    (text : List Spot) : Option BlockLines :=
  match text with
  | [] => some ⟨[], lastBreak, trailing, []⟩
  | s :: rest =>
    if s.column = indent ∧ s.char ≠ '\x00' then
      let isInLine := fun c => !isBreak c && c != '\x00'
      let isBlank := isSpace s.char
      let line := s.char :: takeChars isInLine rest
      let atEnd := skipWhile isInLine rest
      let lineBreak := (atEnd.take 1).filter fun e => isBreak e.char
      match _hb : breaks? (some indent) 0 (atEnd.drop lineBreak.length) with
      | none => none
      | some b =>
        (blockLines? folded indent (!isBlank) (lineBreak.map Spot.char) b.breaks b.rest).map
          fun lines =>
            { lines with
              content := joinLines (folded && mayFold && !isBlank) lastBreak trailing ++ line ++
                lines.content }
    else some ⟨[], lastBreak, trailing, s :: rest⟩
termination_by text.length
decreasing_by
  have h1 := length_rest_breaks?_le _hb
  have h2 : atEnd.length ≤ rest.length := length_skipWhile_le _ rest
  simp only [List.length_drop, List.length_cons] at h1 ⊢
  omega

/-- A block scalar after its indicator. `outer` is the column of the enclosing block, if there is
one. -/
def block? (folded : Bool) (outer : Option Nat) (text : List Spot) : Option Scanned := do
  let header := blockHeader text
  let text ← skipLineEnd? header.rest
  let least := (outer.map (· + 1)).getD 0
  let given := header.increment.map fun n => (outer.getD 0) + n
  let first ← breaks? given 0 text
  let indent := given.getD (max 1 (max least first.widest))
  let lines ← blockLines? folded indent true [] first.breaks first.rest
  let tail := match header.chomping with
    | .strip => []
    | .clip => lines.lastBreak
    | .keep => lines.lastBreak ++ lines.trailing
  return ⟨lines.content ++ tail, lines.rest⟩

end AnalysisSettings.Yaml
