import AnalysisSettings.Text.CombiningClass
import AnalysisSettings.Text.Decomposition

/-!
# Composed text

Many letters can be written as one character or as a base with marks after it, and marks of
different classes in either order. The composed form of a text is the same for all of them: every
character is taken apart, the marks after each base are put in the order of their classes, and then
each mark that no other one shields is joined to its base where a character for both exists
(normalisation form C).
-/

namespace AnalysisSettings.Text

/-! ## Taking apart -/

/-- The leading consonant, the vowel and, if there is one, the trailing consonant of a Hangul
syllable. -/
def hangulParts? (c : Char) : Option (List Char) :=
  let n := c.toNat - 0xAC00
  if 0xAC00 ≤ c.toNat ∧ c.toNat ≤ 0xD7A3 then
    let opening := [Char.ofNat (0x1100 + n / 588), Char.ofNat (0x1161 + n % 588 / 28)]
    some (if n % 28 = 0 then opening else opening ++ [Char.ofNat (0x11A7 + n % 28)])
  else none

/-- The rows of all characters that are equated with others. -/
def decompositionRows : List Table.Row :=
  pairRows ++ excludedPairRows ++ singletonRows

/-- What a character is equated with; itself for most. -/
def parts (c : Char) : List Char :=
  match hangulParts? c with
  | some letters => letters
  | none =>
    match Table.find? decompositionRows c with
    | some row => row.image c
    | none => [c]

/-- A text taken apart. The parts of a character can have parts, to a depth of three. -/
def takeApart (cs : List Char) : List Char :=
  ((cs.flatMap parts).flatMap parts).flatMap parts

/-! ## The order of marks -/

/-- Puts a character before a text whose marks are in order: a mark goes behind the marks of lower
classes that begin the text. -/
def insertMark (c : Char) : List Char → List Char
  | [] => [c]
  | d :: ds =>
    if 0 < combiningClass d ∧ combiningClass d < combiningClass c then d :: insertMark c ds
    else c :: d :: ds

/-- A text with the marks after each base in the order of their classes; marks of one class keep
their order. -/
def sortMarks (cs : List Char) : List Char :=
  cs.foldr insertMark []

/-! ## Joining -/

/-- The Hangul syllable of two parts: two letters, or an open syllable and a consonant. -/
def hangulSyllable? (a b : Char) : Option Char :=
  if 0x1100 ≤ a.toNat ∧ a.toNat ≤ 0x1112 ∧ 0x1161 ≤ b.toNat ∧ b.toNat ≤ 0x1175 then
    some (Char.ofNat (0xAC00 + 588 * (a.toNat - 0x1100) + 28 * (b.toNat - 0x1161)))
  else if 0xAC00 ≤ a.toNat ∧ a.toNat ≤ 0xD7A3 ∧ (a.toNat - 0xAC00) % 28 = 0 ∧
      0x11A8 ≤ b.toNat ∧ b.toNat ≤ 0x11C2 then
    some (Char.ofNat (a.toNat + (b.toNat - 0x11A7)))
  else none

/-- The one character for a base and a mark. -/
def joined? (a b : Char) : Option Char :=
  match hangulSyllable? a b with
  | some c => some c
  | none => (pairRows.find? (·.values == [a.toNat, b.toNat])).map fun row => Char.ofNat row.first

/-- A mark of the same class or of class zero stands between a base and the character. -/
def isShielded (between : List Char) (c : Char) : Bool :=
  match between.getLast? with
  | none => false
  | some d => combiningClass c ≤ combiningClass d

/-- Joins what follows a base to it; `between` has the marks after the base that were not joined. -/
def joinTo (base : Char) (between : List Char) : List Char → List Char
  | [] => base :: between
  | c :: cs =>
    match if isShielded between c then none else joined? base c with
    | some whole => joinTo whole between cs
    | none =>
      if combiningClass c = 0 then base :: between ++ joinTo c [] cs
      else joinTo base (between ++ [c]) cs

/-- Joins marks to their bases; marks at the beginning have none. -/
def joinMarks : List Char → List Char
  | [] => []
  | c :: cs => if combiningClass c = 0 then joinTo c [] cs else c :: joinMarks cs

/-- The composed form of a text. A text in ASCII is composed. -/
def composed (cs : List Char) : List Char :=
  if cs.all (·.toNat < 0x80) then cs else joinMarks (sortMarks (takeApart cs))

end AnalysisSettings.Text
