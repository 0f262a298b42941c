import AnalysisSettings.Domain.BidiClass

/-!
# Labels in both directions

A domain name with a character that runs from right to left is only accepted if all its labels can
be read without doubt: each keeps to one direction, and begins and ends with characters of it
(RFC 5893).
-/

namespace AnalysisSettings.Domain

/-- The character makes a text run from right to left somewhere. -/
def runsRightToLeft (c : Char) : Bool :=
  [BidiClass.rightToLeft, .arabicLetter, .arabicNumber].contains (bidiClass c)

/-- The class of the last character that does not just stand on another. -/
def lastClass? (cs : List Char) : Option BidiClass :=
  (cs.reverse.map bidiClass).find? (· ≠ .nonspacingMark)

/-- What a label from right to left can have. -/
def classesFromRight : List BidiClass :=
  [.rightToLeft, .arabicLetter, .arabicNumber, .europeanNumber, .europeanSeparator,
    .commonSeparator, .europeanTerminator, .otherNeutral, .boundaryNeutral, .nonspacingMark]

/-- What a label from left to right can have. -/
def classesFromLeft : List BidiClass :=
  [.leftToRight, .europeanNumber, .europeanSeparator, .commonSeparator, .europeanTerminator,
    .otherNeutral, .boundaryNeutral, .nonspacingMark]

/-- The label keeps to one direction. A label without characters does. -/
def hasOneDirection (label : List Char) : Bool :=
  let classes := label.map bidiClass
  match classes.head?, lastClass? label with
  | none, _ => true
  | some .leftToRight, some final =>
    classes.all classesFromLeft.contains && [.leftToRight, .europeanNumber].contains final
  | some first, some final =>
    [.rightToLeft, .arabicLetter].contains first && classes.all classesFromRight.contains &&
      [.rightToLeft, .arabicLetter, .europeanNumber, .arabicNumber].contains final &&
      !(classes.contains .europeanNumber && classes.contains .arabicNumber)
  | some _, none => false

end AnalysisSettings.Domain
