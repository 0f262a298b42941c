import AnalysisSettings.Domain.Direction
import AnalysisSettings.Domain.Joiner
import AnalysisSettings.Domain.Mapping
import AnalysisSettings.Domain.Punycode
import AnalysisSettings.Text.Composed
import AnalysisSettings.Text.Mark

/-!
# Domain names in ASCII

The form of a domain name that is sent to a name server. The characters of the name are replaced by
what they are taken for, the name is composed and divided at its points, and every label with
characters outside ASCII is written in punycode behind `xn--`. A label that is written so already
has to stand for one that would be written so.
-/

namespace AnalysisSettings.Domain

/-- An ASCII character that a host name cannot have. -/
def isForbidden (c : Char) : Bool :=
  c.toNat ≤ 0x20 || c.toNat = 0x7F ||
    ['%', '#', '/', ':', '<', '>', '?', '@', '[', '\\', ']', '^', '|'].contains c

/-- The longest label in characters outside ASCII that is written in punycode. -/
def writtenLimit : Nat := 1000

/-- The longest punycode that is read. -/
def readLimit : Nat := 2000

/-- What a label in ASCII begins with if it stands for one outside ASCII. -/
def punycodeMark : List Char := ['x', 'n', '-', '-']

/-- The label a punycode stands for: it is not in ASCII, composed, and made of characters that
stand for themselves. -/
def decodeLabel? (code : List Char) : Option (List Char) :=
  if readLimit < code.length then none
  else match Punycode.decode? code with
    | none => none
    | some label =>
      if label.any (0x80 ≤ ·.toNat) && label.all isOwnImage && Text.composed label == label &&
          !punycodeMark.isPrefixOf label then
        some label
      else none

/-- A label of a name whose characters have been replaced, without punycode. -/
def readLabel? (label : List Char) : Option (List Char) :=
  if punycodeMark.isPrefixOf label then decodeLabel? (label.drop punycodeMark.length)
  else some label

/-- The label begins with no mark, and has no character that is forbidden or out of place. -/
def isProper (label : List Char) : Bool :=
  !(label.head?.any Text.isMark) && !label.any isForbidden && joinersFit [] label

/-- The label in ASCII. -/
def writeLabel? (label : List Char) : Option (List Char) :=
  if label.all (·.toNat < 0x80) then some label
  else if writtenLimit < label.length then none
  else some (punycodeMark ++ Punycode.encode label)

/-- The domain name in ASCII, in small letters; `none` if it is not the name of a domain. -/
def toAscii? (cs : List Char) : Option (List Char) := do
  let images ← cs.mapM mapChar?
  let labels ← (Text.split '.' (Text.composed images.flatten)).mapM readLabel?
  if labels.all isProper && (!labels.any (·.any runsRightToLeft) || labels.all hasOneDirection) then
    let written ← labels.mapM writeLabel?
    return Text.join '.' written
  else none

end AnalysisSettings.Domain
