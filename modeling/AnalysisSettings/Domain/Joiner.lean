import AnalysisSettings.Domain.JoiningType
import AnalysisSettings.Text.CombiningClass

/-!
# Invisible joiners

The two invisible characters that a domain name can have, where they change how a word looks: both
of them after a virama, and the one that prevents a connection between two letters that would
connect.
-/

namespace AnalysisSettings.Domain

/-- The last character before the place is a virama. -/
def followsVirama (before : List Char) : Bool :=
  match before with
  | c :: _ => Text.combiningClass c = 9
  | [] => false

/-- The letter before a place reaches for the next one, and the letter after it for the one before;
marks between them do not matter. `before` is in reverse. -/
def wouldConnect (before after : List Char) : Bool :=
  let nearest (cs : List Char) := (cs.dropWhile fun c => joiningType c = .transparent).head?
  (match nearest before with
    | some c => joiningType c = .left || joiningType c = .dual
    | none => false) &&
  (match nearest after with
    | some c => joiningType c = .right || joiningType c = .dual
    | none => false)

/-- Every invisible joiner stands where it may; `before` is the text before, in reverse. -/
def joinersFit (before : List Char) : List Char → Bool
  | [] => true
  | c :: cs =>
    (if c = '\u200C' then followsVirama before || wouldConnect before cs
      else if c = '\u200D' then followsVirama before
      else true) &&
    joinersFit (c :: before) cs

end AnalysisSettings.Domain
