import AnalysisSettings.Url.Basic
import AnalysisSettings.Url.Escape

/-!
# Segments of a path

A path is read segment by segment. `.` stands for the place reached so far and `..` for the one
above it; both may be written with `%2e`. A drive letter (a letter and a colon) is never left
through `..`. In a `file` URL a drive letter is also kept apart from what follows it, and a bar
after the letter is read as a colon.
-/

namespace AnalysisSettings.Url

/-- The segment means the place reached so far. -/
def isHere (segment : List Char) : Bool :=
  [".", "%2e"].contains (String.ofList (segment.map Char.toLower))

/-- The segment means the place above. -/
def isAbove (segment : List Char) : Bool :=
  ["..", ".%2e", "%2e.", "%2e%2e"].contains (String.ofList (segment.map Char.toLower))

/-- A letter followed by a colon, or by the bar that some write instead. -/
def isDrive : List Char → Bool
  | [letter, mark] => letter.isAlpha && (mark == ':' || mark == '|')
  | _ => false

/-- A letter followed by a colon. -/
def isNormalDrive (segment : List Char) : Bool :=
  isDrive segment && segment.getLast? == some ':'

/-- The segments without the last one; a drive letter stays. -/
def above (reached : List String) : List String :=
  match reached.getLast? with
  | some segment => if isDrive segment.toList then reached else reached.dropLast
  | none => reached

/-- The segments that a text between two separators adds. `first` tells that it begins the path of
a `file` URL, where a drive letter has rights of its own. -/
def addedSegments (first : Bool) (escaped : List Char) : List (List Char) :=
  match first, escaped with
  | true, letter :: ':' :: c :: rest =>
    if letter.isAlpha then [[letter, ':'], c :: rest] else [escaped]
  | true, [letter, '|'] => if letter.isAlpha then [[letter, ':']] else [escaped]
  | _, _ => [escaped]

/-- The segments reached through one more. The last segment of a path leaves an empty one if it is
only a direction, so that the path ends in a slash. -/
def step (kind : SchemeKind) (reached : List String) (segment : List Char) (isLast : Bool) :
    List String :=
  let ending := if isLast then [""] else []
  let escaped := Part.segment.escape segment
  if isAbove escaped then above reached ++ ending
  else if isHere escaped then reached ++ ending
  else
    reached ++ (addedSegments (kind == .file && reached.isEmpty) escaped).map String.ofList

/-- The segments reached through all of a list. -/
def walk (kind : SchemeKind) (reached : List String) : List (List Char) → List String
  | [] => reached
  | segment :: rest => walk kind (step kind reached segment rest.isEmpty) rest

/-- A drive letter is the first segment that a list reaches. -/
def entersDrive (reached : List String) : List (List Char) → Bool
  | [] => false
  | segment :: rest =>
    (reached.isEmpty && isDrive segment) ||
      entersDrive (step .file reached segment rest.isEmpty) rest

/-- The pieces of a text between the separators of a path. -/
def splitSegments (kind : SchemeKind) (cs : List Char) : List (List Char) :=
  Text.split '/' (cs.map fun c => if kind.isSeparator c then '/' else c)

/-- Segments without the empty ones at the beginning; at least one is left. -/
def dropEmpty : List String → List String
  | "" :: segment :: rest => dropEmpty (segment :: rest)
  | [] => [""]
  | segments => segments

/-- The path that is reached from some segments by a text after a slash. -/
def pathFrom (kind : SchemeKind) (reached : List String) (cs : List Char) : List String :=
  let segments := walk kind reached (splitSegments kind cs)
  if kind = .file then dropEmpty segments else segments

end AnalysisSettings.Url
