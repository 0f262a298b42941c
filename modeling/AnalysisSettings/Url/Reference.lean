import AnalysisSettings.Text.Blank
import AnalysisSettings.Url.Host
import AnalysisSettings.Url.Segments

/-!
# References to URLs

What a person types: an absolute URL, or as much of one as differs from the URL it is seen from.
`Reference.ofString` cuts a text at the marks of a URL (`:`, `#`, `?`); `Reference.resolve` makes
the URL it stands for out of the reference and the base. `Url.parse` resolves without a base,
`Url.join` with one.

Blanks and controls at the ends of the text, and line ends and tabs anywhere in it, do not count.
-/

namespace AnalysisSettings.Url

/-- A reference cut into pieces that are not looked into yet. -/
structure Reference where
  scheme : Option String
  /-- What stands between the scheme and the query: authority and path. -/
  body : List Char
  query : Option (List Char)
  fragment : Option (List Char)
deriving Repr, DecidableEq

namespace Reference

/-! ## Cutting a text -/

/-- A character that may be in a scheme after the first letter. -/
def isSchemeChar (c : Char) : Bool :=
  c.isAlphanum || c == '+' || c == '-' || c == '.'

/-- The scheme before the first colon and the text after it, if there is a scheme. -/
def cutScheme (cs : List Char) : Option String × List Char :=
  match Text.cut ':' cs with
  | (c :: name, some rest) =>
    if c.isAlpha && name.all isSchemeChar then
      (some (String.ofList ((c :: name).map Char.toLower)), rest)
    else (none, cs)
  | _ => (none, cs)

/-- The text that counts. -/
def clean (cs : List Char) : List Char :=
  let isOuter := fun c : Char => c.toNat ≤ 0x20
  let isInner := fun c => c == '\t' || c == '\n' || c == '\r'
  (Text.dropEndWhile isOuter (cs.dropWhile isOuter)).filter fun c => !isInner c

/-- The reference a text is. -/
def ofString (text : String) : Reference :=
  let (beforeFragment, fragment) := Text.cut '#' (clean text.toList)
  let (beforeQuery, query) := Text.cut '?' beforeFragment
  let (scheme, body) := cutScheme beforeQuery
  { scheme, body, query, fragment }

/-! ## Parts that are only escaped -/

/-- The query in the form in which it is written. -/
def escapedQuery (r : Reference) (kind : SchemeKind) : Option String :=
  let part : Part := match kind with
    | .other => .query
    | _ => .specialQuery
  r.query.map fun cs => String.ofList (part.escape cs)

/-- The fragment in the form in which it is written. -/
def escapedFragment (r : Reference) : Option String :=
  r.fragment.map fun cs => String.ofList (Part.fragment.escape cs)

/-- A URL with the query and the fragment of the reference. -/
def complete (r : Reference) (scheme : String) (authority : Option Authority) (path : Path) :
    Url where
  scheme := scheme
  authority := authority
  path := path
  query := r.escapedQuery (.of scheme)
  fragment := r.escapedFragment

/-! ## Authorities -/

/-- The credentials of an authority: a user name and, after a colon, a password. -/
def readCredentials (cs : List Char) : String × Option String :=
  let escape := fun text => String.ofList (Part.credentials.escape text)
  match Text.cut ':' cs with
  | (user, none) | (user, some []) => (escape user, none)
  | (user, some word) => (escape user, some (escape word))

/-- A text divided at the last `@`. -/
def cutCredentials (cs : List Char) : Option (List Char) × List Char :=
  let host := (cs.reverse.takeWhile (· != '@')).reverse
  if host.length = cs.length then (none, cs)
  else (some (cs.take (cs.length - host.length - 1)), host)

/-- A text divided at the first colon outside brackets. -/
def cutPort : (bracketed : Bool) → List Char → List Char × Option (List Char)
  | _, [] => ([], none)
  | bracketed, c :: cs =>
    if c = ':' ∧ bracketed = false then ([], some cs)
    else
      let inside := if c = '[' then true else if c = ']' then false else bracketed
      (c :: (cutPort inside cs).1, (cutPort inside cs).2)

/-- The port in a text of digits; none if there are no digits or it is the default. -/
def readPort (scheme : String) (digits : List Char) : Except ParseError (Option UInt16) :=
  if digits.isEmpty then .ok none
  else match (Numeral.read? digits).filter (· ≤ 0xFFFF) with
    | none => .error .port
    | some n =>
      let port := UInt16.ofNat n
      .ok (if defaultPort? scheme = some port then none else some port)

/-- The authority at the beginning of a text, which is what stands before the next separator, and
the rest of the text. -/
def readAuthority (r : Reference) (scheme : String) (cs : List Char) :
    Except ParseError (Authority × List Char) := do
  let kind := SchemeKind.of scheme
  let text := cs.takeWhile fun c => !kind.isSeparator c
  let rest := cs.dropWhile fun c => !kind.isSeparator c
  let (credentials, machine) := cutCredentials text
  if credentials = some [] ∧ machine.isEmpty ∧
      (rest.isEmpty = false ∨ r.query.isSome ∨ r.fragment.isSome) then
    throw .emptyHost
  let (username, password) := (credentials.map readCredentials).getD ("", none)
  let (hostText, portText) := cutPort false machine
  let host ← Host.read kind hostText
  if host = .name "" ∧ portText.isSome then throw .emptyHost
  -- a backslash ends a port even where it does not separate segments
  let digits := (portText.getD []).takeWhile (· != '\\')
  let afterPort := (portText.getD []).dropWhile (· != '\\')
  let port ← readPort scheme digits
  if host = .name "" ∧ (username ≠ "" ∨ password.isSome) then throw .emptyHost
  return ({ username, password, host, port }, afterPort ++ rest)

/-- The path after an authority. A special URL always has one. -/
def pathAfterAuthority (kind : SchemeKind) (cs : List Char) : Path :=
  match cs with
  | [] => .segments (if kind = .other then [] else [""])
  | c :: rest => .segments (pathFrom kind [] (if kind.isSeparator c then rest else cs))

/-- The URL of a reference whose body goes on with an authority. -/
def withAuthority (r : Reference) (scheme : String) (cs : List Char) : Except ParseError Url := do
  let (authority, rest) ← r.readAuthority scheme cs
  return r.complete scheme (some authority) (pathAfterAuthority (.of scheme) rest)

/-! ## Resolution -/

/-- The segments of the base that a relative path starts from: all but the last one. -/
def startingPoint (base : Url) : List String :=
  let parts := base.path.parts
  if base.scheme = "file" ∧ (parts.getLast?.any fun s => isNormalDrive s.toList) = true then parts
  else parts.dropLast

/-- The base with the query of the reference, if it has one, and its fragment. -/
def onlyMarks (r : Reference) (base : Url) : Url :=
  let query := match r.query with
    | some _ => r.escapedQuery (.of base.scheme)
    | none => base.query
  { base with query, fragment := r.escapedFragment }

/-- The URL of a reference without a scheme, or with that of the base, to a base with segments. -/
def relativeTo (r : Reference) (base : Url) : Except ParseError Url :=
  let kind := SchemeKind.of base.scheme
  let isSlash := fun c => c == '/' || c == '\\'
  let within := fun reached cs =>
    .ok (r.complete base.scheme base.authority (.segments (pathFrom kind reached cs)))
  match r.body with
  | [] => .ok (r.onlyMarks base)
  | '/' :: '/' :: rest => r.withAuthority base.scheme rest
  | c :: d :: rest =>
    if isSlash c && isSlash d then r.withAuthority base.scheme (rest.dropWhile isSlash)
    else if isSlash c then within [] (d :: rest)
    else within (startingPoint base) (c :: d :: rest)
  | [c] => if isSlash c then within [] [] else within (startingPoint base) [c]

/-- A text begins with a drive letter that is a whole segment. -/
def startsWithDrive (cs : List Char) : Bool :=
  isDrive (cs.take 2) && (cs.drop 2).head?.all SchemeKind.file.isSeparator

/-- The URL of a `file` reference whose body goes on after two slashes. -/
def withFileHost (r : Reference) (cs : List Char) : Except ParseError Url := do
  let isSeparator := SchemeKind.file.isSeparator
  let hostText := cs.takeWhile fun c => !isSeparator c
  let rest := if isDrive hostText then cs else (cs.dropWhile fun c => !isSeparator c).drop 1
  let host ←
    if isDrive hostText ∨ hostText.isEmpty then pure (.name "") else Host.readDomain hostText
  let isLocal := host = .name "localhost" || entersDrive [] (splitSegments .file rest)
  let authority : Authority := { host := if isLocal then .name "" else host }
  return r.complete "file" (some authority) (.segments (pathFrom .file [] rest))

/-- The URL of a `file` reference; the base, if there is one, is a `file` URL too. -/
def toFile (r : Reference) (base : Option Url) : Except ParseError Url :=
  let isSeparator := SchemeKind.file.isSeparator
  let nowhere : Authority := { host := .name "" }
  let within := fun authority reached cs =>
    .ok (r.complete "file" (some authority) (.segments (pathFrom .file reached cs)))
  match r.body, base with
  | c :: rest, _ =>
    if isSeparator c && rest.head?.any isSeparator then r.withFileHost (rest.drop 1)
    else if isSeparator c then
      match base with
      | some b =>
        let drive := (b.path.parts.take 1).filter fun s => isNormalDrive s.toList
        if startsWithDrive rest then within nowhere [] rest
        else if drive.isEmpty then within (b.authority.getD nowhere) [] rest
        else within nowhere drive rest
      | none => within nowhere [] rest
    else match base with
      | some b =>
        if startsWithDrive (c :: rest) then within nowhere [] (c :: rest)
        else within (b.authority.getD nowhere) (startingPoint b) (c :: rest)
      | none => within nowhere [] (c :: rest)
  | [], some b => .ok (r.onlyMarks b)
  | [], none => within nowhere [] []

/-- The URL a reference stands for, seen from a base. -/
def resolve (r : Reference) (base : Option Url) : Except ParseError Url :=
  match r.scheme, base with
  | some scheme, _ =>
    match SchemeKind.of scheme with
    | .file => r.toFile (base.filter fun b => b.scheme == scheme)
    | .special =>
      let isSlash := fun c => c == '/' || c == '\\'
      let slashes := (r.body.takeWhile isSlash).length
      match base.filter fun b => b.scheme == scheme && slashes < 2 with
      | some b => r.relativeTo b
      | none => r.withAuthority scheme (r.body.dropWhile isSlash)
    | .other =>
      match r.body with
      | '/' :: '/' :: rest => r.withAuthority scheme rest
      | '/' :: rest => .ok (r.complete scheme none (.segments (pathFrom .other [] rest)))
      | cs => .ok (r.complete scheme none (.text (String.ofList (Part.plain.escape cs))))
  | none, none => .error .withoutBase
  | none, some b =>
    if r.body.isEmpty ∧ r.query.isNone ∧ r.fragment.isSome then .ok (r.onlyMarks b)
    else match b.path with
      | .text _ => .error .opaqueBase
      | .segments _ => if b.scheme = "file" then r.toFile (some b) else r.relativeTo b

end Reference

/-- The absolute URL a text is. -/
def parse (text : String) : Except ParseError Url :=
  (Reference.ofString text).resolve none

/-- The URL a text stands for where it is seen from a base. -/
def join (base : Url) (text : String) : Except ParseError Url :=
  (Reference.ofString text).resolve (some base)

end AnalysisSettings.Url
