import AnalysisSettings.Numeral
import AnalysisSettings.Text.Hex
import AnalysisSettings.Text.Split

/-!
# URLs

An absolute URL in its parts. Every part is kept in the form in which it is written, with all its
escapes, so that `Url.toString` only puts the parts together again.

Schemes fall into three kinds: `file`; the other *special* ones, which have a host that is a domain
or an address, a default port, and `\` as a second separator; and all the rest.
-/

namespace AnalysisSettings

namespace Url

/-- Why a text is no URL. -/
inductive ParseError where
  | emptyHost
  | domainName
  | port
  | ipv4Address
  | ipv6Address
  | hostCharacter
  /-- A relative reference, and no base to resolve it against. -/
  | withoutBase
  /-- A relative reference, and a base whose path has no segments. -/
  | opaqueBase
deriving Repr, DecidableEq

/-- The sentence that reports the error. -/
def ParseError.message : ParseError → String
  | .emptyHost => "empty host"
  | .domainName => "invalid international domain name"
  | .port => "invalid port number"
  | .ipv4Address => "invalid IPv4 address"
  | .ipv6Address => "invalid IPv6 address"
  | .hostCharacter => "invalid domain character"
  | .withoutBase => "relative URL without a base"
  | .opaqueBase => "relative URL with a cannot-be-a-base base"

/-- The kinds of schemes. -/
inductive SchemeKind where
  | file
  | special
  | other
deriving Repr, DecidableEq

/-- The kind of a scheme. -/
def SchemeKind.of (scheme : String) : SchemeKind :=
  if scheme = "file" then .file
  else if scheme ∈ ["http", "https", "ws", "wss", "ftp"] then .special
  else .other

/-- A character that separates the segments of a path. -/
def SchemeKind.isSeparator (kind : SchemeKind) (c : Char) : Bool :=
  c == '/' || (c == '\\' && kind != .other)

/-- The port that is left out. -/
def defaultPort? (scheme : String) : Option UInt16 :=
  if scheme ∈ ["http", "ws"] then some 80
  else if scheme ∈ ["https", "wss"] then some 443
  else if scheme = "ftp" then some 21
  else none

/-- What stands for a machine. -/
inductive Host where
  /-- A domain name, or any other name where the scheme is not special; it may be empty. -/
  | name (text : String)
  | ipv4 (address : UInt32)
  /-- The eight pieces of an address. -/
  | ipv6 (pieces : List UInt16)
deriving Repr, DecidableEq

/-- A machine, the port on it and the credentials for it. -/
structure Authority where
  username : String := ""
  password : Option String := none
  host : Host
  port : Option UInt16 := none
deriving Repr, DecidableEq

/-- A path: segments, each written after a slash, or a text that does not begin with one. -/
inductive Path where
  | segments (parts : List String)
  | text (content : String)
deriving Repr, DecidableEq

/-- The segments of a path; a mere text has none. -/
def Path.parts : Path → List String
  | .segments parts => parts
  | .text _ => []

end Url

/-- An absolute URL. -/
structure Url where
  scheme : String
  authority : Option Url.Authority := none
  path : Url.Path
  query : Option String := none
  fragment : Option String := none
deriving Repr, DecidableEq

namespace Url

/-! ## Writing -/

/-- The four octets of an address, highest first, with dots between them. -/
def writeIpv4 (address : UInt32) : String :=
  let n := address.toNat
  let octets := [n / 0x1000000, n / 0x10000 % 0x100, n / 0x100 % 0x100, n % 0x100]
  String.ofList (Text.join '.' (octets.map Numeral.write))

/-- The number of zeros a list begins with. -/
def leadingZeros (pieces : List UInt16) : Nat :=
  (pieces.takeWhile (· == 0)).length

/-- The place and length of the longest run of zeros; of equal runs the first. -/
def longestZeros : List UInt16 → Nat × Nat
  | [] => (0, 0)
  | p :: ps =>
    let here := leadingZeros (p :: ps)
    let later := longestZeros ps
    if later.2 ≤ here then (0, here) else (later.1 + 1, later.2)

/-- Pieces in base sixteen with colons between them. -/
def writePieces (pieces : List UInt16) : List Char :=
  Text.join ':' (pieces.map fun p => Text.lowerHex p.toNat)

/-- An address with its longest run of at least two zero pieces left out. -/
def writeIpv6 (pieces : List UInt16) : String :=
  let (start, length) := longestZeros pieces
  String.ofList <|
    if length < 2 then writePieces pieces
    else writePieces (pieces.take start) ++ [':', ':'] ++ writePieces (pieces.drop (start + length))

/-- A host as it is written in a URL. -/
def Host.toString : Host → String
  | .name text => text
  | .ipv4 address => writeIpv4 address
  | .ipv6 pieces => "[" ++ writeIpv6 pieces ++ "]"

/-- The credentials are written if there is a user name or a password. -/
def Authority.credentials (a : Authority) : String :=
  match a.username, a.password with
  | "", none => ""
  | user, none => user ++ "@"
  | user, some word => user ++ ":" ++ word ++ "@"

/-- An authority as it is written in a URL, after its two slashes. -/
def Authority.toString (a : Authority) : String :=
  a.credentials ++ a.host.toString ++
    match a.port with
    | some p => ":" ++ String.ofList (Numeral.write p.toNat)
    | none => ""

/-- A path as it is written. -/
def Path.toString : Path → String
  | .segments parts => String.join (parts.map ("/" ++ ·))
  | .text content => content

/-- What is written before a path so that its two leading slashes do not announce an authority. -/
def Path.guard : Path → String
  | .segments ("" :: _ :: _) => "/."
  | _ => ""

/-- An optional part after its mark. -/
def writeOptional (mark : String) : Option String → String
  | some text => mark ++ text
  | none => ""

/-- The URL without its fragment. -/
def withoutFragment (u : Url) : Url :=
  { u with fragment := none }

/-- The URL as a text. -/
def toString (u : Url) : String :=
  u.scheme ++ ":" ++
    (match u.authority with
      | some a => "//" ++ a.toString
      | none => u.path.guard) ++
    u.path.toString ++ writeOptional "?" u.query ++ writeOptional "#" u.fragment

end Url

end AnalysisSettings
