import AnalysisSettings.Domain.Ascii
import AnalysisSettings.Url.Address
import AnalysisSettings.Url.Escape

/-!
# Reading hosts

A host in brackets is an IPv6 address. Elsewhere the host of a special scheme is percent-decoded
and read as a domain name, which is an IPv4 address if its last label is a number; the host of any
other scheme is a name that is only escaped.
-/

namespace AnalysisSettings.Url

/-- The text between the brackets of a host that begins with one; `none` without the closing
bracket. -/
def bracketed? (cs : List Char) : Option (List Char) :=
  match cs.getLast? with
  | some ']' => some cs.dropLast
  | _ => none

/-- An IPv6 address; the opening bracket is gone already. -/
def Host.readBracketed (cs : List Char) : Except ParseError Host :=
  match (bracketed? cs).bind readIpv6? with
  | some pieces => .ok (.ipv6 pieces)
  | none => .error .ipv6Address

/-- The host of a special scheme. -/
def Host.readDomain (cs : List Char) : Except ParseError Host :=
  match cs with
  | '[' :: rest => readBracketed rest
  | _ =>
    let decoded := Utf8.lossy (Percent.decodeOctets cs)
    match Domain.toAscii? decoded.toList with
    | none => .error .domainName
    | some [] => .error .emptyHost
    | some domain =>
      if endsInNumber domain then
        match readIpv4? domain with
        | some address => .ok (.ipv4 address)
        | none => .error .ipv4Address
      else .ok (.name (String.ofList domain))

/-- An ASCII character that no host has, whatever the scheme. -/
def isForbiddenInName (c : Char) : Bool :=
  ['\x00', '\t', '\n', '\r', ' ', '#', '/', ':', '<', '>', '?', '@', '[', '\\', ']', '^',
    '|'].contains c

/-- The host of a scheme that is not special. -/
def Host.readName (cs : List Char) : Except ParseError Host :=
  match cs with
  | '[' :: rest => readBracketed rest
  | _ =>
    if cs.any isForbiddenInName then .error .hostCharacter
    else .ok (.name (String.ofList (Part.plain.escape cs)))

/-- The host of a scheme of the given kind, `file` apart. -/
def Host.read (kind : SchemeKind) (cs : List Char) : Except ParseError Host :=
  match kind with
  | .other => readName cs
  | _ => if cs.isEmpty then .error .emptyHost else readDomain cs

end AnalysisSettings.Url
