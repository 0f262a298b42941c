import AnalysisSettings.Url.Basic

/-!
# Network addresses

The text forms of addresses that a host can have.

* An IPv4 address has one to four numbers with dots between them, each decimal, octal (after `0`)
  or hexadecimal (after `0x`). The last number fills all octets that the others leave. A host whose
  last part looks like a number must be such an address.
* An IPv6 address has eight pieces of one to four hexadecimal digits. One run of pieces may be left
  out at `::`, and the last two pieces may be written as four decimal numbers.
-/

namespace AnalysisSettings.Url

/-! ## IPv4 -/

/-- A number in the base that its first characters announce; `none` where there is no number. -/
def ipv4Number? (part : List Char) : Option Nat :=
  match part with
  | ['0'] => some 0
  | '0' :: x :: digits =>
    if x = 'x' ∨ x = 'X' then
      if digits.isEmpty then some 0 else Text.readHex? digits
    else if (x :: digits).all fun d => '0' ≤ d ∧ d ≤ '7' then
      some (Nat.ofDigitChars 8 (x :: digits) 0)
    else none
  | _ => Numeral.read? part

/-- A host whose last part is a number. An empty part at the end does not count. -/
def endsInNumber (domain : List Char) : Bool :=
  let parts := (Text.split '.' domain).reverse
  let last? := match parts with
    | [] :: part :: _ => some part
    | [] :: [] => none
    | part :: _ => some part
    | [] => none
  match last? with
  | none => false
  | some part => (!part.isEmpty && part.all Char.isDigit) || (ipv4Number? part).isSome

/-- The address of the numbers before the last one and the last one. -/
def ipv4OfNumbers? (leading : List Nat) (last : Nat) : Option UInt32 :=
  let room := 1 <<< (8 * (4 - leading.length))
  if leading.length < 4 ∧ last < room ∧ leading.all (· < 256) = true then
    let high := leading.foldl (fun acc n => 256 * acc + n) 0
    some (UInt32.ofNat (high * room + last))
  else none

/-- The address a domain stands for. One dot may follow the last number. -/
def readIpv4? (domain : List Char) : Option UInt32 :=
  let parts := match (Text.split '.' domain).reverse with
    | [] :: parts => parts
    | parts => parts
  match parts.reverse.mapM ipv4Number? with
  | none => none
  | some numbers =>
    match numbers.reverse with
    | [] => none
    | last :: leading => ipv4OfNumbers? leading.reverse last

/-! ## IPv6 -/

/-- A piece: one to four hexadecimal digits. -/
def ipv6Piece? (part : List Char) : Option UInt16 :=
  if part.length ≤ 4 then (Text.readHex? part).map UInt16.ofNat else none

/-- A decimal number below 256 without leading zeros. -/
def decimalOctet? (part : List Char) : Option Nat :=
  (Numeral.read? part).filter fun n => n < 256 && Numeral.write n == part

/-- The two pieces of four decimal numbers. -/
def dottedPieces? (part : List Char) : Option (List UInt16) :=
  match (Text.split '.' part).mapM decimalOctet? with
  | some [a, b, c, d] => some [UInt16.ofNat (256 * a + b), UInt16.ofNat (256 * c + d)]
  | _ => none

/-- The pieces of a list of parts; only the last part may be dotted, where that is allowed. -/
def ipv6Pieces? (dotted : Bool) : List (List Char) → Option (List UInt16)
  | [] => some []
  | [part] =>
    if dotted && part.contains '.' then dottedPieces? part
    else (ipv6Piece? part).map ([·])
  | part :: next :: parts => do
    let piece ← ipv6Piece? part
    let pieces ← ipv6Pieces? dotted (next :: parts)
    return piece :: pieces

/-- The pieces of one side of an address; an empty side has none. -/
def ipv6Side? (dotted : Bool) (side : List Char) : Option (List UInt16) :=
  if side.isEmpty then some [] else ipv6Pieces? dotted (Text.split ':' side)

/-- A text divided at the first `::`. -/
def cutAtGap : List Char → List Char × Option (List Char)
  | ':' :: ':' :: rest => ([], some rest)
  | c :: rest => (c :: (cutAtGap rest).1, (cutAtGap rest).2)
  | [] => ([], none)

/-- The eight pieces of the address a text stands for. -/
def readIpv6? (text : List Char) : Option (List UInt16) :=
  match cutAtGap text with
  | (all, none) => (ipv6Side? true all).filter fun pieces => pieces.length == 8
  | (left, some right) => do
    let before ← ipv6Side? false left
    let after ← ipv6Side? true right
    if before.length + after.length < 8 then
      return before ++ List.replicate (8 - before.length - after.length) 0 ++ after
    else none

end AnalysisSettings.Url
