import AnalysisSettings.Json.Fault
import AnalysisSettings.Text.Hex
import AnalysisSettings.Text.Utf8

/-!
# String literals

A literal is read in two steps. `Literal.read` divides the octets after the opening quote into
pieces (plain octets, short escapes, hexadecimal escapes) up to the closing quote or to the first
octet that no literal can have. `Literal.text` then says which text the pieces stand for.

The second step is stricter: pairs of surrogate escapes must match, and the octets must be
well-formed UTF-8. A literal that nobody reads is not held to that, so `Literal.skipFault?` knows
only the faults of the first step.
-/

namespace AnalysisSettings.Json

/-- One piece of a literal. -/
inductive Piece where
  /-- An octet that stands for itself. -/
  | octet (b : UInt8)
  /-- A backslash and a letter: the octet it stands for. -/
  | short (b : UInt8)
  /-- A backslash, a `u` and four digits: a unit of 16 bits. -/
  | unit (n : Nat)
deriving DecidableEq, Repr

/-- How the pieces of a literal end. -/
inductive LiteralEnd where
  | closed
  /-- The payload ends. -/
  | cut
  | control
  /-- A backslash before an octet that is no escape. -/
  | badEscape
  /-- A `\u` without four hexadecimal digits. -/
  | badUnit
deriving DecidableEq, Repr

/-- A string literal as written. -/
structure Literal where
  pieces : List Piece
  ending : LiteralEnd
deriving DecidableEq, Repr

namespace Literal

/-- The literal with one more piece in front. -/
def cons (p : Piece) (l : Literal) : Literal :=
  { l with pieces := p :: l.pieces }

/-- The octet a short escape stands for. -/
def shortEscape? (b : UInt8) : Option UInt8 :=
  match Char.ofNat b.toNat with
  | '"' | '\\' | '/' => some b
  | 'b' => some 0x08
  | 'f' => some 0x0C
  | 'n' => some 0x0A
  | 'r' => some 0x0D
  | 't' => some 0x09
  | _ => none

/-- The unit that four hexadecimal digits stand for. -/
def unit? (a b c d : UInt8) : Option Nat :=
  Text.readHex? ([a, b, c, d].map fun o => Char.ofNat o.toNat)

/-- The literal whose opening quote stands before the octets, and the octets after it. -/
def read : List UInt8 → Literal × List UInt8
  | [] => (⟨[], .cut⟩, [])
  | 0x22 :: rest => (⟨[], .closed⟩, rest)
  | 0x5C :: 0x75 :: a :: b :: c :: d :: rest =>
    match unit? a b c d with
    | some n => ((read rest).1.cons (.unit n), (read rest).2)
    | none => (⟨[], .badUnit⟩, rest)
  | 0x5C :: 0x75 :: _ => (⟨[], .cut⟩, [])
  | 0x5C :: e :: rest =>
    match shortEscape? e with
    | some b => ((read rest).1.cons (.short b), (read rest).2)
    | none => (⟨[], .badEscape⟩, rest)
  | [0x5C] => (⟨[], .cut⟩, [])
  | b :: rest =>
    if b < 0x20 then (⟨[], .control⟩, rest)
    else ((read rest).1.cons (.octet b), (read rest).2)

theorem read_length (octets : List UInt8) : (read octets).2.length ≤ octets.length := by
  fun_induction read octets with
  | case3 _ _ _ _ _ _ _ ih => simp only [List.length_cons]; omega
  | case6 _ _ _ _ _ ih => simp only [List.length_cons]; omega
  | case9 _ _ _ _ _ _ ih => simp only [List.length_cons]; omega
  | _ => simp <;> omega

/-- The fault that ends a literal, apart from what its pieces mean. -/
def skipFault? (l : Literal) : Option Fault :=
  match l.ending with
  | .closed => none
  | .cut => some .cutString
  | .control => some .controlCharacter
  | .badEscape | .badUnit => some .badEscape

/-- The fault of a high surrogate with no escape of a unit after it. -/
def unpairedFault : LiteralEnd → Fault
  | .cut => .cutString
  | .badUnit => .badEscape
  | .closed | .control | .badEscape => .cutSurrogatePair

/-- The octets that pieces stand for. A high surrogate and a low surrogate are one character; any
other surrogate is a fault. -/
def octets (ending : LiteralEnd) : List Piece → Except Fault (List UInt8)
  | [] => .ok []
  | .octet b :: rest => (octets ending rest).map (b :: ·)
  | .short b :: rest => (octets ending rest).map (b :: ·)
  | .unit high :: rest =>
    if 0xDC00 ≤ high ∧ high ≤ 0xDFFF then .error .loneSurrogate
    else if high < 0xD800 ∨ 0xDBFF < high then
      (octets ending rest).map (String.utf8EncodeChar (Char.ofNat high) ++ ·)
    else match rest with
      | .unit low :: rest =>
        if low < 0xDC00 ∨ 0xDFFF < low then .error .loneSurrogate
        else
          let number := 0x10000 + (high - 0xD800) * 0x400 + (low - 0xDC00)
          (octets ending rest).map (String.utf8EncodeChar (Char.ofNat number) ++ ·)
      | [] => .error (unpairedFault ending)
      | _ :: _ => .error .cutSurrogatePair

/-- The text of a literal, or the first fault in it. That its octets are no UTF-8 is noticed at
the closing quote. -/
def text (l : Literal) : Except Fault String :=
  match octets l.ending l.pieces, l.skipFault? with
  | .error f, _ => .error f
  | .ok _, some f => .error f
  | .ok bs, none =>
    match Utf8.decode? bs with
    | some text => .ok text
    | none => .error .badCodePoint

/-! ## Writing -/

/-- A character of a text as a piece of a literal: the characters that must be escaped have their
shortest escape, the others stand for themselves. -/
def piecesOf (c : Char) : List Piece :=
  if c = '"' ∨ c = '\\' then [.short c.toUInt8]
  else if c = '\x08' ∨ c = '\x0C' ∨ c = '\n' ∨ c = '\r' ∨ c = '\t' then [.short c.toUInt8]
  else if c.toNat < 0x20 then [.unit c.toNat]
  else (String.utf8EncodeChar c).map .octet

/-- The literal of a text. -/
def ofText (text : String) : Literal :=
  ⟨text.toList.flatMap piecesOf, .closed⟩

/-- The letter of a short escape. -/
def shortLetter (b : UInt8) : Char :=
  match b.toNat with
  | 0x08 => 'b'
  | 0x0C => 'f'
  | 0x0A => 'n'
  | 0x0D => 'r'
  | 0x09 => 't'
  | n => Char.ofNat n

/-- The four hexadecimal digits of a unit. -/
def unitDigits (n : Nat) : List Char :=
  let digits := Text.lowerHex n
  List.replicate (4 - digits.length) '0' ++ digits

/-- A piece as it is written. -/
def writePiece : Piece → List UInt8
  | .octet b => [b]
  | .short b => [0x5C, (shortLetter b).toUInt8]
  | .unit n => 0x5C :: 0x75 :: (unitDigits n).map Char.toUInt8

/-- The octets of a literal with its quotes. -/
def write (l : Literal) : List UInt8 :=
  0x22 :: (l.pieces.flatMap writePiece ++ [0x22])

end Literal

end AnalysisSettings.Json
