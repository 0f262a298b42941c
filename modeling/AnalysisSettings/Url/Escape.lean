import AnalysisSettings.Text.Percent

/-!
# Escapes in URLs

Each part of a URL has a set of characters that must not stand in it as they are: in every part the
controls and what is not ASCII, and beyond that the marks that would end the part. They are written
as percent signs and digits, octet by octet of their UTF-8 form. What is escaped already stays as
it is, because no set has the percent sign.
-/

namespace AnalysisSettings.Url

/-- A part of a URL that has escapes of its own. -/
inductive Part where
  | credentials
  | segment
  | query
  /-- The query of a special scheme. -/
  | specialQuery
  | fragment
  /-- An opaque path, or the host of a scheme that is not special. -/
  | plain
deriving Repr, DecidableEq

/-- The ASCII marks that are escaped in a part, beside the controls. -/
def Part.marks : Part → List Char
  | .credentials => [' ', '"', '<', '>', '\x60', '#', '?', '\x7b', '\x7d', '/', ':', ';', '=', '@',
      '[', '\\', ']', '^', '|']
  | .segment => [' ', '"', '<', '>', '\x60', '#', '?', '\x7b', '\x7d']
  | .query => [' ', '"', '#', '<', '>']
  | .specialQuery => [' ', '"', '#', '<', '>', '\'']
  | .fragment => [' ', '"', '<', '>', '\x60']
  | .plain => []

/-- A character that does not stand in a part as it is. -/
def Part.escapes (part : Part) (c : Char) : Bool :=
  c.toNat < 0x20 || 0x7F ≤ c.toNat || part.marks.contains c

/-- A character as it is written in a part. -/
def Part.escapeChar (part : Part) (c : Char) : List Char :=
  if part.escapes c then (String.utf8EncodeChar c).flatMap Percent.escapeOctet else [c]

/-- A text as it is written in a part. -/
def Part.escape (part : Part) (cs : List Char) : List Char :=
  cs.flatMap part.escapeChar

/-- A text without any character that a part escapes is written as it is. -/
theorem Part.escape_eq_self {part : Part} {cs : List Char}
    (h : ∀ c ∈ cs, part.escapes c = false) : part.escape cs = cs := by
  induction cs with
  | nil => rfl
  | cons c cs ih =>
    have hc : part.escapeChar c = [c] := by simp [escapeChar, h c (by simp)]
    have htail : part.escape cs = cs := ih fun d hd => h d (by simp [hd])
    rw [escape, List.flatMap_cons, hc]
    exact congrArg (c :: ·) htail

end AnalysisSettings.Url
