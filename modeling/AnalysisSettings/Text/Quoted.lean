import AnalysisSettings.Text.Hex
import AnalysisSettings.Text.Unprintable

/-!
# Quoted texts

Messages show a text in double quotes, so that its ends and its invisible characters can be seen:
the usual escapes for quotes, backslashes and line ends, and the code point in braces for
everything that is not shown.
-/

namespace AnalysisSettings.Text

/-- A character of a quoted text. -/
def escaped (c : Char) : List Char :=
  if c = '\x00' then ['\\', '0']
  else if c = '\t' then ['\\', 't']
  else if c = '\r' then ['\\', 'r']
  else if c = '\n' then ['\\', 'n']
  else if c = '\\' ∨ c = '"' then ['\\', c]
  else if ' ' ≤ c ∧ c ≤ '~' then [c]
  else if isUnprintable c then '\\' :: 'u' :: '{' :: (lowerHex c.toNat ++ ['}'])
  else [c]

/-- A text in double quotes. -/
def quoted (text : String) : String :=
  String.ofList ('"' :: (text.toList.flatMap escaped ++ ['"']))

end AnalysisSettings.Text
