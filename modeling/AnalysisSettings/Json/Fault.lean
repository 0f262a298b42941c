/-!
# What is wrong with a payload

A payload is read from the left, and the first fault ends the reading. Faults of the text (a cut
list, a bad escape) and faults of the content (a number where a text belongs, a missing field) are
one type, because either may come first. `Fault.message` is the wording of each.
-/

namespace AnalysisSettings.Json

/-- The first thing that is wrong with a payload. -/
inductive Fault where
  | cutValue
  | cutList
  | cutObject
  | cutString
  | valueExpected
  | wordExpected
  | colonExpected
  | listDelimiterExpected
  | objectDelimiterExpected
  | keyExpected
  | trailingComma
  | trailingCharacters
  | badEscape
  | badNumber
  | numberOutOfRange
  /-- A text whose octets are not well-formed UTF-8. -/
  | badCodePoint
  | controlCharacter
  /-- Half of a pair of escapes that name one character together. -/
  | loneSurrogate
  | cutSurrogatePair
  /-- The brackets that are open at once are too many. -/
  | nestedTooDeep
  | missingField (name : String)
  | duplicateField (name : String)
  | wrongType (found expected : String)
  | wrongValue (found expected : String)
  /-- A record written as a list has only `length` elements. -/
  | wrongLength (length : Nat) (expected : String)
  /-- A record without a key, in words. -/
  | noKey (what : String)
deriving DecidableEq, Repr

/-- The wording of a fault. -/
def Fault.message : Fault → String
  | .cutValue => "EOF while parsing a value"
  | .cutList => "EOF while parsing a list"
  | .cutObject => "EOF while parsing an object"
  | .cutString => "EOF while parsing a string"
  | .valueExpected => "expected value"
  | .wordExpected => "expected ident"
  | .colonExpected => "expected `:`"
  | .listDelimiterExpected => "expected `,` or `]`"
  | .objectDelimiterExpected => "expected `,` or `\x7d`"
  | .keyExpected => "key must be a string"
  | .trailingComma => "trailing comma"
  | .trailingCharacters => "trailing characters"
  | .badEscape => "invalid escape"
  | .badNumber => "invalid number"
  | .numberOutOfRange => "number out of range"
  | .badCodePoint => "invalid unicode code point"
  | .controlCharacter => "control character (\\u0000-\\u001F) found while parsing a string"
  | .loneSurrogate => "lone leading surrogate in hex escape"
  | .cutSurrogatePair => "unexpected end of hex escape"
  | .nestedTooDeep => "recursion limit exceeded"
  | .missingField name => "missing field `" ++ name ++ "`"
  | .duplicateField name => "duplicate field `" ++ name ++ "`"
  | .wrongType found expected => "invalid type: " ++ found ++ ", expected " ++ expected
  | .wrongValue found expected => "invalid value: " ++ found ++ ", expected " ++ expected
  | .wrongLength length expected =>
    "invalid length " ++ toString length ++ ", expected " ++ expected
  | .noKey what => what

end AnalysisSettings.Json
