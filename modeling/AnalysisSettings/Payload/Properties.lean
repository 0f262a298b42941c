import AnalysisSettings.Json.Compact
import AnalysisSettings.Json.Record
import AnalysisSettings.Property

/-!
# The properties payload

`[{"key": …, "value": …}, …]`. A value is a text or a number, whose text is then the value; other
values are refused. A property without a key spoils the whole payload.
-/

namespace AnalysisSettings.Payload

open Json

/-- How many brackets may be open at once in a payload. -/
def nestingLimit : Nat := 127

/-- The value of a property; it stands inside two brackets of the payload. -/
def readPropertyValue : Tree → Except Fault (Option String)
  | .null => .ok none
  | .string l => l.text.map some
  | .number n => n.value.map fun v => some v.text
  | t => (t.compact (nestingLimit - 2)).bind fun text =>
    .error (.wrongType text "a string or a number")

/-- The fields of a property that were read. -/
structure PropertyParts where
  key : Option String := none
  value : Option (Option String) := none

/-- A property in a payload. -/
def propertyShape : Shape PropertyParts Property where
  name := "PropertyDto"
  start := {}
  fields := [
    { name := "key", required := true, isRead := fun p => p.key.isSome
      read := fun t p => t.asText.map fun text => { p with key := some text } },
    { name := "value", required := false, isRead := fun p => p.value.isSome
      read := fun t p => (readPropertyValue t).map fun v => { p with value := some v } }]
  build p := { key := p.key.getD "", value := p.value.getD none }

/-- The properties of a payload, or the first fault in it. -/
def readProperties (octets : List UInt8) : Except Fault (List Property) :=
  (readPayload (Tree.asList propertyShape.read) octets).bind fun properties =>
    if properties.any fun p => p.key.isEmpty then .error (.noKey "property without key")
    else .ok properties

end AnalysisSettings.Payload
