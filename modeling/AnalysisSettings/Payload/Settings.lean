import AnalysisSettings.Json.Record
import AnalysisSettings.Setting

/-!
# The settings payload

`{"settings": [{"key": …, "inherited": …, "value" | "values" | "fieldValues": …}, …]}`. A setting
with exactly one of the three shapes has that value; with none or with several it has none. The
order of the payload is kept, and a setting without a key spoils the whole payload.
-/

namespace AnalysisSettings.Payload

open Json

/-- The fields of a setting that were read. -/
structure SettingParts where
  key : Option String := none
  value : Option (Option String) := none
  values : Option (Option (List String)) := none
  fieldValues : Option (Option (List FieldGroup)) := none
  inherited : Option Bool := none

/-- The value of a setting with exactly one of the three shapes. -/
def resolveShape : Option String → Option (List String) → Option (List FieldGroup) →
    Option Setting.Value
  | some text, none, none => some (.scalar text)
  | none, some texts, none => some (.multi texts)
  | none, none, some groups => some (.fieldSet groups)
  | _, _, _ => none

/-- A group of fields: an object of texts. -/
def readGroup (t : Tree) : Except Fault FieldGroup :=
  (t.asMap Tree.asText).map .ofList

/-- A setting in a payload. -/
def settingShape : Shape SettingParts Setting where
  name := "SettingDto"
  start := {}
  fields := [
    { name := "key", required := true, isRead := fun p => p.key.isSome
      read := fun t p => t.asText.map fun text => { p with key := some text } },
    { name := "value", required := false, isRead := fun p => p.value.isSome
      read := fun t p => (t.asOptional Tree.asText).map fun v => { p with value := some v } },
    { name := "values", required := false, isRead := fun p => p.values.isSome
      read := fun t p =>
        (t.asOptional (Tree.asList Tree.asText)).map fun v => { p with values := some v } },
    { name := "fieldValues", required := false, isRead := fun p => p.fieldValues.isSome
      read := fun t p =>
        (t.asOptional (Tree.asList readGroup)).map fun v => { p with fieldValues := some v } },
    { name := "inherited", required := false, isRead := fun p => p.inherited.isSome
      read := fun t p => t.asFlag.map fun b => { p with inherited := some b } }]
  build p :=
    { key := p.key.getD ""
      inherited := p.inherited.getD false
      value := resolveShape (p.value.getD none) (p.values.getD none) (p.fieldValues.getD none) }

/-- The whole payload. -/
def settingsShape : Shape (Option (List Setting)) (List Setting) where
  name := "ValuesResponseDto"
  start := none
  fields := [
    { name := "settings", required := false, isRead := Option.isSome
      read := fun t _ => (t.asList settingShape.read).map some }]
  build p := p.getD []

/-- The settings of a payload, or the first fault in it. -/
def readSettings (octets : List UInt8) : Except Fault (List Setting) :=
  (readPayload settingsShape.read octets).bind fun settings =>
    match settings.find? fun s => s.key.isEmpty with
    | some s =>
      let flag := if s.inherited then "true" else "false"
      .error (.noKey ("setting without key (inherited=" ++ flag ++ ")"))
    | none => .ok settings

end AnalysisSettings.Payload
