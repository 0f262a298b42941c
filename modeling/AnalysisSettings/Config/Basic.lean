import AnalysisSettings.Config.Value
import AnalysisSettings.Duration.Text

/-!
# Configurations

What a client has to be told: where the server is, which organization it acts for, how long it
waits, and what it calls itself. A configuration is read from a *layer*, a list of named values, and
written as one; `Config.ofLayer` looks at the names in ascending order, and the first that is
unknown or has an unsuitable value is the error.
-/

namespace AnalysisSettings

/-- The configuration of a client. -/
structure Config where
  serverUrl : String := "http://localhost:9000"
  organization : Option String := none
  requestTimeout : Duration := .ofSeconds 60
  userAgent : String := "settings-sync/0.1.0"
deriving DecidableEq, Repr

namespace Config

/-- Why there is no configuration. -/
inductive LoadError where
  /-- The file is no mapping with texts as keys. -/
  | malformedFile
  | unknownField (name : String)
  /-- A value of a type that its field does not take. -/
  | invalidType (name : String) (found : Value) (expected : String)
  /-- A text that its field does not take. -/
  | invalidValue (name text expected : String)

/-- The names of the fields. -/
def fieldNames : List String :=
  ["server_url", "organization", "request_timeout", "user_agent"]

namespace LoadError

/-- The names of the fields in a message. -/
def namedFields : String :=
  String.intercalate ", " (fieldNames.map fun name => "\x60" ++ name ++ "\x60")

/-- The sentence that reports the error. -/
def message : LoadError → String
  | .malformedFile => "the configuration file is not a mapping"
  | .unknownField name =>
    "unknown field: found \x60" ++ name ++ "\x60, expected \x60one of " ++ namedFields ++ "\x60"
  | .invalidType _ found expected =>
    "invalid type: found " ++ found.described ++ ", expected " ++ expected
  | .invalidValue _ text expected =>
    "invalid value " ++ (Value.text text).described ++ ", expected " ++ expected

/-- The name that the error is about. -/
def path : LoadError → List String
  | .malformedFile => []
  | .unknownField name | .invalidType name .. | .invalidValue name .. => [name]

end LoadError

/-! ## Layers -/

/-- Named values; of several with one name the first counts. -/
abbrev Layer := List (String × Value)

/-- A layer without the values that do not count, in ascending order of the names. -/
def Layer.ascending (layer : Layer) : Layer :=
  let names := (layer.map Prod.fst).eraseDups.mergeSort fun a b => a ≤ b
  names.filterMap fun name => (layer.lookup name).map fun value => (name, value)

/-- The value of a text field. -/
def readText (name : String) (value : Value) : Except LoadError String :=
  match value.text? with
  | some text => .ok text
  | none => .error (.invalidType name value "a string or a scalar value")

/-- The value of a field that is a length of time: only texts can be one. -/
def readDuration (name : String) (value : Value) : Except LoadError Duration :=
  let ofText := fun text =>
    match Duration.read? text with
    | some t => Except.ok t
    | none => .error (.invalidValue name text "a duration")
  match value with
  | .text text => ofText text
  | .char c => ofText (String.singleton c)
  | _ => .error (.invalidType name value "a duration")

/-- Gives a field its value. -/
def assign (c : Config) (field : String × Value) : Except LoadError Config :=
  match field with
  | (name@"server_url", value) => (readText name value).map fun s => { c with serverUrl := s }
  | (name@"organization", value) =>
    (readText name value).map fun s => { c with organization := some s }
  | (name@"request_timeout", value) =>
    (readDuration name value).map fun t => { c with requestTimeout := t }
  | (name@"user_agent", value) => (readText name value).map fun s => { c with userAgent := s }
  | (name, _) => .error (.unknownField name)

/-- The configuration with the values of a layer, and the defaults where it has none. -/
def ofLayer (layer : Layer) : Except LoadError Config :=
  layer.ascending.foldlM assign {}

/-- The fields of a configuration as texts, without those that have no value. -/
def serialized (c : Config) : List (String × String) :=
  [("server_url", c.serverUrl)] ++
    (match c.organization with
      | some name => [("organization", name)]
      | none => []) ++
    [("request_timeout", c.requestTimeout.write), ("user_agent", c.userAgent)]

/-- A configuration as a layer. -/
def toLayer (c : Config) : Layer :=
  c.serialized.map fun (name, text) => (name, .text text)

end Config

end AnalysisSettings
