import AnalysisSettings.Json.Tree
import AnalysisSettings.Text.Quoted

/-!
# Values of an expected type

A reader of a tree knows what it expects, and reports what it finds instead. Texts, flags, counts,
lists and optional values are read by one function each; a record is described by its fields.

A record may be an object or a list. In an object the fields come in any order, none twice;
members of other names are passed over. In a list the fields come in the order of their
description, and those at the end may be left out. A field that is not there has its default,
unless it is required.
-/

namespace AnalysisSettings.Json

namespace Tree

/-- What stands there, in words, or the fault in it. -/
def found : Tree → Except Fault String
  | .missing why => .error why.fault
  | .null => .ok "null"
  | .bool b => .ok (if b then "boolean `true`" else "boolean `false`")
  | .number n => n.value.map Number.described
  | .string l => l.text.map fun text => "string " ++ Text.quoted text
  | .list _ => .ok "sequence"
  | .object _ => .ok "map"

/-- The fault of a value that is not what was expected. -/
def mismatch {α : Type} (t : Tree) (expected : String) : Except Fault α :=
  t.found.bind fun words => .error (.wrongType words expected)

/-- A text. -/
def asText : Tree → Except Fault String
  | .string l => l.text
  | t => t.mismatch "a string"

/-- A flag. -/
def asFlag : Tree → Except Fault Bool
  | .bool b => .ok b
  | t => t.mismatch "a boolean"

/-- A count: a natural number of 64 bits. -/
def asCount : Tree → Except Fault UInt64
  | .number n =>
    n.value.bind fun
      | .natural n => .ok n
      | .negative magnitude => .error (.wrongValue (Number.negative magnitude).described "u64")
      | .double x => .error (.wrongType (Number.double x).described "u64")
  | t => t.mismatch "u64"

/-- A value or nothing. -/
def asOptional {α : Type} (read : Tree → Except Fault α) : Tree → Except Fault (Option α)
  | .null => .ok none
  | t => (read t).map some

end Tree

/-- The values of a list, each read by `read`. -/
def Items.values {α : Type} (read : Tree → Except Fault α) : Items → Except Fault (List α)
  | .finish ending =>
    match ending.listFault? with
    | some f => .error f
    | none => .ok []
  | .item value rest => do
    let a ← read value
    let as ← rest.values read
    return a :: as

/-- A list of values, each read by `read`. -/
def Tree.asList {α : Type} (read : Tree → Except Fault α) : Tree → Except Fault (List α)
  | .list items => items.values read
  | t => t.mismatch "a sequence"

/-- The members of an object, each value read by `read`, in the order of the payload. -/
def Members.pairs {α : Type} (read : Tree → Except Fault α) :
    Members → Except Fault (List (String × α))
  | .finish ending =>
    match ending.objectFault? with
    | some f => .error f
    | none => .ok []
  | .bare key cut => do
    discard key.text
    .error (bareFault cut)
  | .member key value rest => do
    let name ← key.text
    let a ← read value
    let others ← rest.pairs read
    return (name, a) :: others

/-- An object whose values are all read by `read`. -/
def Tree.asMap {α : Type} (read : Tree → Except Fault α) :
    Tree → Except Fault (List (String × α))
  | .object members => members.pairs read
  | t => t.mismatch "a map"

/-! ## Records -/

/-- A field of a record; `ρ` holds the fields that were read so far. -/
structure Field (ρ : Type) where
  name : String
  required : Bool
  isRead : ρ → Bool
  read : Tree → ρ → Except Fault ρ

/-- A record of the type `τ`: its name in messages, its fields, and how it is built from them. -/
structure Shape (ρ τ : Type) where
  name : String
  fields : List (Field ρ)
  start : ρ
  build : ρ → τ

/-- The fields read from the members of an object, after those in `parts`. -/
def Members.collect {ρ : Type} (fields : List (Field ρ)) (parts : ρ) :
    Members → Except Fault ρ
  | .finish ending =>
    match ending.objectFault? with
    | some f => .error f
    | none => .ok parts
  | .bare key cut => do
    let name ← key.text
    match fields.find? fun f => f.name == name && f.isRead parts with
    | some _ => .error (.duplicateField name)
    | none => .error (bareFault cut)
  | .member key value rest => do
    let name ← key.text
    match fields.find? fun f => f.name == name with
    | some f =>
      if f.isRead parts then .error (.duplicateField name)
      else
        let parts ← f.read value parts
        rest.collect fields parts
    | none =>
      match value.skipFault? with
      | some fault => .error fault
      | none => rest.collect fields parts

/-- The fault of a list that goes on after the last field of a record. -/
def Items.surplusFault? : Items → Option Fault
  | .finish .closed => none
  | .finish .cut => some .cutList
  | .finish .commaClosed => some .trailingComma
  | .finish _ | .item .. => some .trailingCharacters

/-- The fields read from the values of a list; `index` fields came before, and `expected` is the
record in words. -/
def Items.collect {ρ : Type} (expected : String) :
    List (Field ρ) → (index : Nat) → ρ → Items → Except Fault ρ
  | [], _, parts, items =>
    match items.surplusFault? with
    | some f => .error f
    | none => .ok parts
  | f :: fields, index, parts, .item value rest => do
    let parts ← f.read value parts
    rest.collect expected fields (index + 1) parts
  | f :: fields, index, parts, .finish ending =>
    match ending.listFault? with
    | some fault => .error fault
    | none =>
      if f.required then .error (.wrongLength index expected)
      else collect expected fields (index + 1) parts (.finish ending)

/-- The record in the words of a fault. -/
def Shape.described {ρ τ : Type} (s : Shape ρ τ) : String := "struct " ++ s.name

/-- The record of the fields, or the first required field that is missing. -/
def Shape.complete {ρ τ : Type} (s : Shape ρ τ) (parts : ρ) : Except Fault τ :=
  match s.fields.find? fun f => f.required && !f.isRead parts with
  | some f => .error (.missingField f.name)
  | none => .ok (s.build parts)

/-- Reads a record. -/
def Shape.read {ρ τ : Type} (s : Shape ρ τ) : Tree → Except Fault τ
  | .object members => (members.collect s.fields s.start).bind s.complete
  | .list items =>
    let expected := s.described ++ " with " ++ toString s.fields.length ++ " elements"
    (items.collect expected s.fields 0 s.start).map s.build
  | t => t.mismatch s.described

/-- Reads a payload: one value, with nothing but blanks around it. -/
def readPayload {α : Type} (read : Tree → Except Fault α) (octets : List UInt8) :
    Except Fault α :=
  let taken := Tree.read octets
  match read taken.value with
  | .error f => .error f
  | .ok a => if (skipBlanks taken.rest).isEmpty then .ok a else .error .trailingCharacters

end AnalysisSettings.Json
