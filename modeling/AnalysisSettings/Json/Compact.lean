import AnalysisSettings.Json.Tree
import AnalysisSettings.Text.Split

/-!
# The compact text of a value

`Tree.compact` writes a value without blanks and with the members of each object in ascending order
of their keys; of several members with one key the last counts. It reads the value strictly on the
way, so a faulty value has a fault and no text. At most `depth` brackets may be open at once.
-/

namespace AnalysisSettings.Json

/-- A text as a literal with its quotes. -/
def literalText (text : String) : String :=
  (Utf8.decode? (Literal.ofText text).write).getD ""

/-- Members with one more in its place, unless its key is there already. -/
def placeMember (key text : String) : List (String × String) → List (String × String)
  | [] => [(key, text)]
  | m :: ms =>
    if key < m.1 then (key, text) :: m :: ms
    else if key = m.1 then m :: ms
    else m :: placeMember key text ms

/-- Texts between brackets, with commas. -/
def bracketed (opening closing : Char) (texts : List String) : String :=
  String.singleton opening ++ Text.commaJoined texts ++ String.singleton closing

mutual

/-- The compact text of a value. -/
def Tree.compact (depth : Nat) : Tree → Except Fault String
  | .missing why => .error why.fault
  | .null => .ok "null"
  | .bool b => .ok (if b then "true" else "false")
  | .number n => n.value.map Number.text
  | .string l => l.text.map literalText
  | .list items =>
    if depth = 0 then .error .nestedTooDeep
    else (items.compact (depth - 1)).map (bracketed '[' ']')
  | .object members =>
    if depth = 0 then .error .nestedTooDeep
    else (members.compact (depth - 1)).map fun ms =>
      bracketed '\x7b' '\x7d' (ms.map fun m => literalText m.1 ++ ":" ++ m.2)

/-- The compact texts of the values of a list. -/
def Items.compact (depth : Nat) : Items → Except Fault (List String)
  | .finish ending =>
    match ending.listFault? with
    | some f => .error f
    | none => .ok []
  | .item value rest => do
    let text ← value.compact depth
    let texts ← rest.compact depth
    return text :: texts

/-- The keys of an object with the compact texts of their values. -/
def Members.compact (depth : Nat) : Members → Except Fault (List (String × String))
  | .finish ending =>
    match ending.objectFault? with
    | some f => .error f
    | none => .ok []
  | .bare key cut => do
    discard key.text
    .error (bareFault cut)
  | .member key value rest => do
    let name ← key.text
    let text ← value.compact depth
    let others ← rest.compact depth
    return placeMember name text others

end

end AnalysisSettings.Json
