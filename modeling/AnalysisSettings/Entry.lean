/-!
# Flat settings

An entry is one key with one value, the form in which settings are stored and compared. Entries
are ordered by key, then by value; texts are compared character by character.
-/

namespace AnalysisSettings

/-- A setting in its flat form. -/
structure Entry where
  key : String
  value : String
deriving Repr, DecidableEq

namespace Entry

/-- The entry comes no later than the other: by key, then by value. -/
def precedes (a b : Entry) : Bool :=
  a.key < b.key || (a.key == b.key && a.value ≤ b.value)

/-- A list without the entries that equal the one before them. -/
def dropRepeats : List Entry → List Entry
  | [] => []
  | e :: es =>
    match dropRepeats es with
    | [] => [e]
    | next :: rest => if e = next then next :: rest else e :: next :: rest

/-- The entries in ascending order, each once. -/
def ascending (es : List Entry) : List Entry :=
  dropRepeats (es.mergeSort precedes)

end Entry

end AnalysisSettings
