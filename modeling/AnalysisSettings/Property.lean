/-!
# Properties

A property is a setting as the older services tell it: a flat key and, mostly, a text.
-/

namespace AnalysisSettings

/-- A key with its text, if it has one. -/
structure Property where
  key : String
  value : Option String
deriving DecidableEq, Repr

end AnalysisSettings
