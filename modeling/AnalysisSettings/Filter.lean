import AnalysisSettings.Snapshot

/-!
# What is worth keeping of a project's properties

The older services repeat every global value in the properties of a project. A filter with a
reference drops a property whose value is the global one; a missing value is the global one where
the global scope has none.
-/

namespace AnalysisSettings

/-- Which properties are kept. -/
inductive Filter where
  | keepAll
  | against (reference : Snapshot)

namespace Filter

/-- The filter against a snapshot, or the one that keeps everything if there is none. -/
def ofReference : Option Snapshot → Filter
  | none => .keepAll
  | some reference => .against reference

/-- A property is kept unless the reference has the same value, or the same lack of one. -/
def keeps : Filter → (key : String) → (value : Option String) → Bool
  | .keepAll, _, _ => true
  | .against reference, key, value => value != reference.get? key

end Filter

end AnalysisSettings
