import AnalysisSettings.Config.Basic
import AnalysisSettings.Config.Environment
import AnalysisSettings.Config.Scalar

/-!
# Loading a configuration

A configuration comes from three layers: the defaults, a file, and the environment. A value of a
later layer takes the place of an earlier one; what is displaced is not looked at any more. Only the
variables of the four fields count, so an unknown name can come from the file alone.
-/

namespace AnalysisSettings.Config

/-- The beginning of the names of configuration variables. -/
def variablePrelude : String := "settings_sync_"

/-- The field that a variable is for. The case of its name does not matter. -/
def fieldOfVariable? (name : String) : Option String :=
  let lowered := (Text.trim name.toList).map Char.toLower
  fieldNames.find? fun field => lowered == (variablePrelude ++ field).toList

/-- The layer of an environment. Of variables that differ only in case the last one counts. -/
def Environment.layer (env : Environment) : Layer :=
  (env.filterMap fun (name, value) =>
    (fieldOfVariable? name).map fun field =>
      (field, valueOfText (String.ofList (Text.trim value.toList)))).reverse

/-- The layer of a file. Of repeated names the last one counts. -/
def fileLayer? (text : String) : Option Layer :=
  (entriesOfText? text).map List.reverse

/-- The configuration of a file, if there is one, and an environment. -/
def load (file : Option String) (env : Environment) : Except LoadError Config :=
  match file.mapM fileLayer? with
  | none => .error .malformedFile
  | some layer => ofLayer (env.layer ++ layer.getD [] ++ ({} : Config).toLayer)

end AnalysisSettings.Config
