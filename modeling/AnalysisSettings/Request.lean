import AnalysisSettings.Text.Percent
import AnalysisSettings.Text.Split
import AnalysisSettings.Version

/-!
# Requests

The three questions a server is asked: its settings, its properties (the older form of the
settings), and the quality profiles of a project. A request is an endpoint and a list of named
parameters; `Request.path` writes it as a path below the server's address and `Request.ofPath?`
reads it back.
-/

namespace AnalysisSettings

/-- A question to a web service of the server. -/
structure Request where
  endpoint : String
  parameters : List (String × String)
deriving Repr, DecidableEq

namespace Request

/-- One parameter of a query. The names are plain words; the values are percent-encoded. -/
def encodeParameter (parameter : String × String) : List Char :=
  parameter.1.toList ++ '=' :: Percent.encode parameter.2

/-- The path of the request. A request without parameters has no query. -/
def path (r : Request) : String :=
  match r.parameters with
  | [] => r.endpoint
  | ps => r.endpoint ++ String.ofList ('?' :: Text.join '&' (ps.map encodeParameter))

/-- The parameter that one part of a query stands for. -/
def readParameter? (part : List Char) : Option (String × String) :=
  match Text.cut '=' part with
  | (name, some value) => (Percent.decode? value).map fun text => (String.ofList name, text)
  | (_, none) => none

/-- The request a path stands for: the endpoint before the first `?`, the parameters of the query
between its `&` signs, and in each the decoded value after the first `=`. -/
def ofPath? (path : String) : Option Request :=
  match Text.cut '?' path.toList with
  | (endpoint, none) => some ⟨String.ofList endpoint, []⟩
  | (endpoint, some query) =>
    ((Text.split '&' query).mapM readParameter?).map fun ps => ⟨String.ofList endpoint, ps⟩

/-- The parameter called `name`, where there is a value for it. -/
def optional (name : String) : Option String → List (String × String)
  | none => []
  | some value => [(name, value)]

/-- The settings of the server, or of one project, asked from the services of a generation. -/
def settings (generation : Generation) (project : Option String) : Request :=
  match generation with
  | .modern => ⟨"/api/settings/values", optional "component" project⟩
  | .legacy => ⟨"/api/properties", ("format", "json") :: optional "resource" project⟩

/-- The quality profiles of a project, in an organization if one is given. -/
def qualityProfiles (version : Version) (project : String) (organization : Option String) :
    Request :=
  let projectName := match version.generation .firstWithProjectParameter with
    | .modern => "project"
    | .legacy => "projectKey"
  ⟨"/api/qualityprofiles/search", (projectName, project) :: optional "organization" organization⟩

end Request

/-- The generation of the services that deliver the settings of a server. -/
def Version.settingsGeneration (v : Version) : Generation :=
  v.generation .firstWithSettings

end AnalysisSettings
