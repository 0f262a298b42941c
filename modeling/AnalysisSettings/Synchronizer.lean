import AnalysisSettings.Config.Load
import AnalysisSettings.Download
import AnalysisSettings.Payload.Codec
import AnalysisSettings.Transport.Http

/-!
# Setting up

A synchronizer is a configuration that works: its server address and its name for itself make an
HTTP client. It downloads JSON payloads for the organization of the configuration.
-/

namespace AnalysisSettings

/-- Why a synchronizer cannot be set up. -/
inductive SetupError where
  | configuration (cause : Config.LoadError)
  | transport (serverUrl : String) (cause : TransportFailure)

/-- The sentence that reports the error, without its cause. -/
def SetupError.message : SetupError → String
  | .configuration _ => "invalid settings sync configuration"
  | .transport serverUrl _ => "cannot set up HTTP transport for '" ++ serverUrl ++ "'"

/-- A configuration and the HTTP client it describes. -/
structure Synchronizer where
  config : Config
  http : HttpClient

namespace Synchronizer

/-- The HTTP client that a configuration describes. -/
def httpOf (config : Config) : Except TransportFailure HttpClient :=
  HttpClient.ofServer config.serverUrl config.userAgent

/-- The synchronizer of a configuration. -/
def ofConfig (config : Config) : Except SetupError Synchronizer :=
  match httpOf config with
  | .ok http => .ok ⟨config, http⟩
  | .error cause => .error (.transport config.serverUrl cause)

/-- The synchronizer of a file and an environment. -/
def load (file : Option String) (env : Config.Environment) : Except SetupError Synchronizer :=
  match Config.load file env with
  | .ok config => ofConfig config
  | .error cause => .error (.configuration cause)

/-- The client that reads JSON payloads for the organization of a configuration. -/
def clientOf (config : Config) : Client :=
  ⟨Codec.json, config.organization⟩

/-- The log record of a set-up that succeeded. -/
def readyRecord (s : Synchronizer) : LogRecord :=
  ⟨.info, "Settings sync module initialized",
    ("server_url", s.config.serverUrl) ::
      LogRecord.optionalField "organization" s.config.organization⟩

end Synchronizer

end AnalysisSettings
