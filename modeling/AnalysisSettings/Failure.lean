/-!
# What can go wrong

A download fails in the transport (no such resource, a status that is no success, no exchange at
all, a client that cannot be built) or in what came back (a payload that cannot be read, a setting
without a recognizable value, a project the server does not know). Each failure carries its cause;
`message` is the sentence that reports it.
-/

namespace AnalysisSettings

/-- Why a transport has no answer. -/
inductive TransportFailure where
  | notFound (url : String)
  | status (url : String) (code : UInt16) (body : String)
  | request (url reason : String)
  | client (reason : String)
deriving DecidableEq, Repr

namespace TransportFailure

/-- The sentence that reports the failure. -/
def message : TransportFailure → String
  | .notFound url => "resource not found: " ++ url
  | .status url code body =>
    "request to " ++ url ++ " failed with status " ++ toString code.toNat ++ ": " ++ body
  | .request url reason => "request to " ++ url ++ " failed: " ++ reason
  | .client reason => "invalid HTTP client setup: " ++ reason

/-- The server knows no such resource. -/
def isNotFound : TransportFailure → Bool
  | .notFound _ => true
  | _ => false

end TransportFailure

/-- The payloads that are read. -/
inductive PayloadKind where
  | settings
  | properties
  | qualityProfiles
deriving DecidableEq, Repr

/-- The name of a payload in messages. -/
def PayloadKind.name : PayloadKind → String
  | .settings => "settings"
  | .properties => "properties"
  | .qualityProfiles => "quality profiles"

/-- Why a download failed. -/
inductive Failure where
  | transport (cause : TransportFailure)
  /-- The payload, shown as text, is not what was expected. -/
  | decode (what : PayloadKind) (reason payload : String)
  /-- A setting has no value, or a value in several shapes. -/
  | unrecognizedValueShape (key : String)
  /-- The server does not know the project whose profiles were asked for. -/
  | projectNotFound (project : String) (organization : Option String)
deriving DecidableEq, Repr

namespace Failure

/-- The sentence that reports the failure. -/
def message : Failure → String
  | .transport cause => cause.message
  | .decode what reason payload =>
    "unable to parse " ++ what.name ++ " (" ++ reason ++ ") from: " ++ payload
  | .unrecognizedValueShape key => "unknown property value shape for setting '" ++ key ++ "'"
  | .projectNotFound project organization =>
    let place := match organization with
      | some name => " in organization '" ++ name ++ "'"
      | none => ""
    "Project with key '" ++ project ++ "'" ++ place ++ " not found on the server"

/-- The failure is about what the server sent, not about reaching it. -/
def isDecodeFailure : Failure → Bool
  | .decode .. | .unrecognizedValueShape _ => true
  | _ => false

end Failure

end AnalysisSettings
