import AnalysisSettings.Duration.Basic
import AnalysisSettings.Version

/-!
# Notices

While it works, a download leaves notices: log records, and one event for each fetch that
succeeded. `FetchEvent.record` is the log record of an event; downloads from the modern settings
service are reported at the level `info`, all others at `debug`.
-/

namespace AnalysisSettings

/-- The weight of a log record. -/
inductive LogLevel where
  | debug
  | info
  | warn
deriving DecidableEq, Repr

/-- The name of a level in a log. -/
def LogLevel.name : LogLevel → String
  | .debug => "DEBUG"
  | .info => "INFO"
  | .warn => "WARN"

/-- A line of a log: what happened and the values it was about. -/
structure LogRecord where
  level : LogLevel
  message : String
  fields : List (String × String) := []
deriving DecidableEq, Repr

/-- The field called `name`, where there is a value for it. -/
def LogRecord.optionalField (name : String) : Option String → List (String × String)
  | none => []
  | some value => [(name, value)]

/-- What was downloaded. -/
inductive Resource where
  /-- The settings of the server, or of one project, from the services of a generation. -/
  | settings (generation : Generation) (project : Option String)
  | qualityProfiles (project : String)
deriving DecidableEq, Repr

namespace Resource

/-- The resource in words. -/
def title : Resource → String
  | .settings _ (some project) => "project settings of '" ++ project ++ "'"
  | .settings _ none => "global settings"
  | .qualityProfiles project => "quality profiles of '" ++ project ++ "'"

/-- The level at which a download of the resource is reported. -/
def level : Resource → LogLevel
  | .settings .modern _ => .info
  | _ => .debug

end Resource

/-- A download that succeeded and, if a clock was running, the time it took. -/
structure FetchEvent where
  resource : Resource
  elapsed : Option Duration := none
deriving DecidableEq, Repr

/-- The log record of an event. -/
def FetchEvent.record (e : FetchEvent) : LogRecord :=
  let millis := e.elapsed.map fun t => toString t.millis
  { level := e.resource.level
    message := "Downloaded " ++ e.resource.title ++
      (match millis with
        | some n => " in " ++ n ++ "ms"
        | none => "")
    fields := LogRecord.optionalField "elapsed_ms" millis }

/-- Something a download tells on its way. -/
inductive Notice where
  | log (record : LogRecord)
  | fetched (event : FetchEvent)
deriving DecidableEq, Repr

namespace Notice

/-- The events among the notices, for an observer of its own. -/
def events (ns : List Notice) : List FetchEvent :=
  ns.filterMap fun
    | .fetched e => some e
    | .log _ => none

/-- The notices as a log in which events are reported too. -/
def logged (ns : List Notice) : List LogRecord :=
  ns.map fun
    | .log r => r
    | .fetched e => e.record

end Notice

end AnalysisSettings
