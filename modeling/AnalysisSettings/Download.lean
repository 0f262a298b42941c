import AnalysisSettings.Codec
import AnalysisSettings.Filter
import AnalysisSettings.Inquiry
import AnalysisSettings.Request
import AnalysisSettings.Sink

/-!
# Downloads

A download asks for one resource, reads the payload and delivers what is in it.

* Settings of the modern generation are delivered flattened, one record after the other. Inherited
  ones are passed over; the first setting of the project's own without a value ends the download
  with a failure, and what came before it stays delivered.
* Properties of the legacy generation are delivered if the filter keeps them and they have a value.
* Quality profiles are handed on unchanged. A project that the server does not know is a failure
  of its own kind.

`Client` bundles the codec and the organization and offers the three downloads of a
synchronization; `Client.sync` performs them in order and stops at the first failure.
-/

namespace AnalysisSettings

/-- The entries that reached the sink, in order, and how the download ended. -/
structure Delivery where
  entries : List Entry
  outcome : Except Failure Unit

namespace Delivery

/-- A download that failed before anything was delivered. -/
def failed (f : Failure) : Delivery :=
  ⟨[], .error f⟩

end Delivery

/-- What the settings of a modern payload deliver: the flattened records of those that are not
inherited, up to the first that has no value. -/
def Setting.deliver : List Setting → Delivery
  | [] => ⟨[], .ok ()⟩
  | s :: rest =>
    if s.inherited then deliver rest
    else match s.record? with
      | none => .failed (.unrecognizedValueShape s.key)
      | some r =>
        let d := deliver rest
        { d with entries := r.flatten ++ d.entries }

/-- The entry of a property that has a value. -/
def Property.flat? (p : Property) : Option Entry :=
  p.value.map fun value => ⟨p.key, value⟩

/-- The properties that a filter keeps. -/
def Property.kept (filter : Filter) (ps : List Property) : List Property :=
  ps.filter fun p => filter.keeps p.key p.value

/-- The entries that the kept properties deliver. -/
def Property.deliver (filter : Filter) (ps : List Property) : List Entry :=
  (kept filter ps).filterMap flat?

/-- The notices of kept properties that have no value. -/
def Property.skipNotices (filter : Filter) (ps : List Property) : List Notice :=
  ((kept filter ps).filter fun p => p.value.isNone).map fun p =>
    .log ⟨.debug, "skipping property without value", [("key", p.key)]⟩

namespace Inquiry

/-- The inquiry that leaves the notices first. -/
def noting {α : Type} (notices : List Notice) (rest : Inquiry α) : Inquiry α :=
  notices.foldr note rest

/-- The notices of a settings download that succeeded. -/
def settingsNotices (generation : Generation) (project : Option String) (count : Nat) :
    List Notice :=
  let service := match generation with
    | .legacy => "LegacyProperties"
    | .modern => "SettingsValues"
  [.log ⟨.debug, "settings delivered to sink",
      ("protocol", service) :: LogRecord.optionalField "project_key" project ++
        [("delivered", toString count)]⟩,
    .fetched ⟨.settings generation project, none⟩]

/-- Downloads settings from the services of a generation. The reference matters to the legacy
generation only. -/
def settings (codec : Codec) (generation : Generation) (project : Option String)
    (reference : Option Snapshot) : Inquiry Delivery :=
  .ask (Request.settings generation project).path fun
    | .error cause => .done (.failed (.transport cause))
    | .ok response =>
      match generation with
      | .modern =>
        match codec.settings response.body with
        | .error f => .done (.failed f)
        | .ok records =>
          let d := Setting.deliver records
          match d.outcome with
          | .error _ => .done d
          | .ok () => noting (settingsNotices generation project d.entries.length) (.done d)
      | .legacy =>
        match codec.properties response.body with
        | .error f => .done (.failed f)
        | .ok properties =>
          let filter := Filter.ofReference reference
          let entries := Property.deliver filter properties
          noting (Property.skipNotices filter properties ++
            settingsNotices generation project entries.length) (.done ⟨entries, .ok ()⟩)

/-- Downloads settings into a sink: how the download ended, and the sink after it. -/
def settingsInto {τ : Type} [Sink τ] (codec : Codec) (generation : Generation)
    (project : Option String) (reference : Option Snapshot) (sink : τ) :
    Inquiry (Except Failure Unit × τ) :=
  (settings codec generation project reference).map fun d =>
    (d.outcome, Sink.putAll sink d.entries)

/-- Downloads the quality profiles of a project. -/
def qualityProfiles (codec : Codec) (organization : Option String) (version : Version)
    (project : String) : Inquiry (Except Failure (List QualityProfile)) :=
  .ask (Request.qualityProfiles version project organization).path fun
    | .error (.notFound _) => .done (.error (.projectNotFound project organization))
    | .error cause => .done (.error (.transport cause))
    | .ok response =>
      match codec.qualityProfiles response.body with
      | .error f => .done (.error f)
      | .ok profiles =>
        .note (.fetched ⟨.qualityProfiles project, none⟩) (.done (.ok profiles))

end Inquiry

/-- Everything that is downloaded for one project. -/
structure ProjectSync where
  global : Snapshot
  project : ProjectSettings
  qualityProfiles : List QualityProfile

/-- A client of a server: how payloads are read, and the organization of profile queries. -/
structure Client where
  codec : Codec
  organization : Option String := none

namespace Client

/-- Downloads the global settings. -/
def globalSettings (c : Client) (version : Version) : Inquiry (Except Failure Snapshot) :=
  (Inquiry.settingsInto c.codec version.settingsGeneration none none
      ({} : Snapshot.Builder)).andThen fun
    | (.error f, _) => .done (.error f)
    | (.ok (), builder) =>
      let snapshot := builder.build
      .note (.log ⟨.info, "Fetched global settings",
        [("count", toString snapshot.size), ("server_version", version.toString)]⟩)
        (.done (.ok snapshot))

/-- Downloads the settings of a project, those of a legacy server without the ones it shares with
the global scope. -/
def projectSettings (c : Client) (version : Version) (project : String) (global : Snapshot) :
    Inquiry (Except Failure ProjectSettings) :=
  (Inquiry.settingsInto c.codec version.settingsGeneration (some project) (some global)
      (⟨project, .empty⟩ : ProjectSettings.Builder)).andThen fun
    | (.error f, _) => .done (.error f)
    | (.ok (), builder) =>
      let settings := builder.build
      .note (.log ⟨.info, "Fetched project settings",
        [("project_key", project), ("count", toString settings.size)]⟩)
        (.done (.ok settings))

/-- Downloads the quality profiles of a project. -/
def qualityProfiles (c : Client) (version : Version) (project : String) :
    Inquiry (Except Failure (List QualityProfile)) :=
  (Inquiry.qualityProfiles c.codec c.organization version project).andThenOk fun profiles =>
    .note (.log ⟨.info, "Fetched project quality profiles",
      [("project_key", project), ("count", toString profiles.length)]⟩)
      (.done (.ok profiles))

/-- Downloads all that belongs to a project; the first failure ends the session. -/
def sync (c : Client) (version : Version) (project : String) :
    Inquiry (Except Failure ProjectSync) :=
  (c.globalSettings version).andThenOk fun global =>
    (c.projectSettings version project global).andThenOk fun settings =>
      (c.qualityProfiles version project).andThenOk fun profiles =>
        .done (.ok ⟨global, settings, profiles⟩)

end Client

end AnalysisSettings
