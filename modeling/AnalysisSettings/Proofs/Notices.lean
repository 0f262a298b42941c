import AnalysisSettings.Proofs.Delivery
import AnalysisSettings.Proofs.Questions

/-!
# What a run notes

The notices of a run compose as its questions do (`Inquiry.run_andThen`). A download writes what the
transport tells of the exchange and then its own notices, and among its own there is one event if it
succeeds and none if it fails (`FetchEvent.ofOutcome`). `Inquiry.events_settings` and
`Inquiry.events_qualityProfiles` say so of the two downloads, and the laws under `Client` of what a
client makes of them.
-/

namespace AnalysisSettings

namespace Notice

/-- The events of notices one behind the other. -/
@[simp] theorem events_append (ns ms : List Notice) : events (ns ++ ms) = events ns ++ events ms :=
  List.filterMap_append

/-- Lines of the log are no events. -/
@[simp] theorem events_log (records : List LogRecord) : events (records.map .log) = [] := by
  rw [events, List.filterMap_map]
  exact List.filterMap_eq_nil_iff.mpr fun _ _ => rfl

end Notice

/-- The events of a download: one if it succeeded, none if it failed. -/
def FetchEvent.ofOutcome {α : Type} (resource : Resource) : Except Failure α → List FetchEvent
  | .ok _ => [⟨resource, none⟩]
  | .error _ => []

namespace Inquiry

variable {σ α β : Type} (t : Transport σ) (s : σ)

/-! ## The events of a download -/

/-- What is done with an outcome adds no events if it only writes lines of the log. -/
theorem events_andThen {k : α → Inquiry β} (q : Inquiry α)
    (quiet : ∀ a s, Notice.events ((k a).run t s).notices = []) :
    Notice.events ((q.andThen k).run t s).notices = Notice.events (q.run t s).notices := by
  simp [quiet]

/-- A settings download that succeeds has one event. -/
@[simp] theorem events_settingsNotices (generation : Generation) (project : Option String)
    (count : Nat) :
    Notice.events (settingsNotices generation project count) =
      [⟨.settings generation project, none⟩] :=
  rfl

/-- A property that is passed over is no event. -/
@[simp] theorem events_skipNotices (filter : Filter) (ps : List Property) :
    Notice.events (Property.skipNotices filter ps) = [] := by
  rw [Notice.events, Property.skipNotices, List.filterMap_map]
  exact List.filterMap_eq_nil_iff.mpr fun _ _ => rfl

/-- The events of a settings download follow from how it ended. -/
theorem events_settings (codec : Codec) (generation : Generation) (project : Option String)
    (reference : Option Snapshot) :
    Notice.events ((settings codec generation project reference).run t s).notices =
      FetchEvent.ofOutcome (.settings generation project)
        ((settings codec generation project reference).run t s).result.outcome := by
  rw [settings, run]
  generalize t.get (Request.settings generation project).path s = exchange
  obtain ⟨answer, records, s'⟩ := exchange
  dsimp only
  rw [Notice.events_append, Notice.events_log, List.nil_append]
  cases answer with
  | error cause => rfl
  | ok response =>
    cases generation with
    | modern =>
      dsimp only
      cases codec.settings response.body with
      | error f => rfl
      | ok records =>
        dsimp only
        split
        · next h =>
          rw [run, h]
          rfl
        · next h =>
          simp [FetchEvent.ofOutcome, h]
    | legacy =>
      dsimp only
      cases codec.properties response.body with
      | error f => rfl
      | ok properties =>
        dsimp only
        simp [FetchEvent.ofOutcome]

/-- A sink has no part in the events. -/
theorem events_settingsInto {τ : Type} [Sink τ] (codec : Codec) (generation : Generation)
    (project : Option String) (reference : Option Snapshot) (sink : τ) :
    Notice.events ((settingsInto codec generation project reference sink).run t s).notices =
      FetchEvent.ofOutcome (.settings generation project)
        ((settingsInto codec generation project reference sink).run t s).result.1 := by
  simp [settingsInto, events_settings]

/-- The events of a download of quality profiles follow from how it ended. -/
theorem events_qualityProfiles (codec : Codec) (organization : Option String) (version : Version)
    (project : String) :
    Notice.events ((qualityProfiles codec organization version project).run t s).notices =
      FetchEvent.ofOutcome (.qualityProfiles project)
        ((qualityProfiles codec organization version project).run t s).result := by
  rw [qualityProfiles, run]
  generalize t.get (Request.qualityProfiles version project organization).path s = exchange
  obtain ⟨answer, records, s'⟩ := exchange
  dsimp only
  rw [Notice.events_append, Notice.events_log, List.nil_append]
  cases answer with
  | error cause => cases cause <;> rfl
  | ok response =>
    dsimp only
    cases codec.qualityProfiles response.body <;> rfl

end Inquiry

namespace Client

variable {σ : Type} (t : Transport σ) (s : σ) (c : Client) (version : Version) (project : String)

/-- The client downloads the global settings with the events of the download. -/
theorem events_globalSettings :
    Notice.events ((c.globalSettings version).run t s).notices =
      FetchEvent.ofOutcome (.settings version.settingsGeneration none)
        ((c.globalSettings version).run t s).result := by
  rw [globalSettings, Inquiry.events_andThen, Inquiry.events_settingsInto, Inquiry.run_andThen]
  · split <;> next h => rw [h]; rfl
  · intro outcome s
    split <;> rfl

/-- The client downloads the settings of a project with the events of the download. -/
theorem events_projectSettings (global : Snapshot) :
    Notice.events ((c.projectSettings version project global).run t s).notices =
      FetchEvent.ofOutcome (.settings version.settingsGeneration (some project))
        ((c.projectSettings version project global).run t s).result := by
  rw [projectSettings, Inquiry.events_andThen, Inquiry.events_settingsInto, Inquiry.run_andThen]
  · split <;> next h => rw [h]; rfl
  · intro outcome s
    split <;> rfl

/-- The client downloads the quality profiles with the events of the download. -/
theorem events_qualityProfiles :
    Notice.events ((c.qualityProfiles version project).run t s).notices =
      FetchEvent.ofOutcome (.qualityProfiles project)
        ((c.qualityProfiles version project).run t s).result := by
  rw [qualityProfiles, Inquiry.andThenOk, Inquiry.events_andThen, Inquiry.events_qualityProfiles,
    Inquiry.run_andThen]
  · split <;> next h => rw [h]; rfl
  · intro outcome s
    split <;> rfl

end Client

end AnalysisSettings
