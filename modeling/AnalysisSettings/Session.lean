import AnalysisSettings.Download

/-!
# Sessions

A session is a sequence of steps on one transport: downloads, look-ups in what was downloaded, and
actions on the transport itself. Sinks, snapshots and the settings of projects have names, so that
later steps can use them. `Session.perform` carries out one step; it leaves a result and the
notices of the downloads in it.
-/

namespace AnalysisSettings

/-- The kinds of sinks a step can create. -/
inductive SinkKind where
  | sorted
  | hashed
  | global
  | project (key : String)
  | journal
deriving DecidableEq, Repr

/-- A new sink. -/
def SinkKind.empty : SinkKind → AnySink
  | .sorted => .sorted .empty
  | .hashed => .hashed ∅
  | .global => .global {}
  | .project key => .project ⟨key, .empty⟩
  | .journal => .journal {}

/-- A step of a session; `τ` is what can be done to the transport. -/
inductive Step (τ : Type) where
  | transport (action : τ)
  | get (path : String)
  | requests
  | sink (name : String) (kind : SinkKind)
  | put (sink : String) (entry : Entry)
  | flatten (sink : String) (record : Setting.Record)
  | build (sink asName : String)
  | snapshot (entries : List Entry) (asName : String)
  | fetch (generation : Generation) (project reference : Option String) (sink : String)
  | global (version : Version) (asName : Option String)
  | project (version : Version) (project global : String) (asName : Option String)
  | qualityProfiles (version : Version) (project : String)
  | sync (version : Version) (project : String)
  | lookup (global key : String)
  | effective (project global key : String)
  | same (a b : String)

/-- What a step leaves. -/
inductive StepResult where
  | nothing
  | response (answer : Answer)
  | requests
  | sink (shown : Option (List Entry))
  | delivered (count : Nat) (shown : Option (List Entry))
  | fetched (outcome : Except Failure Unit) (shown : Option (List Entry))
  | snapshot (outcome : Except Failure Snapshot)
  | project (outcome : Except Failure ProjectSettings)
  | qualityProfiles (outcome : Except Failure (List QualityProfile))
  | sync (outcome : Except Failure ProjectSync)
  | value (value : Option String) (contained : Bool)
  | effective (project global effective : Option String)
  | same (equal : Bool)
  /-- The step names something that is not there; `field` says which of its names it is. -/
  | unknownName (field : String)

/-- The state of a session: that of the transport, and what has a name. -/
structure Session (σ : Type) where
  transport : σ
  sinks : List (String × AnySink) := []
  snapshots : List (String × Snapshot) := []
  projects : List (String × ProjectSettings) := []

/-- What the steps of a session work with: the transport, what can be done to it, the client of
single downloads and the client of whole synchronizations. -/
structure Session.Setup (σ τ : Type) where
  transport : Transport σ
  act : τ → σ → σ
  client : Client
  syncClient : Client

namespace Session

variable {σ τ : Type}

/-- Keeps a result under a name, if it is one and a name is given. -/
def keep {α : Type} (outcome : Except Failure α) (asName : Option String)
    (named : List (String × α)) : List (String × α) :=
  match outcome, asName with
  | .ok a, some name => (name, a) :: named
  | _, _ => named

/-- Carries out one step. -/
def perform (setup : Setup σ τ) (s : Session σ) : Step τ → StepResult × List Notice × Session σ
  | .transport action => (.nothing, [], { s with transport := setup.act action s.transport })
  | .get path =>
    let o := (Inquiry.ask path .done).run setup.transport s.transport
    (.response o.result, o.notices, { s with transport := o.state })
  | .requests => (.requests, [], s)
  | .sink name kind => (.nothing, [], { s with sinks := (name, kind.empty) :: s.sinks })
  | .put name entry =>
    match s.sinks.lookup name with
    | none => (.unknownName "sink", [], s)
    | some sink =>
      let sink := Sink.put sink entry
      (.sink sink.shown, [], { s with sinks := (name, sink) :: s.sinks })
  | .flatten name record =>
    match s.sinks.lookup name with
    | none => (.unknownName "sink", [], s)
    | some sink =>
      let entries := record.flatten
      let sink := Sink.putAll sink entries
      (.delivered entries.length sink.shown, [], { s with sinks := (name, sink) :: s.sinks })
  | .build name asName =>
    let others := s.sinks.filter fun (n, _) => n != name
    match s.sinks.lookup name with
    | some (.global b) =>
      (.snapshot (.ok b.build), [],
        { s with sinks := others, snapshots := (asName, b.build) :: s.snapshots })
    | some (.project b) =>
      (.project (.ok b.build), [],
        { s with sinks := others, projects := (asName, b.build) :: s.projects })
    | _ => (.unknownName "sink", [], s)
  | .snapshot entries asName =>
    let snapshot := Snapshot.ofList entries
    (.snapshot (.ok snapshot), [], { s with snapshots := (asName, snapshot) :: s.snapshots })
  | .fetch generation project reference name =>
    match s.sinks.lookup name, reference.map (fun r => s.snapshots.lookup r) with
    | none, _ => (.unknownName "sink", [], s)
    | _, some none => (.unknownName "reference", [], s)
    | some sink, snapshot =>
      let o := (Inquiry.settingsInto setup.client.codec generation project snapshot.join sink).run
        setup.transport s.transport
      let (outcome, sink) := o.result
      (.fetched outcome sink.shown, o.notices,
        { s with transport := o.state, sinks := (name, sink) :: s.sinks })
  | .global version asName =>
    let o := (setup.client.globalSettings version).run setup.transport s.transport
    (.snapshot o.result, o.notices,
      { s with transport := o.state, snapshots := keep o.result asName s.snapshots })
  | .project version project global asName =>
    match s.snapshots.lookup global with
    | none => (.unknownName "global", [], s)
    | some snapshot =>
      let o := (setup.client.projectSettings version project snapshot).run
        setup.transport s.transport
      (.project o.result, o.notices,
        { s with transport := o.state, projects := keep o.result asName s.projects })
  | .qualityProfiles version project =>
    let o := (setup.client.qualityProfiles version project).run setup.transport s.transport
    (.qualityProfiles o.result, o.notices, { s with transport := o.state })
  | .sync version project =>
    let o := (setup.syncClient.sync version project).run setup.transport s.transport
    (.sync o.result, o.notices, { s with transport := o.state })
  | .lookup name key =>
    match s.snapshots.lookup name with
    | none => (.unknownName "global", [], s)
    | some snapshot => (.value (snapshot.get? key) (snapshot.contains key), [], s)
  | .effective name globalName key =>
    match s.projects.lookup name, s.snapshots.lookup globalName with
    | none, _ => (.unknownName "project", [], s)
    | _, none => (.unknownName "global", [], s)
    | some project, some snapshot =>
      (.effective (project.get? key) (snapshot.get? key) (project.effective key snapshot), [], s)
  | .same a b =>
    match s.snapshots.lookup a, s.snapshots.lookup b, s.projects.lookup a, s.projects.lookup b with
    | some x, some y, _, _ => (.same (x == y), [], s)
    | _, _, some x, some y => (.same (x == y), [], s)
    | none, _, none, _ => (.unknownName "a", [], s)
    | _, _, _, _ => (.unknownName "b", [], s)

end Session

end AnalysisSettings
