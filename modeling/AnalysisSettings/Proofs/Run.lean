import AnalysisSettings.Proofs.Notices
import AnalysisSettings.Session
import Mathlib.Data.List.DropRight

/-!
# Runs on one transport

Several clients share a transport with canned answers. A run is a list of operations, each a step of
one of the clients; what it leaves is the list of the steps taken with their results and notices.

Each operation but a whole synchronization asks at most one question. `Operation.exact` says what it
does to the transport and to an observer, and with which answer it works. From this, `Operation.run`
is followed over any number of operations: which answers are registered and what was asked
(`account_run`), and what an observer has seen (`events_run`).
-/

namespace AnalysisSettings

/-- A transport that answers every question alike. -/
def Transport.always (answer : Answer) : Transport Unit where
  get _ _ := (answer, [], ())

/-- The session on another transport. -/
def Session.withTransport {σ τ : Type} (s : Session σ) (t : τ) : Session τ :=
  ⟨t, s.sinks, s.snapshots, s.projects⟩

namespace Session

variable {σ τ : Type} (setup : Setup σ τ) (s : Session σ)

/-- The snapshot that a download is compared with: none if no name is given, and nothing at all if
the name is unknown. -/
def reference? : Option String → Option (Option Snapshot)
  | none => some none
  | some name => (s.snapshots.lookup name).map some

/-- A fetch needs the sink and the reference that it names, and puts what it downloads into the sink.
-/
theorem perform_fetch (generation : Generation) (project reference : Option String) (name : String) :
    s.perform setup (.fetch generation project reference name) =
      match s.sinks.lookup name, s.reference? reference with
      | none, _ => (.unknownName "sink", [], s)
      | some _, none => (.unknownName "reference", [], s)
      | some sink, some snapshot =>
        let o := (Inquiry.settingsInto setup.client.codec generation project snapshot sink).run
          setup.transport s.transport
        (.fetched o.result.1 o.result.2.shown, o.notices,
          { s with transport := o.state, sinks := (name, o.result.2) :: s.sinks }) := by
  rw [perform]
  cases s.sinks.lookup name with
  | none => rfl
  | some sink =>
    cases reference with
    | none => rfl
    | some r =>
      rw [reference?, Option.map_some]
      cases s.snapshots.lookup r <;> rfl

end Session

/-! ## Operations and runs -/

/-- The step is not a whole synchronization, so it asks at most one question. -/
def Step.IsSingle {τ : Type} : Step τ → Prop
  | .sync .. => False
  | _ => True

/-- A step and the client that takes it. -/
structure Operation where
  client : Client
  step : Step Canned.Action

/-- An operation with what it left: its result and its notices. -/
structure Taken extends Operation where
  result : StepResult
  notices : List Notice

namespace Operation

/-- Carries out the operation on the shared transport. -/
def perform (op : Operation) (s : Session Canned) : StepResult × List Notice × Session Canned :=
  s.perform ⟨Canned.transport, Canned.perform, op.client, op.client⟩ op.step

/-- What the operation leaves if the answer to its question is the given one. -/
def answered (op : Operation) (answer : Answer) (s : Session Canned) :
    StepResult × List Notice × Session Unit :=
  (s.withTransport ()).perform ⟨Transport.always answer, fun _ _ => (), op.client, op.client⟩ op.step

/-- Carries out one operation after the other. -/
def run : Session Canned → List Operation → List Taken × Session Canned
  | s, [] => ([], s)
  | s, op :: ops =>
    let left := op.perform s
    let rest := run left.2.2 ops
    (⟨op, left.1, left.2.1⟩ :: rest.1, rest.2)

/-- The session in which nothing was done yet. -/
def fresh : Session Canned := { transport := {} }

end Operation

namespace Taken

/-- The path that was asked for, if there was a question. -/
def path? (x : Taken) : Option String :=
  match x.step, x.result with
  | _, .unknownName _ => none
  | .get path, _ => some path
  | .fetch generation project _ _, _ => some (Request.settings generation project).path
  | .global version _, _ => some (Request.settings version.settingsGeneration none).path
  | .project version project _ _, _ =>
    some (Request.settings version.settingsGeneration (some project)).path
  | .qualityProfiles version project, _ =>
    some (Request.qualityProfiles version project x.client.organization).path
  | _, _ => none

/-- The events of the step: one if it was a download that succeeded. -/
def events (x : Taken) : List FetchEvent :=
  match x.step, x.result with
  | .fetch generation project _ _, .fetched outcome _ =>
    FetchEvent.ofOutcome (.settings generation project) outcome
  | .global version _, .snapshot outcome =>
    FetchEvent.ofOutcome (.settings version.settingsGeneration none) outcome
  | .project version project _ _, .project outcome =>
    FetchEvent.ofOutcome (.settings version.settingsGeneration (some project)) outcome
  | .qualityProfiles _ project, .qualityProfiles outcome =>
    FetchEvent.ofOutcome (.qualityProfiles project) outcome
  | _, _ => []

end Taken

/-! ## One step -/

namespace Inquiry

variable {α σ τ : Type} {q : Inquiry α} {path : String}

/-- A silent inquiry runs the same over every transport. -/
theorem Silent.run_eq (h : q.Silent) (t : Transport σ) (s : σ) (t' : Transport τ) (s' : τ) :
    q.run t s = ⟨(q.run t' s').result, (q.run t' s').notices, s⟩ := by
  induction q with
  | done a => rfl
  | note n rest ih =>
    simp only [run, ih h.2]
  | ask path next ih => cases h

/-- An inquiry with one question works with the answer to that question. -/
theorem AsksOnly.run_canned (h : q.AsksOnly path) (c : Canned) :
    q.run Canned.transport c =
      ⟨(q.run (.always (c.answer path)) ()).result, (q.run (.always (c.answer path)) ()).notices,
        { c with requests := c.requests ++ [path] }⟩ := by
  cases q with
  | done a => cases h
  | note n rest => cases h
  | ask first next =>
    obtain ⟨rfl, silent⟩ := h
    simp only [run, Canned.transport, Transport.always]
    rw [(silent _).run_eq _ _ (.always (c.answer first)) ()]
    rfl

end Inquiry

/-- What one step does: to the transport, unless it is an action on it, to an observer, and with the
answer to its question. -/
structure Taken.Exact (x : Taken) (s s' : Session Canned) : Prop where
  transport : (∀ action, x.step ≠ .transport action) →
    s'.transport = { s.transport with requests := s.transport.requests ++ x.path?.toList }
  events : Notice.events x.notices = x.events
  answered : ∀ path, x.path? = some path →
    x.answered (s.transport.answer path) s = (x.result, x.notices, s'.withTransport ())

namespace Operation

variable {op : Operation} {s : Session Canned}

/-- A step that asks nothing and notes nothing. -/
theorem exact_of_quiet {x : Taken} {s' : Session Canned} (path : x.path? = none)
    (events : x.events = []) (notices : x.notices = [])
    (transport : (∀ action, x.step ≠ .transport action) → s'.transport = s.transport) :
    x.Exact s s' where
  transport := by
    intro other
    rw [transport other, path]
    simp
  events := by
    rw [events, notices]
    rfl
  answered := by
    rw [path]
    exact fun _ => nofun

/-- A step that goes on with what one question came to. -/
theorem exact_of_asksOnly {α : Type} {x : Taken} {s' : Session Canned} {q : Inquiry α} {path : String}
    (once : q.AsksOnly path) (asks : x.path? = some path)
    (state : s'.transport = (q.run Canned.transport s.transport).state)
    (events : Notice.events x.notices = x.events)
    (goesOn : ∀ answer,
      (q.run Canned.transport s.transport).result = (q.run (.always answer) ()).result →
      (q.run Canned.transport s.transport).notices = (q.run (.always answer) ()).notices →
      x.answered answer s = (x.result, x.notices, s'.withTransport ())) : x.Exact s s' where
  transport := by
    intro _
    rw [state, once.run_canned, asks]
    rfl
  events := events
  answered := by
    intro path' asks'
    obtain rfl := Option.some.inj (asks.symm.trans asks')
    apply goesOn
    · rw [once.run_canned]
    · rw [once.run_canned]

/-- **What one step does.** -/
theorem exact (single : op.step.IsSingle) :
    Taken.Exact ⟨op, (op.perform s).1, (op.perform s).2.1⟩ s (op.perform s).2.2 := by
  obtain ⟨client, step⟩ := op
  simp only [perform]
  cases step with
  | transport action => exact exact_of_quiet rfl rfl rfl fun other => absurd rfl (other action)
  | requests | sink name kind | snapshot entries asName =>
    exact exact_of_quiet rfl rfl rfl fun _ => rfl
  | put name entry =>
    rw [Session.perform]
    cases s.sinks.lookup name <;> exact exact_of_quiet rfl rfl rfl fun _ => rfl
  | flatten name record =>
    rw [Session.perform]
    cases s.sinks.lookup name <;> exact exact_of_quiet rfl rfl rfl fun _ => rfl
  | build name asName =>
    rw [Session.perform]
    split <;> exact exact_of_quiet rfl rfl rfl fun _ => rfl
  | lookup name key =>
    rw [Session.perform]
    split <;> exact exact_of_quiet rfl rfl rfl fun _ => rfl
  | effective name globalName key =>
    rw [Session.perform]
    split <;> exact exact_of_quiet rfl rfl rfl fun _ => rfl
  | same a b =>
    rw [Session.perform]
    split <;> exact exact_of_quiet rfl rfl rfl fun _ => rfl
  | get path =>
    have once : (Inquiry.ask path Inquiry.done).AsksOnly path := ⟨rfl, fun _ => trivial⟩
    refine exact_of_asksOnly once rfl rfl rfl ?_
    intro answer result notices
    rw [Session.perform]
    dsimp only
    rw [result, notices]
    rfl
  | fetch generation project reference name =>
    rw [Session.perform_fetch]
    cases found : s.sinks.lookup name with
    | none => exact exact_of_quiet rfl rfl rfl fun _ => rfl
    | some sink =>
      cases known : s.reference? reference with
      | none => exact exact_of_quiet rfl rfl rfl fun _ => rfl
      | some snapshot =>
        refine exact_of_asksOnly
          (Inquiry.settingsInto_asksOnly client.codec generation project snapshot sink) rfl rfl ?_ ?_
        · dsimp only
          rw [Inquiry.events_settingsInto]
          rfl
        · intro answer result notices
          have found' : (s.withTransport ()).sinks.lookup name = some sink := found
          have known' : (s.withTransport ()).reference? reference = some snapshot := known
          dsimp only
          rw [result, notices, answered, Session.perform_fetch, found', known']
          rfl
  | global version asName =>
    rw [Session.perform]
    refine exact_of_asksOnly (client.globalSettings_asksOnly version) rfl rfl ?_ ?_
    · rw [Client.events_globalSettings]
      rfl
    · intro answer result notices
      dsimp only
      rw [result, notices]
      rfl
  | project version project global asName =>
    rw [Session.perform]
    cases known : s.snapshots.lookup global with
    | none => exact exact_of_quiet rfl rfl rfl fun _ => rfl
    | some snapshot =>
      refine exact_of_asksOnly (client.projectSettings_asksOnly version project snapshot) rfl rfl ?_ ?_
      · rw [Client.events_projectSettings]
        rfl
      · intro answer result notices
        dsimp only
        rw [result, notices, answered, Session.perform, Session.withTransport, known]
        rfl
  | qualityProfiles version project =>
    rw [Session.perform]
    refine exact_of_asksOnly (client.qualityProfiles_asksOnly version project) rfl rfl ?_ ?_
    · rw [Client.events_qualityProfiles]
      rfl
    · intro answer result notices
      dsimp only
      rw [result, notices]
      rfl
  | sync version project => exact single.elim

end Operation

/-! ## A whole run -/

/-- The step forgets all answers and all requests. -/
def Step.isClear : Step Canned.Action → Bool
  | .transport .clear => true
  | _ => false

namespace Taken

/-- The steps since the last one that forgot everything. -/
def sinceClear (xs : List Taken) : List Taken :=
  xs.rtakeWhile fun x => !x.step.isClear

/-- The reply that the step registers for the path. -/
def reply? (path : String) (x : Taken) : Option (Except TransportFailure (List UInt8)) :=
  match x.step with
  | .transport (.register path' reply) => if path' = path then some reply else none
  | _ => none

/-- The reply that was registered last for just this path since everything was forgotten. -/
def lastReply? (xs : List Taken) (path : String) : Option (Except TransportFailure (List UInt8)) :=
  ((sinceClear xs).filterMap (reply? path)).getLast?

/-- The answer to a path after the steps: the reply registered last, or "not found" with the path. -/
def lastAnswer (xs : List Taken) (path : String) : Answer :=
  match lastReply? xs path with
  | some (.ok body) => .ok ⟨path, body⟩
  | some (.error cause) => .error cause
  | none => .error (.notFound path)

/-- The steps account for the state of the transport. -/
structure Account (xs : List Taken) (c : Canned) : Prop where
  replies : ∀ path, c.replies.lookup path = lastReply? xs path
  requests : c.requests = (sinceClear xs).filterMap path?

variable {xs : List Taken} {x : Taken}

/-- Nothing has happened since a clear. -/
theorem sinceClear_append_of_isClear (h : x.step.isClear = true) : sinceClear (xs ++ [x]) = [] :=
  List.rtakeWhile_concat_neg _ _ _ (by simp [h])

/-- Any other step has happened since the last clear. -/
theorem sinceClear_append (h : x.step.isClear = false) :
    sinceClear (xs ++ [x]) = sinceClear xs ++ [x] :=
  List.rtakeWhile_concat_pos _ _ _ (by simp [h])

/-- The server answers a path as the account says. -/
theorem Account.answer {c : Canned} (account : Account xs c) (path : String) :
    c.answer path = lastAnswer xs path := by
  unfold Canned.answer
  rw [account.replies]
  rfl

/-- A clear begins the account anew. -/
theorem Account.clear (step : x.step = .transport .clear) : Account (xs ++ [x]) {} := by
  have forgotten : sinceClear (xs ++ [x]) = [] := sinceClear_append_of_isClear (by rw [step]; rfl)
  refine ⟨fun path => ?_, ?_⟩
  · rw [lastReply?, forgotten]
    rfl
  · rw [forgotten]
    rfl

/-- A step that is remembered adds what it registers and what it asks. -/
theorem Account.append {c c' : Canned} (account : Account xs c) (kept : x.step.isClear = false)
    (replies : ∀ path, c'.replies.lookup path = (x.reply? path).or (c.replies.lookup path))
    (requests : c'.requests = c.requests ++ x.path?.toList) : Account (xs ++ [x]) c' := by
  refine ⟨fun path => ?_, ?_⟩
  · rw [replies, account.replies, lastReply?, lastReply?, sinceClear_append kept,
      List.filterMap_append, List.getLast?_append]
    cases reply : x.reply? path <;> simp [reply]
  · rw [requests, account.requests, sinceClear_append kept, List.filterMap_append]
    cases path : x.path? <;> simp [path]

/-- **The account is kept** by every step. -/
theorem Account.step {s s' : Session Canned} (account : Account xs s.transport) (exact : x.Exact s s')
    (acts : ∀ action, x.step = .transport action →
      s'.transport = Canned.perform action s.transport) : Account (xs ++ [x]) s'.transport := by
  by_cases acting : ∃ action, x.step = .transport action
  · obtain ⟨action, step⟩ := acting
    rw [acts action step]
    cases action with
    | clear => exact .clear step
    | register path' reply =>
      refine account.append (by rw [step]; rfl) (fun path => ?_) ?_
      · have registered : x.reply? path = if path' = path then some reply else none := by
          rw [reply?, step]
        rw [registered]
        show List.lookup path ((path', reply) :: s.transport.replies) = _
        rw [List.lookup_cons]
        by_cases same : path' = path
        · rw [if_pos same, beq_iff_eq.mpr same.symm]
          rfl
        · rw [if_neg same, beq_eq_false_iff_ne.mpr (Ne.symm same)]
          rfl
      · have silent : x.path? = none := by
          rw [path?, step]
          cases x.result <;> rfl
        simp [silent, Canned.perform]
  · have other : ∀ action, x.step ≠ .transport action := fun action h => acting ⟨action, h⟩
    rw [exact.transport other]
    refine account.append ?_ (fun path => ?_) rfl
    · unfold Step.isClear
      split
      · next h => exact absurd h (other _)
      · rfl
    · have registersNothing : x.reply? path = none := by
        rw [reply?]
        split
        · next h => exact absurd h (other _)
        · rfl
      rw [registersNothing]
      rfl

end Taken

namespace Operation

/-- A run in two parts is one run after the other. -/
@[simp] theorem run_append (s : Session Canned) (ops ops' : List Operation) :
    run s (ops ++ ops') =
      ((run s ops).1 ++ (run (run s ops).2 ops').1, (run (run s ops).2 ops').2) := by
  induction ops generalizing s with
  | nil => rfl
  | cons op ops ih =>
    rw [List.cons_append, run, ih]
    rfl

variable {ops : List Operation}

/-- **What was registered and asked** is what the steps since the last clearing registered and
asked. -/
theorem account_run (single : ∀ op ∈ ops, op.step.IsSingle) :
    Taken.Account (run fresh ops).1 (run fresh ops).2.transport := by
  induction ops using List.reverseRecOn with
  | nil => exact ⟨fun _ => rfl, rfl⟩
  | append_singleton ops op ih =>
    obtain ⟨singles, one⟩ := List.forall_mem_append.mp single
    rw [run_append]
    refine (ih singles).step (exact (one op List.mem_cons_self)) fun action acting => ?_
    obtain ⟨client, step⟩ := op
    cases acting
    rfl

/-- **What an observer has seen** are the events of the steps. -/
theorem events_run (single : ∀ op ∈ ops, op.step.IsSingle) (s : Session Canned) :
    Notice.events ((run s ops).1.flatMap Taken.notices) = (run s ops).1.flatMap Taken.events := by
  induction ops generalizing s with
  | nil => rfl
  | cons op ops ih =>
    obtain ⟨one, singles⟩ := List.forall_mem_cons.mp single
    rw [run, List.flatMap_cons, List.flatMap_cons, Notice.events_append, ih singles]
    exact congrArg (· ++ _) (exact one).events

end Operation

end AnalysisSettings
