import AnalysisSettings.Download
import AnalysisSettings.Payload.Codec
import AnalysisSettings.Proofs.Json.Grammar
import AnalysisSettings.Proofs.Json.Record
import AnalysisSettings.Proofs.Store
import AnalysisSettings.Transport.Canned

/-!
# What a settings download leaves in its sink

A settings download asks one question, so it is a function of the answer: `Delivery.ofAnswer` says
what reaches the sink, and `Inquiry.run_settingsInto` says that the download does just that, for
every transport and every sink.

The modern delivery is a loop over records that can fail in the middle. A record is *deliverable* if
it is inherited or has a value; `Setting.deliver_append` passes over a run of deliverable records
and collects their entries, and `Setting.deliver_split` cuts any list at its first record that is
not deliverable. From these two the failures of a download are known exactly
(`settingsInto_fails_iff`): the transport and the codec fail before anything is delivered, a record
without a value fails after the records in front of it.
-/

namespace AnalysisSettings

/-- Notices in front of an inquiry stand in front of what it notes. -/
@[simp] theorem Inquiry.run_noting {σ α : Type} (t : Transport σ) (s : σ) (notices : List Notice)
    (q : Inquiry α) :
    (noting notices q).run t s =
      ⟨(q.run t s).result, notices ++ (q.run t s).notices, (q.run t s).state⟩ := by
  induction notices with
  | nil => rfl
  | cons n notices ih =>
    show (note n (noting notices q)).run t s = _
    simp [ih]

/-! ## The delivery as a function of the answer -/

/-- What a settings download delivers when the server gives the answer. -/
def Delivery.ofAnswer (codec : Codec) (generation : Generation) (reference : Option Snapshot) :
    Answer → Delivery
  | .error cause => .failed (.transport cause)
  | .ok response =>
    match generation with
    | .modern =>
      match codec.settings response.body with
      | .error f => .failed f
      | .ok settings => Setting.deliver settings
    | .legacy =>
      match codec.properties response.body with
      | .error f => .failed f
      | .ok properties => ⟨Property.deliver (.ofReference reference) properties, .ok ()⟩

namespace Inquiry

variable {σ τ : Type} [Sink τ] (t : Transport σ) (s : σ) (codec : Codec) (generation : Generation)
  (project : Option String) (reference : Option Snapshot)

theorem run_settings :
    ((settings codec generation project reference).run t s).result =
      .ofAnswer codec generation reference (t.get (Request.settings generation project).path s).1 := by
  rw [settings, run]
  generalize t.get (Request.settings generation project).path s = exchange
  obtain ⟨answer, records, s'⟩ := exchange
  cases answer with
  | error cause => rfl
  | ok response =>
    cases generation with
    | modern =>
      dsimp only [Delivery.ofAnswer]
      cases codec.settings response.body with
      | error f => rfl
      | ok settings =>
        dsimp only
        split
        · rfl
        · rw [run_noting, run]
    | legacy =>
      dsimp only [Delivery.ofAnswer]
      cases codec.properties response.body with
      | error f => rfl
      | ok properties =>
        dsimp only
        rw [run_noting, run]

/-- A download into a sink ends as the delivery ends, and puts its entries. -/
theorem run_settingsInto (sink : τ) :
    ((settingsInto codec generation project reference sink).run t s).result =
      let d := Delivery.ofAnswer codec generation reference
        (t.get (Request.settings generation project).path s).1
      (d.outcome, Sink.putAll sink d.entries) := by
  rw [settingsInto, run_map, run_settings]

end Inquiry

/-- The settings of a project are what its download delivered, if it did not fail. -/
theorem Client.run_projectSettings {σ : Type} (t : Transport σ) (s : σ) (c : Client)
    (version : Version) (project : String) (global : Snapshot) :
    ((c.projectSettings version project global).run t s).result =
      let d := Delivery.ofAnswer c.codec version.settingsGeneration (some global)
        (t.get (Request.settings version.settingsGeneration (some project)).path s).1
      d.outcome.map fun _ => ProjectSettings.ofEntries project d.entries := by
  rw [projectSettings, Inquiry.run_andThen, Inquiry.run_settingsInto]
  dsimp only
  split
  · next h =>
    rw [Prod.mk.injEq] at h
    rw [h.1]
    rfl
  · next h =>
    rw [Prod.mk.injEq] at h
    obtain ⟨hok, rfl⟩ := h
    rw [hok]
    rfl

/-! ## The modern delivery, record by record -/

namespace Setting

/-- The record does not end a download: it is inherited, or it has a value. -/
def Deliverable (s : Setting) : Prop :=
  s.inherited = true ∨ s.value.isSome = true

instance (s : Setting) : Decidable s.Deliverable :=
  inferInstanceAs (Decidable (_ ∨ _))

/-- What a deliverable record delivers: nothing if it is inherited, else its flattening. -/
def entries (s : Setting) : List Entry :=
  if s.inherited then [] else (s.record?.map Record.flatten).getD []

/-- **One step over a deliverable record**: its entries come in front of the others, and how the
delivery ends is up to the others. -/
theorem deliver_cons {s : Setting} (h : s.Deliverable) (rest : List Setting) :
    deliver (s :: rest) =
      { deliver rest with entries := s.entries ++ (deliver rest).entries } := by
  rw [deliver, entries]
  split
  · rfl
  · next hinherited =>
    have hvalue := h.resolve_left hinherited
    obtain ⟨value, hv⟩ := Option.isSome_iff_exists.mp hvalue
    simp only [record?, hv, Option.map_some, Option.getD_some]

/-- The other step: a record that is not deliverable ends the delivery. -/
theorem deliver_cons_of_not {s : Setting} (h : ¬ s.Deliverable) (rest : List Setting) :
    deliver (s :: rest) = .failed (.unrecognizedValueShape s.key) := by
  obtain ⟨hinherited, hvalue⟩ := not_or.mp h
  have hnone : s.record? = none := by
    rw [record?, Option.not_isSome_iff_eq_none.mp hvalue, Option.map_none]
  rw [deliver, if_neg hinherited, hnone]

/-- **The run over deliverable records**: all their entries, in order, then the rest. -/
theorem deliver_append {before : List Setting} (h : ∀ s ∈ before, s.Deliverable)
    (rest : List Setting) :
    deliver (before ++ rest) =
      { deliver rest with entries := before.flatMap entries ++ (deliver rest).entries } := by
  induction before with
  | nil => rfl
  | cons s before ih =>
    rw [List.cons_append, deliver_cons (h s List.mem_cons_self),
      ih fun x hx => h x (List.mem_cons_of_mem s hx), List.flatMap_cons, List.append_assoc]

theorem deliver_of_all {ss : List Setting} (h : ∀ s ∈ ss, s.Deliverable) :
    deliver ss = ⟨ss.flatMap entries, .ok ()⟩ := by
  have run := deliver_append h []
  rwa [List.append_nil, deliver, List.append_nil] at run

theorem deliver_of_split {before after : List Setting} {bad : Setting}
    (h : ∀ s ∈ before, s.Deliverable) (hbad : ¬ bad.Deliverable) :
    deliver (before ++ bad :: after) =
      ⟨before.flatMap entries, .error (.unrecognizedValueShape bad.key)⟩ := by
  rw [deliver_append h, deliver_cons_of_not hbad, Delivery.failed, List.append_nil]

/-- Records are all deliverable, or there is a first one that is not. -/
theorem deliver_split (ss : List Setting) :
    (∀ s ∈ ss, s.Deliverable) ∨ ∃ before bad after, ss = before ++ bad :: after ∧
      (∀ s ∈ before, s.Deliverable) ∧ ¬ bad.Deliverable := by
  induction ss with
  | nil => exact .inl fun _ hs => absurd hs List.not_mem_nil
  | cons s ss ih =>
    by_cases hs : s.Deliverable
    · rcases ih with all | ⟨before, bad, after, rfl, hbefore, hbad⟩
      · exact .inl (List.forall_mem_cons.mpr ⟨hs, all⟩)
      · exact .inr ⟨s :: before, bad, after, rfl, List.forall_mem_cons.mpr ⟨hs, hbefore⟩, hbad⟩
    · exact .inr ⟨[], s, ss, rfl, fun _ h => absurd h List.not_mem_nil, hs⟩

/-- A delivery fails exactly at the first record that is not deliverable, and what it delivered is
what stands before that record. -/
theorem deliver_fails_iff {ss : List Setting} {f : Failure} {es : List Entry} :
    deliver ss = ⟨es, .error f⟩ ↔ ∃ before bad after, ss = before ++ bad :: after ∧
      (∀ s ∈ before, s.Deliverable) ∧ ¬ bad.Deliverable ∧
      f = .unrecognizedValueShape bad.key ∧ es = before.flatMap entries := by
  constructor
  · intro h
    rcases deliver_split ss with all | ⟨before, bad, after, rfl, hbefore, hbad⟩
    · rw [deliver_of_all all] at h
      cases h
    · rw [deliver_of_split hbefore hbad] at h
      cases h
      exact ⟨before, bad, after, rfl, hbefore, hbad, rfl, rfl⟩
  · rintro ⟨before, bad, after, rfl, hbefore, hbad, rfl, rfl⟩
    exact deliver_of_split hbefore hbad

/-- A delivery succeeds exactly if all its records are deliverable. -/
theorem deliver_ok_iff {ss : List Setting} :
    (deliver ss).outcome = .ok () ↔ ∀ s ∈ ss, s.Deliverable := by
  constructor
  · intro h
    rcases deliver_split ss with all | ⟨before, bad, after, rfl, hbefore, hbad⟩
    · exact all
    · rw [deliver_of_split hbefore hbad] at h
      cases h
  · intro all
    rw [deliver_of_all all]

/-! ### The records that are delivered -/

/-- The record of a setting that belongs to the project itself. -/
def own? (s : Setting) : Option Record :=
  if s.inherited then none else s.record?

/-- The records that reach a sink: those that are not inherited, up to the first without a value. -/
def delivered : List Setting → List Record
  | [] => []
  | s :: rest =>
    if s.inherited then delivered rest
    else match s.record? with
      | none => []
      | some r => r :: delivered rest

/-- What is delivered is the flattened records, one after the other. -/
theorem entries_deliver (ss : List Setting) :
    (deliver ss).entries = (delivered ss).flatMap Record.flatten := by
  induction ss with
  | nil => rfl
  | cons s rest ih =>
    rw [deliver, delivered]
    split
    · exact ih
    · cases s.record? with
      | none => rfl
      | some r =>
        rw [List.flatMap_cons, ← ih]

/-- A delivery that does not fail delivers all records of the project itself. -/
theorem delivered_of_all {ss : List Setting} (h : ∀ s ∈ ss, s.Deliverable) :
    delivered ss = ss.filterMap own? := by
  induction ss with
  | nil => rfl
  | cons s rest ih =>
    obtain ⟨hs, hrest⟩ := List.forall_mem_cons.mp h
    rw [delivered, List.filterMap_cons, own?, ih hrest]
    split
    · rfl
    · next hinherited =>
      obtain ⟨value, hv⟩ := Option.isSome_iff_exists.mp (hs.resolve_left hinherited)
      rw [record?, hv]
      rfl

end Setting

/-- The server answers the question for the settings of a modern project, and the codec reads these
records in the answer. -/
def Transport.Tells {σ : Type} (t : Transport σ) (s : σ) (codec : Codec) (project : Option String)
    (ss : List Setting) : Prop :=
  ∃ response, (t.get (Request.settings .modern project).path s).1 = .ok response ∧
    codec.settings response.body = .ok ss

theorem Transport.Tells.ofAnswer {σ : Type} {t : Transport σ} {s : σ} {codec : Codec}
    {project : Option String} {ss : List Setting} (told : t.Tells s codec project ss)
    (reference : Option Snapshot) :
    Delivery.ofAnswer codec .modern reference
      (t.get (Request.settings .modern project).path s).1 = Setting.deliver ss := by
  obtain ⟨response, answered, read⟩ := told
  rw [answered, Delivery.ofAnswer]
  simp only [read]

/-- A modern download puts the flattened records that are delivered. -/
theorem Inquiry.run_settingsInto_of_tells {σ τ : Type} [Sink τ] {t : Transport σ} {s : σ}
    {codec : Codec} {project : Option String} {ss : List Setting}
    (told : t.Tells s codec project ss) (reference : Option Snapshot) (sink : τ) :
    ((settingsInto codec .modern project reference sink).run t s).result =
      ((Setting.deliver ss).outcome,
        Sink.putAll sink ((Setting.delivered ss).flatMap Setting.Record.flatten)) := by
  rw [run_settingsInto, told.ofAnswer reference, ← Setting.entries_deliver]

/-! ## Failures -/

/-- The codec refuses the payload of a settings download. -/
def Codec.Refuses (codec : Codec) (generation : Generation) (body : List UInt8) (f : Failure) :
    Prop :=
  match generation with
  | .modern => codec.settings body = .error f
  | .legacy => codec.properties body = .error f

/-- The failures of a download by their cause, each with what was delivered before it. -/
theorem Delivery.ofAnswer_fails_iff {codec : Codec} {generation : Generation}
    {reference : Option Snapshot} {answer : Answer} {es : List Entry} {f : Failure} :
    ofAnswer codec generation reference answer = ⟨es, .error f⟩ ↔
      (∃ cause, answer = .error cause ∧ f = .transport cause ∧ es = []) ∨
      ∃ response, answer = .ok response ∧
        (codec.Refuses generation response.body f ∧ es = [] ∨
          ∃ before bad after, generation = .modern ∧
            codec.settings response.body = .ok (before ++ bad :: after) ∧
            (∀ r ∈ before, r.Deliverable) ∧ ¬ bad.Deliverable ∧
            f = .unrecognizedValueShape bad.key ∧ es = before.flatMap Setting.entries) := by
  cases answer with
  | error cause => simp [ofAnswer, failed, and_comm, eq_comm]
  | ok response =>
    cases generation with
    | modern =>
      cases hread : codec.settings response.body with
      | error g => simp [ofAnswer, failed, Codec.Refuses, hread, and_comm, eq_comm]
      | ok settings => simp [ofAnswer, Codec.Refuses, hread, Setting.deliver_fails_iff]
    | legacy =>
      cases hread : codec.properties response.body with
      | error g => simp [ofAnswer, failed, Codec.Refuses, hread, and_comm, eq_comm]
      | ok properties => simp [ofAnswer, Codec.Refuses, hread]

namespace Inquiry

variable {σ τ : Type} [Sink τ]

/-- **The failures of a settings download, and what they leave in the sink.** The transport and the
codec fail before anything is put, so the sink is what it was. A modern download also fails at the
first record that is neither inherited nor has a value, and then the sink has taken exactly the
entries of the records before it. -/
theorem settingsInto_fails_iff (t : Transport σ) (s : σ) (codec : Codec) (generation : Generation)
    (project : Option String) (reference : Option Snapshot) (sink sink' : τ) (f : Failure) :
    ((settingsInto codec generation project reference sink).run t s).result = (.error f, sink') ↔
      (∃ cause, (t.get (Request.settings generation project).path s).1 = .error cause ∧
        f = .transport cause ∧ sink' = sink) ∨
      ∃ response, (t.get (Request.settings generation project).path s).1 = .ok response ∧
        (codec.Refuses generation response.body f ∧ sink' = sink ∨
          ∃ before bad after, generation = .modern ∧
            codec.settings response.body = .ok (before ++ bad :: after) ∧
            (∀ r ∈ before, r.Deliverable) ∧ ¬ bad.Deliverable ∧
            f = .unrecognizedValueShape bad.key ∧
            sink' = Sink.putAll sink (before.flatMap Setting.entries)) := by
  rw [run_settingsInto]
  generalize (t.get (Request.settings generation project).path s).1 = answer
  have causes := @Delivery.ofAnswer_fails_iff codec generation reference answer
  generalize Delivery.ofAnswer codec generation reference answer = d at causes ⊢
  -- the sink shows the delivered entries only through `putAll`, so they are named first
  have named : (d.outcome, Sink.putAll sink d.entries) = (.error f, sink') ↔
      ∃ es, d = ⟨es, .error f⟩ ∧ sink' = Sink.putAll sink es := by
    constructor
    · intro h
      obtain ⟨hf, hsink⟩ := Prod.mk.inj h
      exact ⟨d.entries, by rw [← hf], hsink.symm⟩
    · rintro ⟨es, rfl, rfl⟩
      rfl
  rw [named]
  constructor
  · rintro ⟨es, hd, rfl⟩
    rcases causes.mp hd with ⟨cause, ha, hf, rfl⟩ | ⟨response, ha, ⟨hr, rfl⟩ | split⟩
    · exact .inl ⟨cause, ha, hf, rfl⟩
    · exact .inr ⟨response, ha, .inl ⟨hr, rfl⟩⟩
    · obtain ⟨before, bad, after, hg, hread, hbefore, hbad, hf, rfl⟩ := split
      exact .inr ⟨response, ha, .inr ⟨before, bad, after, hg, hread, hbefore, hbad, hf, rfl⟩⟩
  · rintro (⟨cause, ha, hf, rfl⟩ | ⟨response, ha, ⟨hr, rfl⟩ | split⟩)
    · exact ⟨[], causes.mpr (.inl ⟨cause, ha, hf, rfl⟩), rfl⟩
    · exact ⟨[], causes.mpr (.inr ⟨response, ha, .inl ⟨hr, rfl⟩⟩), rfl⟩
    · obtain ⟨before, bad, after, hg, hread, hbefore, hbad, hf, rfl⟩ := split
      exact ⟨before.flatMap Setting.entries,
        causes.mpr (.inr ⟨response, ha, .inr ⟨before, bad, after, hg, hread, hbefore, hbad, hf,
          rfl⟩⟩), rfl⟩

end Inquiry

/-! ### A download that fails half way

The payload has a setting with a value and behind it one without. -/

namespace HalfWay

open Json

def payload : Tree :=
  .plainObject [("settings", .list (.ofList [
    .plainObject [("key", .string (.plain "foo")), ("value", .string (.plain "bar"))],
    .plainObject [("key", .string (.plain "weird"))]]))]

def text : String :=
  "\x7b\"settings\":[\x7b\"key\":\"foo\",\"value\":\"bar\"\x7d,\x7b\"key\":\"weird\"\x7d]\x7d"

def server : Canned := { replies := [("/api/settings/values", .ok (Utf8.encode text))] }

theorem document : payload.Document (Utf8.encode text) := by
  have foo : Tree.Written (.plainObject [("key", .string (.plain "foo")),
      ("value", .string (.plain "bar"))]) _ :=
    .tightObject <| .tight (by decide) (.plain (by decide)) <| .tight <|
      .tight (by decide) (.plain (by decide)) .closed
  have weird : Tree.Written (.plainObject [("key", .string (.plain "weird"))]) _ :=
    .tightObject <| .tight (by decide) (.plain (by decide)) .closed
  have payload : payload.Written _ :=
    .tightObject <| .tight (by decide) (.list <| .tight foo <| .comma <| .tight weird .closed)
      .closed
  exact ⟨[], _, [], by decide, payload, by decide, by decide +kernel⟩

theorem decoded : Codec.json.settings (Utf8.encode text) =
    .ok [⟨"foo", false, some (.scalar "bar")⟩, ⟨"weird", false, none⟩] := by
  show Payload.decodeSettings _ = _
  rw [Payload.decodeSettings, Payload.reporting, Payload.readSettings,
    readPayload_of_document document]
  rfl

theorem answered : (Canned.transport.get (Request.settings .modern none).path server).1 =
    .ok ⟨"/api/settings/values", Utf8.encode text⟩ := rfl

/-- A failed download may leave entries in a sink that was empty. -/
theorem settingsInto_half_way :
    ((Inquiry.settingsInto .json .modern none none Store.empty).run Canned.transport
      server).result =
        (.error (.unrecognizedValueShape "weird"), Store.ofList [⟨"foo", "bar"⟩]) ∧
      Store.ofList [⟨"foo", "bar"⟩] ≠ .empty := by
  constructor
  · rw [Inquiry.run_settingsInto, answered]
    simp only [Delivery.ofAnswer, decoded]
    rfl
  · decide

end HalfWay

end AnalysisSettings
