import AnalysisSettings.Download

/-!
# What an inquiry asks

`Inquiry.asked` lists the paths that a run asks for, in order. It composes as runs do
(`asked_andThen`), and it is all that a run needs of a transport: two transports that answer those
paths alike give the same run (`run_congr`), and a log that each of them makes longer holds what they
added, in their order (`log_run`).

Each of the three downloads asks one question and then none, whatever the answer is
(`Inquiry.AsksOnly`). What it notes by itself names no URL, so the URLs in the log of a run are those
that the transport wrote there (`urls_run`).
-/

namespace AnalysisSettings

/-- The URL that a line of the log says is asked for. -/
def Notice.url? : Notice → Option String
  | .log record => if record.message = "GET" then record.fields.lookup "url" else none
  | .fetched _ => none

namespace Inquiry

variable {σ α β : Type} (t : Transport σ)

/-- The paths that a run asks for, in their order. -/
def asked : Inquiry α → σ → List String
  | .done _, _ => []
  | .note _ rest, s => rest.asked s
  | .ask path next, s => path :: (next (t.get path s).1).asked (t.get path s).2.2

@[simp] theorem asked_done (a : α) (s : σ) : (done a).asked t s = [] := rfl

@[simp] theorem asked_note (n : Notice) (rest : Inquiry α) (s : σ) :
    (note n rest).asked t s = rest.asked t s := rfl

/-- The first question is asked, and its answer decides about the others. -/
@[simp] theorem asked_ask (path : String) (next : Answer → Inquiry α) (s : σ) :
    (ask path next).asked t s = path :: (next (t.get path s).1).asked t (t.get path s).2.2 := rfl

/-- The second part of an inquiry asks behind the first one, from the state that it leaves. -/
@[simp] theorem asked_andThen (q : Inquiry α) (k : α → Inquiry β) (s : σ) :
    (q.andThen k).asked t s =
      q.asked t s ++ (k (q.run t s).result).asked t (q.run t s).state := by
  induction q generalizing s with
  | done a => rfl
  | note n rest ih => simp [ih]
  | ask path next ih => simp [ih]

/-! ## Two transports -/

/-- A run depends on a transport through the answers to the paths that it asks for. Another transport
may keep less than the first one: `view` is what it keeps. -/
theorem run_congr {τ : Type} {t : Transport σ} {t' : Transport τ} (view : σ → τ) {q : Inquiry α}
    {s : σ}
    (agree : ∀ path ∈ q.asked t s, ∀ s, (t.get path s).1 = (t'.get path (view s)).1 ∧
      view (t.get path s).2.2 = (t'.get path (view s)).2.2) :
    (q.run t s).result = (q.run t' (view s)).result ∧
      view (q.run t s).state = (q.run t' (view s)).state ∧ q.asked t s = q.asked t' (view s) := by
  induction q generalizing s with
  | done a => exact ⟨rfl, rfl, rfl⟩
  | note n rest ih => exact ih agree
  | ask path next ih =>
    obtain ⟨first, others⟩ := List.forall_mem_cons.mp agree
    obtain ⟨answer, state⟩ := first s
    simp only [run_ask, asked_ask, ← answer, ← state]
    obtain ⟨result, final, paths⟩ := ih _ others
    exact ⟨result, final, congrArg (path :: ·) paths⟩

/-- What every question adds to a log in the state, a run adds in the order of its questions. -/
theorem log_run {γ : Type} {log : σ → List γ} {added : String → List γ} {q : Inquiry α} {s : σ}
    (adds : ∀ path ∈ q.asked t s, ∀ s, log (t.get path s).2.2 = log s ++ added path) :
    log (q.run t s).state = log s ++ (q.asked t s).flatMap added := by
  induction q generalizing s with
  | done a => simp
  | note n rest ih => exact ih adds
  | ask path next ih =>
    obtain ⟨first, others⟩ := List.forall_mem_cons.mp adds
    simp [ih _ others, first s]

/-! ## The questions in the log -/

/-- The inquiry itself says nothing about URLs, whatever the answers are. -/
def Discreet : Inquiry α → Prop
  | .done _ => True
  | .note notice rest => notice.url? = none ∧ rest.Discreet
  | .ask _ next => ∀ answer, (next answer).Discreet

variable {t} {q : Inquiry α} {s : σ} {path : String}

/-- Parts that are silent about URLs make an inquiry that is. -/
theorem Discreet.andThen {k : α → Inquiry β} (h : q.Discreet) (hk : ∀ a, (k a).Discreet) :
    (q.andThen k).Discreet := by
  induction q with
  | done a => exact hk a
  | note n rest ih => exact ⟨h.1, ih h.2⟩
  | ask path next ih => exact fun answer => ih answer (h answer)

/-- An inquiry that goes on after successes only is silent about URLs if its parts are. -/
theorem Discreet.andThenOk {ε : Type} {q : Inquiry (Except ε α)} {k : α → Inquiry (Except ε β)}
    (h : q.Discreet) (hk : ∀ a, (k a).Discreet) : (q.andThenOk k).Discreet := by
  refine h.andThen fun outcome => ?_
  cases outcome with
  | ok a => exact hk a
  | error e => trivial

/-- The log has one line for each question, if the transport writes one. -/
theorem urls_run {url : String → String} (h : q.Discreet)
    (lines : ∀ path ∈ q.asked t s, ∀ s,
      ((t.get path s).2.1.map Notice.log).filterMap Notice.url? = [url path]) :
    (q.run t s).notices.filterMap Notice.url? = (q.asked t s).map url := by
  induction q generalizing s with
  | done a => rfl
  | note n rest ih =>
    simpa [h.1] using ih h.2 lines
  | ask path next ih =>
    obtain ⟨first, others⟩ := List.forall_mem_cons.mp lines
    simp only [run_ask, asked_ask, List.filterMap_append, first s]
    exact congrArg (url path :: ·) (ih _ (h _) others)

/-! ## Inquiries with one question -/

/-- The inquiry asks nothing, and says nothing about URLs. -/
def Silent : Inquiry α → Prop
  | .done _ => True
  | .note notice rest => notice.url? = none ∧ rest.Silent
  | .ask _ _ => False

/-- The inquiry asks for the path first, and then is silent whatever the answer is. -/
def AsksOnly (path : String) : Inquiry α → Prop
  | .ask first next => first = path ∧ ∀ answer, (next answer).Silent
  | _ => False

/-- A silent inquiry asks for no path. -/
theorem Silent.asked (h : q.Silent) (s : σ) : q.asked t s = [] := by
  induction q generalizing s with
  | done a => rfl
  | note n rest ih => exact ih h.2 s
  | ask path next ih => cases h

/-- A silent inquiry leaves the transport as it is. -/
theorem Silent.state (h : q.Silent) (s : σ) : (q.run t s).state = s := by
  induction q generalizing s with
  | done a => rfl
  | note n rest ih => exact ih h.2 s
  | ask path next ih => cases h

/-- A silent inquiry says nothing about URLs. -/
theorem Silent.discreet (h : q.Silent) : q.Discreet := by
  induction q with
  | done a => trivial
  | note n rest ih => exact ⟨h.1, ih h.2⟩
  | ask path next ih => cases h

/-- Silent parts make a silent inquiry. -/
theorem Silent.andThen {k : α → Inquiry β} (h : q.Silent) (hk : ∀ a, (k a).Silent) :
    (q.andThen k).Silent := by
  induction q with
  | done a => exact hk a
  | note n rest ih => exact ⟨h.1, ih h.2⟩
  | ask path next ih => cases h

/-- Notices that name no URL break no silence. -/
theorem silent_noting {notices : List Notice} (plain : ∀ n ∈ notices, n.url? = none)
    (h : q.Silent) : (noting notices q).Silent := by
  induction notices with
  | nil => exact h
  | cons n notices ih =>
    obtain ⟨first, others⟩ := List.forall_mem_cons.mp plain
    exact ⟨first, ih others⟩

/-- An inquiry with one question asks for one path. -/
theorem AsksOnly.asked (h : q.AsksOnly path) (s : σ) : q.asked t s = [path] := by
  cases q with
  | done a => cases h
  | note n rest => cases h
  | ask first next =>
    obtain ⟨rfl, silent⟩ := h
    simp [(silent _).asked]

/-- An inquiry with one question leaves the transport in the state after it. -/
theorem AsksOnly.state (h : q.AsksOnly path) (s : σ) :
    (q.run t s).state = (t.get path s).2.2 := by
  cases q with
  | done a => cases h
  | note n rest => cases h
  | ask first next =>
    obtain ⟨rfl, silent⟩ := h
    exact (silent _).state _

/-- An inquiry with one question says nothing about URLs by itself. -/
theorem AsksOnly.discreet (h : q.AsksOnly path) : q.Discreet := by
  cases q with
  | done a => cases h
  | note n rest => cases h
  | ask first next => exact fun answer => (h.2 answer).discreet

/-- A silent part behind it adds no question. -/
theorem AsksOnly.andThen {k : α → Inquiry β} (h : q.AsksOnly path) (hk : ∀ a, (k a).Silent) :
    (q.andThen k).AsksOnly path := by
  cases q with
  | done a => cases h
  | note n rest => cases h
  | ask first next => exact ⟨h.1, fun answer => (h.2 answer).andThen hk⟩

/-! ## The downloads -/

/-- The notices of a settings download name no URL. -/
theorem url?_settingsNotices (generation : Generation) (project : Option String) (count : Nat) :
    ∀ n ∈ settingsNotices generation project count, n.url? = none := by
  intro n hn
  simp only [settingsNotices, List.mem_cons, List.not_mem_nil, or_false] at hn
  rcases hn with rfl | rfl <;> rfl

/-- The notices about properties that are passed over name no URL. -/
theorem url?_skipNotices (filter : Filter) (ps : List Property) :
    ∀ n ∈ Property.skipNotices filter ps, n.url? = none := by
  intro n hn
  obtain ⟨property, -, rfl⟩ := List.mem_map.mp hn
  rfl

/-- A settings download asks one question, whatever the answer is. -/
theorem settings_asksOnly (codec : Codec) (generation : Generation) (project : Option String)
    (reference : Option Snapshot) : (settings codec generation project reference).AsksOnly
      (Request.settings generation project).path := by
  refine ⟨rfl, fun answer => ?_⟩
  cases answer with
  | error cause => trivial
  | ok response =>
    cases generation with
    | modern =>
      dsimp only
      cases codec.settings response.body with
      | error f => trivial
      | ok records =>
        dsimp only
        split
        · trivial
        · exact silent_noting (url?_settingsNotices _ _ _) trivial
    | legacy =>
      dsimp only
      cases codec.properties response.body with
      | error f => trivial
      | ok properties =>
        refine silent_noting (List.forall_mem_append.mpr ⟨?_, ?_⟩) trivial
        · exact url?_skipNotices _ _
        · exact url?_settingsNotices _ _ _

/-- The sink of a settings download adds no question. -/
theorem settingsInto_asksOnly {τ : Type} [Sink τ] (codec : Codec) (generation : Generation)
    (project : Option String) (reference : Option Snapshot) (sink : τ) :
    (settingsInto codec generation project reference sink).AsksOnly
      (Request.settings generation project).path :=
  (settings_asksOnly codec generation project reference).andThen fun _ => trivial

/-- A download of quality profiles asks one question, whatever the answer is. -/
theorem qualityProfiles_asksOnly (codec : Codec) (organization : Option String) (version : Version)
    (project : String) : (qualityProfiles codec organization version project).AsksOnly
      (Request.qualityProfiles version project organization).path := by
  refine ⟨rfl, fun answer => ?_⟩
  dsimp only
  split
  · trivial
  · trivial
  · split
    · trivial
    · exact ⟨rfl, trivial⟩

end Inquiry

namespace Client

variable (c : Client) (version : Version) (project : String)

/-- The client asks one question for the global settings. -/
theorem globalSettings_asksOnly : (c.globalSettings version).AsksOnly
    (Request.settings version.settingsGeneration none).path := by
  refine (Inquiry.settingsInto_asksOnly _ _ _ _ _).andThen fun outcome => ?_
  split
  · trivial
  · exact ⟨rfl, trivial⟩

/-- The client asks one question for the settings of a project. -/
theorem projectSettings_asksOnly (global : Snapshot) :
    (c.projectSettings version project global).AsksOnly
      (Request.settings version.settingsGeneration (some project)).path := by
  refine (Inquiry.settingsInto_asksOnly _ _ _ _ _).andThen fun outcome => ?_
  split
  · trivial
  · exact ⟨rfl, trivial⟩

/-- The client asks one question for the quality profiles. -/
theorem qualityProfiles_asksOnly : (c.qualityProfiles version project).AsksOnly
    (Request.qualityProfiles version project c.organization).path := by
  refine (Inquiry.qualityProfiles_asksOnly _ _ _ _).andThen fun outcome => ?_
  split
  · exact ⟨rfl, trivial⟩
  · trivial

/-- A synchronization says nothing about URLs by itself. -/
theorem sync_discreet : (c.sync version project).Discreet := by
  refine (c.globalSettings_asksOnly version).discreet.andThenOk fun global => ?_
  refine (c.projectSettings_asksOnly version project global).discreet.andThenOk fun settings => ?_
  exact (c.qualityProfiles_asksOnly version project).discreet.andThenOk fun profiles => trivial

end Client

end AnalysisSettings
