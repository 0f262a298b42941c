import AnalysisSettings.Proofs.Address
import AnalysisSettings.Proofs.Synchronization

/-!
# A synchronization over HTTP

What the network says about a request is an `Exchange`: a reply or a failure. `Exchange.answer` sorts
it by the status alone. `HttpClient.plain` is the transport that answers a path so: it looks up the
request for the path, and neither resolves nor parses anything.

* The transport over HTTP is the plain one on the paths of questions (`HttpClient.get_path`), so a
  session cannot tell them apart.
* The requests that reach the network are those for the paths, in the order of the questions
  (`HttpClient.get_recorded`). `Network.recorded` is the network with a list of them.
* The log has one line with the URL for each question (`HttpClient.url?_get`).

`sync_over_http` puts these together for a whole synchronization, and says how the URLs are made of the
address of the server and the paths.
-/

namespace AnalysisSettings

/-! ## What the network says -/

/-- How the network leaves a question: with a reply, or without one for a reason. -/
inductive Exchange where
  | reply (status : UInt16) (body : List UInt8)
  | failed (reason : String)

namespace Exchange

/-- The failure of a request for a URL. -/
def failedFor (sent : Url) (problem : String) : Exchange :=
  .failed (problem ++ " for url (" ++ sent.toString ++ ")")

/-- What came of a request for a URL. A body that breaks off is a failure of a reply that brings the
resource; in other replies it is as good as none. -/
def ofArrival (sent : Url) : Arrival → Exchange
  | .reply status (some body) => .reply status body
  | .reply status none =>
    if 200 ≤ status ∧ status ≤ 299 then
      .failed "failed to read response body: error decoding response body"
    else .reply status []
  | .nothing => failedFor sent "error sending request"

/-- What the exchange means for the one who asked for `url`. -/
def answer (url : String) : Exchange → Answer
  | .reply status body =>
    if 200 ≤ status ∧ status ≤ 299 then .ok ⟨url, body⟩
    else if status = 404 then .error (.notFound url)
    else .error (.status url status (Utf8.lossy body))
  | .failed reason => .error (.request url reason)

/-- Sorting a reply is what the client does with it. -/
theorem answer_reply (url : String) (sent : Url) (status : UInt16) (body : Option (List UInt8)) :
    (ofArrival sent (.reply status body)).answer url = HttpClient.answer url status body := by
  unfold HttpClient.answer
  by_cases notFound : status = 404
  · cases body <;> simp [ofArrival, answer, notFound]
  · by_cases success : 200 ≤ status ∧ status ≤ 299
    · cases body <;> simp [ofArrival, answer, success, notFound]
    · cases body <;> simp [ofArrival, answer, success, notFound]

end Exchange

/-! ## The plain transport -/

namespace HttpClient

variable {σ : Type} (client : HttpClient) (network : Network σ)

/-- The plain transport: the answer to a path is what the network says about its request. A path
without a request fails before it gets there. -/
def plain : Transport σ where
  get path s :=
    match client.request? path with
    | none =>
      let unsent := Exchange.failedFor (client.target path) "builder error"
      (unsent.answer (client.address path), [], s)
    | some request =>
      let (arrival, s) := network.send request s
      ((Exchange.ofArrival request.url arrival).answer (client.address path), [], s)

/-- For the paths of questions, the transport over HTTP is the plain one. -/
theorem get_path (dir : client.base.IsDirectory)
    (web : client.base.scheme = "http" ∨ client.base.scheme = "https") {r : Request} (h : r.Asked)
    (s : σ) :
    ((client.transport network).get r.path s).1 = ((client.plain network).get r.path s).1 ∧
      ((client.transport network).get r.path s).2.2 =
        ((client.plain network).get r.path s).2.2 := by
  unfold transport plain
  simp only [client.resolve_path dir h]
  unfold fetch
  simp only [client.withoutCredentials_below, client.isTarget_target web, toString_below_path dir]
  cases sent : client.request? r.path with
  | none => exact ⟨rfl, rfl⟩
  | some request =>
    obtain rfl := client.eq_of_mem_request? sent
    cases arrived : network.send ⟨client.target r.path, client.userAgent⟩ s with
    | mk arrival s' =>
      simp only [Option.isSome_some, Bool.true_eq_false, if_false, arrived]
      cases arrival with
      | nothing => exact ⟨rfl, rfl⟩
      | reply status body => exact ⟨(Exchange.answer_reply _ _ _ _).symm, rfl⟩

end HttpClient

/-! ## The requests that reach the network -/

/-- The state of a network with the requests that reached it, in their order. -/
@[ext]
structure Recorded (σ : Type) where
  requests : List HttpRequest
  state : σ

/-- The network with a list of the requests that reach it. -/
def Network.recorded {σ : Type} (network : Network σ) : Network (Recorded σ) where
  send request r :=
    let (arrival, state) := network.send request r.state
    (arrival, ⟨r.requests ++ [request], state⟩)

namespace HttpClient

variable {σ : Type} (client : HttpClient) (network : Network σ)

/-- The plain transport sends the request for a path, and nothing else. The list of requests changes
no answer. -/
theorem plain_recorded (path : String) (s : Recorded σ) :
    (client.plain network.recorded).get path s =
      let (answer, records, state) := (client.plain network).get path s.state
      (answer, records, ⟨s.requests ++ (client.request? path).toList, state⟩) := by
  unfold plain
  cases sent : client.request? path with
  | none => simp [sent]
  | some request => simp [sent, Network.recorded]

/-- A question over HTTP reaches the network with the request for its path, and with nothing else. -/
theorem get_recorded (dir : client.base.IsDirectory)
    (web : client.base.scheme = "http" ∨ client.base.scheme = "https") {r : Request} (h : r.Asked)
    (s : Recorded σ) :
    let recorded := (client.transport network.recorded).get r.path s
    recorded.1 = ((client.plain network).get r.path s.state).1 ∧
      recorded.2.2.state = ((client.plain network).get r.path s.state).2.2 ∧
      recorded.2.2.requests = s.requests ++ (client.request? r.path).toList := by
  obtain ⟨answer, state⟩ := client.get_path network.recorded dir web h s
  rw [plain_recorded] at answer state
  exact ⟨answer, congrArg Recorded.state state, congrArg Recorded.requests state⟩

end HttpClient

/-! ## The log -/

/-- The line about a reply names a URL, and does not say that it is asked for. -/
theorem HttpClient.url?_warnings (url : String) (status : UInt16) :
    ((warnings url status).map Notice.log).filterMap Notice.url? = [] := by
  unfold warnings
  split <;> rfl

/-- Whatever comes of a request, the log has one line that says which URL is asked for. -/
theorem HttpClient.url?_fetch {σ : Type} (client : HttpClient) (network : Network σ) (url : Url)
    (s : σ) : ((client.fetch network url s).2.1.map Notice.log).filterMap Notice.url? =
      [url.toString] := by
  unfold fetch
  dsimp only
  split
  · rfl
  · split
    · rfl
    · exact congrArg (url.toString :: ·) (url?_warnings _ _)

/-- For the path of a question, this is the URL that the path stands for. -/
theorem HttpClient.url?_get {σ : Type} {client : HttpClient} (network : Network σ)
    (dir : client.base.IsDirectory) {r : Request} (h : r.Asked) (s : σ) :
    (((client.transport network).get r.path s).2.1.map Notice.log).filterMap Notice.url? =
      [client.address r.path] := by
  unfold transport
  simp only [client.resolve_path dir h]
  rw [url?_fetch, toString_below_path dir]

/-! ## Runs over HTTP -/

/-- The inquiry asks for paths of questions only, whatever the transport is. -/
def Inquiry.Questions {α : Type} (q : Inquiry α) : Prop :=
  ∀ {σ : Type} (t : Transport σ) (s : σ), ∀ path ∈ q.asked t s,
    ∃ r : Request, r.Asked ∧ r.path = path

/-- A synchronization asks such paths. -/
theorem Client.sync_questions (c : Client) (version : Version) (project : String) :
    (c.sync version project).Questions := by
  intro σ t s path h
  have known : path ∈ c.syncPaths version project := c.asked_sync.subset h
  simp only [syncPaths, List.mem_cons, List.not_mem_nil, or_false] at known
  rcases known with rfl | rfl | rfl
  · exact ⟨_, .settings _ _, rfl⟩
  · exact ⟨_, .settings _ _, rfl⟩
  · exact ⟨_, .qualityProfiles _ _ _, rfl⟩

namespace HttpClient

section

variable {σ α : Type} {client : HttpClient} (dir : client.base.IsDirectory)
  (web : client.base.scheme = "http" ∨ client.base.scheme = "https")
  (network : Network σ) {q : Inquiry α} (questions : q.Questions) (s : σ)

include dir questions

include web in
/-- A run over HTTP is a run over the plain transport. -/
theorem run_plain :
    (q.run (client.transport network) s).result = (q.run (client.plain network) s).result ∧
      (q.run (client.transport network) s).state = (q.run (client.plain network) s).state ∧
      q.asked (client.transport network) s = q.asked (client.plain network) s := by
  apply Inquiry.run_congr id
  intro path hpath s'
  obtain ⟨r, hr, rfl⟩ := questions _ _ path hpath
  exact client.get_path network dir web hr s'

include web in
/-- The requests for the paths of a run reach the network, in the order of its questions. -/
theorem run_recorded :
    (q.run (client.transport network.recorded) ⟨[], s⟩).state =
      ⟨(q.asked (client.plain network) s).filterMap client.request?,
        (q.run (client.plain network) s).state⟩ := by
  have step : ∀ path ∈ q.asked (client.transport network.recorded) ⟨[], s⟩, ∀ s,
      let recorded := (client.transport network.recorded).get path s
      recorded.1 = ((client.plain network).get path s.state).1 ∧
        recorded.2.2.state = ((client.plain network).get path s.state).2.2 ∧
        recorded.2.2.requests = s.requests ++ (client.request? path).toList := by
    intro path hpath s'
    obtain ⟨r, hr, rfl⟩ := questions _ _ path hpath
    exact client.get_recorded network dir web hr s'
  -- the state of the network is a view of the recorded one, and the list of requests is a log in it
  obtain ⟨-, state, paths⟩ := Inquiry.run_congr Recorded.state
    fun path hpath s => ⟨(step path hpath s).1, (step path hpath s).2.1⟩
  have requests := Inquiry.log_run (client.transport network.recorded)
    fun path hpath s => (step path hpath s).2.2
  rw [paths, List.nil_append, ← List.filterMap_eq_flatMap_toList] at requests
  exact Recorded.ext requests state

/-- The log of a run shows the URLs of its paths, if the inquiry names no URL by itself. -/
theorem run_urls (discreet : q.Discreet) :
    (q.run (client.transport network) s).notices.filterMap Notice.url? =
      (q.asked (client.transport network) s).map client.address := by
  apply Inquiry.urls_run discreet
  intro path hpath s'
  obtain ⟨r, hr, rfl⟩ := questions _ _ path hpath
  exact url?_get network dir hr s'

end

end HttpClient

/-- **A synchronization cannot tell HTTP from the plain transport.** Let the address of a server be
accepted, of the scheme `http` or `https`, and without query and fragment.

The path of every question stands for exactly the address of the server followed by the path without
its slash. The request for it asks for that URL, except that the login of the address is cut out of it;
there is none if the URL is too long or its host cannot be written.

For every network, a synchronization over HTTP has the result that it has over the plain transport,
asks for the same paths, and leaves the network in the same state. The requests for exactly these paths
reach the network, in their order, and the log shows the URLs of exactly these paths. -/
theorem sync_over_http {config : Config} {http : HttpClient}
    (accepted : Synchronizer.httpOf config = .ok http)
    (web : http.base.scheme = "http" ∨ http.base.scheme = "https")
    (noQuery : '?' ∉ config.serverUrl.toList) (noFragment : '#' ∉ config.serverUrl.toList) :
    (∃ a rest, http.base.authority = some a ∧
      http.base.toString = http.base.scheme ++ "://" ++ a.credentials ++ rest ∧
      http.base.anonymous.toString =
        http.base.scheme ++ "://" ++ (if a.hasLogin then "" else a.credentials) ++ rest) ∧
    (∀ r : Request, r.Asked → ∃ tail, r.path = "/" ++ tail ∧
      http.resolve r.path = .ok (http.base.below tail.toList) ∧
      (http.base.below tail.toList).toString = http.base.toString ++ tail ∧
      (∀ request ∈ http.request? r.path,
        request.url.toString = http.base.anonymous.toString ++ tail ∧
          request.userAgent = config.userAgent) ∧
      (http.request? r.path = none ↔
        0xFFFE < (http.base.anonymous.toString ++ tail).utf8ByteSize ∨
          http.base.hasUnsendableHost = true)) ∧
    ∀ {σ : Type} (network : Network σ) (s : σ) (version : Version) (project : String),
      let session := (Synchronizer.clientOf config).sync version project
      let overHttp := session.run (http.transport network) s
      let overPlain := session.run (http.plain network) s
      let asked := session.asked (http.plain network) s
      overHttp.result = overPlain.result ∧ overHttp.state = overPlain.state ∧
      session.asked (http.transport network) s = asked ∧
      asked <+: (Synchronizer.clientOf config).syncPaths version project ∧
      (session.run (http.transport network.recorded) ⟨[], s⟩).state =
        ⟨asked.filterMap http.request?, overHttp.state⟩ ∧
      overHttp.notices.filterMap Notice.url? = asked.map http.address := by
  have dir : http.base.IsDirectory := http.ofServer_isDirectory accepted web noQuery noFragment
  refine ⟨?login, fun r hr => ?path, fun {σ} network s version project => ?session⟩
  case login =>
    obtain ⟨a, authority⟩ := dir.authority
    obtain ⟨rest, text, anonymous⟩ := Url.toString_anonymous authority
    exact ⟨a, rest, authority, text, anonymous⟩
  case path =>
    refine ⟨String.ofList (r.path.toList.drop 1), hr.path_eq_slash_append, ?_, ?_, ?_, ?_⟩
    · rw [String.toList_ofList]
      exact http.resolve_path dir hr
    · rw [String.toList_ofList]
      exact Url.toString_below dir _
    · intro request hrequest
      obtain rfl := http.eq_of_mem_request? hrequest
      exact ⟨http.toString_target dir r.path, HttpClient.userAgent_of_ofServer accepted⟩
    · exact http.request?_eq_none_iff dir r.path
  case session =>
    intro session overHttp overPlain asked
    let c := Synchronizer.clientOf config
    have questions : session.Questions := c.sync_questions version project
    obtain ⟨result, state, paths⟩ := HttpClient.run_plain dir web network questions s
    refine ⟨result, state, paths, c.asked_sync, ?_, ?_⟩
    · exact (HttpClient.run_recorded dir web network questions s).trans (by rw [state])
    · refine (HttpClient.run_urls dir network questions s (c.sync_discreet version project)).trans ?_
      rw [paths]

/-! ### A busy server

Its address has credentials, a port, a direction, a blank and more than one slash at the end. It answers
one URL, which has no credentials, and is too busy for the others. -/

namespace Busy

def config : Config :=
  { serverUrl := "HTTP://me:pw@[::1]:9000/a/../Team A//", organization := some "o" }

def http : HttpClient :=
  { base :=
      { scheme := "http"
        authority := some ⟨"me", some "pw", .ipv6 [0, 0, 0, 0, 0, 0, 0, 1], some 9000⟩
        path := .segments ["Team%20A", ""] }
    userAgent := "settings-sync/0.1.0" }

/-- It counts the requests. -/
def network : Network Nat where
  send request n :=
    if request.url.toString = "http://[::1]:9000/Team%20A/api/properties?format=json" then
      (.reply 200 (some [0x5B, 0x5D]), n + 1)
    else (.reply 503 (some [0x62, 0x75, 0x73, 0x79]), n + 1)

theorem accepted : Synchronizer.httpOf config = .ok http := rfl

theorem decoded : Codec.json.properties [0x5B, 0x5D] = .ok [] := by
  have document : (Json.Tree.list (.finish .closed)).Document [0x5B, 0x5D] :=
    ⟨[], _, [], by decide, .emptyList (List.forall_mem_nil _), by decide, rfl⟩
  show Payload.decodeProperties _ = _
  rw [Payload.decodeProperties, Payload.reporting, Payload.readProperties,
    Json.readPayload_of_document document]
  rfl

/-- The global settings are there, and there are none. -/
theorem globalSettings_plain :
    (((Synchronizer.clientOf config).globalSettings ⟨6, 2, 0, 0, ""⟩).run (http.plain network)
      0).result = .ok (.ofList []) := by
  have answered : ((http.plain network).get (Request.settings .legacy none).path 0).1 =
    .ok ⟨"http://me:pw@[::1]:9000/Team%20A/api/properties?format=json", [0x5B, 0x5D]⟩ := rfl
  have legacy : Version.settingsGeneration ⟨6, 2, 0, 0, ""⟩ = .legacy := rfl
  rw [Client.globalSettings, Inquiry.run_andThen, legacy, Inquiry.run_settingsInto, answered]
  simp only [Delivery.ofAnswer, Synchronizer.clientOf, decoded]
  rfl

/-- The settings of the project are the second question, and the server is too busy for it. -/
theorem sync_plain :
    let session := (Synchronizer.clientOf config).sync ⟨6, 2, 0, 0, ""⟩ "p"
    let overPlain := session.run (http.plain network) 0
    overPlain.result = .error (.transport (.status
        "http://me:pw@[::1]:9000/Team%20A/api/properties?format=json&resource=p" 503 "busy")) ∧
      overPlain.state = 2 ∧
      session.asked (http.plain network) 0 =
        ["/api/properties?format=json", "/api/properties?format=json&resource=p"] := by
  obtain ⟨result, state, asked⟩ :=
    ((Synchronizer.clientOf config).globalSettings_asksOnly _).andThenOk_of_ok globalSettings_plain
  exact ⟨result.trans rfl, state.trans rfl, asked.trans rfl⟩

/-- The requests go without the credentials, while the failure and the log show the address as it is. -/
theorem sync_over_http_busy :
    let session := (Synchronizer.clientOf config).sync ⟨6, 2, 0, 0, ""⟩ "p"
    let overHttp := session.run (http.transport network) 0
    let recorded := session.run (http.transport network.recorded) ⟨[], 0⟩
    overHttp.result = .error (.transport (.status
        "http://me:pw@[::1]:9000/Team%20A/api/properties?format=json&resource=p" 503 "busy")) ∧
      overHttp.state = 2 ∧
      recorded.state.requests.map (·.url.toString) =
        ["http://[::1]:9000/Team%20A/api/properties?format=json",
          "http://[::1]:9000/Team%20A/api/properties?format=json&resource=p"] ∧
      overHttp.notices.filterMap Notice.url? =
        ["http://me:pw@[::1]:9000/Team%20A/api/properties?format=json",
          "http://me:pw@[::1]:9000/Team%20A/api/properties?format=json&resource=p"] := by
  obtain ⟨-, -, refines⟩ := sync_over_http accepted (.inl rfl) (by decide) (by decide)
  obtain ⟨result, state, -, -, requests, urls⟩ := refines network 0 ⟨6, 2, 0, 0, ""⟩ "p"
  obtain ⟨plainResult, plainState, asked⟩ := sync_plain
  refine ⟨result.trans plainResult, state.trans plainState, ?_, ?_⟩
  · rw [requests, asked]
    rfl
  · rw [urls, asked]
    rfl

end Busy

end AnalysisSettings
