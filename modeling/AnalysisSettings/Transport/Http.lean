import AnalysisSettings.Inquiry
import AnalysisSettings.Text.Utf8
import AnalysisSettings.Url.Reference

/-!
# HTTP transport

A client asks a server over HTTP. It resolves each path against the address of the server, so that
a context path in that address is kept, and sorts what comes back: 404 is "not found", any other
status that is no success is a failure with its body, and the body of a success is the answer.

What happens between the client and the server is a `Network`: for each request it gives a reply,
or nothing.
-/

namespace AnalysisSettings

/-- A request as it leaves the client. -/
structure HttpRequest where
  url : Url
  userAgent : String

/-- What came of a request. -/
inductive Arrival where
  /-- A reply; there is no body if the connection broke off within it. -/
  | reply (status : UInt16) (body : Option (List UInt8))
  | nothing

/-- The way requests take. -/
structure Network (σ : Type) where
  send : HttpRequest → σ → Arrival × σ

/-- A client of one server. -/
structure HttpClient where
  base : Url
  userAgent : String

namespace HttpClient

/-! ## Setting up -/

/-- A text that can be the value of a header: it has no controls but the tab. -/
def isHeaderValue (text : String) : Bool :=
  text.toList.all fun c => (0x20 ≤ c.toNat && c.toNat != 0x7F) || c == '\t'

/-- The address of a server with exactly one slash at its end, so that the whole of it is kept when
paths are resolved against it. -/
def withSlash (serverUrl : String) : String :=
  String.ofList (Text.dropEndWhile (· == '/') serverUrl.toList ++ ['/'])

/-- The client of the server at an address. -/
def ofServer (serverUrl userAgent : String) : Except TransportFailure HttpClient :=
  if isHeaderValue userAgent = false then .error (.client "builder error")
  else match Url.parse (withSlash serverUrl) with
    | .ok base => .ok ⟨base, userAgent⟩
    | .error e =>
      .error (.client ("invalid server URL '" ++ serverUrl ++ "': " ++ e.message))

/-! ## Requests -/

/-- The URL of a path on the server. -/
def resolve (client : HttpClient) (path : String) : Except TransportFailure Url :=
  match client.base.join (String.ofList (path.toList.dropWhile (· == '/'))) with
  | .ok url => .ok url
  | .error e => .error (.client ("invalid request path '" ++ path ++ "': " ++ e.message))

/-- The credentials of a URL are sent as a header of their own: the URL without them, if there are
any that are text. -/
def withoutCredentials (url : Url) : Url :=
  match url.authority with
  | none => url
  | some a =>
    let decoded := fun text : String => Percent.decode? text.toList
    match decoded a.username with
    | none => url
    | some user =>
      if user.isEmpty ∧ (a.password.bind decoded).isNone then url
      else { url with authority := some { a with username := "", password := none } }

/-- The longest URL that can be sent. -/
def maxUrlLength : Nat := 0xFFFE

/-- A URL that a request can be sent to. -/
def isTarget (url : Url) : Bool :=
  (url.scheme == "http" || url.scheme == "https") && url.toString.utf8ByteSize ≤ maxUrlLength &&
    match url.authority with
    | some { host := .name name, .. } =>
      name.toList.all fun c => !(['"', '\x60', '\x7b', '\x7d'].contains c)
    | _ => true

/-- What a reply means for the one who asked for `url`. -/
def answer (url : String) (status : UInt16) (body : Option (List UInt8)) : Answer :=
  if status = 404 then .error (.notFound url)
  else if 200 ≤ status ∧ status ≤ 299 then
    match body with
    | some octets => .ok ⟨url, octets⟩
    | none =>
      .error (.request url "failed to read response body: error decoding response body")
  else .error (.status url status (Utf8.lossy (body.getD [])))

/-- The log records of a reply: a warning about a failure that is not just a missing resource. -/
def warnings (url : String) (status : UInt16) : List LogRecord :=
  if status = 404 ∨ 200 ≤ status ∧ status ≤ 299 then []
  else [⟨.warn, "request failed", [("url", url), ("status", toString status.toNat)]⟩]

/-- Asks for a URL. -/
def fetch {σ : Type} (client : HttpClient) (network : Network σ) (url : Url) (s : σ) :
    Answer × List LogRecord × σ :=
  let shown := url.toString
  let sent := withoutCredentials url
  let asking : LogRecord := ⟨.debug, "GET", [("url", shown)]⟩
  let failed := fun problem =>
    Except.error (.request shown (problem ++ " for url (" ++ sent.toString ++ ")"))
  if isTarget sent = false then (failed "builder error", [asking], s)
  else match network.send ⟨sent, client.userAgent⟩ s with
    | (.nothing, s) => (failed "error sending request", [asking], s)
    | (.reply status body, s) => (answer shown status body, asking :: warnings shown status, s)

/-- The transport of the client over a network. -/
def transport {σ : Type} (client : HttpClient) (network : Network σ) : Transport σ where
  get path s :=
    match client.resolve path with
    | .error cause => (.error cause, [], s)
    | .ok url => client.fetch network url s

end HttpClient

end AnalysisSettings
