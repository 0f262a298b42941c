import AnalysisSettings.Proofs.Request
import AnalysisSettings.Proofs.Url.Directory
import AnalysisSettings.Transport.Http

/-!
# Where the questions are asked

A question of a client is a path, and its server has an address. This module says which URL the two
make, and which request is written for it:

* the address of a server is a directory (`HttpClient.ofServer_isDirectory`), and the path of a
  question is a literal text below it (`Request.Asked.path_eq`), so the path stands for the URL that is
  the address followed by the path (`HttpClient.resolve_path`): nothing in a project key can lead
  anywhere else;
* a login in the address is not part of the URL that is asked. `Url.anonymous` is the URL without it,
  and `Url.toString_anonymous` says what that cuts out of its text;
* `HttpClient.request?` is the request that goes out. There is none for a URL that is too long or has a
  host that cannot be written in a request (`HttpClient.request?_eq_none_iff`).

The last two are said without the steps that the transport takes, so that it can be compared with them
(`HttpClient.withoutCredentials_below`, `HttpClient.isTarget_target`).
-/

namespace AnalysisSettings

/-! ## The paths of the questions -/

namespace Request

/-- The questions that downloads ask. -/
inductive Asked : Request → Prop where
  | settings (generation : Generation) (project : Option String) :
    Asked (settings generation project)
  | qualityProfiles (version : Version) (project : String) (organization : Option String) :
    Asked (qualityProfiles version project organization)

/-- The services of the questions. -/
def endpoints : List String :=
  ["/api/settings/values", "/api/properties", "/api/qualityprofiles/search"]

/-- Names and endpoints of the questions are plain words. -/
theorem Asked.plain {r : Request} (h : r.Asked) : r.Plain := by
  cases h with
  | settings generation project => exact settings_plain generation project
  | qualityProfiles version project organization => exact qualityProfiles_plain _ _ _

/-- There are three services. -/
theorem Asked.endpoint_mem {r : Request} (h : r.Asked) : r.endpoint ∈ endpoints := by
  cases h with
  | settings generation project => cases generation <;> simp [Request.settings, endpoints]
  | qualityProfiles version project organization => simp [Request.qualityProfiles, endpoints]

/-- The text behind the question mark of a path. -/
def query? (r : Request) : Option (List Char) :=
  match r.parameters with
  | [] => none
  | ps => some (Text.join '&' (ps.map encodeParameter))

/-- A path is its endpoint, and the query behind a question mark if there is one. -/
theorem toList_path (r : Request) :
    r.path.toList = r.endpoint.toList ++ (r.query?.map ('?' :: ·)).getD [] := by
  obtain ⟨endpoint, parameters⟩ := r
  cases parameters <;> simp [path, query?]

/-- The first question mark of a path is where its query begins. -/
theorem cut_path {r : Request} (plain : r.Plain) :
    Text.cut '?' r.path.toList = (r.endpoint.toList, r.query?) := by
  rw [toList_path]
  exact Text.cut_append_optional plain.endpoint r.query?

theorem isOrdinary_of_isPlain {c : Char} (h : Percent.isPlain c = true) :
    Url.isOrdinary c = true := by
  simp [Url.isOrdinary, h]

theorem isOrdinary_of_mem_encodeParameter {parameter : String × String}
    (name : ∀ c ∈ parameter.1.toList, Percent.isPlain c = true) {c : Char}
    (h : c ∈ encodeParameter parameter) : Url.isOrdinary c = true := by
  rcases List.mem_append.mp h with h | h
  · exact isOrdinary_of_isPlain (name c h)
  · rcases List.mem_cons.mp h with rfl | h
    · decide
    · exact isOrdinary_of_isPlain (Percent.isPlain_of_mem_encode h)

/-- A query has no character with a meaning of its own in a URL. -/
theorem isOrdinary_of_mem_query {r : Request} (plain : r.Plain) {query : List Char} {c : Char}
    (hquery : r.query? = some query) (hc : c ∈ query) : Url.isOrdinary c = true := by
  obtain ⟨endpoint, parameters⟩ := r
  cases parameters with
  | nil => cases hquery
  | cons parameter parameters =>
    obtain rfl := Option.some.inj hquery
    rcases Text.mem_join hc with rfl | ⟨part, hpart, hc⟩
    · decide
    · obtain ⟨p, hp, rfl⟩ := List.mem_map.mp hpart
      exact isOrdinary_of_mem_encodeParameter (plain.names p hp) hc

/-- Neither has the question mark in front of it. -/
theorem isOrdinary_of_mem_marked_query {r : Request} (plain : r.Plain) {c : Char}
    (hc : c ∈ (r.query?.map ('?' :: ·)).getD []) : Url.isOrdinary c = true := by
  cases hquery : r.query? with
  | none =>
    rw [hquery] at hc
    cases hc
  | some query =>
    rw [hquery] at hc
    rcases List.mem_cons.mp hc with rfl | hc
    · decide
    · exact isOrdinary_of_mem_query plain hquery hc

/-- The path of a service is one slash and segments that are no directions. -/
theorem endpoint_eq {endpoint : String} (h : endpoint ∈ endpoints) :
    ∃ c cs, endpoint.toList = '/' :: c :: cs ∧ c ≠ '/' ∧ '?' ∉ c :: cs ∧
      (c :: cs).all Url.isOrdinary = true ∧
      (Text.split '/' (c :: cs)).all (fun segment => !Url.isHere segment && !Url.isAbove segment) =
        true := by
  simp only [endpoints, List.mem_cons, List.not_mem_nil, or_false] at h
  rcases h with rfl | rfl | rfl <;> exact ⟨_, _, rfl, by decide +kernel⟩

/-- The path of a question is a slash and a literal text. -/
theorem Asked.path_eq {r : Request} (h : r.Asked) :
    ∃ cs, r.path.toList = '/' :: cs ∧ Url.Literal cs := by
  obtain ⟨c, cs, hendpoint, slash, mark, ordinary, straight⟩ := endpoint_eq h.endpoint_mem
  refine ⟨c :: cs ++ (r.query?.map ('?' :: ·)).getD [], ?_, ?_⟩
  · rw [toList_path, hendpoint]
    rfl
  · -- the endpoint has no question mark, so the first one is where the query begins
    have cut : Text.cut '?' (c :: cs ++ (r.query?.map ('?' :: ·)).getD []) = (c :: cs, r.query?) :=
      Text.cut_append_optional mark r.query?
    refine ⟨fun d hd => ?_, ⟨c, cs, by rw [cut], slash⟩, fun segment hsegment => ?_⟩
    · rcases List.mem_append.mp hd with hd | hd
      · exact List.all_eq_true.mp ordinary d hd
      · exact isOrdinary_of_mem_marked_query h.plain hd
    · rw [cut] at hsegment
      simpa using List.all_eq_true.mp straight segment hsegment

/-- What stands behind the slash is the path without its first character. -/
theorem Asked.path_eq_slash_append {r : Request} (h : r.Asked) :
    r.path = "/" ++ String.ofList (r.path.toList.drop 1) := by
  obtain ⟨cs, hpath, -⟩ := h.path_eq
  apply String.toList_inj.mp
  simp [hpath]

end Request

/-! ## The address of a server -/

namespace HttpClient

/-- The client of an accepted address has the URL that the address is with one slash at its end. -/
theorem parse_of_ofServer {serverUrl userAgent : String} {client : HttpClient}
    (accepted : ofServer serverUrl userAgent = .ok client) :
    Url.parse (withSlash serverUrl) = .ok client.base := by
  unfold ofServer at accepted
  split at accepted
  · cases accepted
  · split at accepted
    · next parsed =>
      cases accepted
      exact parsed
    · cases accepted

/-- The client asks in the name that it is given. -/
theorem userAgent_of_ofServer {serverUrl userAgent : String} {client : HttpClient}
    (accepted : ofServer serverUrl userAgent = .ok client) : client.userAgent = userAgent := by
  unfold ofServer at accepted
  split at accepted
  · cases accepted
  · split at accepted <;> cases accepted
    rfl

/-- The schemes of web servers are special. -/
theorem special_of_web {scheme : String} (web : scheme = "http" ∨ scheme = "https") :
    Url.SchemeKind.of scheme = .special := by
  rcases web with rfl | rfl <;> decide

/-- **The address of a server is a directory**, if it has neither query nor fragment. -/
theorem ofServer_isDirectory {serverUrl userAgent : String} {client : HttpClient}
    (accepted : ofServer serverUrl userAgent = .ok client)
    (web : client.base.scheme = "http" ∨ client.base.scheme = "https")
    (noQuery : '?' ∉ serverUrl.toList) (noFragment : '#' ∉ serverUrl.toList) :
    client.base.IsDirectory := by
  have sub : ∀ c ∈ Text.dropEndWhile (· == '/') serverUrl.toList, c ∈ serverUrl.toList := by
    intro c hc
    exact List.mem_reverse.mp ((List.dropWhile_suffix _).mem (List.mem_reverse.mp hc))
  have text : (withSlash serverUrl).toList =
      Text.dropEndWhile (· == '/') serverUrl.toList ++ ['/'] := String.toList_ofList
  exact Url.isDirectory_of_parse text (fun h => noQuery (sub _ h)) (fun h => noFragment (sub _ h))
    (parse_of_ofServer accepted) (special_of_web web)

/-- The text of the URL of a path: the address of the server and the path without its slash. -/
def address (client : HttpClient) (path : String) : String :=
  client.base.toString ++ String.ofList (path.toList.drop 1)

/-- The path of a question stands for a URL below the address of the server, whatever stands behind
the path of that address. -/
theorem resolve_asked {client : HttpClient} {parts : List String}
    (special : Url.SchemeKind.of client.base.scheme = .special)
    (segments : client.base.path = .segments parts) {r : Request} (h : r.Asked) :
    client.resolve r.path = .ok (client.base.below (r.path.toList.drop 1)).withoutFragment := by
  obtain ⟨cs, hpath, literal⟩ := h.path_eq
  obtain ⟨c, rest, body, slash⟩ := literal.relative
  have whole := Text.append_cut '?' cs
  rw [body] at whole
  have relative : r.path.toList.dropWhile (· == '/') = cs := by
    rw [hpath, ← whole]
    simp [slash]
  rw [resolve, relative, Url.join_literal special segments literal, hpath]
  rfl

/-- The path of a question stands for the URL below the address of the server. -/
theorem resolve_path {client : HttpClient} (dir : client.base.IsDirectory) {r : Request}
    (h : r.Asked) : client.resolve r.path = .ok (client.base.below (r.path.toList.drop 1)) := by
  obtain ⟨front, segments⟩ := dir.path
  rw [client.resolve_asked dir.special segments h, dir.withoutFragment_below]

/-- The text of that URL is the address followed by the path. -/
theorem toString_below_path {client : HttpClient} (dir : client.base.IsDirectory) (path : String) :
    (client.base.below (path.toList.drop 1)).toString = client.address path :=
  Url.toString_below dir _

end HttpClient

/-! ## The request for a path -/

namespace Url

/-- The authority has a login: a user name or, behind none, a password that is a text once its escapes
are undone. A user name that is no text spoils the password too. -/
def Authority.hasLogin (a : Authority) : Bool :=
  (Percent.decode? a.username.toList).any fun user =>
    user ≠ "" || (a.password.bind fun word => Percent.decode? word.toList).isSome

/-- The URL without its login, which is sent beside it. -/
def anonymous (u : Url) : Url :=
  { u with authority := u.authority.map fun a =>
      if a.hasLogin then { a with username := "", password := none } else a }

/-- The credentials of an authority are written in front of the rest of it. -/
theorem Authority.toString_eq (a : Authority) :
    a.toString = a.credentials ++ { a with username := "", password := none }.toString := by
  have none : { a with username := "", password := none }.credentials = "" := rfl
  unfold toString
  rw [none, String.empty_append, String.append_assoc]

/-- **Without its login a URL has the same text but for the credentials** between the two slashes and
the host. -/
theorem toString_anonymous {u : Url} {a : Authority} (h : u.authority = some a) :
    ∃ rest, u.toString = u.scheme ++ "://" ++ a.credentials ++ rest ∧
      u.anonymous.toString =
        u.scheme ++ "://" ++ (if a.hasLogin then "" else a.credentials) ++ rest := by
  refine ⟨{ a with username := "", password := none }.toString ++ u.path.toString ++
    writeOptional "?" u.query ++ writeOptional "#" u.fragment, ?_, ?_⟩
  · simp only [toString, h, a.toString_eq, String.append_assoc]
    rfl
  · cases login : a.hasLogin with
    | true =>
      simp only [toString, anonymous, h, Option.map_some, login, if_true, String.append_assoc]
      rfl
    | false =>
      simp only [toString, anonymous, h, Option.map_some, login, Bool.false_eq_true, if_false,
        a.toString_eq, String.append_assoc]
      rfl

/-- The URL keeps being a directory. -/
theorem IsDirectory.anonymous {u : Url} (dir : u.IsDirectory) : u.anonymous.IsDirectory := by
  obtain ⟨a, ha⟩ := dir.authority
  have authority : ∃ b, u.anonymous.authority = some b :=
    ⟨_, by rw [Url.anonymous, ha, Option.map_some]⟩
  exact ⟨dir.special, authority, dir.path, dir.query, dir.fragment⟩

/-- Characters that the name of a host can have, but a request cannot. -/
def unsendable : List Char := ['"', '\x60', '\x7b', '\x7d']

/-- The host has a name that cannot be written in a request. -/
def Host.isUnsendable : Host → Bool
  | .name text => text.toList.any unsendable.contains
  | .ipv4 _ | .ipv6 _ => false

/-- The host of the URL cannot be written in a request. -/
def hasUnsendableHost (u : Url) : Bool :=
  u.authority.any fun a => a.host.isUnsendable

end Url

namespace HttpClient

variable (client : HttpClient)

/-- The URL that is asked for a path: below the address of the server, without a login. -/
def target (path : String) : Url :=
  client.base.anonymous.below (path.toList.drop 1)

/-- The request for a path. A URL that is too long or has a host that cannot be written has none. -/
def request? (path : String) : Option HttpRequest :=
  if 0xFFFE < (client.target path).toString.utf8ByteSize ∨ client.base.hasUnsendableHost then none
  else some ⟨client.target path, client.userAgent⟩

/-- Below an address a path is appended, with a login or without. -/
theorem toString_target {client : HttpClient} (dir : client.base.IsDirectory) (path : String) :
    (client.target path).toString =
      client.base.anonymous.toString ++ String.ofList (path.toList.drop 1) :=
  Url.toString_below dir.anonymous _

/-- **The transport sends the URL without its login.** -/
theorem withoutCredentials_eq (url : Url) : withoutCredentials url = url.anonymous := by
  obtain ⟨scheme, authority, path, query, fragment⟩ := url
  unfold withoutCredentials Url.anonymous
  cases authority with
  | none => rfl
  | some a =>
    dsimp only [Option.map_some]
    split
    · next decoded => simp [Url.Authority.hasLogin, decoded]
    · next user decoded =>
      generalize hword : (a.password.bind fun w => Percent.decode? w.toList) = word
      have login : a.hasLogin = true ↔ ¬ (user.isEmpty = true ∧ word.isNone = true) := by
        rw [Url.Authority.hasLogin, decoded, Option.any_some, hword, Bool.or_eq_true,
          decide_eq_true_iff, String.isEmpty_iff, Decidable.not_and_iff_not_or_not,
          Option.isNone_iff_eq_none, Option.isSome_iff_ne_none]
      by_cases none : user.isEmpty = true ∧ word.isNone = true
      · rw [if_pos none, if_neg (mt login.mp (not_not_intro none))]
      · rw [if_neg none, if_pos (login.mpr none)]

/-- A URL of a web server is refused for its length or for its host. -/
theorem isTarget_eq {url : Url} (web : url.scheme = "http" ∨ url.scheme = "https") :
    isTarget url =
      !decide (0xFFFE < url.toString.utf8ByteSize ∨ url.hasUnsendableHost = true) := by
  have scheme : (url.scheme == "http" || url.scheme == "https") = true := by simpa using web
  have long : decide (url.toString.utf8ByteSize ≤ 0xFFFE) =
      !decide (0xFFFE < url.toString.utf8ByteSize) := by
    rw [← decide_not, decide_eq_decide]
    exact Nat.not_lt.symm
  unfold isTarget Url.hasUnsendableHost maxUrlLength
  rw [scheme, Bool.true_and, long, Bool.decide_or, Bool.not_or, Bool.decide_eq_true]
  congr 1
  cases url.authority with
  | none => rfl
  | some a =>
    obtain ⟨user, password, host, port⟩ := a
    cases host with
    | name text => exact List.not_any_eq_all_not.symm
    | ipv4 parts => rfl
    | ipv6 parts => rfl

/-- The URL of the request is the URL of the path without a login. -/
theorem withoutCredentials_below (path : String) :
    withoutCredentials (client.base.below (path.toList.drop 1)) = client.target path := by
  rw [withoutCredentials_eq]
  rfl

/-- Neither the login nor the path changes the host. -/
@[simp]
theorem hasUnsendableHost_target (path : String) :
    (client.target path).hasUnsendableHost = client.base.hasUnsendableHost := by
  unfold target Url.anonymous Url.below Url.hasUnsendableHost
  cases client.base.authority with
  | none => rfl
  | some a => cases login : a.hasLogin <;> simp [login]

/-- The transport refuses the paths without a request. -/
theorem isTarget_target (web : client.base.scheme = "http" ∨ client.base.scheme = "https")
    (path : String) : isTarget (client.target path) = (client.request? path).isSome := by
  have allowed : isTarget (client.target path) = _ := isTarget_eq web
  rw [allowed, hasUnsendableHost_target, request?]
  split <;> simp [*]

/-- A request is for the URL of its path, in the name of the client. -/
theorem eq_of_mem_request? {path : String} {request : HttpRequest}
    (h : request ∈ client.request? path) : request = ⟨client.target path, client.userAgent⟩ := by
  unfold request? at h
  split at h
  · cases h
  · exact (Option.some.inj h).symm

/-- There is no request for a path below an address if the text of the URL is too long, or if the host
cannot be written. -/
theorem request?_eq_none_iff (dir : client.base.IsDirectory) (path : String) :
    client.request? path = none ↔
      0xFFFE < (client.base.anonymous.toString ++ String.ofList (path.toList.drop 1)).utf8ByteSize ∨
        client.base.hasUnsendableHost = true := by
  rw [← toString_target dir, request?]
  split <;> simp [*]

end HttpClient

end AnalysisSettings
