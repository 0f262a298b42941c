import AnalysisSettings.Proofs.Address
import AnalysisSettings.Proofs.Url.Name

/-!
# The context path of a server

A server may live below a path of its host, its context. Its client puts one slash at the end of the
address, and resolves the paths of questions against the URL that this text is. So a question takes the
place of what stands behind the last slash of that URL, and of nothing else
(`HttpClient.resolve_below`).

Whether that leaves the whole context depends on what the slash was taken for. The law is
`HttpClient.resolve_context_iff`: the context is kept exactly where the path of the client's URL ends in
one slash. Which addresses have such a URL is known from their texts:

* in an address with a query or a fragment the slash falls into that part, so the path of the client's
  URL is the path of the address, and the context is kept only if that path ends in one slash by itself;
* in any other address the slash belongs to the path, and nothing is cut off. The context is kept if the
  address ends in a name, as most do (`Url.EndsInName`). There are more slashes between the context and
  the question where the address ends in something else that is read as a slash: a backslash, or a slash
  and a direction.
-/

namespace AnalysisSettings

namespace HttpClient

variable {serverUrl userAgent : String} {client : HttpClient}

/-- The address with one slash at its end, read as a URL, has a last segment. -/
theorem base_hasLastSegment (accepted : ofServer serverUrl userAgent = .ok client)
    (web : client.base.scheme = "http" ∨ client.base.scheme = "https") :
    client.base.HasLastSegment :=
  Url.hasLastSegment_of_parse (parse_of_ofServer accepted) (special_of_web web)

/-- A question takes the place of what stands behind the last slash of the client's URL. Scheme, host
and port stay, and the query is that of the question. -/
theorem resolve_below (special : Url.SchemeKind.of client.base.scheme = .special)
    (segments : client.base.HasLastSegment) {r : Request} (asked : r.Asked) :
    ∃ url front last, client.resolve r.path = .ok url ∧ url.scheme = client.base.scheme ∧
      url.authority = client.base.authority ∧ url.query = r.query?.map String.ofList ∧
      url.fragment = none ∧ '/' ∉ last ∧
      client.base.path.toString.toList = front ++ '/' :: last ∧
      url.path.toString.toList = front ++ r.endpoint.toList := by
  obtain ⟨front, last, hpath, within⟩ := segments
  obtain ⟨cs, hcs, -⟩ := asked.path_eq
  -- the first slash of a question is the one that its path and the client's URL share
  have cut : Text.cut '?' ('/' :: cs) = (r.endpoint.toList, r.query?) := by
    rw [← hcs, Request.cut_path asked.plain]
  rw [Text.cut, if_neg (by decide)] at cut
  obtain ⟨endpoint, query⟩ := Prod.mk.inj cut
  obtain ⟨text, base, below⟩ := Url.toList_path_below hpath cs
  refine ⟨(client.base.below cs).withoutFragment, text, last.toList, ?_, rfl, rfl, ?_, rfl, within,
    base, ?_⟩
  · rw [client.resolve_asked special hpath asked, hcs]
    rfl
  · rw [← query]
    rfl
  · rw [← endpoint]
    exact below

/-- The path of a client's URL has no segment behind its last slash, if there is no mark in the address
of the server. -/
theorem base_last_eq_nil (accepted : ofServer serverUrl userAgent = .ok client)
    (web : client.base.scheme = "http" ∨ client.base.scheme = "https")
    (plain : serverUrl.toList.any Url.Reference.isMark = false) {front last : List Char}
    (within : '/' ∉ last) (path : client.base.path.toString.toList = front ++ '/' :: last) :
    last = [] := by
  have absent : ∀ mark, Url.Reference.isMark mark = true → mark ∉ serverUrl.toList := by
    intro mark hmark hmem
    exact List.any_eq_false.mp plain mark hmem hmark
  obtain ⟨parts, segments⟩ := (ofServer_isDirectory accepted web (absent '?' rfl) (absent '#' rfl)).path
  apply (Text.getLast?_eq_slash_iff within).mp
  rw [← path, segments, Url.Path.toList_segments, List.flatMap_append]
  exact List.getLast?_concat

/-- **The context of a server is kept exactly where its client's URL ends in one slash.** Let an
address be accepted, of the scheme `http` or `https`. Every question resolves to a URL with the scheme,
the host and the port of the client's URL and with the query of the question. And let the address have
a query or a fragment, or not end in a blank. Then it is a URL by itself, with the same scheme, host
and port; and the path of the question's URL is the path of that URL, without slashes at its end,
followed by the path of the question, exactly if the path of the client's URL ends in one slash.

With a query or a fragment, the path of the client's URL is that of the address. Without them, only
slashes can stand between the context and the path of the question, and the client's URL ends in one
slash if the address ends in a name. -/
theorem resolve_context_iff (accepted : ofServer serverUrl userAgent = .ok client)
    (web : client.base.scheme = "http" ∨ client.base.scheme = "https") {r : Request}
    (asked : r.Asked) :
    ∃ url, client.resolve r.path = .ok url ∧ url.scheme = client.base.scheme ∧
      url.authority = client.base.authority ∧ url.query = r.query?.map String.ofList ∧
      url.fragment = none ∧
      (serverUrl.toList.any Url.Reference.isMark = true ∨
          Url.Reference.endsInBlank serverUrl.toList = false →
        ∃ own, Url.parse serverUrl = .ok own ∧ own.scheme = url.scheme ∧
          own.authority = url.authority ∧
          (url.path.toString.toList =
              Text.trimSlashes own.path.toString.toList ++ r.endpoint.toList ↔
            Text.EndsInOneSlash client.base.path.toString.toList) ∧
          (serverUrl.toList.any Url.Reference.isMark = true → client.base.path = own.path) ∧
          (serverUrl.toList.any Url.Reference.isMark = false →
            (∃ n, url.path.toString.toList = Text.trimSlashes own.path.toString.toList ++
              List.replicate n '/' ++ r.endpoint.toList) ∧
            (Url.EndsInName serverUrl.toList →
              Text.EndsInOneSlash client.base.path.toString.toList))) := by
  have special := special_of_web web
  have read := parse_of_ofServer accepted
  obtain ⟨url, front, last, resolved, scheme, authority, query, fragment, within, base, path⟩ :=
    client.resolve_below special (base_hasLastSegment accepted web) asked
  refine ⟨url, resolved, scheme, authority, query, fragment, fun ends => ?_⟩
  obtain ⟨own, parsed, sameScheme, sameAuthority, alike⟩ := Url.parse_slashAlike ends read special
  refine ⟨own, parsed, sameScheme.trans scheme.symm, sameAuthority.trans authority.symm, ?_, ?_, ?_⟩
  · rw [path, List.append_cancel_right_eq, alike.trimSlashes_eq, base, eq_comm]
    exact Text.trimSlashes_eq_iff within
  · intro marked
    exact (Url.path_eq_of_isMark marked parsed read special sameScheme).symm
  · intro plain
    refine ⟨?_, fun named => Url.endsInOneSlash_of_parse named plain read special⟩
    obtain rfl := base_last_eq_nil accepted web plain within base
    obtain ⟨n, hfront⟩ := Text.eq_trimSlashes_append front
    refine ⟨n, ?_⟩
    rw [path, alike.trimSlashes_eq, base, Text.trimSlashes_concat, ← hfront]

/-! ### Two addresses of one server -/

namespace Sonar

/-- The client for an address below the context `sonar`, with what is written behind the context in
the path and in the query. -/
def http (behind : List String) (query : Option String) : HttpClient :=
  { base :=
      { scheme := "http"
        authority := some ⟨"", none, .ipv6 [0, 0, 0, 0, 0, 0, 0, 1], some 9000⟩
        path := .segments ("sonar" :: behind)
        query := query }
    userAgent := "settings-sync/0.1.0" }

theorem accepted :
    ofServer "http://[::1]:9000/old/../sonar//" "settings-sync/0.1.0" = .ok (http [""] none) :=
  rfl

theorem sonar_isName : Url.IsName "sonar".toList where
  ne := by decide
  counts c hc := by
    have all : ("sonar".toList.all fun c => !Url.Reference.isOuter c) = true := by decide
    simpa using List.all_eq_true.mp all c hc
  within c hc := by
    have all : ("sonar".toList.all fun c => !Url.SchemeKind.special.isSeparator c) = true := by decide
    simpa using List.all_eq_true.mp all c hc
  straight := by decide

/-- The address ends in the name of the context, so the context is kept. -/
theorem resolve_context_sonar :
    ∃ url own, (http [""] none).resolve (Request.settings .legacy (some "a b")).path = .ok url ∧
      Url.parse "http://[::1]:9000/old/../sonar//" = .ok own ∧
      own.path = .segments ["sonar", "", ""] ∧ own.authority = url.authority ∧
      url.path.toString.toList = "/sonar/api/properties".toList ∧
      url.query = some "format=json&resource=a%20b" := by
  obtain ⟨url, resolved, -, -, query, -, kept⟩ :=
    resolve_context_iff accepted (.inl rfl) (.settings .legacy (some "a b"))
  obtain ⟨own, parsed, -, authority, context, -, plain⟩ := kept (.inr (by decide))
  obtain rfl := Except.ok.inj parsed
  have named : Url.EndsInName "http://[::1]:9000/old/../sonar//".toList :=
    ⟨"http://[::1]:9000/old/..".toList, '/', "sonar".toList, 2, rfl, rfl, sonar_isName⟩
  have one := (plain (by decide)).2 named
  exact ⟨url, _, resolved, parsed, rfl, authority, context.mpr one, query⟩

theorem acceptedWithQuery :
    ofServer "http://[::1]:9000/sonar?x" "settings-sync/0.1.0" = .ok (http [] (some "x/")) :=
  rfl

/-- The slash behind a query does not keep the context. -/
theorem context_not_always_kept :
    ¬ ∀ {serverUrl userAgent : String} {client : HttpClient},
      ofServer serverUrl userAgent = .ok client →
      client.base.scheme = "http" ∨ client.base.scheme = "https" →
      ∀ {r : Request}, r.Asked → ∃ url own, client.resolve r.path = .ok url ∧
        Url.parse serverUrl = .ok own ∧ url.scheme = own.scheme ∧ url.authority = own.authority ∧
        url.path.toString.toList =
          Text.trimSlashes own.path.toString.toList ++ r.endpoint.toList ∧
        url.query = r.query?.map String.ofList := by
  intro always
  obtain ⟨url, own, resolved, parsed, -, -, path, -⟩ :=
    always acceptedWithQuery (.inl rfl) (.settings .modern none)
  obtain rfl := Except.ok.inj resolved
  obtain rfl := Except.ok.inj parsed
  revert path
  decide

end Sonar

end HttpClient

end AnalysisSettings
