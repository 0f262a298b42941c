import AnalysisSettings.Request

/-!
# Request paths carry their parameters

The values of a query are percent-encoded, so they have none of the characters that divide it, and
the names are plain words. A path therefore reads back as the request it was written from
(`Request.ofPath?_path`), whatever texts the parameters are, and requests that differ have different
paths.

`paths_carry_parameters` says so of the three questions that a server is asked.
-/

namespace AnalysisSettings

namespace Request

/-! ## Reading a path back -/

/-- The endpoint and the parameter names do not look like parts of a query. -/
structure Plain (r : Request) : Prop where
  endpoint : '?' ∉ r.endpoint.toList
  names : ∀ parameter ∈ r.parameters, ∀ c ∈ parameter.1.toList, Percent.isPlain c = true

/-- A character that is not plain is in no name and in no encoded value. -/
theorem not_mem_of_plain {cs : List Char} {c : Char} (h : ∀ d ∈ cs, Percent.isPlain d = true)
    (hc : Percent.isPlain c = false) : c ∉ cs := by
  intro hmem
  rw [h c hmem] at hc
  cases hc

/-- An encoded parameter has no separator of parameters in it. -/
theorem amp_not_mem_encodeParameter {parameter : String × String}
    (name : ∀ c ∈ parameter.1.toList, Percent.isPlain c = true) :
    '&' ∉ encodeParameter parameter := by
  intro h
  rcases List.mem_append.mp h with h | h
  · exact not_mem_of_plain name (by decide) h
  · rcases List.mem_cons.mp h with h | h
    · revert h
      decide
    · exact not_mem_of_plain (fun _ => Percent.isPlain_of_mem_encode) (by decide) h

/-- A parameter is read back from its encoding. -/
theorem readParameter?_encodeParameter {parameter : String × String}
    (name : ∀ c ∈ parameter.1.toList, Percent.isPlain c = true) :
    readParameter? (encodeParameter parameter) = some parameter := by
  have whole : '=' ∉ parameter.1.toList := not_mem_of_plain name (by decide)
  unfold readParameter? encodeParameter
  rw [Text.cut_append whole]
  simp only [Percent.decode?_encode, Option.map_some, String.ofList_toList]

/-- So are all parameters of a query. -/
theorem mapM_readParameter? {parameters : List (String × String)}
    (names : ∀ parameter ∈ parameters, ∀ c ∈ parameter.1.toList, Percent.isPlain c = true) :
    (parameters.map encodeParameter).mapM readParameter? = some parameters := by
  induction parameters with
  | nil => rfl
  | cons parameter parameters ih =>
    obtain ⟨name, others⟩ := List.forall_mem_cons.mp names
    rw [List.map_cons, List.mapM_cons, readParameter?_encodeParameter name, ih others]
    rfl

/-- **A path reads back as its request.** -/
theorem ofPath?_path {r : Request} (plain : r.Plain) : ofPath? r.path = some r := by
  obtain ⟨endpoint, parameters⟩ := r
  have front : '?' ∉ endpoint.toList := plain.endpoint
  cases parameters with
  | nil =>
    show ofPath? endpoint = _
    rw [ofPath?, Text.cut_of_not_mem front]
    simp only [String.ofList_toList]
  | cons parameter parameters =>
    have parts : ∀ part ∈ (parameter :: parameters).map encodeParameter, '&' ∉ part := by
      intro part hpart
      obtain ⟨p, hp, rfl⟩ := List.mem_map.mp hpart
      exact amp_not_mem_encodeParameter (plain.names p hp)
    have query : Text.split '&' (Text.join '&' ((parameter :: parameters).map encodeParameter)) =
        (parameter :: parameters).map encodeParameter :=
      Text.split_join (by simp) parts
    show ofPath? (endpoint ++ String.ofList ('?' :: _)) = _
    rw [ofPath?, String.toList_append, String.toList_ofList, Text.cut_append front]
    simp only [query, mapM_readParameter? plain.names, Option.map_some, String.ofList_toList]

/-- Different requests have different paths. -/
theorem path_injective {r r' : Request} (plain : r.Plain) (plain' : r'.Plain)
    (h : r.path = r'.path) : r = r' := by
  have read := congrArg ofPath? h
  rw [ofPath?_path plain, ofPath?_path plain'] at read
  exact Option.some.inj read

/-! ## The three questions -/

/-- A parameter is given if it has a value. -/
theorem optional_eq (name : String) (value : Option String) :
    optional name value = value.toList.map fun text => (name, text) := by
  cases value <;> rfl

/-- It has the name that it is given. -/
theorem name_of_mem_optional {name : String} {value : Option String} {parameter : String × String}
    (h : parameter ∈ optional name value) : parameter.1 = name := by
  rw [optional_eq] at h
  obtain ⟨text, -, rfl⟩ := List.mem_map.mp h
  rfl

/-- The names in a question for settings are plain words. -/
theorem settings_plain (generation : Generation) (project : Option String) :
    (settings generation project).Plain := by
  cases generation with
  | modern =>
    refine ⟨by show '?' ∉ "/api/settings/values".toList; decide, ?_⟩
    intro parameter h
    rw [name_of_mem_optional h]
    exact List.all_eq_true.mp (by decide)
  | legacy =>
    refine ⟨by show '?' ∉ "/api/properties".toList; decide, ?_⟩
    intro parameter h
    rcases List.mem_cons.mp h with rfl | h
    · exact List.all_eq_true.mp (by decide)
    · rw [name_of_mem_optional h]
      exact List.all_eq_true.mp (by decide)

/-- Different questions for settings are different requests. -/
theorem settings_injective {generation generation' : Generation} {project project' : Option String}
    (h : settings generation project = settings generation' project') :
    generation = generation' ∧ project = project' := by
  cases generation <;> cases generation' <;> cases project <;> cases project' <;>
    simp [settings, optional] at h ⊢ <;> exact h

/-- A profile query, with the name that the version gives to the project. -/
theorem qualityProfiles_eq (version : Version) (project : String) (organization : Option String) :
    qualityProfiles version project organization =
      ⟨"/api/qualityprofiles/search",
        (if version.isAtLeast .firstWithProjectParameter then "project" else "projectKey", project) ::
          organization.toList.map fun text => ("organization", text)⟩ := by
  rw [qualityProfiles, optional_eq, Version.generation]
  cases version.isAtLeast .firstWithProjectParameter <;> rfl

/-- Questions for quality profiles are told apart by all that they are made of. -/
theorem qualityProfiles_injective {version version' : Version} {project project' : String}
    {organization organization' : Option String}
    (h : qualityProfiles version project organization =
      qualityProfiles version' project' organization') :
    version.isAtLeast .firstWithProjectParameter = version'.isAtLeast .firstWithProjectParameter ∧
      project = project' ∧ organization = organization' := by
  rw [qualityProfiles_eq, qualityProfiles_eq] at h
  obtain ⟨first, others⟩ := List.cons.inj (congrArg parameters h)
  obtain ⟨names, projects⟩ := Prod.mk.inj first
  refine ⟨?_, projects, ?_⟩
  · cases hv : version.isAtLeast .firstWithProjectParameter <;>
      cases hv' : version'.isAtLeast .firstWithProjectParameter <;> simp [hv, hv'] at names ⊢
  · cases organization <;> cases organization' <;> simp at others ⊢
    exact others

/-- The names in a question for quality profiles are plain words. -/
theorem qualityProfiles_plain (version : Version) (project : String)
    (organization : Option String) : (qualityProfiles version project organization).Plain := by
  refine ⟨by show '?' ∉ "/api/qualityprofiles/search".toList; decide, ?_⟩
  intro parameter h
  rcases List.mem_cons.mp h with rfl | h
  · dsimp only
    split <;> exact List.all_eq_true.mp (by decide)
  · rw [name_of_mem_optional h]
    exact List.all_eq_true.mp (by decide)

/-- **The paths of the three questions carry their parameters, and nothing else can be read from
them.** Read back (cut at the question mark, the query divided at its `&` signs, each part cut at its
first `=`, and the values decoded), a path gives the endpoint of its service and the parameters with
their texts, whatever the texts are: a project or an organization that is not given adds no
parameter, an empty one adds an empty value. So settings paths are equal only for the same
generation and project; profile paths only for versions that name the project alike, the same
project and the same organization; and no settings path is a profile path. -/
theorem paths_carry_parameters :
    (∀ project, ofPath? (settings .modern project).path =
      some ⟨"/api/settings/values", project.toList.map fun text => ("component", text)⟩) ∧
    (∀ project, ofPath? (settings .legacy project).path =
      some ⟨"/api/properties",
        ("format", "json") :: project.toList.map fun text => ("resource", text)⟩) ∧
    (∀ version project organization, ofPath? (qualityProfiles version project organization).path =
      some ⟨"/api/qualityprofiles/search",
        (if version.isAtLeast .firstWithProjectParameter then "project" else "projectKey", project) ::
          organization.toList.map fun text => ("organization", text)⟩) ∧
    (∀ generation project generation' project',
      (settings generation project).path = (settings generation' project').path ↔
        generation = generation' ∧ project = project') ∧
    (∀ version project organization version' project' organization',
      (qualityProfiles version project organization).path =
          (qualityProfiles version' project' organization').path ↔
        version.isAtLeast .firstWithProjectParameter =
            version'.isAtLeast .firstWithProjectParameter ∧
          project = project' ∧ organization = organization') ∧
    ∀ generation project version project' organization,
      (settings generation project).path ≠ (qualityProfiles version project' organization).path := by
  refine ⟨fun project => ?_, fun project => ?_, fun version project organization => ?_,
    fun generation project generation' project' => ?_,
    fun version project organization version' project' organization' => ?_,
    fun generation project version project' organization => ?_⟩
  · rw [ofPath?_path (settings_plain _ _), settings, optional_eq]
  · rw [ofPath?_path (settings_plain _ _), settings, optional_eq]
  · rw [ofPath?_path (qualityProfiles_plain _ _ _), qualityProfiles_eq]
  · constructor
    · intro h
      exact settings_injective (path_injective (settings_plain _ _) (settings_plain _ _) h)
    · rintro ⟨rfl, rfl⟩
      rfl
  · constructor
    · intro h
      have same := path_injective (qualityProfiles_plain _ _ _) (qualityProfiles_plain _ _ _) h
      exact qualityProfiles_injective same
    · rintro ⟨named, rfl, rfl⟩
      rw [qualityProfiles_eq, qualityProfiles_eq, named]
  · intro h
    have same := path_injective (settings_plain _ _) (qualityProfiles_plain _ _ _) h
    have endpoints := congrArg endpoint same
    cases generation
    · exact absurd endpoints (by show "/api/properties" ≠ "/api/qualityprofiles/search"; decide)
    · exact absurd endpoints
        (by show "/api/settings/values" ≠ "/api/qualityprofiles/search"; decide)

example : (settings .modern (some "a&b=c?d/e")).path =
    "/api/settings/values?component=a%26b%3Dc%3Fd%2Fe" := rfl

end Request

end AnalysisSettings
