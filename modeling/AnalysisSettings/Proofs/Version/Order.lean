import AnalysisSettings.Proofs.Request
import AnalysisSettings.Proofs.Synchronization
import AnalysisSettings.Proofs.Version.Text

/-!
# The order of versions, and what it gates

Versions are compared by their four numbers, in the lexicographic order of lists
(`Version.compare_eq`), so the comparison is a total preorder that a qualifier has no part in. For
versions that were read these numbers are those of the text, filled up with zeros to four
(`Version.Spelling.numbers_version`): texts that differ in zeros, plus signs, blanks and qualifiers
only are interchangeable.

A gate asks whether a version has come up to a threshold, so it opens once and for all on the way up
(`Version.generation_mono`), and the lower of two thresholds opens first
(`Version.generation_antitone`). Two gates decide how a server is asked. `Version.gates_monotone` puts
all this together, down to the paths that a client asks for: no client names the project of a profile
query in the modern way and asks for settings in the legacy one.
-/

namespace AnalysisSettings

namespace Version

/-! ## The order -/

/-- Versions are compared by their four numbers. -/
theorem compare_eq (a b : Version) : a.compare b = Ord.compare a.numbers b.numbers := by
  simp only [compare, numbers, List.compare_cons_cons, List.compare_nil_nil, Ordering.then_eq]

instance : Std.TransCmp compare where
  eq_swap := by
    intro a b
    rw [compare_eq, compare_eq]
    exact Std.OrientedCmp.eq_swap
  isLE_trans := by
    intro a b c hab hbc
    rw [compare_eq] at hab hbc ⊢
    exact Std.TransCmp.isLE_trans hab hbc

/-- Versions compare as equal if they have the same numbers. -/
theorem compare_eq_eq_iff {a b : Version} : a.compare b = .eq ↔ a.numbers = b.numbers := by
  rw [compare_eq]
  exact Std.LawfulEqOrd.compare_eq_iff_eq

/-! ## The gates -/

/-- A version is at least another one if it does not compare as less. -/
theorem isAtLeast_iff {v t : Version} : v.isAtLeast t = true ↔ (t.compare v).isLE = true := by
  rw [isAtLeast, @Std.OrientedCmp.eq_swap _ compare]
  cases t.compare v <;> decide

/-- A generation is modern from its first version on. -/
theorem generation_eq_modern_iff {v t : Version} :
    v.generation t = .modern ↔ (t.compare v).isLE = true := by
  rw [← isAtLeast_iff, generation]
  cases v.isAtLeast t <;> decide

/-- A later version stays behind the gate. -/
theorem generation_mono {a b t : Version} (le : (a.compare b).isLE = true)
    (modern : a.generation t = .modern) : b.generation t = .modern := by
  rw [generation_eq_modern_iff] at modern ⊢
  exact Std.TransCmp.isLE_trans modern le

/-- An earlier gate is passed too. -/
theorem generation_antitone {a t u : Version} (le : (t.compare u).isLE = true)
    (modern : a.generation u = .modern) : a.generation t = .modern := by
  rw [generation_eq_modern_iff] at modern ⊢
  exact Std.TransCmp.isLE_trans le modern

/-! ## Spelled versions -/

/-- A version that was read has the numbers of its text, and zeros where the text has none. -/
theorem Spelling.numbers_version (s : Spelling) : s.version.numbers = s.numbers.rightpad 4 0 :=
  numbers_ofComponents (by rw [numbers, List.length_map]; exact s.parts_le) _

/-- Numbers that are zero may be added, as long as there are no more than four numbers. -/
theorem Spelling.numbers_version_of_zeros {s s' : Spelling} {zeros : Nat}
    (h : s'.numbers = s.numbers ++ List.replicate zeros 0) :
    s'.version.numbers = s.version.numbers := by
  have short : s.numbers.length + zeros ≤ 4 := by
    have all := congrArg List.length h
    rw [List.length_append, List.length_replicate, numbers, List.length_map] at all
    exact all ▸ s'.parts_le
  have fill : zeros + (4 - (s.numbers.length + zeros)) = 4 - s.numbers.length := by omega
  rw [numbers_version, numbers_version, h, List.rightpad, List.rightpad, List.append_assoc,
    List.length_append, List.length_replicate, List.replicate_append_replicate, fill]

/-- Versions with the same numbers are compared alike, and pass the same gates. -/
theorem compare_congr {a a' : Version} (h : a.numbers = a'.numbers) (c : Version) :
    a.compare c = a'.compare c ∧ c.compare a = c.compare a' ∧
      a.generation c = a'.generation c ∧ c.generation a = c.generation a' := by
  have left : a.compare c = a'.compare c := by rw [compare_eq, compare_eq, h]
  have right : c.compare a = c.compare a' := by rw [compare_eq, compare_eq, h]
  refine ⟨left, right, ?_, ?_⟩
  · rw [generation, generation, isAtLeast, isAtLeast, left]
  · rw [generation, generation, isAtLeast, isAtLeast, right]

/-! ## The two gates of the server -/

/-- A server that knows the newer name of a parameter has the newer settings service. -/
theorem settingsGeneration_of_projectParameter {v : Version}
    (h : v.isAtLeast .firstWithProjectParameter = true) : v.settingsGeneration = .modern := by
  have le : (firstWithSettings.compare firstWithProjectParameter).isLE = true := by decide
  exact generation_antitone le (generation_eq_modern_iff.mpr (isAtLeast_iff.mp h))

end Version

/-! ## What a client asks for -/

/-- The client asks for the path at some time when it works with a server of the version: in one of
the three downloads, or in a whole synchronization. -/
inductive Client.AsksFor (c : Client) (version : Version) (path : String) : Prop
  | global {σ : Type} (t : Transport σ) (s : σ) (h : path ∈ (c.globalSettings version).asked t s)
  | project {σ : Type} (t : Transport σ) (s : σ) (project : String) (global : Snapshot)
    (h : path ∈ (c.projectSettings version project global).asked t s)
  | qualityProfiles {σ : Type} (t : Transport σ) (s : σ) (project : String)
    (h : path ∈ (c.qualityProfiles version project).asked t s)
  | sync {σ : Type} (t : Transport σ) (s : σ) (project : String)
    (h : path ∈ (c.sync version project).asked t s)

namespace Client.AsksFor

variable {c : Client} {version : Version} {path : String}

/-- Each such path is that of a settings request or of a profile query of the version. -/
theorem exists_request (h : c.AsksFor version path) :
    (∃ project, path = (Request.settings version.settingsGeneration project).path) ∨
      ∃ project, path = (Request.qualityProfiles version project c.organization).path := by
  cases h with
  | global t s h =>
    rw [(c.globalSettings_asksOnly version).asked] at h
    exact .inl ⟨none, List.mem_singleton.mp h⟩
  | project t s project global h =>
    rw [(c.projectSettings_asksOnly version project global).asked] at h
    exact .inl ⟨some project, List.mem_singleton.mp h⟩
  | qualityProfiles t s project h =>
    rw [(c.qualityProfiles_asksOnly version project).asked] at h
    exact .inr ⟨project, List.mem_singleton.mp h⟩
  | sync t s project h =>
    have hmem := c.asked_sync.subset h
    simp only [syncPaths, List.mem_cons, List.not_mem_nil, or_false] at hmem
    rcases hmem with h | h | h
    · exact .inl ⟨none, h⟩
    · exact .inl ⟨some project, h⟩
    · exact .inr ⟨project, h⟩

/-- What is read from such a path. -/
theorem ofPath? {r : Request} (h : c.AsksFor version path) (read : Request.ofPath? path = some r) :
    (∃ project, r = Request.settings version.settingsGeneration project) ∨
      ∃ project, r = Request.qualityProfiles version project c.organization := by
  rcases h.exists_request with ⟨project, rfl⟩ | ⟨project, rfl⟩
  · rw [Request.ofPath?_path (Request.settings_plain _ _)] at read
    exact .inl ⟨project, (Option.some.inj read).symm⟩
  · rw [Request.ofPath?_path (Request.qualityProfiles_plain _ _ _)] at read
    exact .inr ⟨project, (Option.some.inj read).symm⟩

end Client.AsksFor

namespace Request

/-- The generation decides on the service of the settings. -/
theorem endpoint_settings (generation : Generation) (project : Option String) :
    (settings generation project).endpoint =
      match generation with
      | .modern => "/api/settings/values"
      | .legacy => "/api/properties" := by
  cases generation <;> rfl

/-- The names of the parameters. -/
def names (r : Request) : List String :=
  r.parameters.map Prod.fst

/-- No settings request has a parameter that is called `project`. -/
theorem project_not_mem_settings (generation : Generation) (project : Option String) :
    "project" ∉ (settings generation project).names := by
  cases generation <;> cases project <;> simp [names, settings, optional]

/-- The version decides on the name of the parameter with the project. -/
theorem names_qualityProfiles (version : Version) (project : String) (organization : Option String) :
    (qualityProfiles version project organization).names =
      (if version.isAtLeast .firstWithProjectParameter then "project" else "projectKey") ::
        organization.toList.map fun _ => "organization" := by
  rw [names, qualityProfiles_eq, List.map_cons, List.map_map]
  rfl

/-- The newer name is used from its first version on only. -/
theorem project_mem_qualityProfiles {version : Version} {project : String}
    {organization : Option String}
    (h : "project" ∈ (qualityProfiles version project organization).names) :
    version.isAtLeast .firstWithProjectParameter = true := by
  rw [names_qualityProfiles] at h
  rcases List.mem_cons.mp h with h | h
  · split at h
    · next newer => exact newer
    · exact absurd h (by decide)
  · obtain ⟨-, -, h⟩ := List.mem_map.mp h
    exact absurd h (by decide)

/-- The older name is used before that version. -/
theorem projectKey_mem_qualityProfiles {version : Version} (project : String)
    (organization : Option String)
    (h : version.isAtLeast .firstWithProjectParameter = false) :
    "projectKey" ∈ (qualityProfiles version project organization).names := by
  rw [names_qualityProfiles, h]
  exact List.mem_cons_self

end Request

/-- **The gates look at the numbers only, and are monotone.** Versions are in a total preorder, in
which those with equal numbers are equal. A text is a version exactly if it has a spelling, and then
the version is compared by the numbers of the spelling, filled up with zeros, in lexicographic order.
So a text with some more numbers that are zero, and with any other plus signs, leading zeros, blanks
and qualifier, stands for a version that every comparison and every gate treats alike. A version behind
one that has passed a gate has passed it too, and who has passed a gate has passed every gate before
it. So whenever clients work with one version of a server and one path that is asked for names a
parameter `project`, the settings are not asked from the legacy service; and where they are, every
profile query names its project by `projectKey`. -/
theorem Version.gates_monotone :
    ((∀ a : Version, a.compare a = .eq) ∧
      (∀ a b : Version, (a.compare b).isLE = true → (b.compare a).isLE = true →
        a.numbers = b.numbers) ∧
      (∀ a b c : Version, (a.compare b).isLE = true → (b.compare c).isLE = true →
        (a.compare c).isLE = true) ∧
      (∀ a b : Version, (a.compare b).isLE = true ∨ (b.compare a).isLE = true)) ∧
    (∀ text v, parse text = .ok v ↔ ∃ s : Spelling, s.text = text ∧ s.version = v) ∧
    (∀ s s' : Spelling, s.version.compare s'.version =
      Ord.compare (s.numbers.rightpad 4 0) (s'.numbers.rightpad 4 0)) ∧
    (∀ s s' : Spelling, (∃ zeros, s'.numbers = s.numbers ++ List.replicate zeros 0) →
      ∀ c : Version, s'.version.compare c = s.version.compare c ∧
        c.compare s'.version = c.compare s.version ∧
        s'.version.generation c = s.version.generation c ∧
        c.generation s'.version = c.generation s.version) ∧
    (∀ a b t : Version, (a.compare b).isLE = true → a.generation t = .modern →
      b.generation t = .modern) ∧
    (∀ a t u : Version, (t.compare u).isLE = true → a.generation u = .modern →
      a.generation t = .modern) ∧
    ∀ {c c' : Client} {version : Version} {path path' : String} {r r' : Request},
      c.AsksFor version path → c'.AsksFor version path' →
      Request.ofPath? path = some r → Request.ofPath? path' = some r' →
      ("project" ∈ r.names →
        r'.endpoint = "/api/settings/values" ∨ r'.endpoint = "/api/qualityprofiles/search") ∧
      (r.endpoint = "/api/properties" → r'.endpoint = "/api/qualityprofiles/search" →
        "projectKey" ∈ r'.names) := by
  refine ⟨⟨fun a => compare_eq_eq_iff.mpr rfl, fun a b hab hba => ?_,
    fun a b c => Std.TransCmp.isLE_trans, fun a b => ?_⟩, fun text v => parse_eq_ok_iff,
    fun s s' => ?_, ?_, fun a b t => generation_mono, fun a t u => generation_antitone, ?_⟩
  · exact compare_eq_eq_iff.mp (Std.OrientedCmp.isLE_antisymm hab hba)
  · rw [@Std.OrientedCmp.eq_swap _ compare _ b a]
    cases a.compare b <;> decide
  · rw [compare_eq, s.numbers_version, s'.numbers_version]
  · rintro s s' ⟨zeros, h⟩ c
    exact compare_congr (Spelling.numbers_version_of_zeros h) c
  · intro c c' version path path' r r' asks asks' read read'
    constructor
    · intro named
      have newer : version.settingsGeneration = .modern := by
        rcases asks.ofPath? read with ⟨project, rfl⟩ | ⟨project, rfl⟩
        · exact absurd named (Request.project_not_mem_settings _ _)
        · exact settingsGeneration_of_projectParameter (Request.project_mem_qualityProfiles named)
      rcases asks'.ofPath? read' with ⟨project, rfl⟩ | ⟨project, rfl⟩
      · rw [newer]
        exact .inl rfl
      · exact .inr rfl
    · intro legacy profiles
      have older : version.isAtLeast .firstWithProjectParameter = false := by
        rw [← Bool.not_eq_true]
        intro newer
        rcases asks.ofPath? read with ⟨project, rfl⟩ | ⟨project, rfl⟩
        · rw [settingsGeneration_of_projectParameter newer, Request.endpoint_settings] at legacy
          exact absurd legacy (by decide)
        · exact absurd legacy (by show "/api/qualityprofiles/search" ≠ "/api/properties"; decide)
      rcases asks'.ofPath? read' with ⟨project, rfl⟩ | ⟨project, rfl⟩
      · rw [Request.endpoint_settings] at profiles
        split at profiles <;> exact absurd profiles (by decide)
      · exact Request.projectKey_mem_qualityProfiles project _ older

/-! ### Two spellings at a threshold, and an older server

The spellings `6.3-RC2` and `+06.003.0`, with a blank on either side, are at the threshold of the
settings service. A server of the version 6.2 is below both thresholds. -/

namespace Candidates

def release : Version.Spelling where
  before := [' ']
  parts := [{ number := 6 }, { number := 3 }]
  qualifier := some ['R', 'C', '2']
  after := [' ']
  before_blank := List.forall_mem_singleton.mpr rfl
  after_blank := List.forall_mem_singleton.mpr rfl
  parts_ne := List.cons_ne_nil _ _
  parts_le := Nat.le_of_ble_eq_true rfl

def padded : Version.Spelling where
  before := [' ']
  parts := [{ plus := true, zeros := 1, number := 6 }, { zeros := 2, number := 3 }, { number := 0 }]
  after := [' ']
  before_blank := List.forall_mem_singleton.mpr rfl
  after_blank := List.forall_mem_singleton.mpr rfl
  parts_ne := List.cons_ne_nil _ _
  parts_le := Nat.le_of_ble_eq_true rfl

def older : Version := ⟨6, 2, 0, 0, ""⟩

def client : Client := ⟨.json, some "acme"⟩

/-- The older version of the sample asks for properties. -/
theorem asks_properties : client.AsksFor older "/api/properties?format=json" := by
  refine .global Canned.transport {} ?_
  rw [(client.globalSettings_asksOnly older).asked]
  exact List.mem_cons_self

/-- It asks for profiles by the older name of the parameter. -/
theorem asks_profiles : client.AsksFor older
    "/api/qualityprofiles/search?projectKey=p&organization=acme" := by
  refine .qualityProfiles Canned.transport {} "p" ?_
  rw [(client.qualityProfiles_asksOnly older "p").asked]
  exact List.mem_cons_self

theorem gates_monotone_candidates :
    release.text = " 6.3-RC2 " ∧ padded.text = " +06.003.0 " ∧
    Version.parse " +06.003.0 " = .ok padded.version ∧
    padded.version.generation .firstWithSettings = release.version.generation .firstWithSettings ∧
    (⟨7, 0, 0, 0, ""⟩ : Version).generation .firstWithSettings = .modern ∧
    "projectKey" ∈ (⟨"/api/qualityprofiles/search",
      [("projectKey", "p"), ("organization", "acme")]⟩ : Request).names := by
  obtain ⟨-, texts, -, alike, mono, -, sessions⟩ := Version.gates_monotone
  have same := alike release padded ⟨1, rfl⟩ .firstWithSettings
  have later := mono release.version ⟨7, 0, 0, 0, ""⟩ .firstWithSettings (by decide) (by decide)
  have asked := sessions asks_properties asks_profiles (r := ⟨"/api/properties", [("format", "json")]⟩)
    rfl rfl
  exact ⟨rfl, rfl, (texts _ _).mpr ⟨padded, rfl, rfl⟩, same.2.2.1, later, asked.2 rfl rfl⟩

end Candidates

end AnalysisSettings
