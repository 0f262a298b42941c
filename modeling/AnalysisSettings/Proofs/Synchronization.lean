import AnalysisSettings.Proofs.Delivery
import AnalysisSettings.Proofs.Questions
import AnalysisSettings.Synchronizer

/-!
# A synchronization stops at its first failure

A synchronization has three stages: the global settings, the settings of the project against them,
and the quality profiles. Each stage asks one question, and what it comes to is decided by the answer
(`SettingsFailure`, `ProfilesFailure`).

`sync_stages` puts the stages together. The questions are asked in order, the first stage that fails
is the last that is asked for, and its failure is the failure of the whole.
-/

namespace AnalysisSettings

/-! ## The failures of a stage -/

/-- The payload that carries the settings of a generation. -/
def Generation.payload : Generation → PayloadKind
  | .modern => .settings
  | .legacy => .properties

/-- How a settings stage fails, by the answer to its question. -/
inductive SettingsFailure (generation : Generation) : Answer → Failure → Prop where
  /-- The failure of the transport, whatever it is. -/
  | transport (cause : TransportFailure) :
    SettingsFailure generation (.error cause) (.transport cause)
  /-- The body does not decode. -/
  | unreadable {response : Response} {reason : String}
    (refused : Codec.json.Refuses generation response.body
      (.decode generation.payload reason (Utf8.lossy response.body))) :
    SettingsFailure generation (.ok response)
      (.decode generation.payload reason (Utf8.lossy response.body))
  /-- The body decodes, and a record that is not inherited has no value; it is the first one. -/
  | withoutValue {response : Response} {before after : List Setting} {bad : Setting}
    (modern : generation = .modern)
    (decoded : Codec.json.settings response.body = .ok (before ++ bad :: after))
    (deliverable : ∀ x ∈ before, x.Deliverable) (missing : ¬ bad.Deliverable) :
    SettingsFailure generation (.ok response) (.unrecognizedValueShape bad.key)

/-- How the stage of the quality profiles fails. -/
inductive ProfilesFailure (project : String) (organization : Option String) :
    Answer → Failure → Prop where
  /-- The server knows no such resource, so it does not know the project. -/
  | unknown (url : String) :
    ProfilesFailure project organization (.error (.notFound url))
      (.projectNotFound project organization)
  /-- Any other failure of the transport. -/
  | transport {cause : TransportFailure} (found : cause.isNotFound = false) :
    ProfilesFailure project organization (.error cause) (.transport cause)
  /-- The body does not decode. -/
  | unreadable {response : Response} {reason : String}
    (refused : Codec.json.qualityProfiles response.body =
      .error (.decode .qualityProfiles reason (Utf8.lossy response.body))) :
    ProfilesFailure project organization (.ok response)
      (.decode .qualityProfiles reason (Utf8.lossy response.body))

/-- What the JSON codec refuses, it refuses as a payload of the generation, and shows it. -/
theorem Codec.decode_of_refuses {generation : Generation} {body : List UInt8} {f : Failure}
    (h : Codec.json.Refuses generation body f) :
    ∃ reason, f = .decode generation.payload reason (Utf8.lossy body) := by
  cases generation with
  | modern => exact Payload.decode_of_reporting_eq_error h
  | legacy => exact Payload.decode_of_reporting_eq_error h

/-- A settings download fails exactly for the causes of `SettingsFailure`. -/
theorem Delivery.outcome_eq_error_iff {generation : Generation} (reference : Option Snapshot)
    {answer : Answer} {f : Failure} :
    (Delivery.ofAnswer .json generation reference answer).outcome = .error f ↔
      SettingsFailure generation answer f := by
  have named : (Delivery.ofAnswer .json generation reference answer).outcome = .error f ↔
      ∃ es, Delivery.ofAnswer .json generation reference answer = ⟨es, .error f⟩ := by
    constructor
    · intro h
      exact ⟨_, by rw [← h]⟩
    · rintro ⟨es, h⟩
      rw [h]
  rw [named]
  constructor
  · rintro ⟨es, h⟩
    rcases Delivery.ofAnswer_fails_iff.mp h with ⟨cause, rfl, rfl, -⟩ |
      ⟨response, rfl, ⟨refused, -⟩ | ⟨before, bad, after, modern, read, ready, missing, rfl, -⟩⟩
    · exact .transport cause
    · obtain ⟨reason, rfl⟩ := Codec.decode_of_refuses refused
      exact .unreadable refused
    · exact .withoutValue modern read ready missing
  · intro h
    cases h with
    | transport cause => exact ⟨[], Delivery.ofAnswer_fails_iff.mpr (.inl ⟨cause, rfl, rfl, rfl⟩)⟩
    | unreadable refused =>
      exact ⟨[], Delivery.ofAnswer_fails_iff.mpr (.inr ⟨_, rfl, .inl ⟨refused, rfl⟩⟩)⟩
    | withoutValue modern decoded deliverable missing =>
      exact ⟨_, Delivery.ofAnswer_fails_iff.mpr (.inr ⟨_, rfl, .inr
        ⟨_, _, _, modern, decoded, deliverable, missing, rfl, rfl⟩⟩)⟩

/-- What the stage of the quality profiles comes to when the server gives the answer. -/
def QualityProfile.ofAnswer (codec : Codec) (project : String) (organization : Option String) :
    Answer → Except Failure (List QualityProfile)
  | .error (.notFound _) => .error (.projectNotFound project organization)
  | .error cause => .error (.transport cause)
  | .ok response => codec.qualityProfiles response.body

/-- A download of quality profiles fails exactly for the causes of `ProfilesFailure`. -/
theorem QualityProfile.ofAnswer_eq_error_iff {project : String} {organization : Option String}
    {answer : Answer} {f : Failure} :
    ofAnswer .json project organization answer = .error f ↔
      ProfilesFailure project organization answer f := by
  constructor
  · intro h
    unfold ofAnswer at h
    split at h
    · cases h
      exact .unknown _
    · next cause unknown =>
      cases h
      refine .transport ?_
      cases cause with
      | notFound url => exact absurd rfl (unknown url)
      | _ => rfl
    · obtain ⟨reason, rfl⟩ := Payload.decode_of_reporting_eq_error h
      exact .unreadable h
  · intro h
    cases h with
    | unknown url => rfl
    | @transport cause found =>
      cases cause with
      | notFound url => cases found
      | _ => rfl
    | unreadable refused => exact refused

/-! ## The stages -/

/-- A download of quality profiles is a function of its answer. -/
theorem Inquiry.run_qualityProfiles {σ : Type} (t : Transport σ) (s : σ) (codec : Codec)
    (organization : Option String) (version : Version) (project : String) :
    ((qualityProfiles codec organization version project).run t s).result =
      QualityProfile.ofAnswer codec project organization
        (t.get (Request.qualityProfiles version project organization).path s).1 := by
  rw [qualityProfiles, run]
  generalize t.get (Request.qualityProfiles version project organization).path s = exchange
  obtain ⟨answer, records, s'⟩ := exchange
  cases answer with
  | error cause => cases cause <;> rfl
  | ok response =>
    dsimp only [QualityProfile.ofAnswer]
    cases codec.qualityProfiles response.body <;> rfl

namespace Client

variable {σ : Type} (t : Transport σ) (s : σ) (organization : Option String) (version : Version)
  (project : String)

/-- The client hands on what the download gives. -/
theorem run_qualityProfiles (c : Client) :
    ((c.qualityProfiles version project).run t s).result =
      QualityProfile.ofAnswer c.codec project c.organization
        (t.get (Request.qualityProfiles version project c.organization).path s).1 := by
  rw [← Inquiry.run_qualityProfiles, qualityProfiles, Inquiry.andThenOk, Inquiry.run_andThen]
  cases (Inquiry.run t (Inquiry.qualityProfiles c.codec c.organization version project) s).result <;>
    rfl

/-- The stage of the global settings fails as its download does. -/
theorem globalSettings_fails_iff {f : Failure} :
    ((globalSettings ⟨.json, organization⟩ version).run t s).result = .error f ↔
      SettingsFailure version.settingsGeneration
        (t.get (Request.settings version.settingsGeneration none).path s).1 f := by
  rw [← Delivery.outcome_eq_error_iff none, globalSettings, Inquiry.run_andThen,
    Inquiry.run_settingsInto]
  dsimp only
  generalize Delivery.ofAnswer .json _ none _ = d
  obtain ⟨es, outcome⟩ := d
  cases outcome <;> simp [Inquiry.run]

/-- The stage of the project fails as its download does. -/
theorem projectSettings_fails_iff (global : Snapshot) {f : Failure} :
    ((projectSettings ⟨.json, organization⟩ version project global).run t s).result = .error f ↔
      SettingsFailure version.settingsGeneration
        (t.get (Request.settings version.settingsGeneration (some project)).path s).1 f := by
  rw [← Delivery.outcome_eq_error_iff (some global), run_projectSettings]
  dsimp only
  generalize Delivery.ofAnswer .json _ (some global) _ = d
  obtain ⟨es, outcome⟩ := d
  cases outcome <;> simp [Except.map]

/-- The stage of the quality profiles fails as its download does. -/
theorem qualityProfiles_fails_iff {f : Failure} :
    ((qualityProfiles ⟨.json, organization⟩ version project).run t s).result = .error f ↔
      ProfilesFailure project organization
        (t.get (Request.qualityProfiles version project organization).path s).1 f := by
  rw [run_qualityProfiles]
  exact QualityProfile.ofAnswer_eq_error_iff

end Client

/-! ## The session -/

namespace Inquiry

variable {σ α β : Type} {t : Transport σ} {s : σ} {q : Inquiry (Except Failure α)}
  {k : α → Inquiry (Except Failure β)} {path : String}

/-- Behind a success of its one question the inquiry goes on. -/
theorem AsksOnly.andThenOk_of_ok {a : α} (once : q.AsksOnly path)
    (h : (q.run t s).result = .ok a) :
    ((q.andThenOk k).run t s).result = ((k a).run t (t.get path s).2.2).result ∧
      ((q.andThenOk k).run t s).state = ((k a).run t (t.get path s).2.2).state ∧
      (q.andThenOk k).asked t s = path :: (k a).asked t (t.get path s).2.2 := by
  simp [andThenOk, h, once.state, once.asked]

/-- Behind a failure nothing more is asked. -/
theorem AsksOnly.andThenOk_of_error {f : Failure} (once : q.AsksOnly path)
    (h : (q.run t s).result = .error f) :
    ((q.andThenOk k).run t s).result = .error f ∧ (q.andThenOk k).asked t s = [path] := by
  simp [andThenOk, h, once.asked]

end Inquiry

namespace Client

variable {σ : Type} (t : Transport σ) (s : σ) (c : Client) (version : Version) (project : String)

/-- The three paths that a synchronization asks for, in their order. -/
def syncPaths : List String :=
  [(Request.settings version.settingsGeneration none).path,
    (Request.settings version.settingsGeneration (some project)).path,
    (Request.qualityProfiles version project c.organization).path]

variable {t s version project}

/-- The four ways of a session: it ends at one of its stages, or it passes them all. The transport is
in the state `s₁` after the first answer, and in `s₂` after the second. -/
theorem sync_run {s₁ s₂ : σ}
    (h₁ : s₁ = (t.get (Request.settings version.settingsGeneration none).path s).2.2)
    (h₂ : s₂ = (t.get (Request.settings version.settingsGeneration (some project)).path s₁).2.2) :
    (∃ f, ((c.globalSettings version).run t s).result = .error f ∧
      ((c.sync version project).run t s).result = .error f ∧
      (c.sync version project).asked t s = (c.syncPaths version project).take 1) ∨
    (∃ global f, ((c.globalSettings version).run t s).result = .ok global ∧
      ((c.projectSettings version project global).run t s₁).result = .error f ∧
      ((c.sync version project).run t s).result = .error f ∧
      (c.sync version project).asked t s = (c.syncPaths version project).take 2) ∨
    (∃ global settings f, ((c.globalSettings version).run t s).result = .ok global ∧
      ((c.projectSettings version project global).run t s₁).result = .ok settings ∧
      ((c.qualityProfiles version project).run t s₂).result = .error f ∧
      ((c.sync version project).run t s).result = .error f ∧
      (c.sync version project).asked t s = c.syncPaths version project) ∨
    ∃ global settings profiles, ((c.globalSettings version).run t s).result = .ok global ∧
      ((c.projectSettings version project global).run t s₁).result = .ok settings ∧
      ((c.qualityProfiles version project).run t s₂).result = .ok profiles ∧
      ((c.sync version project).run t s).result = .ok ⟨global, settings, profiles⟩ ∧
      (c.sync version project).asked t s = c.syncPaths version project := by
  have first := c.globalSettings_asksOnly version
  have third := c.qualityProfiles_asksOnly version project
  cases hglobal : ((c.globalSettings version).run t s).result with
  | error f =>
    obtain ⟨result, asked⟩ := first.andThenOk_of_error hglobal
    exact .inl ⟨f, rfl, result, asked⟩
  | ok global =>
    obtain ⟨result, -, asked⟩ := first.andThenOk_of_ok hglobal
    rw [← h₁] at result asked
    have second := c.projectSettings_asksOnly version project global
    cases hsettings : ((c.projectSettings version project global).run t s₁).result with
    | error f =>
      obtain ⟨result', asked'⟩ := second.andThenOk_of_error hsettings
      exact .inr (.inl ⟨global, f, rfl, hsettings, result.trans result',
        asked.trans (congrArg (List.cons _) asked')⟩)
    | ok settings =>
      obtain ⟨result', -, asked'⟩ := second.andThenOk_of_ok hsettings
      rw [← h₂] at result' asked'
      cases hprofiles : ((c.qualityProfiles version project).run t s₂).result with
      | error f =>
        obtain ⟨result'', asked''⟩ := third.andThenOk_of_error hprofiles
        exact .inr (.inr (.inl ⟨global, settings, f, rfl, hsettings, rfl,
          result.trans (result'.trans result''), asked.trans (congrArg (List.cons _)
            (asked'.trans (congrArg (List.cons _) asked'')))⟩))
      | ok profiles =>
        obtain ⟨result'', -, asked''⟩ := third.andThenOk_of_ok hprofiles
        exact .inr (.inr (.inr ⟨global, settings, profiles, rfl, hsettings, rfl,
          result.trans (result'.trans result''), asked.trans (congrArg (List.cons _)
            (asked'.trans (congrArg (List.cons _) asked'')))⟩))

/-- What a session asks for are the first of its paths. -/
theorem asked_sync : (c.sync version project).asked t s <+: c.syncPaths version project := by
  rcases c.sync_run rfl rfl with ⟨f, -, -, asked⟩ | ⟨global, f, -, -, -, asked⟩ |
    ⟨global, settings, f, -, -, -, -, asked⟩ | ⟨global, settings, profiles, -, -, -, -, asked⟩
  · rw [asked]
    exact List.take_prefix _ _
  · rw [asked]
    exact List.take_prefix _ _
  · exact asked ▸ List.prefix_rfl
  · exact asked ▸ List.prefix_rfl

end Client

/-- **A synchronization stops at its first failure and reports its cause.** It succeeds exactly if
its three stages do, and then its parts are their results: the global settings, the settings of the
project against exactly these, and the profiles. It fails with `f` exactly if its first stage fails
with `f`, or the second after a success of the first, or the third after a success of both. The paths
are asked for in their order, none twice, and that of the failing stage is the last. -/
theorem sync_stages {σ : Type} (t : Transport σ) (s : σ) (config : Config) (version : Version)
    (project : String) :
    let c := Synchronizer.clientOf config
    let globalPath := (Request.settings version.settingsGeneration none).path
    let projectPath := (Request.settings version.settingsGeneration (some project)).path
    let profilesPath := (Request.qualityProfiles version project config.organization).path
    let s₁ := (t.get globalPath s).2.2
    let s₂ := (t.get projectPath s₁).2.2
    let result := ((c.sync version project).run t s).result
    let asked := (c.sync version project).asked t s
    (∀ all, result = .ok all ↔
      asked = [globalPath, projectPath, profilesPath] ∧
      ((c.globalSettings version).run t s).result = .ok all.global ∧
      ((c.projectSettings version project all.global).run t s₁).result = .ok all.project ∧
      ((c.qualityProfiles version project).run t s₂).result = .ok all.qualityProfiles) ∧
    (∀ f, result = .error f ↔
      (asked = [globalPath] ∧
        SettingsFailure version.settingsGeneration (t.get globalPath s).1 f) ∨
      (∃ global, asked = [globalPath, projectPath] ∧
        ((c.globalSettings version).run t s).result = .ok global ∧
        SettingsFailure version.settingsGeneration (t.get projectPath s₁).1 f) ∨
      ∃ global settings, asked = [globalPath, projectPath, profilesPath] ∧
        ((c.globalSettings version).run t s).result = .ok global ∧
        ((c.projectSettings version project global).run t s₁).result = .ok settings ∧
        ProfilesFailure project config.organization (t.get profilesPath s₂).1 f) := by
  intro c globalPath projectPath profilesPath s₁ s₂ result asked
  have first : ∀ f, SettingsFailure version.settingsGeneration (t.get globalPath s).1 f ↔
      ((c.globalSettings version).run t s).result = .error f :=
    fun _ => (Client.globalSettings_fails_iff t s _ version).symm
  have second : ∀ global f, SettingsFailure version.settingsGeneration (t.get projectPath s₁).1 f ↔
      ((c.projectSettings version project global).run t s₁).result = .error f :=
    fun global _ => (Client.projectSettings_fails_iff t s₁ _ version project global).symm
  have third : ∀ f, ProfilesFailure project config.organization (t.get profilesPath s₂).1 f ↔
      ((c.qualityProfiles version project).run t s₂).result = .error f :=
    fun _ => (Client.qualityProfiles_fails_iff t s₂ _ version project).symm
  rcases c.sync_run (rfl : s₁ = _) (rfl : s₂ = _) with ⟨f, hglobal, hresult, hasked⟩ |
    ⟨global, f, hglobal, hsettings, hresult, hasked⟩ |
    ⟨global, settings, f, hglobal, hsettings, hprofiles, hresult, hasked⟩ |
    ⟨global, settings, profiles, hglobal, hsettings, hprofiles, hresult, hasked⟩
  · have hasked : asked = [globalPath] := hasked
    simp [result, hresult, hasked, hglobal, first]
  · have hasked : asked = [globalPath, projectPath] := hasked
    simp [result, hresult, hasked, hglobal, hsettings, first, second global]
  · have hasked : asked = [globalPath, projectPath, profilesPath] := hasked
    simp [result, hresult, hasked, hglobal, hsettings, hprofiles, first, third]
  · have hasked : asked = [globalPath, projectPath, profilesPath] := hasked
    refine ⟨fun all => ?_, fun f => ?_⟩
    · obtain ⟨global', settings', profiles'⟩ := all
      rw [hasked, hglobal]
      simp only [result, hresult, Except.ok.injEq, ProjectSync.mk.injEq]
      constructor
      · rintro ⟨rfl, rfl, rfl⟩
        exact ⟨trivial, rfl, hsettings, hprofiles⟩
      · rintro ⟨-, rfl, hsettings', hprofiles'⟩
        rw [hsettings] at hsettings'
        rw [hprofiles] at hprofiles'
        cases hsettings'
        cases hprofiles'
        exact ⟨rfl, rfl, rfl⟩
    · simp [result, hresult, hasked, hglobal, hprofiles, third]

end AnalysisSettings
