import AnalysisSettings.Config.Basic
import AnalysisSettings.Proofs.Except
import Mathlib.Data.List.Nodup
import Mathlib.Data.List.Pairwise
import Mathlib.Tactic.MkIffOfInductiveProp

/-!
# What a layer assigns

A layer is gone through in ascending order of its names, each of which gives one field its value. What
an assignment refuses does not depend on the configuration so far (`Refused`), and as no name comes
twice, none undoes another. So a whole layer assigns what its values stand for, name by name
(`Reading`), and if it fails, it fails at its first name that is unknown or has an unsuitable value
(`FirstFault`): `foldlM_assign_eq_ok_iff` and `foldlM_assign_eq_error_iff` are the inductions over the
layer, `ofLayer_eq_ok_iff` and `ofLayer_eq_error_iff` what follows for it in any order.

Values are selected by a function of the name here, of which the lookup in a layer is one, so that
layers can be told apart and put together name by name (`Reading.or_iff`, `Reading.or_base`).
-/

namespace AnalysisSettings.Config

/-! ## Values for a field -/

namespace Value

/-- The text of a value that is one; a single character is a text too. -/
def asText? : Value → Option String
  | .text s => some s
  | .char c => some (String.singleton c)
  | _ => none

/-- Texts, characters, truth values, and numbers, except for whole numbers beyond 64 bits. -/
inductive IsScalar : Value → Prop
  | text (s : String) : IsScalar (.text s)
  | char (c : Char) : IsScalar (.char c)
  | bool (b : Bool) : IsScalar (.bool b)
  | unsigned (n : Nat) : IsScalar (.unsigned n)
  | signed (i : Int) : IsScalar (.signed i)
  | float (x : Float) : IsScalar (.float x)

/-- The scalars are the values that have a text. -/
theorem isSome_text?_iff {v : Value} : v.text?.isSome = true ↔ v.IsScalar := by
  constructor
  · intro h
    cases v with
    | text | char | bool | unsigned | signed | float => constructor
    | wide | null | list | map => cases h
  · rintro (_ | _ | _ | _ | _ | _) <;> rfl

/-- The length of time that a value stands for. -/
def duration? (v : Value) : Option Duration :=
  v.asText?.bind Duration.read?

end Value

/-- The fields that are texts. -/
def textFieldNames : List String :=
  ["server_url", "organization", "user_agent"]

/-- The field of a name takes the value: the timeout takes the text of a length of time, the other
fields take scalars. -/
def Suits (name : String) (v : Value) : Prop :=
  if name = "request_timeout" then v.duration?.isSome = true else v.IsScalar

/-! ## One assignment -/

/-- An entry that no configuration takes, with the error. -/
inductive Refused : String → Value → LoadError → Prop
  | unknown {name : String} {v : Value} (h : name ∉ fieldNames) :
    Refused name v (.unknownField name)
  | notScalar {name : String} {v : Value}
    (h : name ∈ textFieldNames) (hv : ¬ v.IsScalar) :
    Refused name v (.invalidType name v "a string or a scalar value")
  | notText {v : Value} (hv : v.asText? = none) :
    Refused "request_timeout" v (.invalidType "request_timeout" v "a duration")
  | noDuration {v : Value} {s : String} (hv : v.asText? = some s) (hs : Duration.read? s = none) :
    Refused "request_timeout" v (.invalidValue "request_timeout" s "a duration")

/-- The error names the field. -/
theorem Refused.path_eq {name : String} {v : Value} {e : LoadError} (h : Refused name v e) :
    e.path = [name] := by
  cases h <;> rfl

/-- A value is read as its text. -/
theorem readText_eq_ok_iff {name s : String} {v : Value} :
    readText name v = .ok s ↔ v.text? = some s := by
  rw [readText]
  cases v.text? <;> simp

/-- Only values that are no scalars are refused where a text is wanted. -/
theorem readText_eq_error_iff {name : String} {v : Value} {e : LoadError} :
    readText name v = .error e ↔
      ¬ v.IsScalar ∧ e = .invalidType name v "a string or a scalar value" := by
  rw [readText, ← Value.isSome_text?_iff]
  cases v.text? <;> simp [eq_comm]

/-- The two steps in which a length of time is read. -/
theorem readDuration_eq (name : String) (v : Value) :
    readDuration name v =
      match v.asText? with
      | none => .error (.invalidType name v "a duration")
      | some s =>
        match Duration.read? s with
        | none => .error (.invalidValue name s "a duration")
        | some t => .ok t := by
  cases v with
  | text s =>
    simp only [readDuration, Value.asText?]
    cases Duration.read? s <;> rfl
  | char c =>
    simp only [readDuration, Value.asText?]
    cases Duration.read? (String.singleton c) <;> rfl
  | bool | unsigned | signed | wide | float | null | list | map => rfl

/-- A value is read as the duration that its text is. -/
theorem readDuration_eq_ok_iff {name : String} {v : Value} {t : Duration} :
    readDuration name v = .ok t ↔ v.duration? = some t := by
  rw [readDuration_eq, Value.duration?]
  cases v.asText? with
  | none => simp
  | some s =>
    simp only [Option.bind_some]
    cases Duration.read? s <;> simp

/-- Values are refused as durations that are no texts, or texts that are no durations. -/
theorem readDuration_eq_error_iff {name : String} {v : Value} {e : LoadError} :
    readDuration name v = .error e ↔
      v.asText? = none ∧ e = .invalidType name v "a duration" ∨
      ∃ s, v.asText? = some s ∧ Duration.read? s = none ∧ e = .invalidValue name s "a duration" := by
  rw [readDuration_eq]
  cases v.asText? with
  | none => simp [eq_comm]
  | some s =>
    cases h : Duration.read? s <;> simp [h, eq_comm]

/-- A text field refuses the values that are no scalars. -/
theorem refused_text_iff {name : String} {v : Value} {e : LoadError} (h : name ∈ textFieldNames) :
    Refused name v e ↔ ¬ v.IsScalar ∧ e = .invalidType name v "a string or a scalar value" := by
  constructor
  · intro refused
    cases refused with
    | unknown unknown =>
      have known : textFieldNames ⊆ fieldNames := by decide
      exact absurd (known h) unknown
    | notScalar _ hv => exact ⟨hv, rfl⟩
    | notText | noDuration => exact absurd h (by decide)
  · rintro ⟨hv, rfl⟩
    exact .notScalar h hv

/-- The timeout refuses the values that are no durations. -/
theorem refused_timeout_iff {v : Value} {e : LoadError} :
    Refused "request_timeout" v e ↔
      v.asText? = none ∧ e = .invalidType "request_timeout" v "a duration" ∨
      ∃ s, v.asText? = some s ∧ Duration.read? s = none ∧
        e = .invalidValue "request_timeout" s "a duration" := by
  constructor
  · intro refused
    cases refused with
    | unknown unknown => exact absurd (by decide) unknown
    | notScalar h => exact absurd h (by decide)
    | notText hv => exact .inl ⟨hv, rfl⟩
    | noDuration hv hs => exact .inr ⟨_, hv, hs, rfl⟩
  · rintro (⟨hv, rfl⟩ | ⟨s, hv, hs, rfl⟩)
    · exact .notText hv
    · exact .noDuration hv hs

/-- The fields are the text fields and the timeout. -/
theorem mem_fieldNames_iff {name : String} :
    name ∈ fieldNames ↔ name ∈ textFieldNames ∨ name = "request_timeout" := by
  simp only [fieldNames, textFieldNames, List.mem_cons, List.not_mem_nil, or_false]
  tauto

/-- The scalars suit a text field. -/
theorem suits_text_iff {name : String} {v : Value} (h : name ∈ textFieldNames) :
    Suits name v ↔ v.IsScalar := by
  have other : name ≠ "request_timeout" := fun eq => absurd (eq ▸ h) (by decide)
  rw [Suits, if_neg other]

/-- The durations suit the timeout. -/
theorem suits_timeout_iff {v : Value} :
    Suits "request_timeout" v ↔ ∃ t, v.duration? = some t := by
  rw [Suits, if_pos rfl, Option.isSome_iff_exists]

/-- An entry is refused if its name is unknown or its value does not suit. -/
theorem exists_refused_iff {name : String} {v : Value} :
    (∃ e, Refused name v e) ↔ name ∉ fieldNames ∨ ¬ Suits name v := by
  by_cases known : name ∈ fieldNames
  · rw [or_iff_right (not_not_intro known)]
    rcases mem_fieldNames_iff.mp known with text | rfl
    · simp only [refused_text_iff text, suits_text_iff text, exists_and_left, exists_eq, and_true]
    · simp only [refused_timeout_iff, suits_timeout_iff, Value.duration?]
      cases v.asText? with
      | none => simp
      | some s => cases h : Duration.read? s <;> simp [h]
  · exact ⟨fun _ => .inl known, fun _ => ⟨_, .unknown known⟩⟩

/-- A field that does not exist cannot be assigned. -/
theorem assign_unknown {name : String} (h : name ∉ fieldNames) (c : Config) (v : Value) :
    c.assign (name, v) = .error (.unknownField name) := by
  simp only [fieldNames, List.mem_cons, List.not_mem_nil, or_false, not_or] at h
  obtain ⟨server, organization, timeout, agent⟩ := h
  simp only [assign]

/-- An assignment fails exactly if its entry is refused, whatever came before. -/
theorem assign_eq_error_iff {c : Config} {name : String} {v : Value} {e : LoadError} :
    c.assign (name, v) = .error e ↔ Refused name v e := by
  by_cases known : name ∈ fieldNames
  · simp only [fieldNames, List.mem_cons, List.not_mem_nil, or_false] at known
    rcases known with rfl | rfl | rfl | rfl
    · show (readText _ v).map _ = _ ↔ _
      rw [map_eq_error, readText_eq_error_iff, refused_text_iff (by decide)]
    · show (readText _ v).map _ = _ ↔ _
      rw [map_eq_error, readText_eq_error_iff, refused_text_iff (by decide)]
    · show (readDuration _ v).map _ = _ ↔ _
      rw [map_eq_error, readDuration_eq_error_iff, refused_timeout_iff]
    · show (readText _ v).map _ = _ ↔ _
      rw [map_eq_error, readText_eq_error_iff, refused_text_iff (by decide)]
  · rw [assign_unknown known]
    constructor
    · rintro ⟨rfl⟩
      exact .unknown known
    · intro refused
      cases refused with
      | unknown => rfl
      | notScalar h => exact absurd (mem_fieldNames_iff.mpr (.inl h)) known
      | notText | noDuration => exact absurd (by decide) known

/-- A value can be assigned unless it is refused. -/
theorem exists_assign_iff {c : Config} {name : String} {v : Value} :
    (∃ c', c.assign (name, v) = .ok c') ↔ ∀ e, ¬ Refused name v e := by
  simp only [← @assign_eq_error_iff c]
  cases c.assign (name, v) <;> simp

/-! ## What is read -/

/-- **The reading of selected values**: a field has the reading of its value, or the value that it has
in `base` where none is selected. -/
@[mk_iff]
structure Reading (base : Config) (select : String → Option Value) (c : Config) : Prop where
  serverUrl : (select "server_url").elim (some base.serverUrl) Value.text? = some c.serverUrl
  organization : (select "organization").elim (some base.organization)
    (fun v => v.text?.map some) = some c.organization
  requestTimeout : (select "request_timeout").elim (some base.requestTimeout) Value.duration? =
    some c.requestTimeout
  userAgent : (select "user_agent").elim (some base.userAgent) Value.text? = some c.userAgent

/-- A selected value must have a reading. -/
theorem exists_elim_eq_some {α : Type} (a : α) (read : Value → Option α) {v? : Option Value}
    (h : ∀ v, v? = some v → ∃ b, read v = some b) : ∃ b, v?.elim (some a) read = some b := by
  cases v? with
  | none => exact ⟨a, rfl⟩
  | some v => exact h v rfl

/-- Of two layers of which one has nothing, each reads its own part. -/
theorem elim_or_iff {α : Type} {a c : α} {read : Value → Option α} {v? w? : Option Value}
    (apart : v? = none ∨ w? = none) :
    (v?.or w?).elim (some a) read = some c ↔
      ∃ b, v?.elim (some a) read = some b ∧ w?.elim (some b) read = some c := by
  rcases apart with rfl | rfl
  · simp
  · simp [eq_comm]

/-- What the lower layer reads is the default of the upper one. -/
theorem elim_or_of_elim {α : Type} {a b : α} {read : Value → Option α} {v? w? : Option Value}
    (h : w?.elim (some a) read = some b) :
    (v?.or w?).elim (some a) read = v?.elim (some b) read := by
  cases v? with
  | none => exact h
  | some v => rfl

/-- The configurations differ in the field of the name only. -/
structure SameBut (field : String) (c c' : Config) : Prop where
  serverUrl : field ≠ "server_url" → c'.serverUrl = c.serverUrl
  organization : field ≠ "organization" → c'.organization = c.organization
  requestTimeout : field ≠ "request_timeout" → c'.requestTimeout = c.requestTimeout
  userAgent : field ≠ "user_agent" → c'.userAgent = c.userAgent

namespace Reading

variable {base c c' : Config} {select select' : String → Option Value}

/-- A reading leaves one configuration. -/
theorem unique (h : Reading base select c) (h' : Reading base select c') : c = c' := by
  obtain ⟨url, organization, timeout, agent⟩ := c
  obtain ⟨url', organization', timeout', agent'⟩ := c'
  rw [mk.injEq]
  exact ⟨Option.some.inj (h.serverUrl.symm.trans h'.serverUrl),
    Option.some.inj (h.organization.symm.trans h'.organization),
    Option.some.inj (h.requestTimeout.symm.trans h'.requestTimeout),
    Option.some.inj (h.userAgent.symm.trans h'.userAgent)⟩

/-- Selected values have a reading exactly if each of them suits its field. -/
theorem exists_iff : (∃ c, Reading base select c) ↔
    ∀ name ∈ fieldNames, ∀ v, select name = some v → Suits name v := by
  have text {name : String} (h : name ∈ textFieldNames) (v : Value) :
      Suits name v ↔ ∃ s, v.text? = some s := by
    rw [suits_text_iff h, ← Value.isSome_text?_iff, Option.isSome_iff_exists]
  constructor
  · rintro ⟨c, h⟩ name known v selected
    simp only [fieldNames, List.mem_cons, List.not_mem_nil, or_false] at known
    rcases known with rfl | rfl | rfl | rfl
    · have read := h.serverUrl
      rw [selected] at read
      exact (text (by decide) v).mpr ⟨_, read⟩
    · have read := h.organization
      rw [selected] at read
      obtain ⟨s, hs, -⟩ := Option.map_eq_some_iff.mp read
      exact (text (by decide) v).mpr ⟨s, hs⟩
    · have read := h.requestTimeout
      rw [selected] at read
      exact suits_timeout_iff.mpr ⟨_, read⟩
    · have read := h.userAgent
      rw [selected] at read
      exact (text (by decide) v).mpr ⟨_, read⟩
  · intro suits
    obtain ⟨url, hurl⟩ := exists_elim_eq_some base.serverUrl Value.text? fun v h =>
      (text (by decide) v).mp (suits "server_url" (by decide) v h)
    obtain ⟨organization, horganization⟩ := exists_elim_eq_some base.organization
      (fun v => v.text?.map some) fun v h => by
        obtain ⟨s, hs⟩ := (text (by decide) v).mp (suits "organization" (by decide) v h)
        exact ⟨some s, by rw [hs, Option.map_some]⟩
    obtain ⟨timeout, htimeout⟩ := exists_elim_eq_some base.requestTimeout Value.duration? fun v h =>
      suits_timeout_iff.mp (suits "request_timeout" (by decide) v h)
    obtain ⟨agent, hagent⟩ := exists_elim_eq_some base.userAgent Value.text? fun v h =>
      (text (by decide) v).mp (suits "user_agent" (by decide) v h)
    exact ⟨⟨url, organization, timeout, agent⟩, hurl, horganization, htimeout, hagent⟩

/-- A selected value that has a reading is not refused. -/
theorem not_refused (h : Reading base select c) {name : String} (known : name ∈ fieldNames) {v : Value}
    (found : select name = some v) (e : LoadError) : ¬ Refused name v e := fun refused => by
  rcases exists_refused_iff.mp ⟨e, refused⟩ with unknown | unsuited
  · exact absurd known unknown
  · exact absurd (exists_iff.mp ⟨c, h⟩ name known v found) unsuited

/-- Two selections one after the other, no name in both, are read like one. -/
theorem or_iff (apart : ∀ name, select name = none ∨ select' name = none) :
    Reading base (fun name => (select name).or (select' name)) c' ↔
      ∃ c, Reading base select c ∧ Reading c select' c' := by
  constructor
  · intro h
    obtain ⟨url, hurl, hurl'⟩ := (elim_or_iff (apart _)).mp h.serverUrl
    obtain ⟨organization, horganization, horganization'⟩ := (elim_or_iff (apart _)).mp h.organization
    obtain ⟨timeout, htimeout, htimeout'⟩ := (elim_or_iff (apart _)).mp h.requestTimeout
    obtain ⟨agent, hagent, hagent'⟩ := (elim_or_iff (apart _)).mp h.userAgent
    exact ⟨⟨url, organization, timeout, agent⟩, ⟨hurl, horganization, htimeout, hagent⟩,
      ⟨hurl', horganization', htimeout', hagent'⟩⟩
  · rintro ⟨c, h, h'⟩
    exact ⟨(elim_or_iff (apart _)).mpr ⟨_, h.serverUrl, h'.serverUrl⟩,
      (elim_or_iff (apart _)).mpr ⟨_, h.organization, h'.organization⟩,
      (elim_or_iff (apart _)).mpr ⟨_, h.requestTimeout, h'.requestTimeout⟩,
      (elim_or_iff (apart _)).mpr ⟨_, h.userAgent, h'.userAgent⟩⟩

/-- Values behind others matter as far as what they are read as is the base of the others. -/
theorem or_base (h : Reading base select' c') :
    Reading base (fun name => (select name).or (select' name)) c ↔ Reading c' select c := by
  simp only [reading_iff, elim_or_of_elim h.serverUrl, elim_or_of_elim h.organization,
    elim_or_of_elim h.requestTimeout, elim_or_of_elim h.userAgent]

/-- Selections that differ under one name are read alike elsewhere. -/
theorem sameBut {field : String} (other : ∀ name, name ≠ field → select' name = select name)
    (h : Reading base select c) (h' : Reading base select' c') : SameBut field c c' := by
  have same {α : Type} {read : Value → Option α} {a b b' : α} {name : String} (ne : field ≠ name)
      (read_eq : (select name).elim (some a) read = some b)
      (read_eq' : (select' name).elim (some a) read = some b') : b' = b := by
    rw [other name ne.symm, read_eq] at read_eq'
    exact (Option.some.inj read_eq').symm
  exact ⟨fun ne => same ne h.serverUrl h'.serverUrl,
    fun ne => same ne h.organization h'.organization,
    fun ne => same ne h.requestTimeout h'.requestTimeout,
    fun ne => same ne h.userAgent h'.userAgent⟩

end Reading

/-- An assignment reads its one value. -/
theorem assign_reading {c c' : Config} {name : String} {v : Value}
    (h : c.assign (name, v) = .ok c') :
    name ∈ fieldNames ∧ Reading c (fun n => [(name, v)].lookup n) c' := by
  by_cases known : name ∈ fieldNames
  · refine ⟨known, ?_⟩
    simp only [fieldNames, List.mem_cons, List.not_mem_nil, or_false] at known
    rcases known with rfl | rfl | rfl | rfl
    · obtain ⟨s, hs, rfl⟩ := map_eq_ok.mp (show (readText _ v).map _ = _ from h)
      exact ⟨readText_eq_ok_iff.mp hs, rfl, rfl, rfl⟩
    · obtain ⟨s, hs, rfl⟩ := map_eq_ok.mp (show (readText _ v).map _ = _ from h)
      exact ⟨rfl, congrArg (Option.map some) (readText_eq_ok_iff.mp hs), rfl, rfl⟩
    · obtain ⟨t, ht, rfl⟩ := map_eq_ok.mp (show (readDuration _ v).map _ = _ from h)
      exact ⟨rfl, rfl, readDuration_eq_ok_iff.mp ht, rfl⟩
    · obtain ⟨s, hs, rfl⟩ := map_eq_ok.mp (show (readText _ v).map _ = _ from h)
      exact ⟨rfl, rfl, rfl, readText_eq_ok_iff.mp hs⟩
  · rw [assign_unknown known] at h
    cases h

/-- Assigning a field reads a layer with this field only. -/
theorem assign_eq_ok_iff {c c' : Config} {name : String} {v : Value} :
    c.assign (name, v) = .ok c' ↔
      name ∈ fieldNames ∧ Reading c (fun n => [(name, v)].lookup n) c' := by
  refine ⟨assign_reading, fun ⟨known, h⟩ => ?_⟩
  obtain ⟨c₁, assigned⟩ := exists_assign_iff.mpr (h.not_refused known List.lookup_cons_self)
  rw [assigned, (assign_reading assigned).2.unique h]

/-! ## The first fault -/

/-- The value selected under the name is refused with the error. -/
def Faulty (select : String → Option Value) (name : String) (e : LoadError) : Prop :=
  ∃ v, select name = some v ∧ Refused name v e

/-- **The first fault of a selection**: the error of a name, and no smaller name has any. -/
def FirstFault (select : String → Option Value) (e : LoadError) : Prop :=
  ∃ name, Faulty select name e ∧ ∀ earlier < name, ∀ e', ¬ Faulty select earlier e'

/-- Values that are read as the configuration they are put into add no fault. -/
theorem faulty_or_iff {base : Config} {select defaults : String → Option Value}
    (h : Reading base defaults base)
    (known : ∀ name v, defaults name = some v → name ∈ fieldNames) {name : String} {e : LoadError} :
    Faulty (fun name => (select name).or (defaults name)) name e ↔ Faulty select name e := by
  constructor
  · rintro ⟨v, selected, refused⟩
    rcases Option.or_eq_some_iff.mp selected with selected | ⟨-, default⟩
    · exact ⟨v, selected, refused⟩
    · exact absurd refused (h.not_refused (known name v default) default e)
  · rintro ⟨v, selected, refused⟩
    exact ⟨v, Option.or_eq_some_iff.mpr (.inl selected), refused⟩

/-! ## Looking a name up -/

/-- A field in front of others hides those of its name. -/
theorem lookup_cons_eq_some_iff {layer : Layer} {n name : String} {v w : Value} :
    List.lookup name ((n, v) :: layer) = some w ↔
      name = n ∧ v = w ∨ name ≠ n ∧ layer.lookup name = some w := by
  rw [List.lookup_cons]
  by_cases h : name = n
  · simp [h]
  · simp [h, beq_false_of_ne h]

/-- A name that no field has is not found. -/
theorem lookup_eq_none_of_not_mem {layer : Layer} {name : String} (h : name ∉ layer.map Prod.fst) :
    layer.lookup name = none := by
  refine List.lookup_eq_none_iff.mpr fun f hf => bne_iff_ne.mpr fun same => h ?_
  exact List.mem_map.mpr ⟨f, hf, same.symm⟩

/-- What is found is there. -/
theorem mem_of_lookup {layer : Layer} {name : String} {v : Value}
    (h : layer.lookup name = some v) : (name, v) ∈ layer := by
  obtain ⟨before, after, rfl, -⟩ := List.lookup_eq_some_iff.mp h
  exact List.mem_append_right _ List.mem_cons_self

/-- A value is found for every name that is there. -/
theorem exists_lookup_iff {layer : Layer} {name : String} :
    (∃ v, layer.lookup name = some v) ↔ ∃ v, (name, v) ∈ layer := by
  constructor
  · rintro ⟨v, h⟩
    exact ⟨v, mem_of_lookup h⟩
  · rintro ⟨v, h⟩
    refine Option.ne_none_iff_exists'.mp fun absent => ?_
    exact absurd rfl (bne_iff_ne.mp (List.lookup_eq_none_iff.mp absent _ h))

/-- Where no name is repeated, everything is found. -/
theorem lookup_eq_some_iff_mem {layer : Layer} (distinct : (layer.map Prod.fst).Nodup)
    {name : String} {v : Value} : layer.lookup name = some v ↔ (name, v) ∈ layer := by
  refine ⟨mem_of_lookup, fun h => ?_⟩
  induction layer with
  | nil => cases h
  | cons f layer ih =>
    obtain ⟨hf, distinct⟩ := List.nodup_cons.mp distinct
    rcases List.mem_cons.mp h with rfl | h
    · exact List.lookup_cons_self
    · have other : name ≠ f.1 := fun same => hf (List.mem_map.mpr ⟨_, h, same⟩)
      exact lookup_cons_eq_some_iff.mpr (.inr ⟨other, ih distinct h⟩)

/-- A field in front of others of other names is at fault by itself, or one of the others is. -/
theorem faulty_cons_iff {layer : Layer} {n name : String} {v : Value} {e : LoadError}
    (absent : layer.lookup n = none) :
    Faulty (fun n' => List.lookup n' ((n, v) :: layer)) name e ↔
      name = n ∧ Refused n v e ∨ Faulty (fun n' => layer.lookup n') name e := by
  constructor
  · rintro ⟨w, h, refused⟩
    rcases lookup_cons_eq_some_iff.mp h with ⟨rfl, rfl⟩ | ⟨-, h⟩
    · exact .inl ⟨rfl, refused⟩
    · exact .inr ⟨w, h, refused⟩
  · rintro (⟨rfl, refused⟩ | ⟨w, h, refused⟩)
    · exact ⟨v, List.lookup_cons_self, refused⟩
    · have other : name ≠ n := by
        rintro rfl
        exact absurd (absent.symm.trans h) nofun
      exact ⟨w, lookup_cons_eq_some_iff.mpr (.inr ⟨other, h⟩), refused⟩

/-- A layer whose first name is the least fails there, or else behind. -/
theorem firstFault_cons_iff {layer : Layer} {n : String} {v : Value} {e : LoadError}
    (behind : ∀ name w, layer.lookup name = some w → n < name) :
    FirstFault (fun name => List.lookup name ((n, v) :: layer)) e ↔
      Refused n v e ∨ (∀ e', ¬ Refused n v e') ∧ FirstFault (fun name => layer.lookup name) e := by
  have absent : layer.lookup n = none :=
    Option.eq_none_iff_forall_ne_some.mpr fun w found => String.lt_irrefl n (behind n w found)
  constructor
  · rintro ⟨name, faulty, least⟩
    rcases (faulty_cons_iff absent).mp faulty with ⟨-, refused⟩ | faulty
    · exact .inl refused
    · obtain ⟨w, found, -⟩ := id faulty
      refine .inr ⟨fun e' refused => ?_, name, faulty, fun earlier lt e' faulty => ?_⟩
      · exact least n (behind _ _ found) e' ((faulty_cons_iff absent).mpr (.inl ⟨rfl, refused⟩))
      · exact least earlier lt e' ((faulty_cons_iff absent).mpr (.inr faulty))
  · rintro (refused | ⟨accepted, name, faulty, least⟩)
    · refine ⟨n, (faulty_cons_iff absent).mpr (.inl ⟨rfl, refused⟩), fun earlier lt e' faulty => ?_⟩
      rcases (faulty_cons_iff absent).mp faulty with ⟨rfl, -⟩ | ⟨w, found, -⟩
      · exact String.lt_irrefl _ lt
      · exact String.lt_asymm lt (behind _ _ found)
    · refine ⟨name, (faulty_cons_iff absent).mpr (.inr faulty), fun earlier lt e' faulty => ?_⟩
      rcases (faulty_cons_iff absent).mp faulty with ⟨-, refused⟩ | faulty
      · exact accepted e' refused
      · exact least earlier lt e' faulty

/-! ## Assignments one after the other -/

/-- Assignments to distinct names succeed exactly if all names are known and the values have a
reading, and that is the configuration. -/
theorem foldlM_assign_eq_ok_iff {layer : Layer} (distinct : (layer.map Prod.fst).Nodup)
    {c c' : Config} :
    layer.foldlM assign c = .ok c' ↔
      (∀ f ∈ layer, f.1 ∈ fieldNames) ∧ Reading c (fun n => layer.lookup n) c' := by
  induction layer generalizing c with
  | nil =>
    constructor
    · rintro ⟨rfl⟩
      exact ⟨fun f hf => absurd hf List.not_mem_nil, ⟨rfl, rfl, rfl, rfl⟩⟩
    · rintro ⟨-, h⟩
      exact congrArg Except.ok (Reading.unique ⟨rfl, rfl, rfl, rfl⟩ h)
  | cons f layer ih =>
    obtain ⟨n, v⟩ := f
    obtain ⟨hn, distinct⟩ := List.nodup_cons.mp distinct
    have apart : ∀ name, [(n, v)].lookup name = none ∨ layer.lookup name = none := fun name => by
      by_cases same : name = n
      · exact .inr (lookup_eq_none_of_not_mem (same ▸ hn))
      · exact .inl (lookup_eq_none_of_not_mem (by simpa using same))
    have merged : (fun name => List.lookup name ((n, v) :: layer)) =
        fun name => ([(n, v)].lookup name).or (layer.lookup name) := by
      funext name
      rw [← List.lookup_append, List.singleton_append]
    rw [List.foldlM_cons, bind_eq_ok, merged, Reading.or_iff apart, List.forall_mem_cons]
    simp only [ih distinct, assign_eq_ok_iff]
    constructor
    · rintro ⟨c₁, ⟨known, first⟩, others, rest⟩
      exact ⟨⟨known, others⟩, c₁, first, rest⟩
    · rintro ⟨⟨known, others⟩, c₁, first, rest⟩
      exact ⟨c₁, ⟨known, first⟩, others, rest⟩

/-- Assignments in ascending order of the names fail with the first fault. -/
theorem foldlM_assign_eq_error_iff {layer : Layer}
    (ascending : layer.Pairwise fun f g => f.1 < g.1) {c : Config} {e : LoadError} :
    layer.foldlM assign c = .error e ↔ FirstFault (fun n => layer.lookup n) e := by
  induction layer generalizing c with
  | nil =>
    constructor
    · rintro ⟨⟩
    · rintro ⟨name, ⟨v, h, -⟩, -⟩
      cases h
  | cons f layer ih =>
    obtain ⟨n, v⟩ := f
    obtain ⟨behind, ascending⟩ := List.pairwise_cons.mp ascending
    rw [List.foldlM_cons, bind_eq_error, assign_eq_error_iff,
      firstFault_cons_iff fun name w found => behind _ (mem_of_lookup found), ← @exists_assign_iff c]
    simp only [ih ascending, exists_and_right]

/-! ## The merged layer in order -/

namespace Layer

/-- The names of a layer, each once, in ascending order. -/
def names (layer : Layer) : List String :=
  (layer.map Prod.fst).eraseDups.mergeSort fun a b => a ≤ b

/-- The names of a layer are those of its fields. -/
theorem mem_names {layer : Layer} {name : String} :
    name ∈ layer.names ↔ name ∈ layer.map Prod.fst := by
  rw [names, List.mem_mergeSort, List.mem_eraseDups]

/-- Without repetitions no name is repeated. -/
theorem nodup_eraseDups (names : List String) : names.eraseDups.Nodup := by
  match names with
  | [] => exact List.nodup_nil
  | name :: rest =>
    rw [List.eraseDups_cons, List.nodup_cons]
    exact ⟨by simp, nodup_eraseDups _⟩
termination_by names.length
decreasing_by exact Nat.lt_succ_of_le (List.length_filter_le _ _)

/-- The names of a layer ascend. -/
theorem names_ascending (layer : Layer) : layer.names.Pairwise fun a b => a < b := by
  have sorted : layer.names.Pairwise fun a b => decide (a ≤ b) = true :=
    List.pairwise_mergeSort
      (fun a b c hab hbc => by simpa using String.le_trans (by simpa using hab) (by simpa using hbc))
      (fun a b => by simpa using String.le_total a b) _
  have distinct : layer.names.Nodup :=
    (List.mergeSort_perm _ _).nodup_iff.mpr (nodup_eraseDups _)
  refine (sorted.and distinct).imp fun {a b} ⟨le, ne⟩ => ?_
  exact String.not_le.mp fun ge => ne (String.le_antisymm (of_decide_eq_true le) ge)

/-- The fields of a layer ascend by their names. -/
theorem ascending_pairwise (layer : Layer) : layer.ascending.Pairwise fun f g => f.1 < g.1 := by
  refine List.pairwise_filterMap.mpr (layer.names_ascending.imp fun lt f hf g hg => ?_)
  obtain ⟨v, -, rfl⟩ := Option.map_eq_some_iff.mp hf
  obtain ⟨w, -, rfl⟩ := Option.map_eq_some_iff.mp hg
  exact lt

/-- Each name is there once. -/
theorem distinct_ascending (layer : Layer) : (layer.ascending.map Prod.fst).Nodup :=
  List.pairwise_map.mpr (layer.ascending_pairwise.imp fun h => String.ne_of_lt h)

/-- The order loses nothing that counts. -/
theorem lookup_ascending (layer : Layer) (name : String) :
    layer.ascending.lookup name = layer.lookup name := by
  refine Option.ext fun v => ?_
  rw [lookup_eq_some_iff_mem layer.distinct_ascending]
  show (name, v) ∈ layer.names.filterMap _ ↔ _
  rw [List.mem_filterMap]
  constructor
  · rintro ⟨n, -, h⟩
    obtain ⟨w, found, same⟩ := Option.map_eq_some_iff.mp h
    cases same
    exact found
  · intro found
    exact ⟨name, mem_names.mpr (List.mem_map.mpr ⟨_, mem_of_lookup found, rfl⟩), by
      rw [found, Option.map_some]⟩

end Layer

/-- A layer makes a configuration if its fields are known and its values can be read. -/
theorem ofLayer_eq_ok_iff {layer : Layer} {c : Config} :
    ofLayer layer = .ok c ↔
      (∀ name v, layer.lookup name = some v → name ∈ fieldNames) ∧
        Reading {} (fun name => layer.lookup name) c := by
  rw [ofLayer, foldlM_assign_eq_ok_iff layer.distinct_ascending, Prod.forall]
  simp only [← lookup_eq_some_iff_mem layer.distinct_ascending, layer.lookup_ascending]

/-- A layer fails with its first fault. -/
theorem ofLayer_eq_error_iff {layer : Layer} {e : LoadError} :
    ofLayer layer = .error e ↔ FirstFault (fun name => layer.lookup name) e := by
  rw [ofLayer, foldlM_assign_eq_error_iff layer.ascending_pairwise]
  simp only [layer.lookup_ascending]

end AnalysisSettings.Config
