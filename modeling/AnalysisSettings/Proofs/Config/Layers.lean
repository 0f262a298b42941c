import AnalysisSettings.Config.Load
import AnalysisSettings.Proofs.Config.Serialized

/-!
# Configuration layers override name by name

What a configuration is depends, name by name, on one value: that of the variable for the name, else
that in the file, else the default. A value that is displaced is not looked at, and variables for no
field do not matter (`layers_override`).

The defaults need no place in this: they are what the configuration that everything starts from is
written as, and are read back as that (`toLayer_reading`). So the value selected for a name is that of
the variable or that in the file (`selected`), and unknown names come from the file
(`selected_of_unknown`). Two loads that select the same values are the same (`load_congr`).

Text fields take all values but one kind that are written as scalars: a whole number in a file that
needs more than 64 bits is refused (`Oversized.load_wide_refused`).
-/

namespace AnalysisSettings.Config

/-! ## The three layers -/

/-- The mapping of a file; no file is an empty one. -/
def mappingOf? : Option String → Option Layer
  | none => some []
  | some text => fileLayer? text

/-- The value of the text of a variable; blanks around it do not count. -/
def valueOfVariable (text : String) : Value :=
  valueOfText (String.ofList (Text.trim text.toList))

/-- The value of the variable for a field, the last if there are several. -/
def Environment.value? (env : Environment) (field : String) : Option Value :=
  (env.filter fun v => fieldOfVariable? v.1 = some field).getLast?.map fun v => valueOfVariable v.2

/-- **The value selected for a name**: that of its variable, else that in the mapping of the file. -/
def selected (mapping : Layer) (env : Environment) (name : String) : Option Value :=
  (env.value? name).or (mapping.lookup name)

/-- Loading reads the variables in front of the file, and both in front of the defaults. -/
theorem load_eq {file : Option String} {mapping : Layer} (hfile : mappingOf? file = some mapping)
    (env : Environment) :
    load file env = ofLayer (env.layer ++ mapping ++ ({} : Config).toLayer) := by
  cases file with
  | none =>
    cases hfile
    rfl
  | some text =>
    have read : (some text).mapM fileLayer? = some (some mapping) :=
      congrArg (Option.map some) (show fileLayer? text = some mapping from hfile)
    rw [load, read]
    rfl

/-- A variable is for a field if its name is that of the field behind the prelude, but for case and
blanks around it. -/
theorem fieldOfVariable?_eq_some_iff {name field : String} :
    fieldOfVariable? name = some field ↔ field ∈ fieldNames ∧
      (Text.trim name.toList).map Char.toLower = (variablePrelude ++ field).toList := by
  simp only [fieldOfVariable?]
  constructor
  · intro h
    have spelled := List.find?_some h
    exact ⟨List.mem_of_find?_eq_some h, eq_of_beq spelled⟩
  · rintro ⟨known, spelled⟩
    cases found : fieldNames.find? _ with
    | none => exact absurd spelled (by simpa using List.find?_eq_none.mp found field known)
    | some field' =>
      have first := List.find?_some found
      have spelled' := spelled.symm.trans (eq_of_beq first)
      rw [String.toList_append, String.toList_append] at spelled'
      rw [String.toList_inj.mp (List.append_cancel_left spelled')]

namespace Environment

/-- A variable in front of others is a field behind theirs, if it names one. -/
theorem layer_cons (name text : String) (env : Environment) :
    layer ((name, text) :: env) = env.layer ++
      ((fieldOfVariable? name).map fun field => (field, valueOfVariable text)).toList := by
  simp only [layer, List.filterMap_cons]
  cases fieldOfVariable? name with
  | none => exact (List.append_nil _).symm
  | some field => exact List.reverse_cons

/-- A variable in front of others gives a value where the others give none. -/
theorem value?_cons (name text : String) (env : Environment) (field : String) :
    value? ((name, text) :: env) field = (env.value? field).or
      (if fieldOfVariable? name = some field then some (valueOfVariable text) else none) := by
  rw [value?, value?, List.filter_cons]
  by_cases own : fieldOfVariable? name = some field
  · rw [if_pos (decide_eq_true own), if_pos own, List.getLast?_cons]
    cases (env.filter _).getLast? <;> rfl
  · rw [if_neg (by simpa using own), if_neg own, Option.or_none]

/-- The layer of an environment has the values that its variables give. -/
theorem lookup_layer (env : Environment) (field : String) :
    env.layer.lookup field = env.value? field := by
  induction env with
  | nil => rfl
  | cons v env ih =>
    obtain ⟨name, text⟩ := v
    rw [layer_cons, List.lookup_append, ih, value?_cons]
    cases fieldOfVariable? name with
    | none => rfl
    | some f =>
      by_cases same : field = f
      · simp [same]
      · simp [Ne.symm same, List.lookup_cons, beq_false_of_ne same]

/-- Variables that are not for a field do not matter to it. -/
theorem value?_filter {env : Environment} {field : String} {p : String × String → Bool}
    (h : ∀ v, fieldOfVariable? v.1 = some field → p v = true) :
    value? (env.filter p) field = env.value? field := by
  have kept : (env.filter p).filter (fun v => fieldOfVariable? v.1 = some field) =
      env.filter fun v => fieldOfVariable? v.1 = some field := by
    rw [List.filter_filter]
    refine List.filter_congr fun v _ => ?_
    by_cases own : fieldOfVariable? v.1 = some field <;> simp [own, h v]
  rw [value?, value?, kept]

/-- The value of a field depends on the variables of the field only. -/
theorem value?_congr {env env' : Environment} {field : String} {p : String × String → Bool}
    (h : ∀ v, fieldOfVariable? v.1 = some field → p v = true)
    (same : env'.filter p = env.filter p) : env'.value? field = env.value? field := by
  rw [← value?_filter h, same, value?_filter h]

/-- A variable gives values to known fields only. -/
theorem mem_fieldNames_of_value? {env : Environment} {name : String} {v : Value}
    (h : env.value? name = some v) : name ∈ fieldNames := by
  obtain ⟨_, last, -⟩ := Option.map_eq_some_iff.mp h
  have own := of_decide_eq_true (List.mem_filter.mp (List.mem_of_getLast? last)).2
  exact (fieldOfVariable?_eq_some_iff.mp own).1

end Environment

/-! ## Loading -/

section Load

variable {file file' : Option String} {mapping mapping' : Layer} {env env' : Environment}

/-- The layers give a field the selected value, and its default where none is selected. -/
theorem lookup_layers (name : String) :
    (env.layer ++ mapping ++ ({} : Config).toLayer).lookup name =
      (selected mapping env name).or (({} : Config).toLayer.lookup name) := by
  rw [List.lookup_append, List.lookup_append, Environment.lookup_layer, selected]

/-- Unknown names come from the file. -/
theorem selected_of_unknown {name : String} (unknown : name ∉ fieldNames) :
    selected mapping env name = mapping.lookup name := by
  cases given : env.value? name with
  | none => rw [selected, given, Option.none_or]
  | some v => exact absurd (Environment.mem_fieldNames_of_value? given) unknown

/-- Unknown fields are selected from a file only. -/
theorem known_iff : (∀ name v, selected mapping env name = some v → name ∈ fieldNames) ↔
    ∀ f ∈ mapping, f.1 ∈ fieldNames := by
  constructor
  · intro known f hf
    by_contra unknown
    obtain ⟨v, found⟩ := exists_lookup_iff.mpr ⟨f.2, hf⟩
    exact unknown (known f.1 v ((selected_of_unknown unknown).trans found))
  · intro known name v found
    by_contra unknown
    rw [selected_of_unknown unknown] at found
    exact unknown (known _ (mem_of_lookup found))

/-- A load succeeds if the file has known fields only and every selected value can be read. -/
theorem load_eq_ok_iff (hfile : mappingOf? file = some mapping) {c : Config} :
    load file env = .ok c ↔
      (∀ f ∈ mapping, f.1 ∈ fieldNames) ∧ Reading {} (selected mapping env) c := by
  rw [load_eq hfile, ofLayer_eq_ok_iff, ← @known_iff mapping env]
  simp only [lookup_layers, Reading.or_base (toLayer_reading {}), Option.or_eq_some_iff]
  refine and_congr_left fun _ => ⟨fun known name v h => known name v (.inl h), ?_⟩
  rintro known name v (found | ⟨-, default⟩)
  · exact known name v found
  · exact toLayer_known {} default

/-- A load fails with the first fault among the selected values. -/
theorem load_eq_error_iff (hfile : mappingOf? file = some mapping) {e : LoadError} :
    load file env = .error e ↔ FirstFault (selected mapping env) e := by
  rw [load_eq hfile, ofLayer_eq_error_iff]
  simp only [lookup_layers, FirstFault,
    faulty_or_iff (toLayer_reading {}) fun _ _ => toLayer_known {}]

/-- Loads that select the same values are the same. -/
theorem load_congr (hfile : mappingOf? file = some mapping)
    (hfile' : mappingOf? file' = some mapping')
    (h : ∀ name, selected mapping' env' name = selected mapping env name) :
    load file' env' = load file env := by
  have same : selected mapping' env' = selected mapping env := funext h
  cases loaded : load file env with
  | ok c =>
    rw [load_eq_ok_iff hfile, ← @known_iff mapping env, ← same] at loaded
    rw [load_eq_ok_iff hfile', ← @known_iff mapping' env']
    exact loaded
  | error e =>
    rw [load_eq_error_iff hfile, ← same] at loaded
    exact (load_eq_error_iff hfile').mpr loaded

/-- A selected value is at fault if its field is unknown or it does not suit the field. -/
theorem faulty_selected_iff {name : String} :
    (∃ e, Faulty (selected mapping env) name e) ↔
      name ∉ fieldNames ∧ (∃ v, (name, v) ∈ mapping) ∨
        name ∈ fieldNames ∧ ∃ v, selected mapping env name = some v ∧ ¬ Suits name v := by
  by_cases known : name ∈ fieldNames
  · constructor
    · rintro ⟨e, v, found, refused⟩
      rcases exists_refused_iff.mp ⟨e, refused⟩ with unknown | unsuited
      · exact absurd known unknown
      · exact .inr ⟨known, v, found, unsuited⟩
    · rintro (⟨unknown, -⟩ | ⟨-, v, found, unsuited⟩)
      · exact absurd known unknown
      · obtain ⟨e, refused⟩ := exists_refused_iff.mpr (.inr unsuited)
        exact ⟨e, v, found, refused⟩
  · constructor
    · rintro ⟨e, v, found, -⟩
      rw [selected_of_unknown known] at found
      exact .inl ⟨known, v, mem_of_lookup found⟩
    · rintro (⟨-, listed⟩ | ⟨h, -⟩)
      · obtain ⟨v, found⟩ := exists_lookup_iff.mpr listed
        exact ⟨_, v, (selected_of_unknown known).trans found, .unknown known⟩
      · exact absurd h known

end Load

/-- **Layers override name by name.** Let the file, if there is one, be a mapping with texts as keys,
and let the value selected for a name be that of its variable, else that in the file. A load is
successful exactly if all names in the file are known and each selected value suits its field, and
then the fields are the readings of their values, and the defaults where nothing is selected.
Otherwise the error is that of the first name in ascending order that is unknown in the file or whose
selected value does not suit, and it is about that name. So a value of the file that a variable
displaces does not matter, not even if it does not suit; variables for no field do not matter; and
when the variables for one field change, the other fields stay as they are, and an error is about
that field. -/
theorem layers_override {file : Option String} {mapping : Layer}
    (hfile : mappingOf? file = some mapping) (env : Environment) :
    (∀ c, load file env = .ok c ↔
      (∀ f ∈ mapping, f.1 ∈ fieldNames) ∧ Reading {} (selected mapping env) c) ∧
    ((∃ c, load file env = .ok c) ↔
      (∀ f ∈ mapping, f.1 ∈ fieldNames) ∧
        ∀ name ∈ fieldNames, ∀ v, selected mapping env name = some v → Suits name v) ∧
    (∀ e, load file env = .error e ↔ FirstFault (selected mapping env) e) ∧
    (∀ name, (∃ e, Faulty (selected mapping env) name e) ↔
      name ∉ fieldNames ∧ (∃ v, (name, v) ∈ mapping) ∨
        name ∈ fieldNames ∧ ∃ v, selected mapping env name = some v ∧ ¬ Suits name v) ∧
    (∀ name e, Faulty (selected mapping env) name e → e.path = [name]) ∧
    (∀ {file' mapping'}, mappingOf? file' = some mapping' →
      (∀ name, env.value? name = none → mapping'.lookup name = mapping.lookup name) →
      load file' env = load file env) ∧
    (∀ env' : Environment,
      (env'.filter fun v => (fieldOfVariable? v.1).isSome) =
        env.filter (fun v => (fieldOfVariable? v.1).isSome) →
      load file env' = load file env) ∧
    ∀ (env' : Environment) (field : String),
      (env'.filter fun v => fieldOfVariable? v.1 ≠ some field) =
        env.filter (fun v => fieldOfVariable? v.1 ≠ some field) →
      ∀ c, load file env = .ok c →
        (∀ c', load file env' = .ok c' → SameBut field c c') ∧
        ∀ e, load file env' = .error e → e.path = [field] := by
  refine ⟨fun c => load_eq_ok_iff hfile, ?_, fun e => load_eq_error_iff hfile,
    fun name => faulty_selected_iff, ?_, ?_, ?_, ?_⟩
  · simp only [load_eq_ok_iff hfile, exists_and_left, Reading.exists_iff]
  · rintro name e ⟨v, -, refused⟩
    exact refused.path_eq
  · intro file' mapping' hfile' agree
    refine load_congr hfile hfile' fun name => ?_
    rw [selected, selected]
    cases given : env.value? name with
    | none => rw [agree name given]
    | some v => rfl
  · intro env' same
    refine load_congr hfile hfile fun name => ?_
    rw [selected, selected, Environment.value?_congr (fun v own => by rw [own]; rfl) same]
  · intro env' field same c loaded
    have other : ∀ name, name ≠ field → selected mapping env' name = selected mapping env name := by
      intro name ne
      rw [selected, selected, Environment.value?_congr (fun v own => ?_) same]
      rw [own]
      exact decide_eq_true fun eq => ne (Option.some.inj eq)
    rw [load_eq_ok_iff hfile] at loaded
    constructor
    · intro c' loaded'
      exact loaded.2.sameBut other ((load_eq_ok_iff hfile).mp loaded').2
    · intro e failed
      obtain ⟨name, ⟨v, found, refused⟩, -⟩ := (load_eq_error_iff hfile).mp failed
      by_cases at_field : name = field
      · rw [refused.path_eq, at_field]
      · rw [other name at_field] at found
        have known := known_iff.mpr loaded.1 name v found
        exact absurd refused (loaded.2.not_refused known found e)

/-! ### A displaced value, and a number too wide for a word

The file of the first configuration gives a timeout that is no length of time; a variable displaces it,
with its name in lower case. The file of the second has one entry, with the smallest whole number that
needs more than 64 bits. -/

namespace Displaced

def file : String := "request_timeout: soon\nserver_url: http://h\n"

def env : Environment :=
  [("settings_sync_request_timeout", "5s"), ("SETTINGS_SYNC_LOG_LEVEL", "debug")]

/-- The file of the sample, with a timeout that is no duration. -/
theorem mapping : ∃ url timeout : Value,
    mappingOf? file = some [("server_url", url), ("request_timeout", timeout)] ∧
      url.text? = some "http://h" ∧ timeout.duration? = none := by
  have rows : (fileLayer? file).map (·.map fun f => (f.1, f.2.text?, f.2.duration?)) =
      some [("server_url", some "http://h", none), ("request_timeout", some "soon", none)] := by
    decide +kernel
  obtain ⟨layer, found, rows⟩ := Option.map_eq_some_iff.mp rows
  obtain ⟨⟨_, url⟩, rest, rfl, first, rows⟩ := List.map_eq_cons_iff.mp rows
  obtain ⟨⟨_, timeout⟩, rest, rfl, second, rows⟩ := List.map_eq_cons_iff.mp rows
  obtain rfl := List.map_eq_nil_iff.mp rows
  simp only [Prod.mk.injEq] at first second
  obtain ⟨rfl, text, -⟩ := first
  obtain ⟨rfl, -, unsuited⟩ := second
  exact ⟨url, timeout, found, text, unsuited⟩

/-- A variable displaces a value of the file that could not be read. -/
theorem layers_override_displaced :
    ∃ url timeout : Value,
      mappingOf? file = some [("server_url", url), ("request_timeout", timeout)] ∧
      ¬ Suits "request_timeout" timeout ∧
      load file env = .ok { serverUrl := "http://h", requestTimeout := .ofSeconds 5 } := by
  obtain ⟨url, timeout, hfile, text, unsuited⟩ := mapping
  have known : ∀ f ∈ [("server_url", url), ("request_timeout", timeout)], f.1 ∈ fieldNames := by
    simp [fieldNames]
  have given : (env.value? "request_timeout").bind Value.duration? = some (.ofSeconds 5) := by
    decide +kernel
  have others : ∀ name ∈ textFieldNames, env.value? name = none := by
    simp only [← Option.isNone_iff_eq_none]
    decide +kernel
  refine ⟨url, timeout, hfile, ?_, ((layers_override hfile env).1 _).mpr ⟨known, ?_, ?_, ?_, ?_⟩⟩
  · rw [suits_timeout_iff, unsuited]
    rintro ⟨t, ⟨⟩⟩
  · rw [selected, others _ (by decide)]
    exact text
  · rw [selected, others _ (by decide)]
    rfl
  · obtain ⟨v, hv, read⟩ := Option.bind_eq_some_iff.mp given
    rw [selected, hv]
    exact read
  · rw [selected, others _ (by decide)]
    rfl

end Displaced

namespace Oversized

def file : String := "organization: 18446744073709551616\n"

def env : Environment := [("SETTINGS_SYNC_ORGANIZATION", "18446744073709551616")]

theorem mapping : ∃ v : Value, mappingOf? file = some [("organization", v)] ∧ v.text? = none ∧
    v.described = "integer \x6018446744073709551616\x60 as u128" := by
  have row : (fileLayer? file).map (·.map fun f => (f.1, f.2.text?, f.2.described)) =
      some [("organization", none, "integer \x6018446744073709551616\x60 as u128")] := by
    decide +kernel
  obtain ⟨layer, found, row⟩ := Option.map_eq_some_iff.mp row
  obtain ⟨⟨_, v⟩, rest, rfl, entry, row⟩ := List.map_eq_cons_iff.mp row
  obtain rfl := List.map_eq_nil_iff.mp row
  simp only [Prod.mk.injEq] at entry
  obtain ⟨rfl, noText, described⟩ := entry
  exact ⟨v, found, noText, described⟩

/-- **A whole number beyond 64 bits is refused**, although the message of the error asks for a scalar.
The same text in a variable is taken. -/
theorem load_wide_refused :
    (∃ e, load file [] = .error e ∧ e.path = ["organization"] ∧
      e.message = "invalid type: found integer \x6018446744073709551616\x60 as u128, " ++
        "expected a string or a scalar value") ∧
    load none env = .ok { organization := some "18446744073709551616" } := by
  constructor
  · obtain ⟨v, hfile, noText, described⟩ := mapping
    have unsuited : ¬ v.IsScalar := by
      rw [← Value.isSome_text?_iff, noText]
      exact Bool.false_ne_true
    refine ⟨_, (load_eq_error_iff hfile).mpr ⟨"organization", ⟨v, rfl, .notScalar (by decide) unsuited⟩,
      fun earlier lt e' => ?_⟩, rfl, ?_⟩
    · rintro ⟨w, found, -⟩
      rcases lookup_cons_eq_some_iff.mp found with ⟨rfl, -⟩ | ⟨-, found⟩
      · exact String.lt_irrefl _ lt
      · cases found
    · show "invalid type: found " ++ v.described ++ ", expected " ++ "a string or a scalar value" = _
      rw [described]
      decide +kernel
  · have given : (Environment.value? env "organization").bind Value.text? =
        some "18446744073709551616" := by
      decide +kernel
    have others : ∀ name ∈ ["server_url", "request_timeout", "user_agent"],
        Environment.value? env name = none := by
      simp only [← Option.isNone_iff_eq_none]
      decide +kernel
    refine (load_eq_ok_iff rfl).mpr ⟨fun f hf => absurd hf List.not_mem_nil, ?_, ?_, ?_, ?_⟩
    · rw [selected, others _ (by decide)]
      rfl
    · obtain ⟨v, hv, read⟩ := Option.bind_eq_some_iff.mp given
      rw [selected, hv]
      exact congrArg (Option.map some) read
    · rw [selected, others _ (by decide)]
      rfl
    · rw [selected, others _ (by decide)]
      rfl

end Oversized

end AnalysisSettings.Config
