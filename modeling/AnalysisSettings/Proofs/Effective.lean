import AnalysisSettings.Proofs.Delivery

/-!
# What a consumer sees of a project

A consumer looks a key up in the settings of the project and falls back to the global scope. The
legacy download drops a property whose value is the global one, because the fall-back would give
the same value.

`projectSettings_effective_iff` says exactly when that is so. The filter judges each property by
itself, while of several properties with one key the last one counts; so dropping a property uncovers
an earlier one with another value. A payload that repeats no key is always safe.

`generations_agree` compares the downloads of the two generations. What each of them stores complements
the global settings (`Entry.Complements`): it is part of the flattened records, and the global
settings have the rest. Where the keys are distinct, a consumer then sees all of the flattened records
(`ProjectSettings.effective_of_mem`), whichever part is stored.
-/

namespace AnalysisSettings

/-! ## The values of a list of properties -/

namespace Property

/-- The values that properties give to a key, in their order. -/
def valuesAt (key : String) (ps : List Property) : List String :=
  (ps.filter fun p => p.key == key).filterMap Property.value

/-- A property in front gives its value, if it has one, to its key. -/
@[simp] theorem valuesAt_cons (key : String) (p : Property) (ps : List Property) :
    valuesAt key (p :: ps) = (if p.key = key then p.value.toList else []) ++ valuesAt key ps := by
  obtain ⟨name, value⟩ := p
  by_cases h : name = key <;> cases value <;> simp [valuesAt, h]

/-- A property in front is delivered if the filter keeps it and it has a value. -/
@[simp] theorem deliver_cons (filter : Filter) (p : Property) (ps : List Property) :
    deliver filter (p :: ps) =
      (if filter.keeps p.key p.value then p.flat?.toList else []) ++ deliver filter ps := by
  by_cases h : filter.keeps p.key p.value = true <;> cases hp : p.flat? <;>
    simp [deliver, kept, h, hp]

/-- One property against a reference gives its key the value that it has, if the reference has
another. -/
private theorem valuesAt_step_against (global : Snapshot) (key : String) (p : Property) :
    Entry.valuesAt key
        (if (Filter.against global).keeps p.key p.value then p.flat?.toList else []) =
      (if p.key = key then p.value.toList else []).filter fun v => some v != global.get? key := by
  obtain ⟨name, value⟩ := p
  cases value with
  | none => simp [flat?]
  | some v =>
    by_cases hk : name = key
    · subst hk
      by_cases hv : some v = global.get? name
      · simp [Filter.keeps, ← hv]
      · simp [Filter.keeps, flat?, hv]
    · rw [if_neg hk, List.filter_nil]
      exact Entry.valuesAt_eq_nil fun e he => by
        split at he
        · cases List.mem_singleton.mp he
          exact hk
        · cases he

/-- Without a filter all values are delivered. -/
theorem valuesAt_deliver_keepAll (key : String) (ps : List Property) :
    Entry.valuesAt key (deliver .keepAll ps) = valuesAt key ps := by
  induction ps with
  | nil => rfl
  | cons p ps ih =>
    obtain ⟨name, value⟩ := p
    by_cases h : name = key <;> cases value <;> simp [Filter.keeps, flat?, ih, h]

/-- Against a reference, a key gets those of its values that the reference does not have. -/
theorem valuesAt_deliver_against (global : Snapshot) (key : String) (ps : List Property) :
    Entry.valuesAt key (deliver (.against global) ps) =
      (valuesAt key ps).filter fun v => some v != global.get? key := by
  induction ps with
  | nil => rfl
  | cons p ps ih =>
    simp only [deliver_cons, valuesAt_cons, Entry.valuesAt_append, List.filter_append, ih,
      valuesAt_step_against]

end Property

/-- **When dropping the global value is harmless.** Let the values `vs` be given to a key one after
the other, and let `g` be the fall-back. Without the values that equal `g`, the key ends with the same
value, unless `g` itself came last and another value came before it. -/
theorem getLast?_filter_or_eq_iff (vs : List String) (g : Option String) :
    (vs.filter fun v => some v != g).getLast?.or g = vs.getLast?.or g ↔
      (vs.getLast? = g → ∀ v ∈ vs, some v = g) := by
  rcases vs.eq_nil_or_concat with rfl | ⟨front, last, rfl⟩
  · simp
  rw [List.concat_eq_append, List.filter_append, List.getLast?_append, List.getLast?_append,
    List.getLast?_singleton]
  by_cases hlast : some last = g
  · subst hlast
    have hdropped : [last].filter (fun v => some v != some last) = [] := by simp
    rw [hdropped, List.getLast?_nil, Option.none_or, Option.some_or, Option.some_or]
    simp only [List.mem_append, List.mem_singleton, forall_const]
    cases hkept : (front.filter fun v => some v != some last).getLast? with
    | none =>
      have all : ∀ v ∈ front, v = last := by
        simpa [List.filter_eq_nil_iff] using List.getLast?_eq_none_iff.mp hkept
      exact iff_of_true rfl fun v hv => congrArg some (hv.elim (all v) id)
    | some w =>
      obtain ⟨hw, hne⟩ := List.mem_filter.mp (List.mem_of_getLast? hkept)
      have hne : some w ≠ some last := bne_iff_ne.mp hne
      exact iff_of_false hne fun all => hne (all w (.inl hw))
  · have hkept : [last].filter (fun v => some v != g) = [last] := by simp [hlast]
    rw [hkept, List.getLast?_singleton, Option.some_or, Option.some_or, Option.some_or]
    exact iff_of_true rfl fun h => absurd h hlast

/-! ## The legacy filter -/

/-- **When the legacy filter preserves what a consumer sees.** A project is downloaded from a legacy
server twice from one payload: against the global settings (`P`) and without a reference (`Q`). Both
downloads succeed, and for each key they show a consumer the same value exactly if this holds: where
the last value that the payload gives to the key is the global one, all its values are. -/
theorem projectSettings_effective_iff {σ : Type} (t : Transport σ) (s : σ) (c : Client)
    (version : Version) (project : String) (global : Snapshot) (response : Response)
    (properties : List Property) (legacy : version.settingsGeneration = .legacy)
    (answered : (t.get (Request.settings .legacy (some project)).path s).1 = .ok response)
    (read : c.codec.properties response.body = .ok properties) :
    ∃ (P : ProjectSettings) (Q : ProjectSettings.Builder),
      ((c.projectSettings version project global).run t s).result = .ok P ∧
      ((Inquiry.settingsInto c.codec .legacy (some project) none
        (⟨project, .empty⟩ : ProjectSettings.Builder)).run t s).result = (.ok (), Q) ∧
      ∀ key, P.effective key global = Q.build.effective key global ↔
        ((Property.valuesAt key properties).getLast? = global.get? key →
          ∀ value ∈ Property.valuesAt key properties, some value = global.get? key) := by
  refine ⟨.ofEntries project (Property.deliver (.against global) properties),
    Sink.putAll ⟨project, .empty⟩ (Property.deliver .keepAll properties), ?_, ?_, fun key => ?_⟩
  · rw [Client.run_projectSettings, legacy, answered]
    simp only [Delivery.ofAnswer, read]
    rfl
  · rw [Inquiry.run_settingsInto, answered]
    simp only [Delivery.ofAnswer, read]
    rfl
  · show _ = (ProjectSettings.ofEntries project _).effective key global ↔ _
    rw [ProjectSettings.effective_ofEntries, ProjectSettings.effective_ofEntries,
      Property.valuesAt_deliver_against, Property.valuesAt_deliver_keepAll]
    exact getLast?_filter_or_eq_iff _ _

/-! ### A repeated key

The payload gives `x` the value 2 and then the value 1, which is the global one. -/

namespace RepeatedKey

open Json

def payload : Tree :=
  .list (.ofList [
    .plainObject [("key", .string (.plain "x")), ("value", .string (.plain "2"))],
    .plainObject [("key", .string (.plain "x")), ("value", .string (.plain "1"))]])

def text : String :=
  "[\x7b\"key\":\"x\",\"value\":\"2\"\x7d,\x7b\"key\":\"x\",\"value\":\"1\"\x7d]"

def properties : List Property := [⟨"x", some "2"⟩, ⟨"x", some "1"⟩]

def global : Snapshot := .ofList [⟨"x", "1"⟩]

def server : Canned :=
  { replies := [("/api/properties?format=json&resource=p", .ok (Utf8.encode text))] }

/-- The text of the sample is written as its tree. -/
theorem document : payload.Document (Utf8.encode text) := by
  have two : Tree.Written (.plainObject [("key", .string (.plain "x")),
      ("value", .string (.plain "2"))]) _ :=
    .tightObject <| .tight (by decide) (.plain (by decide)) <| .tight <|
      .tight (by decide) (.plain (by decide)) .closed
  have one : Tree.Written (.plainObject [("key", .string (.plain "x")),
      ("value", .string (.plain "1"))]) _ :=
    .tightObject <| .tight (by decide) (.plain (by decide)) <| .tight <|
      .tight (by decide) (.plain (by decide)) .closed
  have payload : payload.Written _ := .list <| .tight two <| .comma <| .tight one .closed
  exact ⟨[], _, [], by decide, payload, by decide, by decide +kernel⟩

theorem decoded : Codec.json.properties (Utf8.encode text) = .ok properties := by
  show Payload.decodeProperties _ = _
  rw [Payload.decodeProperties, Payload.reporting, Payload.readProperties,
    readPayload_of_document document]
  rfl

theorem answered : (Canned.transport.get (Request.settings .legacy (some "p")).path server).1 =
    .ok ⟨"/api/properties?format=json&resource=p", Utf8.encode text⟩ := rfl

/-- There exactly the repeated key is shown differently. -/
theorem projectSettings_effective_repeated :
    ∃ (P : ProjectSettings) (Q : ProjectSettings.Builder),
      ((Client.projectSettings ⟨.json, none⟩ ⟨6, 2, 0, 0, ""⟩ "p" global).run Canned.transport
        server).result = .ok P ∧
      ((Inquiry.settingsInto .json .legacy (some "p") none
        (⟨"p", .empty⟩ : ProjectSettings.Builder)).run Canned.transport server).result =
          (.ok (), Q) ∧
      ∀ key, P.effective key global = Q.build.effective key global ↔ key ≠ "x" := by
  obtain ⟨P, Q, hP, hQ, agree⟩ := projectSettings_effective_iff Canned.transport server
    ⟨.json, none⟩ ⟨6, 2, 0, 0, ""⟩ "p" global _ properties rfl answered decoded
  refine ⟨P, Q, hP, hQ, fun key => (agree key).trans ?_⟩
  by_cases h : key = "x"
  · subst h
    decide
  · have absent : Property.valuesAt key properties = [] := by
      simp [Property.valuesAt, properties, Ne.symm h]
    simp [absent, h]

/-- The filter drops the value 1 that came last, and uncovers the value 2. -/
theorem projectSettings_repeated_key :
    ∃ (P : ProjectSettings) (Q : ProjectSettings.Builder),
      ((Client.projectSettings ⟨.json, none⟩ ⟨6, 2, 0, 0, ""⟩ "p" global).run Canned.transport
        server).result = .ok P ∧
      ((Inquiry.settingsInto .json .legacy (some "p") none
        (⟨"p", .empty⟩ : ProjectSettings.Builder)).run Canned.transport server).result =
          (.ok (), Q) ∧
      P.effective "x" global = some "2" ∧ Q.build.effective "x" global = some "1" := by
  have legacy : Version.settingsGeneration ⟨6, 2, 0, 0, ""⟩ = .legacy := rfl
  refine ⟨.ofEntries "p" [⟨"x", "2"⟩], Sink.putAll ⟨"p", .empty⟩ [⟨"x", "2"⟩, ⟨"x", "1"⟩],
    ?_, ?_, by decide, by decide⟩
  · rw [Client.run_projectSettings, legacy, answered]
    simp only [Delivery.ofAnswer, decoded]
    rfl
  · rw [Inquiry.run_settingsInto, answered]
    simp only [Delivery.ofAnswer, decoded]
    rfl

end RepeatedKey

/-! ## Entries stored beside the global settings -/

/-- The entries `stored` stand for the entries `all` beside the global settings: they are among
them, and the global settings have those that are missing. -/
structure Entry.Complements (global : Snapshot) (stored all : List Entry) : Prop where
  subset : ∀ e ∈ stored, e ∈ all
  shared : ∀ e ∈ all, e ∉ stored → global.get? e.key = some e.value

namespace ProjectSettings

variable {project key : String} {global : Snapshot} {stored all : List Entry}

/-- Entries are kept as they are where no two of them have the same key. -/
theorem get?_ofEntries_eq_some_iff (distinct : (all.map Entry.key).Nodup)
    (subset : ∀ e ∈ stored, e ∈ all) {value : String} :
    (ofEntries project stored).get? key = some value ↔ ⟨key, value⟩ ∈ stored := by
  rw [get?_ofEntries]
  constructor
  · exact fun h => Entry.mem_valuesAt.mp (List.mem_of_getLast? h)
  · intro h
    cases hlast : (Entry.valuesAt key stored).getLast? with
    | none =>
      rw [List.getLast?_eq_none_iff] at hlast
      exact absurd (hlast ▸ Entry.mem_valuesAt.mpr h) List.not_mem_nil
    | some last =>
      have hmem := subset _ (Entry.mem_valuesAt.mp (List.mem_of_getLast? hlast))
      have same : Entry.mk key last = ⟨key, value⟩ :=
        List.inj_on_of_nodup_map distinct hmem (subset _ h) rfl
      rw [(Entry.mk.inj same).2]

/-- **The fall-back completes the store**: a consumer sees every entry of `all`. -/
theorem effective_of_mem (distinct : (all.map Entry.key).Nodup)
    (complements : Entry.Complements global stored all) {e : Entry} (he : e ∈ all) :
    (ofEntries project stored).effective e.key global = some e.value := by
  have kept := @get?_ofEntries_eq_some_iff project e.key stored all distinct complements.subset
  cases hown : (ofEntries project stored).get? e.key with
  | some value =>
    have same : Entry.mk e.key value = e :=
      List.inj_on_of_nodup_map distinct (complements.subset _ (kept.mp hown)) he rfl
    rw [effective, hown, Option.some_or, ← congrArg Entry.value same]
  | none =>
    have hstored : e ∉ stored := by
      intro hmem
      rw [kept.mpr hmem] at hown
      cases hown
    rw [effective, hown, Option.none_or, complements.shared e he hstored]

/-- And beside them nothing but the global settings. -/
theorem effective_of_not_mem (complements : Entry.Complements global stored all)
    (absent : ∀ e ∈ all, e.key ≠ key) :
    (ofEntries project stored).effective key global = global.get? key := by
  rw [effective_ofEntries, Entry.valuesAt_eq_nil fun e he => absent e (complements.subset e he)]
  rfl

end ProjectSettings

/-! ## The two generations -/

/-- A record as a modern server tells it of a project: inherited exactly if the global settings have
all its entries. -/
def Setting.ofRecord (global : Snapshot) (r : Setting.Record) : Setting :=
  ⟨r.key, r.flatten.all fun e => global.get? e.key == some e.value, some r.value⟩

/-- An entry as a legacy server tells it. -/
def Property.ofEntry (e : Entry) : Property :=
  ⟨e.key, some e.value⟩

namespace Setting

variable (global : Snapshot) (records : List Record)

/-- A record of the modern generation can be delivered. -/
theorem ofRecord_deliverable (r : Record) : (ofRecord global r).Deliverable := .inr rfl

/-- It is delivered flattened, unless the server marks it as inherited. -/
theorem entries_ofRecord (r : Record) :
    (ofRecord global r).entries =
      if (ofRecord global r).inherited then [] else r.flatten := rfl

/-- The modern delivery drops whole records, those that the global settings have entirely. -/
theorem complements_entries :
    Entry.Complements global ((records.map (ofRecord global)).flatMap entries)
      (records.flatMap Record.flatten) where
  subset := by
    intro e he
    simp only [List.flatMap_map, List.mem_flatMap] at he ⊢
    obtain ⟨r, hr, he⟩ := he
    rw [entries_ofRecord] at he
    split at he
    · cases he
    · exact ⟨r, hr, he⟩
  shared := by
    intro e he hdropped
    simp only [List.flatMap_map, List.mem_flatMap, not_exists, not_and] at he hdropped
    obtain ⟨r, hr, he⟩ := he
    have hnot := hdropped r hr
    rw [entries_ofRecord] at hnot
    split at hnot
    · next hinherited =>
      exact beq_iff_eq.mp (List.all_eq_true.mp hinherited e he)
    · exact absurd he hnot

end Setting

/-- The legacy delivery drops single entries, those that the global settings have. -/
theorem Property.deliver_ofEntry (global : Snapshot) (es : List Entry) :
    deliver (.against global) (es.map ofEntry) =
      es.filter fun e => some e.value != global.get? e.key := by
  induction es with
  | nil => rfl
  | cons e es ih =>
    rw [List.map_cons, deliver_cons, ih, List.filter_cons]
    show (if (some e.value != global.get? e.key) = true then [e] else []) ++ _ = _
    split <;> rfl

/-- What a legacy download delivers, and what the global settings have, are all the entries. -/
theorem Property.complements_deliver (global : Snapshot) (es : List Entry) :
    Entry.Complements global (deliver (.against global) (es.map ofEntry)) es where
  subset := by
    intro e he
    rw [deliver_ofEntry] at he
    exact (List.mem_filter.mp he).1
  shared := by
    intro e he hdropped
    rw [deliver_ofEntry, List.mem_filter, not_and] at hdropped
    by_contra hne
    exact hdropped he (bne_iff_ne.mpr fun h => hne h.symm)

/-- What the legacy delivery stores, the modern one stores too: a record with an entry that differs
is not inherited. -/
theorem mem_entries_of_mem_deliver {global : Snapshot} {records : List Setting.Record} {e : Entry}
    (h : e ∈ Property.deliver (.against global)
      ((records.flatMap Setting.Record.flatten).map Property.ofEntry)) :
    e ∈ (records.map (Setting.ofRecord global)).flatMap Setting.entries := by
  rw [Property.deliver_ofEntry, List.mem_filter, List.mem_flatMap] at h
  obtain ⟨⟨r, hr, he⟩, hdiffers⟩ := h
  have hown : (Setting.ofRecord global r).inherited = false := by
    rw [Bool.eq_false_iff]
    intro hinherited
    have hshared := beq_iff_eq.mp (List.all_eq_true.mp hinherited e he)
    exact bne_iff_ne.mp hdiffers hshared.symm
  rw [List.flatMap_map, List.mem_flatMap]
  refine ⟨r, hr, ?_⟩
  rw [Setting.entries_ofRecord, hown]
  exact he

/-- A record that is no field set has one entry, so dropping the record and dropping its entries
are the same. -/
theorem deliver_ofEntry_eq_entries {global : Snapshot} {records : List Setting.Record}
    (flat : ∀ r ∈ records, ∀ groups, r.value ≠ .fieldSet groups) :
    Property.deliver (.against global)
        ((records.flatMap Setting.Record.flatten).map Property.ofEntry) =
      (records.map (Setting.ofRecord global)).flatMap Setting.entries := by
  rw [Property.deliver_ofEntry, List.filter_flatMap, List.flatMap_map]
  refine List.flatMap_congr fun r hr => ?_
  have single : ∃ e, r.flatten = [e] := by
    obtain ⟨key, value⟩ := r
    cases value with
    | scalar text => exact ⟨_, rfl⟩
    | multi texts => exact ⟨_, rfl⟩
    | fieldSet groups => exact absurd rfl (flat _ hr groups)
  obtain ⟨e, he⟩ := single
  rw [Setting.entries_ofRecord, Setting.ofRecord, he]
  by_cases hshared : global.get? e.key = some e.value
  · simp [hshared]
  · have hdiffers : some e.value ≠ global.get? e.key := fun h => hshared h.symm
    simp [hshared, hdiffers]

/-- **Both generations lead a consumer to the same values.** Let the flattened records have distinct
keys. A modern server tells the project's records, each inherited exactly if the global settings have
all its entries; a legacy server tells the flattened records as properties. Both downloads succeed. A
consumer of either sees each flattened entry, and the global value of every other key. The legacy
store is part of the modern one, and they are equal unless there is a field set, which the modern
store keeps whole where the legacy one keeps the fields that differ. -/
theorem generations_agree {σ τ : Type} (tm : Transport σ) (tl : Transport τ) (sm : σ) (sl : τ)
    (cm cl : Client) (modern legacy : Version) (project : String) (global : Snapshot)
    (records : List Setting.Record) (rm rl : Response)
    (isModern : modern.settingsGeneration = .modern)
    (isLegacy : legacy.settingsGeneration = .legacy)
    (answeredModern : (tm.get (Request.settings .modern (some project)).path sm).1 = .ok rm)
    (answeredLegacy : (tl.get (Request.settings .legacy (some project)).path sl).1 = .ok rl)
    (readModern : cm.codec.settings rm.body = .ok (records.map (Setting.ofRecord global)))
    (readLegacy : cl.codec.properties rl.body =
      .ok ((records.flatMap Setting.Record.flatten).map Property.ofEntry))
    (distinct : ((records.flatMap Setting.Record.flatten).map Entry.key).Nodup) :
    ∃ M L : ProjectSettings,
      ((cm.projectSettings modern project global).run tm sm).result = .ok M ∧
      ((cl.projectSettings legacy project global).run tl sl).result = .ok L ∧
      (∀ key, M.effective key global = L.effective key global) ∧
      (∀ e ∈ records.flatMap Setting.Record.flatten,
        M.effective e.key global = some e.value) ∧
      (∀ key, (∀ e ∈ records.flatMap Setting.Record.flatten, e.key ≠ key) →
        M.effective key global = global.get? key) ∧
      (∀ key value, L.get? key = some value → M.get? key = some value) ∧
      ((∀ r ∈ records, ∀ groups, r.value ≠ .fieldSet groups) → M = L) := by
  have whole := Setting.complements_entries global records
  have single := Property.complements_deliver global (records.flatMap Setting.Record.flatten)
  refine ⟨.ofEntries project ((records.map (Setting.ofRecord global)).flatMap Setting.entries),
    .ofEntries project (Property.deliver (.against global)
      ((records.flatMap Setting.Record.flatten).map Property.ofEntry)), ?_, ?_, fun key => ?_,
    fun e he => ProjectSettings.effective_of_mem distinct whole he,
    fun key absent => ProjectSettings.effective_of_not_mem whole absent,
    fun key value h => ?_, fun flat => ?_⟩
  · have deliverable : ∀ s ∈ records.map (Setting.ofRecord global), s.Deliverable :=
      List.forall_mem_map.mpr fun r _ => Setting.ofRecord_deliverable global r
    rw [Client.run_projectSettings, isModern, answeredModern]
    simp only [Delivery.ofAnswer, readModern, Setting.deliver_of_all deliverable]
    rfl
  · rw [Client.run_projectSettings, isLegacy, answeredLegacy]
    simp only [Delivery.ofAnswer, readLegacy]
    rfl
  · by_cases present : ∃ e ∈ records.flatMap Setting.Record.flatten, e.key = key
    · obtain ⟨e, he, rfl⟩ := present
      rw [ProjectSettings.effective_of_mem distinct whole he,
        ProjectSettings.effective_of_mem distinct single he]
    · have absent : ∀ e ∈ records.flatMap Setting.Record.flatten, e.key ≠ key :=
        fun e he hk => present ⟨e, he, hk⟩
      rw [ProjectSettings.effective_of_not_mem whole absent,
        ProjectSettings.effective_of_not_mem single absent]
  · rw [ProjectSettings.get?_ofEntries_eq_some_iff distinct single.subset] at h
    rw [ProjectSettings.get?_ofEntries_eq_some_iff distinct whole.subset]
    exact mem_entries_of_mem_deliver h
  · rw [deliver_ofEntry_eq_entries flat]

/-! ### A field set that differs in one field

The global settings have the field `a`, the list of groups and `m`, but another value of `b`. -/

namespace PartlyShared

def records : List Setting.Record :=
  [⟨"f", .fieldSet [⟨[("a", "1"), ("b", "2")], by decide⟩]⟩, ⟨"m", .multi ["p", "q"]⟩,
    ⟨"s", .scalar "own"⟩]

def global : Snapshot :=
  .ofList [⟨"f.1.a", "1"⟩, ⟨"f.1.b", "0"⟩, ⟨"f", "1"⟩, ⟨"m", "p,q"⟩, ⟨"g", "z"⟩]

/-- It reads every payload as these records. -/
def codec : Codec where
  settings _ := .ok (records.map (Setting.ofRecord global))
  properties _ := .ok ((records.flatMap Setting.Record.flatten).map Property.ofEntry)
  qualityProfiles _ := .ok []

def server : Canned :=
  { replies := [("/api/settings/values?component=p", .ok []),
      ("/api/properties?format=json&resource=p", .ok [])] }

theorem generations_agree_partly :
    ∃ M L : ProjectSettings,
      ((Client.projectSettings ⟨codec, none⟩ ⟨6, 3, 0, 0, ""⟩ "p" global).run Canned.transport
        server).result = .ok M ∧
      ((Client.projectSettings ⟨codec, none⟩ ⟨6, 2, 0, 0, ""⟩ "p" global).run Canned.transport
        server).result = .ok L ∧
      (∀ key, M.effective key global = L.effective key global) ∧
      M.effective "f.1.a" global = some "1" ∧ M.effective "f.1.b" global = some "2" ∧
      M.effective "s" global = some "own" := by
  obtain ⟨M, L, hM, hL, same, seen, -⟩ := generations_agree Canned.transport Canned.transport server
    server ⟨codec, none⟩ ⟨codec, none⟩ ⟨6, 3, 0, 0, ""⟩ ⟨6, 2, 0, 0, ""⟩ "p" global records
    ⟨"/api/settings/values?component=p", []⟩ ⟨"/api/properties?format=json&resource=p", []⟩
    rfl rfl rfl rfl rfl rfl (by decide)
  exact ⟨M, L, hM, hL, same, seen ⟨"f.1.a", "1"⟩ (by decide), seen ⟨"f.1.b", "2"⟩ (by decide),
    seen ⟨"s", "own"⟩ (by decide)⟩

end PartlyShared

end AnalysisSettings
