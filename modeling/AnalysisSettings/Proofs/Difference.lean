import AnalysisSettings.Proofs.Effective
import AnalysisSettings.Proofs.Notices

/-!
# What a legacy download stores

A legacy download against a reference stores what differs from it. Several properties can have the
same key, and properties can lack a value, so the stored value of a key is that of one particular
property: the last one of the key that has a value, and a value other than the reference has
(`Property.IsLast`, `getLast?_valuesAt_filter`).

`settingsInto_stores_differences` says so of the whole download, together with the number of
properties that it reports as delivered. That number counts properties, not keys.
-/

namespace AnalysisSettings

namespace Property

/-! ## The last property that matters -/

/-- The last property of the key whose value is of interest has the value `value`. -/
def IsLast (ofInterest : String → Bool) (key value : String) (ps : List Property) : Prop :=
  ∃ before after, ps = before ++ ⟨key, some value⟩ :: after ∧ ofInterest value = true ∧
    ∀ p ∈ after, p.key = key → ∀ v, p.value = some v → ofInterest v = false

variable {ofInterest : String → Bool} {key value : String} {p : Property} {ps : List Property}

/-- No value of the key is of interest. -/
theorem filter_valuesAt_eq_nil_iff :
    (valuesAt key ps).filter ofInterest = [] ↔
      ∀ p ∈ ps, p.key = key → ∀ v, p.value = some v → ofInterest v = false := by
  simp only [valuesAt, List.filter_eq_nil_iff, List.mem_filterMap, List.mem_filter, beq_iff_eq,
    Bool.not_eq_true]
  constructor
  · intro none p hp hkey v hv
    exact none v ⟨p, ⟨hp, hkey⟩, hv⟩
  · rintro none v ⟨p, ⟨hp, hkey⟩, hv⟩
    exact none p hp hkey v hv

/-- A property in front is the last of interest if none behind it is. -/
theorem isLast_cons : IsLast ofInterest key value (p :: ps) ↔
    IsLast ofInterest key value ps ∨
      (valuesAt key ps).filter ofInterest = [] ∧ p = ⟨key, some value⟩ ∧
        ofInterest value = true := by
  constructor
  · rintro ⟨before, after, split, matters, none⟩
    cases before with
    | nil =>
      obtain ⟨rfl, rfl⟩ := List.cons.inj split
      exact .inr ⟨filter_valuesAt_eq_nil_iff.mpr none, rfl, matters⟩
    | cons q before =>
      obtain ⟨rfl, rfl⟩ := List.cons.inj split
      exact .inl ⟨before, after, rfl, matters, none⟩
  · rintro (⟨before, after, rfl, matters, none⟩ | ⟨none, rfl, matters⟩)
    · exact ⟨p :: before, after, rfl, matters, none⟩
    · exact ⟨[], ps, rfl, matters, filter_valuesAt_eq_nil_iff.mp none⟩

/-- The last of the values that are of interest is that of the last property. -/
theorem getLast?_valuesAt_filter :
    ((valuesAt key ps).filter ofInterest).getLast? = some value ↔
      IsLast ofInterest key value ps := by
  induction ps with
  | nil =>
    refine iff_of_false nofun ?_
    rintro ⟨before, after, split, -⟩
    exact List.append_ne_nil_of_right_ne_nil before (List.cons_ne_nil _ _) split.symm
  | cons p ps ih =>
    rw [isLast_cons, ← ih, valuesAt_cons, List.filter_append, List.getLast?_append]
    cases later : ((valuesAt key ps).filter ofInterest).getLast? with
    | some v =>
      have some' : (valuesAt key ps).filter ofInterest ≠ [] := by
        intro none
        rw [none] at later
        cases later
      simp [some']
    | none =>
      rw [List.getLast?_eq_none_iff] at later
      obtain ⟨name, v⟩ := p
      by_cases hkey : name = key
      · cases v with
        | none => simp [hkey]
        | some v =>
          by_cases matters : ofInterest v = true
          · simp [hkey, matters, later]
            rintro rfl
            exact matters
          · simp [hkey, matters, later]
            rintro rfl
            simpa using matters
      · simp [hkey]

/-! ## What differs from the reference -/

/-- The value is not the one that the reference has for the key. Without a reference every value is
such a value. -/
def differs (reference : Option Snapshot) (key value : String) : Bool :=
  reference.all fun global => global.get? key != some value

/-- Every value differs from a reference that there is not. -/
theorem filter_differs_none (key : String) (vs : List String) :
    vs.filter (differs none key) = vs :=
  List.filter_eq_self.mpr fun _ _ => rfl

/-- The delivery gives a key those of its values that differ, in their order. -/
theorem valuesAt_deliver (reference : Option Snapshot) (key : String) (ps : List Property) :
    Entry.valuesAt key (deliver (.ofReference reference) ps) =
      (valuesAt key ps).filter (differs reference key) := by
  cases reference with
  | none => rw [Filter.ofReference, valuesAt_deliver_keepAll, filter_differs_none]
  | some global =>
    rw [Filter.ofReference, valuesAt_deliver_against]
    refine List.filter_congr fun v _ => ?_
    rw [differs, Option.all_some, bne_comm]

/-- As many entries are delivered as there are properties with a value that differs. -/
theorem length_deliver (reference : Option Snapshot) (ps : List Property) :
    (deliver (.ofReference reference) ps).length =
      ps.countP fun p => p.value.any (differs reference p.key) := by
  induction ps with
  | nil => rfl
  | cons p ps ih =>
    rw [deliver_cons, List.length_append, ih, List.countP_cons, Nat.add_comm]
    congr 1
    obtain ⟨name, value⟩ := p
    cases value with
    | none => simp [flat?]
    | some v =>
      cases reference with
      | none => rfl
      | some global =>
        by_cases same : some v = global.get? name
        · simp [Filter.ofReference, Filter.keeps, differs, ← same]
        · simp [Filter.ofReference, Filter.keeps, differs, same, Ne.symm same, flat?]

end Property

/-! ## The download -/

namespace Inquiry

open Property (IsLast differs)

/-- What a legacy download notes: the exchange, the properties that it kept and that have no value,
and how many entries it delivered. -/
theorem notices_settings_legacy {σ : Type} {t : Transport σ} {s : σ} {codec : Codec}
    {scope : Option String} {response : Response} {ps : List Property}
    (answered : (t.get (Request.settings .legacy scope).path s).1 = .ok response)
    (read : codec.properties response.body = .ok ps) (reference : Option Snapshot) :
    ((settings codec .legacy scope reference).run t s).notices =
      (t.get (Request.settings .legacy scope).path s).2.1.map .log ++
        (Property.skipNotices (.ofReference reference) ps ++ settingsNotices .legacy scope
          (Property.deliver (.ofReference reference) ps).length) := by
  rw [settings, run]
  generalize t.get (Request.settings .legacy scope).path s = exchange at answered ⊢
  obtain ⟨answer, records, s'⟩ := exchange
  obtain rfl : answer = .ok response := answered
  dsimp only
  rw [read]
  dsimp only
  simp

/-- **What a legacy download stores.** Let a legacy server answer, and let the codec read properties
in the answer; keys may be repeated and values may be absent. Downloaded into the empty settings of a
project, a key is stored with the value of its last property that has a value other than the
reference has; it is not stored if there is none. So every stored entry is a property, and none
repeats the reference. Without a reference, the last value of a key is stored. The number in the log
is that of the properties with a value that differs from the reference. -/
theorem settingsInto_stores_differences {σ : Type} {t : Transport σ} {s : σ} {codec : Codec}
    {scope : Option String} {response : Response} {ps : List Property}
    (answered : (t.get (Request.settings .legacy scope).path s).1 = .ok response)
    (read : codec.properties response.body = .ok ps) (reference : Option Snapshot)
    (project : String) :
    let left := (settingsInto codec .legacy scope reference
      (⟨project, .empty⟩ : ProjectSettings.Builder)).run t s
    let stored := left.result.2.build
    left.result.1 = .ok () ∧ stored.projectKey = project ∧
    (∀ key value, stored.get? key = some value ↔ IsLast (differs reference key) key value ps) ∧
    (∀ key, stored.get? key = none ↔
      ∀ p ∈ ps, p.key = key → ∀ v, p.value = some v → differs reference key v = false) ∧
    (∀ e ∈ stored.store.entries, ⟨e.key, some e.value⟩ ∈ ps ∧
      ∀ global, reference = some global → global.get? e.key ≠ some e.value) ∧
    (reference = none → ∀ key, stored.get? key = (Property.valuesAt key ps).getLast?) ∧
    left.notices = (t.get (Request.settings .legacy scope).path s).2.1.map .log ++
      (Property.skipNotices (.ofReference reference) ps ++ settingsNotices .legacy scope
        (ps.countP fun p => p.value.any (differs reference p.key))) := by
  intro left stored
  have result : left.result = (.ok (), Sink.putAll ⟨project, .empty⟩
      (Property.deliver (.ofReference reference) ps)) := by
    show ((settingsInto codec .legacy scope reference _).run t s).result = _
    rw [run_settingsInto, answered]
    simp only [Delivery.ofAnswer, read]
  have built : stored =
      .ofEntries project (Property.deliver (.ofReference reference) ps) := by
    show left.result.2.build = _
    rw [result]
    rfl
  have view : ∀ key, stored.get? key =
      ((Property.valuesAt key ps).filter (differs reference key)).getLast? := by
    intro key
    rw [built, ProjectSettings.get?_ofEntries, Property.valuesAt_deliver]
  have last : ∀ key value, stored.get? key = some value ↔
      IsLast (differs reference key) key value ps := by
    intro key value
    rw [view, Property.getLast?_valuesAt_filter]
  refine ⟨congrArg Prod.fst result, ?_, last, fun key => ?_, fun e he => ?_, ?_, ?_⟩
  · rw [built, ProjectSettings.ofEntries, ProjectSettings.Builder.putAll_store]
    rfl
  · rw [view, List.getLast?_eq_none_iff, Property.filter_valuesAt_eq_nil_iff]
  · obtain ⟨before, after, rfl, new, -⟩ := (last _ _).mp (Store.mem_entries_iff.mp he)
    refine ⟨List.mem_append_right _ List.mem_cons_self, ?_⟩
    rintro global rfl
    exact bne_iff_ne.mp new
  · rintro rfl key
    rw [view, Property.filter_differs_none]
  · show ((settingsInto codec .legacy scope reference _).run t s).notices = _
    rw [settingsInto, run_map, notices_settings_legacy answered read, Property.length_deliver]

/-! ### Repeated keys and missing values

The reference has `x` and `z`. The payload repeats `x` with the value of the reference behind another
one, gives `z` as it is, `w` three times, the second time without a value, and `y` without a value. -/

namespace Repetitions

def global : Snapshot := .ofList [⟨"x", "1"⟩, ⟨"z", "9"⟩]

def properties : List Property :=
  [⟨"x", some "2"⟩, ⟨"w", some "5"⟩, ⟨"x", some "1"⟩, ⟨"w", none⟩, ⟨"z", some "9"⟩, ⟨"y", none⟩,
    ⟨"w", some "6"⟩]

def codec : Codec where
  settings _ := .ok []
  properties _ := .ok properties
  qualityProfiles _ := .ok []

def server : Canned := { replies := [("/api/properties?format=json&resource=p", .ok [])] }

theorem answered : (Canned.transport.get (Request.settings .legacy (some "p")).path server).1 =
    .ok ⟨"/api/properties?format=json&resource=p", []⟩ := rfl

theorem read : codec.properties [] = .ok properties := rfl

/-- Two keys are stored, and three properties are delivered. -/
theorem settingsInto_stores_repetitions :
    let left := (settingsInto codec .legacy (some "p") (some global)
      (⟨"p", .empty⟩ : ProjectSettings.Builder)).run Canned.transport server
    left.result.1 = .ok () ∧ left.result.2.build.get? "x" = some "2" ∧
      left.result.2.build.get? "w" = some "6" ∧ left.result.2.build.get? "y" = none ∧
      left.result.2.build.get? "z" = none ∧
      Notice.log ⟨.debug, "settings delivered to sink",
        [("protocol", "LegacyProperties"), ("project_key", "p"), ("delivered", "3")]⟩ ∈
          left.notices := by
  obtain ⟨ok, -, last, absent, -, -, notices⟩ :=
    settingsInto_stores_differences answered read (some global) "p"
  refine ⟨ok, (last _ _).mpr ?_, (last _ _).mpr ?_, (absent _).mpr (by decide),
    (absent _).mpr (by decide), ?_⟩
  · exact ⟨[], _, rfl, by decide, by decide⟩
  · exact ⟨[⟨"x", some "2"⟩, ⟨"w", some "5"⟩, ⟨"x", some "1"⟩, ⟨"w", none⟩, ⟨"z", some "9"⟩,
      ⟨"y", none⟩], [], rfl, by decide, by decide⟩
  · rw [notices]
    refine List.mem_append_right _ (List.mem_append_right _ ?_)
    exact List.mem_cons_self

end Repetitions

end Inquiry

end AnalysisSettings
