import AnalysisSettings.Proofs.Delivery
import AnalysisSettings.Proofs.FlatKey

/-!
# What a project's field set overrides

A project that has a field set of its own stores the flat keys of its fields, and nothing for the
fields that its groups do not have. A consumer looks flat keys up one by one, so such a field is
still seen if another record or the global scope has its flat key.

`Client.projectSettings_fieldSet` says what a consumer sees below the key of the field set: the
list of the groups, each field with the project's value, and for every other field what else there
is at its flat key.
-/

namespace AnalysisSettings

/-! ## Fields and flat entries -/

/-- A field is looked up where it stands, for no name stands twice. -/
theorem FieldGroup.get?_eq_some_iff {g : FieldGroup} {name value : String} :
    g.get? name = some value ↔ (name, value) ∈ g.fields := by
  obtain ⟨fields, distinct⟩ := g
  show fields.lookup name = some value ↔ (name, value) ∈ fields
  induction fields with
  | nil => simp
  | cons field fields ih =>
    obtain ⟨first, others⟩ := List.nodup_cons.mp distinct
    rw [List.lookup_cons, List.mem_cons]
    by_cases h : name = field.1
    · subst h
      rw [beq_self_eq_true]
      dsimp only
      rw [Option.some.injEq]
      constructor
      · rintro rfl
        exact .inl rfl
      · rintro (h | h)
        · rw [← h]
        · exact absurd (List.mem_map_of_mem h) first
    · have other : (name, value) ≠ field := fun he => h (congrArg Prod.fst he)
      rw [beq_false_of_ne h]
      dsimp only
      rw [ih others]
      exact (or_iff_right other).symm

namespace Setting.Record

variable {key : String} {groups : List FieldGroup}

/-- A field set is flattened with its list of indices. -/
theorem mem_flatten_list : ⟨key, indexList groups.length⟩ ∈ flatten ⟨key, .fieldSet groups⟩ :=
  List.mem_append_right _ List.mem_cons_self

/-- The flat entries of the fields of a group are those of its fields. -/
theorem mem_flatten_field {i : Nat} {g : FieldGroup} {field value : String}
    (hg : groups[i]? = some g) :
    ⟨fieldKey key (i + 1) field, value⟩ ∈ flatten ⟨key, .fieldSet groups⟩ ↔
      g.get? field = some value := by
  rw [FieldGroup.get?_eq_some_iff, flatten, List.mem_append, mem_groupEntries]
  constructor
  · rintro (⟨j, g', field', hg', hfield, he⟩ | he)
    · obtain ⟨hkey, rfl⟩ := Entry.mk.inj he
      obtain ⟨number, rfl⟩ := fieldKey_injective hkey
      obtain rfl : i = j := by omega
      rw [hg] at hg'
      cases hg'
      exact hfield
    · have hkey := (Entry.mk.inj (List.mem_singleton.mp he)).1
      exact absurd hkey (fieldKey_ne _ _ _)
  · intro h
    refine .inl ⟨i, g, _, hg, h, ?_⟩
    rw [Nat.add_comm]

end Setting.Record

/-! ## One record among others -/

/-- A key of an entry that no other entries share has the value of that entry alone. -/
theorem Entry.valuesAt_amid {front own back : List Entry} {e : Entry}
    (distinct : (own.map Entry.key).Nodup) (he : e ∈ own) (alone : ∀ f ∈ front ++ back, f.key ≠ e.key) :
    valuesAt e.key (front ++ (own ++ back)) = [e.value] := by
  obtain ⟨hfront, hback⟩ := List.forall_mem_append.mp alone
  simp [valuesAt_of_mem distinct he, valuesAt_eq_nil hfront, valuesAt_eq_nil hback]

/-- A key that some entries do not have is given its values by the others. -/
theorem Entry.valuesAt_around {front own back : List Entry} {key : String}
    (absent : ∀ e ∈ own, e.key ≠ key) :
    valuesAt key (front ++ (own ++ back)) = valuesAt key (front ++ back) := by
  simp [valuesAt_eq_nil absent]

/-! ## The field set of a project -/

namespace Client

open Setting.Record (flatten fieldKey indexList)

/-- The settings of a project that were downloaded from a modern server. -/
theorem projectSettings_of_tells {σ : Type} {t : Transport σ} {s : σ} {c : Client}
    {version : Version} {project : String} {ss : List Setting} {global : Snapshot}
    {P : ProjectSettings} (modern : version.settingsGeneration = .modern)
    (told : t.Tells s c.codec (some project) ss) :
    ((c.projectSettings version project global).run t s).result = .ok P ↔
      (∀ x ∈ ss, x.Deliverable) ∧ P = .ofEntries project (ss.flatMap Setting.entries) := by
  rw [run_projectSettings, modern, told.ofAnswer, ← Setting.deliver_ok_iff]
  cases h : (Setting.deliver ss).outcome with
  | error f => simp [Except.map, h]
  | ok u =>
    have entries := congrArg Delivery.entries (Setting.deliver_of_all (Setting.deliver_ok_iff.mp h))
    dsimp only at entries
    simp [Except.map, h, entries, eq_comm]

/-- **What a consumer sees of a project's field set.** Let a modern server tell a field set of the
project itself, and let no other record have one of its flat keys. A consumer sees the list of its
groups. At the flat key of a field in one of its groups the consumer sees the value that the group
gives to the field; if the group does not have the field, the value that other records of the project
give to that flat key, and failing that the global one. -/
theorem projectSettings_fieldSet {σ : Type} {t : Transport σ} {s : σ} {c : Client}
    {version : Version} {project key : String} {groups : List FieldGroup}
    {before after : List Setting} {global : Snapshot} {P : ProjectSettings}
    (modern : version.settingsGeneration = .modern)
    (told : t.Tells s c.codec (some project)
      (before ++ ⟨key, false, some (.fieldSet groups)⟩ :: after))
    (built : ((c.projectSettings version project global).run t s).result = .ok P)
    (alone : ∀ x ∈ before ++ after, ∀ e ∈ x.entries, ∀ own ∈ flatten ⟨key, .fieldSet groups⟩,
      e.key ≠ own.key) :
    P.effective key global = some (indexList groups.length) ∧
    ∀ i g, groups[i]? = some g → ∀ field,
      (∀ value, g.get? field = some value →
        P.effective (fieldKey key (i + 1) field) global = some value) ∧
      (g.get? field = none → P.effective (fieldKey key (i + 1) field) global =
        (Entry.valuesAt (fieldKey key (i + 1) field)
          ((before ++ after).flatMap Setting.entries)).getLast?.or
            (global.get? (fieldKey key (i + 1) field))) := by
  obtain ⟨-, rfl⟩ := (projectSettings_of_tells modern told).mp built
  have distinct := Setting.Record.nodup_flatten ⟨key, .fieldSet groups⟩
  have others : ∀ own ∈ flatten ⟨key, .fieldSet groups⟩,
      ∀ e ∈ before.flatMap Setting.entries ++ after.flatMap Setting.entries, e.key ≠ own.key := by
    intro own hown e he
    rw [← List.flatMap_append] at he
    obtain ⟨x, hx, he⟩ := List.mem_flatMap.mp he
    exact alone x hx e he own hown
  have placed : (before ++ ⟨key, false, some (.fieldSet groups)⟩ :: after).flatMap Setting.entries =
      before.flatMap Setting.entries ++
        (flatten ⟨key, .fieldSet groups⟩ ++ after.flatMap Setting.entries) := by
    rw [List.flatMap_append, List.flatMap_cons]
    rfl
  have seen : ∀ own ∈ flatten ⟨key, .fieldSet groups⟩, (ProjectSettings.ofEntries project
      ((before ++ ⟨key, false, some (.fieldSet groups)⟩ :: after).flatMap
        Setting.entries)).effective own.key global = some own.value := by
    intro own hown
    rw [ProjectSettings.effective_ofEntries, placed,
      Entry.valuesAt_amid distinct hown (others own hown)]
    rfl
  refine ⟨seen _ Setting.Record.mem_flatten_list, fun i g hg field => ⟨fun value h => ?_, fun h => ?_⟩⟩
  · exact seen _ ((Setting.Record.mem_flatten_field hg).mpr h)
  · have absent : ∀ e ∈ flatten ⟨key, .fieldSet groups⟩, e.key ≠ fieldKey key (i + 1) field := by
      rintro ⟨_, value⟩ he rfl
      rw [Setting.Record.mem_flatten_field hg, h] at he
      cases he
    rw [ProjectSettings.effective_ofEntries, placed, Entry.valuesAt_around absent,
      List.flatMap_append]

end Client

/-! ### A group with fewer fields than the global one

At both scopes `k` is a field set. The global one has two groups, and its first group has the fields
`a` and `b`; the project has one group with the field `a`. -/

namespace FewerFields

open Json

open Setting.Record (flatten fieldKey)

def payload : Tree :=
  .plainObject [("settings", .list (.ofList [
    .plainObject [("key", .string (.plain "k")), ("fieldValues", .list (.ofList [
      .plainObject [("a", .string (.plain "1"))]]))]]))]

def text : String :=
  "\x7b\"settings\":[\x7b\"key\":\"k\",\"fieldValues\":[\x7b\"a\":\"1\"\x7d]\x7d]\x7d"

theorem group_distinct : ([("a", "1")].map Prod.fst).Nodup := by decide

def group : FieldGroup := ⟨[("a", "1")], group_distinct⟩

def global : Snapshot :=
  .ofList (flatten ⟨"k", .fieldSet [⟨[("a", "0"), ("b", "z")], by decide⟩, ⟨[("a", "7")], by decide⟩]⟩)

def server : Canned :=
  { replies := [("/api/settings/values?component=p", .ok (Utf8.encode text))] }

theorem document : payload.Document (Utf8.encode text) := by
  have group : Tree.Written (.plainObject [("a", .string (.plain "1"))]) _ :=
    .tightObject <| .tight (by decide) (.plain (by decide)) .closed
  have setting : Tree.Written (.plainObject [("key", .string (.plain "k")),
      ("fieldValues", .list (.ofList [.plainObject [("a", .string (.plain "1"))]]))]) _ :=
    .tightObject <| .tight (by decide) (.plain (by decide)) <| .tight <|
      .tight (by decide) (.list <| .tight group .closed) .closed
  have payload : payload.Written _ :=
    .tightObject <| .tight (by decide) (.list <| .tight setting .closed) .closed
  exact ⟨[], _, [], by decide, payload, by decide, by decide +kernel⟩

theorem told : Canned.transport.Tells server .json (some "p")
    ([] ++ ⟨"k", false, some (.fieldSet [group])⟩ :: []) := by
  refine ⟨⟨"/api/settings/values?component=p", Utf8.encode text⟩, rfl, ?_⟩
  show Payload.decodeSettings _ = _
  rw [Payload.decodeSettings, Payload.reporting, Payload.readSettings,
    readPayload_of_document document]
  rfl

theorem built : ((Client.projectSettings ⟨.json, none⟩ ⟨6, 3, 0, 0, ""⟩ "p" global).run
    Canned.transport server).result = .ok (.ofEntries "p" [⟨"k.1.a", "1"⟩, ⟨"k", "1"⟩]) :=
  (Client.projectSettings_of_tells rfl told).mpr ⟨by decide, rfl⟩

/-- The consumer sees the project's list of groups and its field, and the field that it lacks as the
global scope has it. -/
theorem projectSettings_fewer_fields :
    ∃ P : ProjectSettings,
      ((Client.projectSettings ⟨.json, none⟩ ⟨6, 3, 0, 0, ""⟩ "p" global).run Canned.transport
        server).result = .ok P ∧
      P.effective "k" global = some "1" ∧ P.effective "k.1.a" global = some "1" ∧
      P.effective "k.1.b" global = some "z" := by
  obtain ⟨list, fields⟩ := Client.projectSettings_fieldSet rfl told built (by decide)
  obtain ⟨own, lacking⟩ := fields 0 group rfl "a"
  obtain ⟨own', lacking'⟩ := fields 0 group rfl "b"
  exact ⟨_, built, list, own "1" rfl, lacking' rfl⟩

/-- The server tells one setting, the field set. Its group does not have the field `b`, but the
consumer sees a value of it. -/
theorem projectSettings_global_field_seen :
    Canned.transport.Tells server .json (some "p") [⟨"k", false, some (.fieldSet [group])⟩] ∧
    ∃ P : ProjectSettings,
      ((Client.projectSettings ⟨.json, none⟩ ⟨6, 3, 0, 0, ""⟩ "p" global).run Canned.transport
        server).result = .ok P ∧
      group.get? "b" = none ∧ P.effective (fieldKey "k" 1 "b") global = some "z" :=
  ⟨told, _, built, rfl, by decide⟩

end FewerFields

end AnalysisSettings
