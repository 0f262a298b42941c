import AnalysisSettings.Payload.Codec
import AnalysisSettings.Proofs.Json.Grammar
import AnalysisSettings.Proofs.Json.Record

/-!
# The settings payload is read back

`RendersSettings` relates a list of settings to the trees that may stand for it in a payload: members
in any order, others between them, shapes that are absent left out or null, a flag that is not set
left out or given, and a setting without a value in no shape or in several.

`decodeSettings_of_document` says what comes out of any such payload: the settings that were
rendered, or the failure of the first one without a key.
-/

namespace AnalysisSettings.Payload

open Json

/-! ## Rendering -/

/-- The tree is the group: an object of its fields, in their order. -/
def RendersGroup (g : FieldGroup) (t : Tree) : Prop :=
  ∃ named, List.Forall₂ (fun field m => m.1 = field.1 ∧ m.2.IsText field.2) g.fields named ∧
    t.IsObject named

/-- The shapes in which a value may be given: its own, and for no value none or at least two. -/
inductive Shapes : Option Setting.Value → Option String → Option (List String) →
    Option (List FieldGroup) → Prop
  | scalar (text : String) : Shapes (some (.scalar text)) (some text) none none
  | multi (texts : List String) : Shapes (some (.multi texts)) none (some texts) none
  | fieldSet (groups : List FieldGroup) : Shapes (some (.fieldSet groups)) none none (some groups)
  | absent : Shapes none none none none
  | scalarMulti (text : String) (texts : List String) (groups : Option (List FieldGroup)) :
      Shapes none (some text) (some texts) groups
  | scalarFieldSet (text : String) (texts : Option (List String)) (groups : List FieldGroup) :
      Shapes none (some text) texts (some groups)
  | multiFieldSet (text : Option String) (texts : List String) (groups : List FieldGroup) :
      Shapes none text (some texts) (some groups)

/-- The tree is the setting. -/
inductive RendersSetting (s : Setting) (t : Tree) : Prop
  | mk {key : Tree} {text : Option String} {texts : Option (List String)}
      {groups : Option (List FieldGroup)} {value values fieldValues inherited : List (String × Tree)}
      (keyText : key.IsText s.key) (shapes : Shapes s.value text texts groups)
      (scalar : OptionalMember "value" Tree.IsText text value)
      (multi : OptionalMember "values" (Tree.IsList Tree.IsText) texts values)
      (fieldSet : OptionalMember "fieldValues" (Tree.IsList RendersGroup) groups fieldValues)
      (flag : FlagMember "inherited" s.inherited inherited)
      (record : t.IsRecord ["key", "value", "values", "fieldValues", "inherited"]
        (("key", key) :: (value ++ (values ++ (fieldValues ++ inherited)))))

/-- The tree is the whole payload. -/
def RendersSettings (settings : List Setting) (t : Tree) : Prop :=
  ∃ list, list.IsList RendersSetting settings ∧ t.IsRecord ["settings"] [("settings", list)]

/-! ## Reading -/

/-- A value that is carried in exactly one shape is resolved to it, and any other to none. -/
theorem resolveShape_of_shapes {v : Option Setting.Value} {text : Option String}
    {texts : Option (List String)} {groups : Option (List FieldGroup)}
    (h : Shapes v text texts groups) : resolveShape text texts groups = v := by
  cases h with
  | scalarMulti text texts groups => cases groups <;> rfl
  | scalarFieldSet text texts groups => cases texts <;> rfl
  | multiFieldSet text texts groups => cases text <;> rfl
  | _ => rfl

/-! ### The fields of a setting

Each field has a place of its own in the parts. -/

/-- Each field of a record stores what it reads in a part of its own; the key must be a text. -/
theorem stores_key : (settingShape.fields[0]).Stores SettingParts.key
    (fun o p => { p with key := o }) Tree.asText :=
  ⟨fun _ => rfl, fun _ _ => rfl, fun _ _ => rfl, fun _ => rfl⟩

/-- The single value may be missing or null. -/
theorem stores_value : (settingShape.fields[1]).Stores SettingParts.value
    (fun o p => { p with value := o }) (Tree.asOptional Tree.asText) :=
  ⟨fun _ => rfl, fun _ _ => rfl, fun _ _ => rfl, fun _ => rfl⟩

/-- The texts may be missing or null. -/
theorem stores_values : (settingShape.fields[2]).Stores SettingParts.values
    (fun o p => { p with values := o }) (Tree.asOptional (Tree.asList Tree.asText)) :=
  ⟨fun _ => rfl, fun _ _ => rfl, fun _ _ => rfl, fun _ => rfl⟩

/-- The groups may be missing or null. -/
theorem stores_fieldValues : (settingShape.fields[3]).Stores SettingParts.fieldValues
    (fun o p => { p with fieldValues := o }) (Tree.asOptional (Tree.asList readGroup)) :=
  ⟨fun _ => rfl, fun _ _ => rfl, fun _ _ => rfl, fun _ => rfl⟩

/-- The mark of inherited records is a flag. -/
theorem stores_inherited : (settingShape.fields[4]).Stores SettingParts.inherited
    (fun o p => { p with inherited := o }) Tree.asFlag :=
  ⟨fun _ => rfl, fun _ _ => rfl, fun _ _ => rfl, fun _ => rfl⟩

/-- The records of a payload are the one part of it. -/
theorem stores_settings : (settingsShape.fields[0]).Stores id (fun o _ => o)
    (Tree.asList settingShape.read) :=
  ⟨fun _ => rfl, fun _ _ => rfl, fun _ _ => rfl, fun _ => rfl⟩

/-- The places of the fields, in their order. -/
def settingPlaces : List (Field.Place SettingParts) :=
  [⟨_, stores_key⟩, ⟨_, stores_value⟩, ⟨_, stores_values⟩, ⟨_, stores_fieldValues⟩,
    ⟨_, stores_inherited⟩]

/-- The parts of a record do not overlap. -/
theorem settingPlaces_apart : settingPlaces.Pairwise Field.Place.Apart := by
  simp only [settingPlaces, List.pairwise_cons, List.forall_mem_cons, List.not_mem_nil,
    false_imp_iff, implies_true, and_true, List.Pairwise.nil]
  repeat' apply And.intro
  all_goals exact ⟨fun _ _ => rfl, fun _ _ => rfl, fun _ _ _ => rfl⟩

/-- The fields of a record can be given in any order. -/
theorem settingShape_orderly : Field.Orderly settingShape.fields :=
  Field.Orderly.of_places settingPlaces_apart

/-! ### From the groups to the payload -/

/-- A group is read as it is rendered. -/
theorem readGroup_of_renders {g : FieldGroup} {t : Tree} (h : RendersGroup g t) :
    readGroup t = .ok g := by
  obtain ⟨named, fields, object⟩ := h
  have values : List.Forall₂ (fun (field : String × String) (m : String × Tree) =>
      m.1 = field.1 ∧ m.2.asText = .ok field.2) g.fields named :=
    fields.imp fun _ _ h => ⟨h.1, h.2.asText⟩
  rw [readGroup, object.asMap values]
  exact congrArg Except.ok g.ofList_fields

/-- **A setting is read back**, whatever order and shapes it was rendered in. -/
theorem settingShape_read {s : Setting} {t : Tree} (h : RendersSetting s t)
    (sound : t.skipFault? = none) : settingShape.read t = .ok s := by
  obtain @⟨key, text, texts, groups, value, values, fieldValues, inherited, keyText, shapes, scalar,
    multi, fieldSet, flag, record⟩ := h
  obtain ⟨-, members⟩ := List.forall_mem_cons.mp (record.sound sound)
  obtain ⟨soundValue, members⟩ := List.forall_mem_append.mp members
  obtain ⟨soundValues, members⟩ := List.forall_mem_append.mp members
  obtain ⟨soundFieldValues, -⟩ := List.forall_mem_append.mp members
  obtain ⟨v, givenValue, hv⟩ := scalar.read soundValue
    fun a t h _ => ⟨h.ne_null, h.asText⟩
  obtain ⟨vs, givenValues, hvs⟩ := multi.read soundValues
    fun as t h sound => ⟨h.ne_null, h.asList sound fun a u h _ => h.asText⟩
  obtain ⟨fs, givenFieldValues, hfs⟩ := fieldSet.read soundFieldValues
    fun gs t h sound => ⟨h.ne_null, h.asList sound fun g u h _ => readGroup_of_renders h⟩
  obtain ⟨flag, givenFlag, hflag⟩ := flag.read
  have givenKey : Field.Given "key" Tree.asText (some s.key) [("key", key)] :=
    .given keyText.asText
  have read : ([("key", key)] ++ (value ++ (values ++ (fieldValues ++ inherited)))).foldlM
      (Field.take settingShape.fields) settingShape.start =
        .ok ⟨some s.key, v, vs, fs, flag⟩ := by
    rw [Field.foldlM_take_append (stores_key.foldlM_take rfl givenKey rfl),
      Field.foldlM_take_append (stores_value.foldlM_take rfl givenValue rfl),
      Field.foldlM_take_append (stores_values.foldlM_take rfl givenValues rfl),
      Field.foldlM_take_append (stores_fieldValues.foldlM_take rfl givenFieldValues rfl)]
    exact stores_inherited.foldlM_take rfl givenFlag rfl
  have complete : ∀ f ∈ settingShape.fields, f.required = true →
      f.isRead ⟨some s.key, v, vs, fs, flag⟩ = true := by
    simp [settingShape]
  rw [Shape.read_of_isRecord _ settingShape_orderly record sound read complete]
  show Except.ok (Setting.mk s.key (flag.getD false)
    (resolveShape (v.getD none) (vs.getD none) (fs.getD none))) = _
  rw [hflag, hv, hvs, hfs, resolveShape_of_shapes shapes]

/-! ### The payload -/

/-- A payload has one field, and so no order. -/
theorem settingsShape_orderly : Field.Orderly settingsShape.fields :=
  @Field.Orderly.of_places _ [⟨_, stores_settings⟩] (List.pairwise_singleton _ _)

/-- **The settings of a payload are read back** in their order. -/
theorem settingsShape_read {settings : List Setting} {t : Tree} (h : RendersSettings settings t)
    (sound : t.skipFault? = none) : settingsShape.read t = .ok settings := by
  obtain ⟨list, isList, record⟩ := h
  have soundList : list.skipFault? = none := record.sound sound _ List.mem_cons_self
  have given : Field.Given "settings" (Tree.asList settingShape.read) (some settings)
      [("settings", list)] :=
    .given (isList.asList soundList fun s u h sound => settingShape_read h sound)
  exact Shape.read_of_isRecord _ settingsShape_orderly record sound
    (stores_settings.foldlM_take rfl given rfl) (by simp [settingsShape])

/-- **What a settings payload decodes to.** Let settings be rendered as a payload, with any blanks,
escapes, order of members, unknown members and ways to leave things out. If all have keys, exactly
these settings are decoded, in their order. Otherwise the payload is refused because of the first
setting without a key, and the failure carries its text. -/
theorem decodeSettings_of_document {settings : List Setting} {t : Tree} {text : String}
    (document : t.Document (Utf8.encode text)) (renders : RendersSettings settings t) :
    ((∀ s ∈ settings, s.key ≠ "") → decodeSettings (Utf8.encode text) = .ok settings) ∧
    ((∃ s ∈ settings, s.key = "") → ∃ before s after, settings = before ++ s :: after ∧
      (∀ r ∈ before, r.key ≠ "") ∧ s.key = "" ∧
      decodeSettings (Utf8.encode text) = .error (.decode .settings
        ("setting without key (inherited=" ++ (if s.inherited then "true" else "false") ++ ")")
        text)) := by
  have read : readPayload settingsShape.read (Utf8.encode text) = .ok settings := by
    rw [readPayload_of_document document]
    exact settingsShape_read renders document.skipFault?
  constructor
  · intro keyed
    have absent : (settings.find? fun s => s.key.isEmpty) = none := by
      refine List.find?_eq_none.mpr fun s hs => ?_
      rw [String.isEmpty_iff]
      exact keyed s hs
    rw [decodeSettings, reporting, readSettings, read]
    simp only [Except.bind, absent]
    rfl
  · rintro ⟨s, hs, keyless⟩
    have present : (settings.find? fun s => s.key.isEmpty).isSome := by
      refine List.find?_isSome.mpr ⟨s, hs, ?_⟩
      exact String.isEmpty_iff.mpr keyless
    obtain ⟨first, hfirst⟩ := Option.isSome_iff_exists.mp present
    obtain ⟨hkey, before, after, hsplit, hbefore⟩ := List.find?_eq_some_iff_append.mp hfirst
    refine ⟨before, first, after, hsplit, ?_, String.isEmpty_iff.mp hkey, ?_⟩
    · intro r hr hempty
      have := hbefore r hr
      simp [hempty] at this
    · rw [decodeSettings, reporting, readSettings, read]
      simp only [Except.bind, hfirst]
      rw [Utf8.lossy_encode]
      rfl

/-! ### A payload with three settings

A scalar written with escapes, an inherited field set between a member of an unknown name and a null,
and a setting in two shapes. Their members come in the opposite order of the description. -/

namespace Sample

/-- The text `é` and a line end, both escaped. -/
def accented : Literal := ⟨[.unit 0xE9, .short 0x0A], .closed⟩

def scalar : Tree :=
  .plainObject [("value", .string accented), ("key", .string (.plain "a"))]

def group : Tree :=
  .plainObject [("y", .string (.plain "2")), ("x", .string (.plain "1"))]

def fieldSet : Tree :=
  .plainObject [("x", .list (.ofList [.null])), ("inherited", .bool true),
    ("fieldValues", .list (.ofList [group])), ("values", .null), ("key", .string (.plain "k"))]

def ambiguous : Tree :=
  .plainObject [("values", .list (.ofList [])), ("value", .string (.plain "1")),
    ("key", .string (.plain "w"))]

def total : Tree := .number ⟨true, ['1'], ['5'], some (false, ['3'])⟩

def settings : List Setting :=
  [⟨"a", false, some (.scalar "é\n")⟩,
    ⟨"k", true, some (.fieldSet [⟨[("y", "2"), ("x", "1")], by decide⟩])⟩, ⟨"w", false, none⟩]

def payload : Tree :=
  .plainObject [("total", total), ("settings", .list (.ofList [scalar, fieldSet, ambiguous]))]

def text : String :=
  " \x7b\"total\":-1.5e3,\"settings\":[" ++
    "\x7b\"value\":\"\\u00e9\\n\",\"key\":\"a\"\x7d," ++
    "\x7b\"x\":[null],\"inherited\":true,\"fieldValues\":[\x7b\"y\":\"2\",\"x\":\"1\"\x7d]," ++
    "\"values\":null,\"key\":\"k\"\x7d," ++
    "\x7b\"values\":[\n],\"value\":\"1\",\"key\":\"w\"\x7d]\x7d"

/-- The escapes of the sample spell its text. -/
theorem accented_spells : accented.Spells "é\n" :=
  have lineEnd : ((0x6E, 0x0A) : UInt8 × UInt8) ∈ shortEscapes := by decide
  ⟨rfl, .cons (.unit (c := 'é') (by decide)) (.cons (.short lineEnd rfl) .nil)⟩

/-- The sample renders its records. -/
theorem renders : RendersSettings settings payload := by
  refine ⟨_, ⟨[scalar, fieldSet, ambiguous], .cons ?_ (.cons ?_ (.cons ?_ .nil)), rfl⟩,
    [("total", total)], _, by decide, List.reverse_perm _, Tree.isObject_plainObject _⟩
  · exact .mk (Tree.isText_plain _) (.scalar _) (.given ⟨accented, accented_spells, rfl⟩) .leftOut
      .leftOut .leftOut
      ⟨[], _, by decide, List.reverse_perm _, Tree.isObject_plainObject _⟩
  · have groups : RendersGroup ⟨[("y", "2"), ("x", "1")], by decide⟩ group :=
      ⟨_, .cons ⟨rfl, Tree.isText_plain _⟩ (.cons ⟨rfl, Tree.isText_plain _⟩ .nil),
        Tree.isObject_plainObject _⟩
    exact .mk (Tree.isText_plain _) (.fieldSet _) .leftOut .null
      (.given ⟨[group], .cons groups .nil, rfl⟩) (.given true)
      ⟨[("x", .list (.ofList [.null]))], _, by decide, List.reverse_perm _,
        Tree.isObject_plainObject _⟩
  · exact .mk (Tree.isText_plain _) (.scalarMulti "1" [] none) (.given (Tree.isText_plain _))
      (.given ⟨[], .nil, rfl⟩) .leftOut .leftOut
      ⟨[], _, by decide, List.reverse_perm _, Tree.isObject_plainObject _⟩

/-- The text of the sample is written as its tree. -/
theorem document : payload.Document (Utf8.encode text) := by
  have lineEnd : ((0x6E, 0x0A) : UInt8 × UInt8) ∈ shortEscapes := by decide
  have zero : HexDigit 0 0x30 := by simp [HexDigit]
  have fourteen : HexDigit 14 0x65 := by simp [HexDigit]
  have nine : HexDigit 9 0x39 := by simp [HexDigit]
  have accented : Tree.Written (.string accented) _ :=
    .string ⟨rfl, .piece (.unit zero zero fourteen nine) (.piece (.short lineEnd) .close)⟩
  have scalar : scalar.Written _ :=
    .tightObject <| .tight (by decide) accented <| .tight <|
      .tight (by decide) (.plain (by decide)) .closed
  have group : group.Written _ :=
    .tightObject <| .tight (by decide) (.plain (by decide)) <| .tight <|
      .tight (by decide) (.plain (by decide)) .closed
  have fieldSet : fieldSet.Written _ :=
    .tightObject <| .tight (by decide) (.list (.tight .nullWord .closed)) <| .tight <|
      .tight (by decide) .trueWord <| .tight <|
      .tight (by decide) (.list (.tight group .closed)) <| .tight <|
      .tight (by decide) .nullWord <| .tight <|
      .tight (by decide) (.plain (by decide)) .closed
  have ambiguous : ambiguous.Written _ :=
    .tightObject <| .tight (by decide) (.emptyList (by decide : Blank [0x0A])) <| .tight <|
      .tight (by decide) (.plain (by decide)) <| .tight <|
      .tight (by decide) (.plain (by decide)) .closed
  have total : total.Written _ :=
    .number (.mk (.digits (by decide) (by decide)) (by decide) (.plain (.inl rfl) (by decide)))
  have payload : payload.Written _ :=
    .tightObject <| .tight (by decide) total <| .tight <|
      .tight (by decide) (.list <| .tight scalar <| .comma <| .tight fieldSet <| .comma <|
        .tight ambiguous .closed) .closed
  exact ⟨[0x20], _, [], by decide, payload, by decide, by decide +kernel⟩

/-- The sample is decoded as its records, with an unknown member passed over. -/
theorem decodeSettings_sample : decodeSettings (Utf8.encode text) = .ok settings :=
  (decodeSettings_of_document document renders).1 (by decide)

end Sample

end AnalysisSettings.Payload
