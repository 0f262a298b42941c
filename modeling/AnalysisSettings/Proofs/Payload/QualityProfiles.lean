import AnalysisSettings.Payload.Codec
import AnalysisSettings.Proofs.Json.Grammar
import AnalysisSettings.Proofs.Json.Integer
import AnalysisSettings.Proofs.Json.Record

/-!
# Quality profiles are handed on as they come

`ProfileMembers` relates a quality profile to the members that may stand for it in a payload: each of
the ten fields under its own name, what is absent left out or null, a flag that is not set left out or
given. `SpoiledMembers` are such members with one thing wrong, and an entry of a payload is a whole
profile or a spoiled one (`RendersEntry`).

`decodeQualityProfiles_of_document` says what comes out of any such payload: the profiles that were
rendered, if all are whole, and a failure otherwise.
-/

namespace AnalysisSettings.Payload

open Json

/-! ## Rendering -/

/-- The members are the profile. -/
inductive ProfileMembers (p : QualityProfile) : List (String × Tree) → Prop
  | mk {key name language : Tree} {languageName isDefault isInherited parentKey activeRuleCount
      rulesUpdatedAt userUpdatedAt : List (String × Tree)}
      (key_text : key.IsText p.key) (name_text : name.IsText p.name)
      (language_text : language.IsText p.language)
      (languageName_member : OptionalMember "languageName" Tree.IsText p.languageName languageName)
      (isDefault_member : FlagMember "isDefault" p.isDefault isDefault)
      (isInherited_member : FlagMember "isInherited" p.isInherited isInherited)
      (parentKey_member : OptionalMember "parentKey" Tree.IsText p.parentKey parentKey)
      (activeRuleCount_member : OptionalMember "activeRuleCount" Tree.IsCount p.activeRuleCount
        activeRuleCount)
      (rulesUpdatedAt_member : OptionalMember "rulesUpdatedAt" Tree.IsText p.rulesUpdatedAt
        rulesUpdatedAt)
      (userUpdatedAt_member : OptionalMember "userUpdatedAt" Tree.IsText p.userUpdatedAt
        userUpdatedAt) :
      ProfileMembers p ([("key", key)] ++ ([("name", name)] ++ ([("language", language)] ++
        (languageName ++ (isDefault ++ (isInherited ++ (parentKey ++ (activeRuleCount ++
          (rulesUpdatedAt ++ userUpdatedAt)))))))))

/-- The members without those of the name. -/
def without (name : String) (members : List (String × Tree)) : List (String × Tree) :=
  members.filter fun m => m.1 ≠ name

/-- The members with one thing wrong: a required one is lacking, a flag is null, or the number of
active rules is no count. -/
inductive SpoiledMembers (members : List (String × Tree)) : List (String × Tree) → Prop
  | lacking {name : String} (h : name ∈ ["key", "name", "language"]) :
      SpoiledMembers members (without name members)
  | nullFlag {name : String} (h : name ∈ ["isDefault", "isInherited"]) :
      SpoiledMembers members (without name members ++ [(name, .null)])
  | noCount {n : NumberText} (h : ¬ n.IsCount) :
      SpoiledMembers members (without "activeRuleCount" members ++ [("activeRuleCount", .number n)])

/-- The names of the members of a profile. -/
def profileNames : List String :=
  ["key", "name", "language", "languageName", "isDefault", "isInherited", "parentKey",
    "activeRuleCount", "rulesUpdatedAt", "userUpdatedAt"]

/-- The tree is the entry: a whole profile, or `none` for a spoiled one. -/
inductive RendersEntry : Option QualityProfile → Tree → Prop
  | whole {p : QualityProfile} {members : List (String × Tree)} {t : Tree}
      (renders : ProfileMembers p members) (record : t.IsRecord profileNames members) :
      RendersEntry (some p) t
  | spoiled {p : QualityProfile} {members members' : List (String × Tree)} {t : Tree}
      (renders : ProfileMembers p members) (spoiled : SpoiledMembers members members')
      (record : t.IsRecord profileNames members') : RendersEntry none t

/-- The tree is the whole payload. -/
def RendersProfiles (entries : List (Option QualityProfile)) (t : Tree) : Prop :=
  ∃ list, list.IsList RendersEntry entries ∧ t.IsRecord ["profiles"] [("profiles", list)]

/-! ## Reading -/

/-! ### The fields of a profile

Each field has a place of its own in the parts. -/

namespace QualityProfileParts

/-- Each field of a profile stores what it reads in a part of its own; this one is required. -/
theorem stores_key : (qualityProfileShape.fields[0]).Stores key
    (fun o p => { p with key := o }) Tree.asText :=
  ⟨fun _ => rfl, fun _ _ => rfl, fun _ _ => rfl, fun _ => rfl⟩

theorem stores_name : (qualityProfileShape.fields[1]).Stores name
    (fun o p => { p with name := o }) Tree.asText :=
  ⟨fun _ => rfl, fun _ _ => rfl, fun _ _ => rfl, fun _ => rfl⟩

theorem stores_language : (qualityProfileShape.fields[2]).Stores language
    (fun o p => { p with language := o }) Tree.asText :=
  ⟨fun _ => rfl, fun _ _ => rfl, fun _ _ => rfl, fun _ => rfl⟩

theorem stores_languageName : (qualityProfileShape.fields[3]).Stores languageName
    (fun o p => { p with languageName := o }) (Tree.asOptional Tree.asText) :=
  ⟨fun _ => rfl, fun _ _ => rfl, fun _ _ => rfl, fun _ => rfl⟩

/-- A flag, which is off where it is missing. -/
theorem stores_isDefault : (qualityProfileShape.fields[4]).Stores isDefault
    (fun o p => { p with isDefault := o }) Tree.asFlag :=
  ⟨fun _ => rfl, fun _ _ => rfl, fun _ _ => rfl, fun _ => rfl⟩

theorem stores_isInherited : (qualityProfileShape.fields[5]).Stores isInherited
    (fun o p => { p with isInherited := o }) Tree.asFlag :=
  ⟨fun _ => rfl, fun _ _ => rfl, fun _ _ => rfl, fun _ => rfl⟩

theorem stores_parentKey : (qualityProfileShape.fields[6]).Stores parentKey
    (fun o p => { p with parentKey := o }) (Tree.asOptional Tree.asText) :=
  ⟨fun _ => rfl, fun _ _ => rfl, fun _ _ => rfl, fun _ => rfl⟩

/-- A count, which may be missing or null. -/
theorem stores_activeRuleCount : (qualityProfileShape.fields[7]).Stores activeRuleCount
    (fun o p => { p with activeRuleCount := o }) (Tree.asOptional Tree.asCount) :=
  ⟨fun _ => rfl, fun _ _ => rfl, fun _ _ => rfl, fun _ => rfl⟩

theorem stores_rulesUpdatedAt : (qualityProfileShape.fields[8]).Stores rulesUpdatedAt
    (fun o p => { p with rulesUpdatedAt := o }) (Tree.asOptional Tree.asText) :=
  ⟨fun _ => rfl, fun _ _ => rfl, fun _ _ => rfl, fun _ => rfl⟩

theorem stores_userUpdatedAt : (qualityProfileShape.fields[9]).Stores userUpdatedAt
    (fun o p => { p with userUpdatedAt := o }) (Tree.asOptional Tree.asText) :=
  ⟨fun _ => rfl, fun _ _ => rfl, fun _ _ => rfl, fun _ => rfl⟩

/-- The places of the fields, in their order. -/
def places : List (Field.Place QualityProfileParts) :=
  [⟨_, stores_key⟩, ⟨_, stores_name⟩, ⟨_, stores_language⟩, ⟨_, stores_languageName⟩,
    ⟨_, stores_isDefault⟩, ⟨_, stores_isInherited⟩, ⟨_, stores_parentKey⟩,
    ⟨_, stores_activeRuleCount⟩, ⟨_, stores_rulesUpdatedAt⟩, ⟨_, stores_userUpdatedAt⟩]

/-- The parts of a profile do not overlap. -/
theorem places_apart : places.Pairwise Field.Place.Apart := by
  simp only [places, List.pairwise_cons, List.forall_mem_cons, List.not_mem_nil, false_imp_iff,
    implies_true, and_true, List.Pairwise.nil]
  repeat' apply And.intro
  all_goals exact ⟨fun _ _ => rfl, fun _ _ => rfl, fun _ _ _ => rfl⟩

/-- The fields of a profile can be given in any order. -/
theorem orderly : Field.Orderly qualityProfileShape.fields :=
  Field.Orderly.of_places places_apart

end QualityProfileParts

/-- The profiles of a payload are the one part of it. -/
theorem stores_profiles : (qualityProfilesShape.fields[0]).Stores id (fun o _ => o)
    (Tree.asList qualityProfileShape.read) :=
  ⟨fun _ => rfl, fun _ _ => rfl, fun _ _ => rfl, fun _ => rfl⟩

/-- A payload has one field, and so no order. -/
theorem qualityProfilesShape_orderly : Field.Orderly qualityProfilesShape.fields :=
  @Field.Orderly.of_places _ [⟨_, stores_profiles⟩] (List.pairwise_singleton _ _)

/-! ### One entry -/

section Entry

variable {p : QualityProfile} {members members' : List (String × Tree)} {t : Tree}

open QualityProfileParts

/-- **A profile is read back**, whatever order its members come in and whatever is left out. -/
theorem qualityProfileShape_read (renders : ProfileMembers p members)
    (record : t.IsRecord profileNames members) (sound : t.skipFault? = none) :
    qualityProfileShape.read t = .ok p := by
  have soundMembers := record.sound sound
  obtain @⟨key, name, language, languageName, isDefault, isInherited, parentKey, activeRuleCount,
    rulesUpdatedAt, userUpdatedAt, key_text, name_text, language_text, languageName_member,
    isDefault_member, isInherited_member, parentKey_member, activeRuleCount_member,
    rulesUpdatedAt_member, userUpdatedAt_member⟩ := renders
  simp only [List.forall_mem_append] at soundMembers
  obtain ⟨-, -, -, soundLanguageName, -, -, soundParentKey, soundCount, soundRules, soundUser⟩ :=
    soundMembers
  have text : ∀ (text : String) (u : Tree), u.IsText text → u.skipFault? = none →
      u ≠ .null ∧ u.asText = .ok text :=
    fun _ _ h _ => ⟨h.ne_null, h.asText⟩
  obtain ⟨ln, givenLanguageName, hln⟩ := languageName_member.read soundLanguageName text
  obtain ⟨d, givenDefault, hd⟩ := isDefault_member.read
  obtain ⟨i, givenInherited, hi⟩ := isInherited_member.read
  obtain ⟨pk, givenParentKey, hpk⟩ := parentKey_member.read soundParentKey text
  obtain ⟨c, givenCount, hc⟩ := activeRuleCount_member.read soundCount
    fun _ _ h _ => ⟨h.ne_null, h.asCount⟩
  obtain ⟨r, givenRules, hr⟩ := rulesUpdatedAt_member.read soundRules text
  obtain ⟨u, givenUser, hu⟩ := userUpdatedAt_member.read soundUser text
  have givenKey : Field.Given "key" Tree.asText (some p.key) [("key", key)] :=
    .given key_text.asText
  have givenName : Field.Given "name" Tree.asText (some p.name) [("name", name)] :=
    .given name_text.asText
  have givenLanguage : Field.Given "language" Tree.asText (some p.language)
      [("language", language)] :=
    .given language_text.asText
  have read : ([("key", key)] ++ ([("name", name)] ++ ([("language", language)] ++
      (languageName ++ (isDefault ++ (isInherited ++ (parentKey ++ (activeRuleCount ++
        (rulesUpdatedAt ++ userUpdatedAt))))))))).foldlM
      (Field.take qualityProfileShape.fields) qualityProfileShape.start =
        .ok ⟨some p.key, some p.name, some p.language, ln, d, i, pk, c, r, u⟩ := by
    rw [Field.foldlM_take_append (stores_key.foldlM_take rfl givenKey rfl),
      Field.foldlM_take_append (stores_name.foldlM_take rfl givenName rfl),
      Field.foldlM_take_append (stores_language.foldlM_take rfl givenLanguage rfl),
      Field.foldlM_take_append (stores_languageName.foldlM_take rfl givenLanguageName rfl),
      Field.foldlM_take_append (stores_isDefault.foldlM_take rfl givenDefault rfl),
      Field.foldlM_take_append (stores_isInherited.foldlM_take rfl givenInherited rfl),
      Field.foldlM_take_append (stores_parentKey.foldlM_take rfl givenParentKey rfl),
      Field.foldlM_take_append (stores_activeRuleCount.foldlM_take rfl givenCount rfl),
      Field.foldlM_take_append (stores_rulesUpdatedAt.foldlM_take rfl givenRules rfl)]
    exact stores_userUpdatedAt.foldlM_take rfl givenUser rfl
  have complete : ∀ f ∈ qualityProfileShape.fields, f.required = true →
      f.isRead ⟨some p.key, some p.name, some p.language, ln, d, i, pk, c, r, u⟩ = true := by
    simp [qualityProfileShape]
  rw [Shape.read_of_isRecord _ QualityProfileParts.orderly record sound read complete]
  show Except.ok (QualityProfile.mk p.key p.name p.language (ln.getD none) (d.getD false)
    (i.getD false) (pk.getD none) (c.getD none) (r.getD none) (u.getD none)) = _
  rw [hln, hd, hi, hpk, hc, hr, hu]

/-- Nothing of the name is left among the other members. -/
theorem not_mem_without {name : String} {m : String × Tree} (h : m ∈ without name members) :
    m.1 ≠ name := by
  simpa using (List.mem_filter.mp h).2

/-- **A spoiled entry is refused.** -/
theorem qualityProfileShape_refuses (spoiled : SpoiledMembers members members')
    (record : t.IsRecord profileNames members') : qualityProfileShape.read t ≠ .ok p := by
  cases spoiled with
  | lacking h =>
    have refused : ∀ f ∈ qualityProfileShape.fields, f.required = true →
        f.isRead qualityProfileShape.start = false →
        t.IsRecord profileNames (without f.name members) → qualityProfileShape.read t ≠ .ok p :=
      fun f hf required unread record => Shape.not_read_of_missing QualityProfileParts.orderly record
        hf required unread (fun _ hm => not_mem_without hm) p
    simp only [List.mem_cons, List.not_mem_nil, or_false] at h
    rcases h with rfl | rfl | rfl
    · exact refused _ (List.getElem_mem (n := 0) (by decide)) rfl rfl record
    · exact refused _ (List.getElem_mem (n := 1) (by decide)) rfl rfl record
    · exact refused _ (List.getElem_mem (n := 2) (by decide)) rfl rfl record
  | nullFlag h =>
    intro read
    obtain ⟨p, q, taken⟩ := Shape.take_of_isRecord record read
      (List.mem_append_right _ List.mem_cons_self)
    simp only [List.mem_cons, List.not_mem_nil, or_false] at h
    rcases h with rfl | rfl
    · obtain ⟨b, flag⟩ := stores_isDefault.read_of_take rfl taken
      cases flag
    · obtain ⟨b, flag⟩ := stores_isInherited.read_of_take rfl taken
      cases flag
  | @noCount n h =>
    intro read
    obtain ⟨p, q, taken⟩ := Shape.take_of_isRecord record read
      (List.mem_append_right _ List.mem_cons_self)
    obtain ⟨o, count⟩ := stores_activeRuleCount.read_of_take rfl taken
    obtain ⟨c, count, -⟩ := map_eq_ok.mp count
    exact h (Tree.isCount_of_asCount count)

/-- An entry is read exactly if it is whole, as the profile that it is. -/
theorem qualityProfileShape_read_eq_ok_iff {entry : Option QualityProfile} (h : RendersEntry entry t)
    (sound : t.skipFault? = none) : qualityProfileShape.read t = .ok p ↔ entry = some p := by
  cases h with
  | whole renders record =>
    rw [qualityProfileShape_read renders record sound, Except.ok.injEq, Option.some.injEq]
  | spoiled _ spoiled record => exact iff_of_false (qualityProfileShape_refuses spoiled record) nofun

end Entry

/-! ### The payload -/

section Payload

variable {entries : List (Option QualityProfile)} {t : Tree}

/-- The payload is accepted exactly if all entries are whole. -/
theorem qualityProfilesShape_read_eq_ok_iff (renders : RendersProfiles entries t)
    (sound : t.skipFault? = none) {profiles : List QualityProfile} :
    qualityProfilesShape.read t = .ok profiles ↔ entries = profiles.map some := by
  obtain ⟨list, isList, record⟩ := renders
  have soundList : list.skipFault? = none := record.sound sound _ List.mem_cons_self
  have entriesRead : ∀ ps, list.asList qualityProfileShape.read = .ok ps ↔ entries = ps.map some := by
    intro ps
    rw [isList.asList_eq_ok_iff soundList fun entry u h sound p =>
      qualityProfileShape_read_eq_ok_iff h sound, ← List.forall₂_eq_eq_eq,
      List.forall₂_map_right_iff]
  have back : ∀ ps, entries = ps.map some → qualityProfilesShape.read t = .ok ps := by
    intro ps h
    have given : Field.Given "profiles" (Tree.asList qualityProfileShape.read) (some ps)
        [("profiles", list)] :=
      .given ((entriesRead ps).mpr h)
    exact Shape.read_of_isRecord _ qualityProfilesShape_orderly record sound
      (stores_profiles.foldlM_take rfl given rfl) (by simp [qualityProfilesShape])
  constructor
  · intro read
    obtain ⟨p, q, taken⟩ := Shape.take_of_isRecord record read List.mem_cons_self
    obtain ⟨ps, listRead⟩ := stores_profiles.read_of_take rfl taken
    have whole := (entriesRead ps).mp listRead
    obtain rfl := Except.ok.inj ((back ps whole).symm.trans read)
    exact whole
  · exact back profiles

/-- **What a payload of quality profiles decodes to.** Let profiles be rendered as a payload, with any
blanks, escapes, order of members, unknown members and ways to leave things out. They are decoded to
themselves, in their order. If one entry or more is spoiled, because a required member is lacking, a
flag is null or the number of active rules is no count, then the payload is refused, and the failure
carries its text. -/
theorem decodeQualityProfiles_of_document {text : String} (document : t.Document (Utf8.encode text))
    (renders : RendersProfiles entries t) :
    (∀ profiles, entries = profiles.map some →
      decodeQualityProfiles (Utf8.encode text) = .ok profiles) ∧
    (none ∈ entries → ∃ reason,
      decodeQualityProfiles (Utf8.encode text) = .error (.decode .qualityProfiles reason text)) := by
  have read : ∀ profiles,
      readQualityProfiles (Utf8.encode text) = .ok profiles ↔ entries = profiles.map some := by
    intro profiles
    rw [readQualityProfiles, readPayload_of_document document]
    exact qualityProfilesShape_read_eq_ok_iff renders document.skipFault?
  constructor
  · intro profiles whole
    exact reporting_eq_ok.mpr ((read profiles).mpr whole)
  · intro spoiled
    obtain ⟨reason, refused⟩ : ∃ reason, decodeQualityProfiles (Utf8.encode text) =
        .error (.decode .qualityProfiles reason (Utf8.lossy (Utf8.encode text))) := by
      refine reporting_of_refused fun profiles accepted => ?_
      rw [(read profiles).mp accepted] at spoiled
      obtain ⟨p, -, h⟩ := List.mem_map.mp spoiled
      cases h
    rw [Utf8.lossy_encode] at refused
    exact ⟨reason, refused⟩

end Payload

/-! ### Payloads with one profile

Its members come in another order than in the description, and with one of an unknown name. The number
of active rules is the greatest count in one payload and one more in the other. -/

namespace OneProfile

def profile : QualityProfile :=
  { key := "k", name := "w", language := "rs", isDefault := true
    activeRuleCount := some 18446744073709551615 }

def tooMany : NumberText := ⟨false, "18446744073709551616".toList, [], none⟩

def members (count : NumberText) : List (String × Tree) :=
  [("key", .string (.plain "k")), ("name", .string (.plain "w")), ("language", .string (.plain "rs")),
    ("isDefault", .bool true), ("activeRuleCount", .number count)]

def extra : String × Tree := ("x", .list (.ofList [.null]))

def entry (count : NumberText) : Tree :=
  .plainObject (extra :: ((members count).take 4).reverse ++ (members count).drop 4)

def payload (count : NumberText) : Tree :=
  .plainObject [("profiles", .list (.ofList [entry count]))]

def front : String :=
  "\x7b\"profiles\":[\x7b\"x\":[null],\"isDefault\":true,\"language\":\"rs\",\"name\":\"w\"," ++
    "\"key\":\"k\",\"activeRuleCount\":"

def text (count : String) : String :=
  front ++ count ++ "\x7d]\x7d"

/-- The entry of the sample is a record of a profile. -/
theorem isRecord (count : NumberText) : (entry count).IsRecord profileNames (members count) := by
  have reordered : (extra :: ((members count).take 4).reverse ++ (members count).drop 4).Perm
      (members count ++ [extra]) := by
    refine .trans (.cons extra ?_) (List.perm_append_singleton extra _).symm
    exact .append_right ((members count).drop 4) (List.reverse_perm ((members count).take 4))
  exact ⟨[extra], _, by decide, reordered, Tree.isObject_plainObject _⟩

/-- With the largest count that fits, the members render the profile. -/
theorem whole : ProfileMembers profile (members (.ofCount 18446744073709551615)) := by
  have key : (Tree.string (.plain "k")).IsText profile.key := Tree.isText_plain _
  have name : (Tree.string (.plain "w")).IsText profile.name := Tree.isText_plain _
  have language : (Tree.string (.plain "rs")).IsText profile.language := Tree.isText_plain _
  have count : Tree.IsCount 18446744073709551615 (.number (.ofCount 18446744073709551615)) := rfl
  exact .mk key name language .leftOut (.given true) .leftOut .leftOut (.given count) .leftOut
    .leftOut

/-- With the next count, one member is spoiled. -/
theorem spoiled : SpoiledMembers (members (.ofCount 18446744073709551615)) (members tooMany) :=
  .noCount (by decide)

/-- The payload of the sample renders what its entry renders. -/
theorem renders {count : NumberText} {one : Option QualityProfile}
    (h : RendersEntry one (entry count)) : RendersProfiles [one] (payload count) :=
  ⟨_, ⟨_, .cons h .nil, rfl⟩, [], _, by decide, .refl _, Tree.isObject_plainObject _⟩

/-- The text of the sample is written as its tree, whatever count is in it. -/
theorem document {count : NumberText} {literal : String} (h : count.Written (Utf8.encode literal)) :
    (payload count).Document (Utf8.encode (text literal)) := by
  have profiles : NoEscapes "profiles" := by decide
  have ruleCount : NoEscapes "activeRuleCount" := by decide
  have entry : (entry count).Written _ :=
    .tightObject <| .tight (by decide : NoEscapes "x") (.list (.tight .nullWord .closed)) <| .tight <|
      .tight (by decide : NoEscapes "isDefault") .trueWord <| .tight <|
      .tight (by decide : NoEscapes "language") (.plain (by decide : NoEscapes "rs")) <| .tight <|
      .tight (by decide : NoEscapes "name") (.plain (by decide : NoEscapes "w")) <| .tight <|
      .tight (by decide : NoEscapes "key") (.plain (by decide : NoEscapes "k")) <| .tight <|
      .tight ruleCount (.number h) .closed
  have payload : (payload count).Written _ :=
    .tightObject <| .tight profiles (.list (.tight entry .closed)) .closed
  have front : Utf8.encode front =
        0x7B :: 0x22 :: (Utf8.encode "profiles" ++ 0x22 :: 0x3A :: 0x5B :: 0x7B :: 0x22 ::
          (Utf8.encode "x" ++ 0x22 :: 0x3A :: 0x5B :: (ascii ['n', 'u', 'l', 'l'] ++ 0x5D :: 0x2C ::
          0x22 :: (Utf8.encode "isDefault" ++ 0x22 :: 0x3A :: (ascii ['t', 'r', 'u', 'e'] ++ 0x2C ::
          0x22 :: (Utf8.encode "language" ++ 0x22 :: 0x3A :: 0x22 :: (Utf8.encode "rs" ++ 0x22 ::
          0x2C :: 0x22 :: (Utf8.encode "name" ++ 0x22 :: 0x3A :: 0x22 :: (Utf8.encode "w" ++ 0x22 ::
          0x2C :: 0x22 :: (Utf8.encode "key" ++ 0x22 :: 0x3A :: 0x22 :: (Utf8.encode "k" ++ 0x22 ::
          0x2C :: 0x22 :: (Utf8.encode "activeRuleCount" ++ [0x22, 0x3A])))))))))))) := by
    decide +kernel
  have back : Utf8.encode "\x7d]\x7d" = [0x7D, 0x5D, 0x7D] := by decide
  have parts : Utf8.encode (text literal) = (_ ++ Utf8.encode literal) ++ _ :=
    (Utf8.encode_append _ _).trans (congrArg (· ++ _) (Utf8.encode_append _ _))
  refine ⟨[], _, [], by decide, payload, by decide, ?_⟩
  simp only [parts, front, back, extra, List.nil_append, List.append_nil, List.append_assoc,
    List.cons_append]

/-- The largest count is decoded, and the next one refused. -/
theorem decodeQualityProfiles_oneProfile :
    decodeQualityProfiles (Utf8.encode (text "18446744073709551615")) = .ok [profile] ∧
    ∃ reason, decodeQualityProfiles (Utf8.encode (text "18446744073709551616")) =
      .error (.decode .qualityProfiles reason (text "18446744073709551616")) := by
  have most : NumberText.Written (.ofCount 18446744073709551615)
      (Utf8.encode "18446744073709551615") := by
    have written : NumberText.Written (.ofCount 18446744073709551615) _ :=
      .mk (.digits (d := '1') (by decide) (by decide)) (by decide) .none
    exact Eq.mp (congrArg (NumberText.Written _) (by decide +kernel)) written
  have more : tooMany.Written (Utf8.encode "18446744073709551616") := by
    have written : tooMany.Written _ := .mk (.digits (by decide) (by decide)) (by decide) .none
    exact Eq.mp (congrArg tooMany.Written (by decide +kernel)) written
  constructor
  · exact (decodeQualityProfiles_of_document (document most)
      (renders (.whole whole (isRecord _)))).1 [profile] rfl
  · exact (decodeQualityProfiles_of_document (document more)
      (renders (.spoiled whole spoiled (isRecord _)))).2 (by decide)

end OneProfile

end AnalysisSettings.Payload
