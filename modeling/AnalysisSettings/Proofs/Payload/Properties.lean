import AnalysisSettings.Payload.Codec
import AnalysisSettings.Proofs.Json.Grammar
import AnalysisSettings.Proofs.Json.Integer
import AnalysisSettings.Proofs.Json.Record

/-!
# What a properties payload decodes to

A server may send anything as the value of a property (`SentValue`). A text is its own text, and
nothing, or a null, is no text; a number is the text of its value; a flag, a list or an object is
refused, and with it the whole payload (`SentValue.decoded?`).

`decodeProperties_eq_ok_iff` says that the decoder accepts a payload exactly if each of its values is
decoded, and what it then returns. The text of a number is not always the literal that was sent:
`decodeProperties_of_document` names the integer literals for which it is.
-/

namespace AnalysisSettings.Payload

open Json

/-! ## What is sent -/

/-- What stands as the value of a property; `absent` if nothing does, or a null. -/
inductive SentValue where
  | text (content : String)
  | absent
  | number (n : NumberText)
  | flag (b : Bool)
  | list (items : Items)
  | object (members : Members)

/-- A property as it is sent. -/
structure SentProperty where
  key : String
  value : SentValue

namespace SentValue

/-- The members that hold the value: one, or none if it is left out. -/
inductive Member : SentValue → List (String × Tree) → Prop
  | text {content : String} {t : Tree} (h : t.IsText content) : Member (.text content) [("value", t)]
  | leftOut : Member .absent []
  | null : Member .absent [("value", .null)]
  | number (n : NumberText) : Member (.number n) [("value", .number n)]
  | flag (b : Bool) : Member (.flag b) [("value", .bool b)]
  | list (items : Items) : Member (.list items) [("value", .list items)]
  | object (members : Members) : Member (.object members) [("value", .object members)]

/-- The text that the value is decoded to, if it is no fault. -/
def decoded? : SentValue → Option (Option String)
  | .text content => some (some content)
  | .absent => some none
  | .number n =>
    match n.value with
    | .ok v => some (some v.text)
    | .error _ => none
  | .flag _ | .list _ | .object _ => none

/-- The value is a flag, a list or an object. -/
def IsRefused : SentValue → Prop
  | .flag _ | .list _ | .object _ => True
  | _ => False

end SentValue

/-- The property that a sent one is decoded to. -/
def SentProperty.decoded? (p : SentProperty) : Option Property :=
  p.value.decoded?.map fun value => ⟨p.key, value⟩

/-- The properties are those that the sent ones are decoded to, in their order. -/
def DecodedTo (sent : List SentProperty) (ps : List Property) : Prop :=
  List.Forall₂ (fun p q => p.decoded? = some q) sent ps

/-- The tree is the property: an object of its members in any order, with others between them. -/
def RendersProperty (p : SentProperty) (t : Tree) : Prop :=
  ∃ key value, key.IsText p.key ∧ p.value.Member value ∧
    t.IsRecord ["key", "value"] (("key", key) :: value)

/-- A refused value is decoded as nothing. -/
theorem SentValue.IsRefused.decoded? {x : SentValue} (h : x.IsRefused) : x.decoded? = none := by
  cases x with
  | flag _ | list _ | object _ => rfl
  | text _ | absent | number _ => exact h.elim

namespace DecodedTo

variable {sent sent' : List SentProperty} {ps ps' : List Property}

/-- Lists of properties are decoded side by side. -/
theorem append (h : DecodedTo sent ps) (h' : DecodedTo sent' ps') :
    DecodedTo (sent ++ sent') (ps ++ ps') :=
  List.rel_append h h'

/-- In a list that is decoded, every property is. -/
theorem exists_of_mem (h : DecodedTo sent ps) {p : SentProperty} (hp : p ∈ sent) :
    ∃ q, p.decoded? = some q := by
  induction h with
  | nil => cases hp
  | cons head _ ih =>
    rcases List.mem_cons.mp hp with rfl | hp
    · exact ⟨_, head⟩
    · exact ih hp

end DecodedTo

/-- A list of properties is decoded if each of their values is. -/
theorem exists_decodedTo {sent : List SentProperty}
    (h : ∀ p ∈ sent, p.value.decoded?.isSome) : ∃ ps, DecodedTo sent ps := by
  induction sent with
  | nil => exact ⟨[], .nil⟩
  | cons p sent ih =>
    obtain ⟨hp, others⟩ := List.forall_mem_cons.mp h
    obtain ⟨v, decoded⟩ := Option.isSome_iff_exists.mp hp
    obtain ⟨ps, hps⟩ := ih others
    exact ⟨⟨p.key, v⟩ :: ps, .cons (Option.map_eq_some_iff.mpr ⟨v, decoded, rfl⟩) hps⟩

/-! ## Reading -/

namespace SentValue

variable {x : SentValue} {ms : List (String × Tree)}

/-- A value that is decoded is read from its member. -/
theorem Member.read (h : x.Member ms) {v : Option String} (decoded : x.decoded? = some v) :
    ∃ o, Field.Given "value" readPropertyValue o ms ∧ o.getD none = v := by
  cases h with
  | text h =>
    cases decoded
    obtain ⟨l, spells, rfl⟩ := h
    refine ⟨some (some _), .given ?_, rfl⟩
    rw [readPropertyValue, Literal.text_of_spells spells]
    rfl
  | leftOut =>
    cases decoded
    exact ⟨none, .leftOut, rfl⟩
  | null =>
    cases decoded
    exact ⟨some none, .given rfl, rfl⟩
  | number n =>
    rw [decoded?] at decoded
    split at decoded
    · next w value =>
      cases decoded
      refine ⟨some (some w.text), .given ?_, rfl⟩
      rw [readPropertyValue, value]
      rfl
    · cases decoded
  | flag b | list items | object members => cases decoded

/-- A value that is not decoded is not read from its member either. -/
theorem Member.decoded (h : x.Member ms)
    (read : ∀ m ∈ ms, ∃ v, readPropertyValue m.2 = .ok v) : ∃ v, x.decoded? = some v := by
  have refused : ∀ (t : Tree) (v : Option String), ((t.compact (nestingLimit - 2)).bind fun text =>
      .error (.wrongType text "a string or a number")) ≠ Except.ok v := by
    intro t v h
    obtain ⟨text, -, h⟩ := bind_eq_ok.mp h
    cases h
  cases h with
  | text h => exact ⟨_, rfl⟩
  | leftOut | null => exact ⟨_, rfl⟩
  | number n =>
    obtain ⟨v, h⟩ := read _ List.mem_cons_self
    obtain ⟨w, value, -⟩ := map_eq_ok.mp h
    rw [decoded?, value]
    exact ⟨_, rfl⟩
  | flag b =>
    obtain ⟨v, h⟩ := read _ List.mem_cons_self
    exact absurd h (refused (.bool b) v)
  | list items =>
    obtain ⟨v, h⟩ := read _ List.mem_cons_self
    exact absurd h (refused (.list items) v)
  | object members =>
    obtain ⟨v, h⟩ := read _ List.mem_cons_self
    exact absurd h (refused (.object members) v)

/-- A member that carries a value has its name. -/
theorem Member.name (h : x.Member ms) : ∀ m ∈ ms, m.1 = "value" := by
  cases h with
  | leftOut => exact List.forall_mem_nil _
  | _ => exact List.forall_mem_singleton.mpr rfl

end SentValue

/-! ### The fields of a property -/

/-- Each field of a property stores what it reads in a part of its own; the key must be a text. -/
theorem propertyShape_stores_key : (propertyShape.fields[0]).Stores PropertyParts.key
    (fun o p => { p with key := o }) Tree.asText :=
  ⟨fun _ => rfl, fun _ _ => rfl, fun _ _ => rfl, fun _ => rfl⟩

/-- The value may be a text, a number or null. -/
theorem propertyShape_stores_value : (propertyShape.fields[1]).Stores PropertyParts.value
    (fun o p => { p with value := o }) readPropertyValue :=
  ⟨fun _ => rfl, fun _ _ => rfl, fun _ _ => rfl, fun _ => rfl⟩

/-- The fields of a property can be given in any order. -/
theorem propertyShape_orderly : Field.Orderly propertyShape.fields :=
  @Field.Orderly.of_places _ [⟨_, propertyShape_stores_key⟩, ⟨_, propertyShape_stores_value⟩]
    (List.pairwise_pair.mpr ⟨fun _ _ => rfl, fun _ _ => rfl, fun _ _ _ => rfl⟩)

/-- **A property is read as it is decoded**, and not at all if it is not. -/
theorem propertyShape_read_eq_ok_iff {p : SentProperty} {t : Tree} {q : Property}
    (h : RendersProperty p t) (sound : t.skipFault? = none) :
    propertyShape.read t = .ok q ↔ p.decoded? = some q := by
  obtain ⟨key, members, keyText, member, record⟩ := h
  have back : ∀ v, p.value.decoded? = some v → propertyShape.read t = .ok ⟨p.key, v⟩ := by
    intro v decoded
    obtain ⟨o, given, rfl⟩ := member.read decoded
    have givenKey : Field.Given "key" Tree.asText (some p.key) [("key", key)] :=
      .given keyText.asText
    have read : ([("key", key)] ++ members).foldlM (Field.take propertyShape.fields)
        propertyShape.start = .ok ⟨some p.key, o⟩ := by
      rw [Field.foldlM_take_append (propertyShape_stores_key.foldlM_take rfl givenKey rfl)]
      exact propertyShape_stores_value.foldlM_take rfl given rfl
    exact Shape.read_of_isRecord _ propertyShape_orderly record sound read (by simp [propertyShape])
  rw [SentProperty.decoded?, Option.map_eq_some_iff]
  constructor
  · intro read
    have members : ∀ m ∈ members, ∃ v, readPropertyValue m.2 = .ok v := by
      rintro ⟨name, u⟩ hm
      obtain ⟨q, q', taken⟩ := Shape.take_of_isRecord record read (List.mem_cons_of_mem _ hm)
      obtain rfl : name = "value" := member.name _ hm
      exact propertyShape_stores_value.read_of_take rfl taken
    obtain ⟨v, decoded⟩ := member.decoded members
    exact ⟨v, decoded, Except.ok.inj ((back v decoded).symm.trans read)⟩
  · rintro ⟨v, decoded, rfl⟩
    exact back v decoded

/-! ### The payload -/

section Payload

variable {sent : List SentProperty} {t : Tree} {octets : List UInt8}

/-- A payload is accepted if its list is, and no key in it is empty. -/
theorem readProperties_eq_ok_iff {ps : List Property} :
    readProperties octets = .ok ps ↔
      readPayload (Tree.asList propertyShape.read) octets = .ok ps ∧ ∀ p ∈ ps, p.key ≠ "" := by
  have checked : ∀ qs : List Property,
      (if qs.any fun p => p.key.isEmpty then .error (.noKey "property without key") else .ok qs) =
        (Except.ok ps : Except Fault _) ↔ qs = ps ∧ ∀ p ∈ ps, p.key ≠ "" := by
    intro qs
    by_cases keyless : qs.any fun p => p.key.isEmpty
    · obtain ⟨p, hp, empty⟩ := List.any_eq_true.mp keyless
      rw [if_pos keyless]
      refine iff_of_false nofun ?_
      rintro ⟨rfl, keyed⟩
      exact keyed p hp (String.isEmpty_iff.mp empty)
    · rw [if_neg keyless]
      constructor
      · rintro ⟨rfl⟩
        refine ⟨rfl, fun p hp empty => keyless (List.any_eq_true.mpr ⟨p, hp, ?_⟩)⟩
        exact String.isEmpty_iff.mpr empty
      · rintro ⟨rfl, -⟩
        rfl
  constructor
  · intro h
    obtain ⟨qs, read, h⟩ := bind_eq_ok.mp h
    obtain ⟨rfl, keyed⟩ := (checked qs).mp h
    exact ⟨read, keyed⟩
  · rintro ⟨read, keyed⟩
    exact bind_eq_ok.mpr ⟨ps, read, (checked ps).mpr ⟨rfl, keyed⟩⟩

/-- Properties are decoded with the keys that they were sent with. -/
theorem keyed_of_decoded {ps : List Property} (keyed : ∀ p ∈ sent, p.key ≠ "")
    (decoded : DecodedTo sent ps) :
    ∀ q ∈ ps, q.key ≠ "" := by
  induction decoded with
  | nil => exact List.forall_mem_nil _
  | cons head _ ih =>
    obtain ⟨hp, hps⟩ := List.forall_mem_cons.mp keyed
    obtain ⟨v, -, rfl⟩ := Option.map_eq_some_iff.mp head
    exact List.forall_mem_cons.mpr ⟨hp, ih hps⟩

/-- **What a properties payload decodes to**, if no key is empty: each property to what it is decoded
to, in the order of the payload. -/
theorem decodeProperties_eq_ok_iff (document : t.Document octets)
    (renders : t.IsList RendersProperty sent) (keyed : ∀ p ∈ sent, p.key ≠ "")
    {ps : List Property} : decodeProperties octets = .ok ps ↔ DecodedTo sent ps := by
  rw [decodeProperties, reporting_eq_ok, readProperties_eq_ok_iff,
    readPayload_of_document document,
    renders.asList_eq_ok_iff document.skipFault? fun p u h sound q =>
      propertyShape_read_eq_ok_iff h sound]
  exact and_iff_left_of_imp (keyed_of_decoded keyed)

/-- A value that is not decoded spoils the payload. -/
theorem decodeProperties_refused (document : t.Document octets)
    (renders : t.IsList RendersProperty sent) (keyed : ∀ p ∈ sent, p.key ≠ "") {p : SentProperty}
    (hp : p ∈ sent) (refused : p.value.decoded? = none) : ∃ reason,
      decodeProperties octets = .error (.decode .properties reason (Utf8.lossy octets)) := by
  refine reporting_of_refused fun ps read => ?_
  have decoded := (decodeProperties_eq_ok_iff document renders keyed).mp (reporting_eq_ok.mpr read)
  obtain ⟨q, hq⟩ := decoded.exists_of_mem hp
  rw [SentProperty.decoded?, refused] at hq
  cases hq

/-- **Which values are kept.** Let properties with keys be rendered as a payload, with any blanks,
escapes, order of members and unknown members.

The payload is accepted exactly if every value is decoded, and then gives these values in its order: a
text as it is, and nothing for a null or for a value that is left out. A flag, a list or an object
among the values spoils the payload. An integer literal in a payload that has no other fault is
decoded to its own text if it is not minus zero and fits into 64 bits, signed or unsigned; any other
integer literal is decoded to another text or refused. -/
theorem decodeProperties_of_document (document : t.Document octets)
    (renders : t.IsList RendersProperty sent) (keyed : ∀ p ∈ sent, p.key ≠ "") :
    (∀ ps, decodeProperties octets = .ok ps ↔ DecodedTo sent ps) ∧
    ((∃ p ∈ sent, p.value.IsRefused) → ∃ reason,
      decodeProperties octets = .error (.decode .properties reason (Utf8.lossy octets))) ∧
    ∀ before key n after literal, sent = before ++ ⟨key, .number n⟩ :: after →
      n.IsInteger → n.Written (Utf8.encode literal) →
      (∀ p ∈ before ++ after, p.value.decoded?.isSome) →
      ∃ front back, DecodedTo before front ∧ DecodedTo after back ∧
        (literal ≠ "-0" ∧ -2 ^ 63 ≤ n.integer ∧ n.integer ≤ 2 ^ 64 - 1 →
          decodeProperties octets = .ok (front ++ ⟨key, some literal⟩ :: back)) ∧
        (¬ (literal ≠ "-0" ∧ -2 ^ 63 ≤ n.integer ∧ n.integer ≤ 2 ^ 64 - 1) →
          (∃ text ≠ literal, decodeProperties octets = .ok (front ++ ⟨key, some text⟩ :: back)) ∨
          ∃ reason,
            decodeProperties octets = .error (.decode .properties reason (Utf8.lossy octets))) := by
  have decodes : ∀ ps, decodeProperties octets = .ok ps ↔ DecodedTo sent ps :=
    fun ps => decodeProperties_eq_ok_iff document renders keyed
  refine ⟨decodes, ?_, ?_⟩
  · rintro ⟨p, hp, refused⟩
    exact decodeProperties_refused document renders keyed hp refused.decoded?
  · rintro before key n after literal rfl integer written valid
    obtain ⟨validBefore, validAfter⟩ := List.forall_mem_append.mp valid
    obtain ⟨front, hfront⟩ := exists_decodedTo validBefore
    obtain ⟨back, hback⟩ := exists_decodedTo validAfter
    have kept : ∀ v, n.value = .ok v →
        decodeProperties octets = .ok (front ++ ⟨key, some v.text⟩ :: back) := by
      intro v value
      refine (decodes _).mpr (hfront.append (.cons ?_ hback))
      rw [SentProperty.decoded?, SentValue.decoded?, value]
      rfl
    have exact := NumberText.value_text_eq_iff written integer
    refine ⟨front, back, hfront, hback, fun fits => ?_, fun misfit => ?_⟩
    · obtain ⟨v, value, rfl⟩ := exact.mpr fits
      exact kept v value
    · cases value : n.value with
      | ok v => exact .inl ⟨v.text, fun same => misfit (exact.mp ⟨v, value, same⟩), kept v value⟩
      | error fault =>
        refine .inr (decodeProperties_refused document renders keyed
          (List.mem_append_right _ List.mem_cons_self) ?_)
        rw [SentValue.decoded?, value]

end Payload

/-! ### Three payloads

The first has a text, a null and the least integer of 64 bits, with the members in different orders
and one of an unknown name. The others have one property each, whose value is minus zero and a flag. -/

namespace Values

def least : NumberText := ⟨true, "9223372036854775808".toList, [], none⟩

def minusZero : NumberText := ⟨true, ['0'], [], none⟩

def sent : List SentProperty :=
  [⟨"a", .text "1"⟩, ⟨"b", .absent⟩] ++ ⟨"c", .number least⟩ :: []

def payload : Tree :=
  .list (.ofList [.plainObject [("value", .string (.plain "1")), ("key", .string (.plain "a"))],
    .plainObject [("x", .list (.ofList [.null])), ("key", .string (.plain "b")), ("value", .null)],
    .plainObject [("key", .string (.plain "c")), ("value", .number least)]])

def text : String :=
  "[\x7b\"value\":\"1\",\"key\":\"a\"\x7d," ++
    "\x7b\"x\":[null],\"key\":\"b\",\"value\":null\x7d," ++
    "\x7b\"key\":\"c\",\"value\":-9223372036854775808\x7d]"

/-- The least whole number of 64 bits as it is written. -/
theorem least_written : least.Written (Utf8.encode "-9223372036854775808") := by
  have written : least.Written _ := .mk (.digits (by decide) (by decide)) (by decide) .none
  exact Eq.mp (congrArg least.Written (by decide +kernel)) written

/-- The negative zero as it is written. -/
theorem minusZero_written : minusZero.Written (Utf8.encode "-0") := by
  have written : minusZero.Written _ := .mk .zero (by decide) .none
  exact Eq.mp (congrArg minusZero.Written (by decide +kernel)) written

/-- The text of the sample is written as its tree. -/
theorem document : payload.Document (Utf8.encode text) := by
  have first : Tree.Written (.plainObject [("value", .string (.plain "1")),
      ("key", .string (.plain "a"))]) _ :=
    .tightObject <| .tight (by decide) (.plain (by decide)) <| .tight <|
      .tight (by decide) (.plain (by decide)) .closed
  have second : Tree.Written (.plainObject [("x", .list (.ofList [.null])),
      ("key", .string (.plain "b")), ("value", .null)]) _ :=
    .tightObject <| .tight (by decide) (.list (.tight .nullWord .closed)) <| .tight <|
      .tight (by decide) (.plain (by decide)) <| .tight <| .tight (by decide) .nullWord .closed
  have third : Tree.Written (.plainObject [("key", .string (.plain "c")),
      ("value", .number least)]) _ :=
    .tightObject <| .tight (by decide) (.plain (by decide)) <| .tight <|
      .tight (by decide) (.number least_written) .closed
  have payload : payload.Written _ :=
    .list <| .tight first <| .comma <| .tight second <| .comma <| .tight third .closed
  exact ⟨[], _, [], by decide, payload, by decide, by decide +kernel⟩

/-- The tree of the sample renders its properties. -/
theorem renders : payload.IsList RendersProperty sent := by
  refine ⟨_, .cons ?_ (.cons ?_ (.cons ?_ .nil)), rfl⟩
  · exact ⟨_, _, Tree.isText_plain _, .text (Tree.isText_plain _), [], _, by decide,
      List.reverse_perm _, Tree.isObject_plainObject _⟩
  · exact ⟨_, _, Tree.isText_plain _, .null, [("x", .list (.ofList [.null]))], _, by decide,
      @List.perm_append_comm _ [_] _, Tree.isObject_plainObject _⟩
  · exact ⟨_, _, Tree.isText_plain _, .number _, [], _, by decide, .refl _,
      Tree.isObject_plainObject _⟩

def single (value : Tree) : Tree :=
  .list (.ofList [.plainObject [("key", .string (.plain "k")), ("value", value)]])

def singleText (value : String) : String := "[\x7b\"key\":\"k\",\"value\":" ++ value ++ "\x7d]"

/-- A payload with one property is written as its tree, whatever its value is. -/
theorem single_document {value : Tree} {written : String}
    (h : value.Written (Utf8.encode written)) :
    (single value).Document (Utf8.encode (singleText written)) := by
  have key : NoEscapes "key" := by decide
  have name : NoEscapes "value" := by decide
  have document : (single value).Written _ :=
    .list <| .tight (.tightObject <| .tight key (.plain (by decide)) <| .tight <|
      .tight name h .closed) .closed
  have parts : Utf8.encode (singleText written) =
      Utf8.encode "[\x7b\"key\":\"k\",\"value\":" ++ Utf8.encode written ++ Utf8.encode "\x7d]" :=
    (Utf8.encode_append _ _).trans (congrArg (· ++ _) (Utf8.encode_append _ _))
  have front : Utf8.encode "[\x7b\"key\":\"k\",\"value\":" =
      0x5B :: 0x7B :: 0x22 :: (Utf8.encode "key" ++ 0x22 :: 0x3A :: 0x22 :: (Utf8.encode "k" ++
        0x22 :: 0x2C :: 0x22 :: (Utf8.encode "value" ++ [0x22, 0x3A]))) := by
    decide +kernel
  have back : Utf8.encode "\x7d]" = [0x7D, 0x5D] := by decide
  refine ⟨[], _, [], by decide, document, by decide, ?_⟩
  simp only [parts, front, back, List.nil_append, List.append_nil, List.append_assoc,
    List.cons_append]

/-- The tree of that payload renders its property. -/
theorem single_renders {x : SentValue} {value : Tree} (h : x.Member [("value", value)]) :
    (single value).IsList RendersProperty [⟨"k", x⟩] :=
  ⟨_, .cons ⟨_, _, Tree.isText_plain _, h, [], _, by decide, .refl _,
    Tree.isObject_plainObject _⟩ .nil, rfl⟩

/-- The least integer keeps its text, minus zero does not, and a flag spoils its payload. -/
theorem decodeProperties_values :
    decodeProperties (Utf8.encode text) =
      .ok [⟨"a", some "1"⟩, ⟨"b", none⟩, ⟨"c", some "-9223372036854775808"⟩] ∧
    decodeProperties (Utf8.encode (singleText "-0")) ≠ .ok [⟨"k", some "-0"⟩] ∧
    ∃ reason, decodeProperties (Utf8.encode (singleText "true")) =
      .error (.decode .properties reason (singleText "true")) := by
  refine ⟨?_, ?_, ?_⟩
  · obtain ⟨front, back, hfront, hback, fits, -⟩ :=
      (decodeProperties_of_document document renders (by decide)).2.2 _ _ _ _ _ rfl
        ⟨rfl, rfl⟩ least_written (by decide)
    cases hback
    obtain _ | ⟨first, second⟩ := hfront
    obtain _ | ⟨second, nothing⟩ := second
    cases nothing
    obtain rfl := Option.some.inj first
    obtain rfl := Option.some.inj second
    exact fits (by decide)
  · obtain ⟨front, back, hfront, hback, -, misfits⟩ :=
      (decodeProperties_of_document (single_document (.number minusZero_written))
        (single_renders (.number minusZero)) (by decide)).2.2 [] _ _ [] _ rfl
        ⟨rfl, rfl⟩ minusZero_written (by decide)
    cases hfront
    cases hback
    rcases misfits (by decide) with ⟨other, different, decoded⟩ | ⟨reason, refused⟩
    · rw [decoded]
      intro same
      cases same
      exact different rfl
    · rw [refused]
      exact nofun
  · have written : Tree.Written (.bool true) (Utf8.encode "true") := .trueWord
    have refused := (decodeProperties_of_document (single_document written)
      (single_renders (.flag true)) (by decide)).2.1 ⟨_, List.mem_cons_self, trivial⟩
    rwa [Utf8.lossy_encode] at refused

end Values

end AnalysisSettings.Payload
