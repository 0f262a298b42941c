import AnalysisSettings.Proofs.Numeral
import AnalysisSettings.Version

/-!
# The texts of a version

A text is a version exactly if it is spelled from one to four numbers with dots between them, each
with a plus sign or none and any zeros in front, then a dash and any qualifier or neither, and blanks
around it all. `Spelling` is such a text by its parts, and `parse_eq_ok_iff` says that the reader takes
these texts and no others, and reads the numbers and the qualifier of the spelling.

The text that a version is written as is one of its spellings, so it reads back
(`parse_toString`). The one thing that could be lost is a blank at the end of a qualifier,
and no version that was read has one.
-/

namespace AnalysisSettings.Version

/-! ## Numbers -/

/-- A number as a version text spells it. -/
structure Part where
  plus : Bool := false
  zeros : Nat := 0
  number : UInt64

namespace Part

/-- The text of a number: a plus sign or none, zeros, and the digits of the number. -/
def text (p : Part) : List Char :=
  (if p.plus then ['+'] else []) ++ (List.replicate p.zeros '0' ++ Numeral.write p.number.toNat)

/-- A number is written in digits, with zeros in front or without. -/
theorem digits_of_zeros {zeros n : Nat} {c : Char}
    (h : c ∈ List.replicate zeros '0' ++ Numeral.write n) : c.isDigit = true := by
  rcases List.mem_append.mp h with h | h
  · rw [List.eq_of_mem_replicate h]
    rfl
  · exact Numeral.isDigit_of_mem_write h

/-- A part is made of digits and a plus sign. -/
theorem mem_text {p : Part} {c : Char} (h : c ∈ p.text) : c = '+' ∨ c.isDigit = true := by
  rcases List.mem_append.mp h with h | h
  · split at h
    · exact .inl (List.mem_singleton.mp h)
    · cases h
  · exact .inr (digits_of_zeros h)

/-- A part is not empty. -/
theorem text_ne_nil (p : Part) : p.text ≠ [] :=
  List.append_ne_nil_of_right_ne_nil _
    (List.append_ne_nil_of_right_ne_nil _ (Numeral.write_ne_nil _))

/-- A part is read as its number. -/
@[simp] theorem component?_text (p : Part) : component? p.text = some p.number := by
  have spelled : p.text = List.replicate p.zeros '0' ++ Numeral.write p.number.toNat ∨
      p.text = '+' :: (List.replicate p.zeros '0' ++ Numeral.write p.number.toNat) := by
    rw [text]
    cases p.plus
    · exact .inl rfl
    · exact .inr rfl
  have fits : p.number.toNat ≤ Numeral.maxWord := Nat.le_of_lt_succ p.number.toNat_lt
  have read := Numeral.readUpTo?_eq_some_iff.mpr ⟨_, spelled, Numeral.read?_zeros_write _ _, fits⟩
  rw [component?, read, Option.map_some, UInt64.ofNat_toNat]

/-- What is read as a number is spelled as one. -/
theorem exists_of_component? {part : List Char} {n : UInt64} (h : component? part = some n) :
    ∃ p : Part, p.text = part ∧ p.number = n := by
  obtain ⟨value, read, rfl⟩ := Option.map_eq_some_iff.mp h
  obtain ⟨digits, spelled, number, fits⟩ := Numeral.readUpTo?_eq_some_iff.mp read
  obtain ⟨zeros, rfl⟩ := Numeral.exists_zeros_write number
  have same : (UInt64.ofNat value).toNat = value := UInt64.toNat_ofNat_of_lt' (Nat.lt_succ_of_le fits)
  rcases spelled with rfl | rfl
  · exact ⟨⟨false, zeros, UInt64.ofNat value⟩, by rw [text, same]; rfl, rfl⟩
  · exact ⟨⟨true, zeros, UInt64.ofNat value⟩, by rw [text, same]; rfl, rfl⟩

end Part

/-- The numbers of the parts are read if there are enough places for them and each part is a
number. -/
theorem readComponents_eq_ok_iff {text : String} {slots : Nat} {parts : List (List Char)}
    {ns : List UInt64} : readComponents text slots parts = .ok ns ↔
      parts.length ≤ slots ∧ ∃ ps : List Part, parts = ps.map Part.text ∧ ns = ps.map Part.number := by
  induction parts generalizing slots ns with
  | nil =>
    rw [readComponents]
    constructor
    · intro h
      cases h
      exact ⟨Nat.zero_le _, [], rfl, rfl⟩
    · rintro ⟨-, ps, hps, rfl⟩
      rw [List.map_eq_nil_iff.mp hps.symm]
      rfl
  | cons part parts ih =>
    cases slots with
    | zero => simp [readComponents]
    | succ slots =>
      rw [readComponents]
      constructor
      · intro h
        cases read : component? part with
        | none =>
          rw [read] at h
          cases h
        | some n =>
          rw [read] at h
          cases others : readComponents text slots parts with
          | error e =>
            rw [others] at h
            cases h
          | ok ms =>
            rw [others] at h
            cases h
            obtain ⟨short, ps, rfl, rfl⟩ := ih.mp others
            obtain ⟨p, rfl, rfl⟩ := Part.exists_of_component? read
            exact ⟨Nat.succ_le_succ short, p :: ps, rfl, rfl⟩
      · rintro ⟨short, ps, hps, rfl⟩
        obtain ⟨p, ps, rfl, rfl, rfl⟩ := List.map_eq_cons_iff.mp hps.symm
        rw [Part.component?_text, ih.mpr ⟨Nat.le_of_succ_le_succ short, ps, rfl, rfl⟩]
        rfl

/-- Missing numbers of a version are zero. -/
theorem numbers_ofComponents {ns : List UInt64} (short : ns.length ≤ 4) (qualifier : String) :
    (ofComponents ns qualifier).numbers = ns.rightpad 4 0 := by
  match ns, short with
  | [], _ | [_], _ | [_, _], _ | [_, _, _], _ | [_, _, _, _], _ => rfl

/-! ## Spellings -/

/-- A version text by its parts. -/
structure Spelling where
  before : List Char := []
  parts : List Part
  qualifier : Option (List Char) := none
  after : List Char := []
  before_blank : ∀ c ∈ before, Text.isBlank c = true := by simp
  after_blank : ∀ c ∈ after, Text.isBlank c = true := by simp
  parts_ne : parts ≠ []
  parts_le : parts.length ≤ 4

namespace Spelling

/-- The numbers with dots between them. -/
def dotted (s : Spelling) : List Char :=
  Text.join '.' (s.parts.map Part.text)

/-- The qualifier behind its dash, if there is one. -/
def suffix (s : Spelling) : List Char :=
  (s.qualifier.map ('-' :: ·)).getD []

/-- The whole text. -/
def text (s : Spelling) : String :=
  String.ofList (s.before ++ (s.dotted ++ (s.suffix ++ s.after)))

/-- The numbers that are spelled. -/
def numbers (s : Spelling) : List UInt64 :=
  s.parts.map Part.number

/-- The version that is spelled: its numbers, and its qualifier without blanks at the end. -/
def version (s : Spelling) : Version :=
  ofComponents s.numbers (String.ofList (Text.dropEndWhile Text.isBlank (s.qualifier.getD [])))

/-- The numbers of a version are made of digits, plus signs and dots. -/
theorem mem_dotted {s : Spelling} {c : Char} (h : c ∈ s.dotted) :
    c = '.' ∨ c = '+' ∨ c.isDigit = true := by
  rcases Text.mem_join h with h | ⟨part, hpart, hc⟩
  · exact .inl h
  · obtain ⟨p, -, rfl⟩ := List.mem_map.mp hpart
    exact .inr (Part.mem_text hc)

/-- There is no other character among the numbers. -/
theorem not_mem_dotted {c : Char} (dot : c ≠ '.') (plus : c ≠ '+') (digit : c.isDigit = false)
    (s : Spelling) : c ∉ s.dotted := by
  intro h
  rcases mem_dotted h with h | h | h
  · exact dot h
  · exact plus h
  · rw [digit] at h
    cases h

/-- There are no blanks among the numbers. -/
theorem solid_dotted (s : Spelling) : ∀ c ∈ s.dotted, Text.isBlank c = false := by
  intro c hc
  rcases mem_dotted hc with rfl | rfl | digit
  · decide
  · decide
  · exact Text.isBlank_of_isDigit digit

/-- A spelling has at least one number. -/
theorem dotted_ne_nil (s : Spelling) : s.dotted ≠ [] := by
  obtain ⟨p, ps, hparts⟩ := List.exists_cons_of_ne_nil s.parts_ne
  rw [dotted, hparts]
  cases ps with
  | nil => exact p.text_ne_nil
  | cons q ps => exact List.append_ne_nil_of_left_ne_nil p.text_ne_nil _

/-- The dots part the numbers. -/
theorem split_dotted (s : Spelling) : Text.split '.' s.dotted = s.parts.map Part.text := by
  refine Text.split_join (mt List.map_eq_nil_iff.mp s.parts_ne) fun part hpart hdot => ?_
  obtain ⟨p, -, rfl⟩ := List.mem_map.mp hpart
  rcases Part.mem_text hdot with h | h <;> exact absurd h (by decide)

/-- The blanks around the text and at the end of the qualifier are trimmed. -/
theorem trim_text (s : Spelling) : Text.trim s.text.toList =
    s.dotted ++ ((s.qualifier.map (Text.dropEndWhile Text.isBlank)).map ('-' :: ·)).getD [] := by
  rw [text, String.toList_ofList, Text.trim_append s.before_blank s.dotted_ne_nil s.solid_dotted,
    Text.dropEndWhile_append_of_all s.after_blank, suffix]
  cases s.qualifier with
  | none => rfl
  | some q =>
    have dash : Text.isBlank '-' = false := by decide
    exact congrArg (s.dotted ++ ·) (Text.dropEndWhile_append_cons dash [] q)

/-- **A spelling is read** as the version that it spells. -/
theorem parse_text (s : Spelling) : parse s.text = .ok s.version := by
  have noDash : '-' ∉ s.dotted := not_mem_dotted (by decide) (by decide) (by decide) s
  have some : Text.trim s.text.toList ≠ [] := by
    rw [trim_text]
    exact List.append_ne_nil_of_left_ne_nil s.dotted_ne_nil _
  have read : readComponents (String.ofList (Text.trim s.text.toList)) 4 (s.parts.map Part.text) =
      .ok s.numbers :=
    readComponents_eq_ok_iff.mpr ⟨by rw [List.length_map]; exact s.parts_le, s.parts, rfl, rfl⟩
  have qualifier : (s.qualifier.map (Text.dropEndWhile Text.isBlank)).getD [] =
      Text.dropEndWhile Text.isBlank (s.qualifier.getD []) := by
    cases s.qualifier <;> rfl
  unfold parse
  dsimp only
  rw [if_neg (mt List.isEmpty_iff.mp some)]
  rw [trim_text] at read ⊢
  rw [Text.cut_append_optional noDash]
  dsimp only
  rw [split_dotted, read, qualifier]
  rfl

end Spelling

/-- A trimmed text has no blank at the end, and so the part behind a dash has none. -/
theorem dropEndWhile_qualifier (cs : List Char) :
    Text.dropEndWhile Text.isBlank ((Text.cut '-' (Text.trim cs)).2.getD []) =
      (Text.cut '-' (Text.trim cs)).2.getD [] := by
  have whole := Text.append_cut '-' (Text.trim cs)
  cases hq : (Text.cut '-' (Text.trim cs)).2 with
  | none => rfl
  | some q =>
    have trimmed : Text.dropEndWhile Text.isBlank (Text.trim cs) = Text.trim cs :=
      Text.dropEndWhile_dropEndWhile _ _
    have dash : Text.isBlank '-' = false := by decide
    rw [hq] at whole
    change _ ++ '-' :: q = _ at whole
    rw [← whole, Text.dropEndWhile_append_cons dash] at trimmed
    exact (List.cons.inj (List.append_cancel_left trimmed)).2

/-- What is read is spelled. -/
theorem exists_spelling {text : String} {v : Version} (h : parse text = .ok v) :
    ∃ s : Spelling, s.text = text ∧ s.version = v := by
  obtain ⟨before, after, whole, before_blank, after_blank⟩ := Text.exists_trim text.toList
  unfold parse at h
  dsimp only at h
  split at h
  · cases h
  · cases read : readComponents (String.ofList (Text.trim text.toList)) 4
        (Text.split '.' (Text.cut '-' (Text.trim text.toList)).1) with
    | error e =>
      rw [read] at h
      cases h
    | ok ns =>
      rw [read] at h
      cases h
      obtain ⟨short, ps, parts, rfl⟩ := readComponents_eq_ok_iff.mp read
      have parts_ne : ps ≠ [] := by
        rintro rfl
        exact Text.split_ne_nil _ _ parts
      have dotted : Text.join '.' (ps.map Part.text) = (Text.cut '-' (Text.trim text.toList)).1 := by
        rw [← parts, Text.join_split]
      refine ⟨⟨before, ps, (Text.cut '-' (Text.trim text.toList)).2, after, before_blank, after_blank,
        parts_ne, by rwa [parts, List.length_map] at short⟩, ?_, ?_⟩
      · show String.ofList (before ++ (Text.join '.' (ps.map Part.text) ++
          (((Text.cut '-' (Text.trim text.toList)).2.map ('-' :: ·)).getD [] ++ after))) = text
        rw [dotted, ← List.append_assoc (Text.cut _ _).1, Text.append_cut, ← whole,
          String.ofList_toList]
      · show ofComponents _ (String.ofList (Text.dropEndWhile Text.isBlank _)) = _
        rw [dropEndWhile_qualifier]
        rfl

/-- **The texts of a version** are its spellings. -/
theorem parse_eq_ok_iff {text : String} {v : Version} :
    parse text = .ok v ↔ ∃ s : Spelling, s.text = text ∧ s.version = v := by
  constructor
  · exact exists_spelling
  · rintro ⟨s, rfl, rfl⟩
    exact s.parse_text

/-! ## The written form -/

/-- A version that a client comes by: made of four numbers, or read from a text. -/
inductive Obtained : Version → Prop
  | ofNumbers (major minor patch build : UInt64) : Obtained ⟨major, minor, patch, build, ""⟩
  | parsed {text : String} {v : Version} (h : parse text = .ok v) : Obtained v

/-- No such version has a blank at the end of its qualifier. -/
theorem Obtained.qualifier_trimmed {v : Version} (h : v.Obtained) :
    Text.dropEndWhile Text.isBlank v.qualifier.toList = v.qualifier.toList := by
  cases h with
  | ofNumbers => rfl
  | parsed h =>
    obtain ⟨s, -, rfl⟩ := exists_spelling h
    show Text.dropEndWhile _ (String.ofList _).toList = (String.ofList _).toList
    rw [String.toList_ofList, Text.dropEndWhile_dropEndWhile]

/-- At least one number of a version is shown, and four at most. -/
theorem shownNumbers_bounds (v : Version) :
    v.shownNumbers ≠ [] ∧ v.shownNumbers.length ≤ 4 := by
  unfold shownNumbers
  split
  · exact ⟨List.cons_ne_nil _ _, Nat.le_refl 4⟩
  · split <;> exact ⟨List.cons_ne_nil _ _, by simp⟩

/-- The numbers that are not written are zero. -/
theorem ofComponents_shownNumbers (v : Version) :
    ofComponents v.shownNumbers v.qualifier = v := by
  obtain ⟨major, minor, patch, build, qualifier⟩ := v
  by_cases hbuild : build = 0 <;> by_cases hpatch : patch = 0 <;>
    simp [shownNumbers, ofComponents, hbuild, hpatch]

/-- How a version is written: no blanks, plain numbers, and a dash only in front of a qualifier. -/
def written (v : Version) : Spelling where
  parts := v.shownNumbers.map fun n => { number := n }
  qualifier := v.qualifier?.map String.toList
  parts_ne := mt List.map_eq_nil_iff.mp v.shownNumbers_bounds.1
  parts_le := by
    rw [List.length_map]
    exact v.shownNumbers_bounds.2

/-- A version is shown in its own spelling. -/
theorem text_written (v : Version) : v.written.text = v.toString := by
  have parts : v.written.parts.map Part.text =
      v.shownNumbers.map fun n => Numeral.write n.toNat := by
    rw [written, List.map_map]
    rfl
  have suffix : v.written.suffix =
      (if v.qualifier = "" then "" else "-" ++ v.qualifier).toList := by
    show ((v.qualifier?.map String.toList).map ('-' :: ·)).getD [] = _
    rw [qualifier?]
    split
    · rfl
    · rw [String.toList_append]
      rfl
  apply String.toList_inj.mp
  rw [Version.toString, String.toList_append, String.toList_ofList, ← parts, ← suffix, Spelling.text,
    String.toList_ofList]
  show [] ++ (v.written.dotted ++ (v.written.suffix ++ [])) = _
  rw [List.nil_append, List.append_nil]
  rfl

/-- That spelling is of this version, unless its qualifier ends in a blank. -/
theorem version_written {v : Version}
    (trimmed : Text.dropEndWhile Text.isBlank v.qualifier.toList = v.qualifier.toList) :
    v.written.version = v := by
  have numbers : v.written.numbers = v.shownNumbers := by
    rw [Spelling.numbers, written, List.map_map]
    exact List.map_id _
  have qualifier : v.written.qualifier.getD [] = v.qualifier.toList := by
    rw [written, qualifier?]
    split
    · next none =>
      rw [none]
      rfl
    · rfl
  rw [Spelling.version, numbers, qualifier, trimmed, String.ofList_toList, ofComponents_shownNumbers]

/-- **A version that is written reads back**, whether it was made of numbers or read from any text. So
of two such versions that are written alike, each is the other. -/
theorem parse_toString {v : Version} (h : v.Obtained) :
    parse v.toString = .ok v ∧ ∀ {w : Version}, w.Obtained → v.toString = w.toString → v = w := by
  have back : ∀ {w : Version}, w.Obtained → parse w.toString = .ok w := by
    intro w hw
    rw [← text_written, Spelling.parse_text, version_written hw.qualifier_trimmed]
  refine ⟨back h, fun hw same => ?_⟩
  have read := back h
  rw [same, back hw] at read
  exact (Except.ok.inj read).symm

/-! ### A version with a plus sign, zeros, blanks, dots and dashes -/

namespace Adorned

def text : String := "\t+07.0.000.12- a.b-c\u3000 "

def version : Version := ⟨7, 0, 0, 12, " a.b-c"⟩

/-- The text of the sample is parsed. -/
theorem parsed : parse text = .ok version := by rfl

/-- Signs, zeros and blanks of a spelling are not shown, and the version comes back. -/
theorem parse_toString_adorned :
    parse text = .ok version ∧ parse version.toString = .ok version ∧
      ∀ w, parse "7.0.0.12- a.b-c" = .ok w → version.toString = w.toString → version = w := by
  obtain ⟨back, same⟩ := parse_toString (.parsed parsed)
  exact ⟨parsed, back, fun w hw => same (.parsed hw)⟩

end Adorned

end AnalysisSettings.Version
