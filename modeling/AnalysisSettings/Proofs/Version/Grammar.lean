import AnalysisSettings.Proofs.Except
import AnalysisSettings.Proofs.Version.Text
import Mathlib.Algebra.Group.Nat.Defs
import Mathlib.Data.List.Forall2

/-!
# Which texts are versions, and what is wrong with the others

The grammar of versions, said on the text itself. A part between dots is good if it is an optional plus
sign with one or more digits, whose number a 64-bit word holds (`Good`). The reader takes up to four good
parts. If it stops, it stops at the first part that is bad or the fifth, whichever comes first
(`readComponents_eq_invalid_iff`, `readComponents_eq_tooMany_iff`); `parse_grammar` says this of whole
texts.

A reader with an array of four slots, which writes the number of each part at the index of the part,
always finds its slot: it reads what `parse` reads (`fillFrom_eq`).
-/

namespace AnalysisSettings.Version

/-! ## Good parts -/

/-- **A good part** is an optional plus sign and one or more digits, and the number of the digits is
one of a 64-bit word. -/
structure Good (part : List Char) (number : Nat) : Prop where
  spelled : ∃ digits, (part = digits ∨ part = '+' :: digits) ∧ digits ≠ [] ∧
    (∀ c ∈ digits, c.isDigit = true) ∧ Nat.ofDigitChars 10 digits 0 = number
  fits : number ≤ 2 ^ 64 - 1

/-- A good part, whatever its number. -/
def IsGood (part : List Char) : Prop :=
  ∃ number, Good part number

/-- A part is good if it is read as a number of 64 bits. -/
theorem good_iff {part : List Char} {number : Nat} :
    Good part number ↔ Numeral.readUpTo? Numeral.maxWord part = some number := by
  rw [Numeral.readUpTo?_eq_some_iff]
  constructor
  · rintro ⟨⟨digits, spelled, run⟩, fits⟩
    exact ⟨digits, spelled, Numeral.read?_eq_some_iff.mpr run, fits⟩
  · rintro ⟨digits, spelled, read, fits⟩
    exact ⟨⟨digits, spelled, Numeral.read?_eq_some_iff.mp read⟩, fits⟩

/-- What is read as a number is a good part with that number. -/
theorem component?_eq_some_iff {part : List Char} {n : UInt64} :
    component? part = some n ↔ Good part n.toNat := by
  rw [good_iff, component?, Option.map_eq_some_iff]
  constructor
  · rintro ⟨number, read, rfl⟩
    rwa [UInt64.toNat_ofNat_of_lt' (Nat.lt_succ_of_le (good_iff.mpr read).fits)]
  · exact fun read => ⟨n.toNat, read, UInt64.ofNat_toNat⟩

/-- A good part is read as a component. -/
theorem isGood_iff {part : List Char} : IsGood part ↔ ∃ n, component? part = some n := by
  constructor
  · rintro ⟨number, good⟩
    exact ⟨UInt64.ofNat number, by rw [component?, good_iff.mp good]; rfl⟩
  · rintro ⟨n, read⟩
    exact ⟨n.toNat, component?_eq_some_iff.mp read⟩

/-- Any other part is read as none. -/
theorem component?_eq_none_iff {part : List Char} : component? part = none ↔ ¬ IsGood part := by
  rw [isGood_iff, ← Option.ne_none_iff_exists', not_not]

/-- Parts have numbers exactly if each of them is good. -/
theorem exists_numbers_iff {parts : List (List Char)} :
    (∃ ns : List UInt64, List.Forall₂ (fun part n => Good part n.toNat) parts ns) ↔
      ∀ part ∈ parts, IsGood part := by
  simp only [← component?_eq_some_iff, isGood_iff]
  induction parts with
  | nil => exact ⟨fun _ => nofun, fun _ => ⟨[], .nil⟩⟩
  | cons part parts ih =>
    rw [List.forall_mem_cons, ← ih]
    constructor
    · rintro ⟨_, ⟨⟩⟩
      next n ns read others => exact ⟨⟨n, read⟩, ns, others⟩
    · rintro ⟨⟨n, read⟩, ns, others⟩
      exact ⟨n :: ns, .cons read others⟩

/-- **The first bad part** and its index. -/
structure FirstBad (parts : List (List Char)) (i : Nat) (part : List Char) : Prop where
  found : parts[i]? = some part
  bad : ¬ IsGood part
  before : ∀ p ∈ parts.take i, IsGood p

section

variable {first part : List Char} {parts : List (List Char)} {i : Nat}

/-- The first part is the first bad one if it is bad. -/
theorem firstBad_zero_iff : FirstBad (first :: parts) 0 part ↔ part = first ∧ ¬ IsGood first := by
  constructor
  · rintro ⟨⟨⟩, bad, -⟩
    exact ⟨rfl, bad⟩
  · rintro ⟨rfl, bad⟩
    exact ⟨rfl, bad, nofun⟩

/-- A later part is the first bad one if the first is good and it is so among the others. -/
theorem firstBad_succ_iff :
    FirstBad (first :: parts) (i + 1) part ↔ IsGood first ∧ FirstBad parts i part := by
  constructor
  · rintro ⟨found, bad, before⟩
    obtain ⟨good, before⟩ := List.forall_mem_cons.mp before
    exact ⟨good, found, bad, before⟩
  · rintro ⟨good, found, bad, before⟩
    exact ⟨found, bad, List.forall_mem_cons.mpr ⟨good, before⟩⟩

/-- Behind a good part the first bad one is that of the rest. -/
theorem exists_firstBad_of_good {slots : Nat} {c : String} (good : IsGood first) :
    (∃ i part, i < slots + 1 ∧ FirstBad (first :: parts) i part ∧ c = String.ofList part) ↔
      ∃ i part, i < slots ∧ FirstBad parts i part ∧ c = String.ofList part := by
  constructor
  · rintro ⟨i, part, lt, found, named⟩
    cases i with
    | zero => exact absurd good (firstBad_zero_iff.mp found).2
    | succ i => exact ⟨i, part, Nat.lt_of_succ_lt_succ lt, (firstBad_succ_iff.mp found).2, named⟩
  · rintro ⟨i, part, lt, found, named⟩
    exact ⟨i + 1, part, Nat.succ_lt_succ lt, firstBad_succ_iff.mpr ⟨good, found⟩, named⟩

end

/-! ## Reading the parts -/

section

variable {text t c : String} {slots : Nat} {parts : List (List Char)}

/-- The numbers of the parts are read if there are slots for all of them and all are good. -/
theorem readComponents_eq_ok_iff_good {ns : List UInt64} :
    readComponents text slots parts = .ok ns ↔
      parts.length ≤ slots ∧ List.Forall₂ (fun part n => Good part n.toNat) parts ns := by
  simp only [readComponents_eq_ok_iff, ← component?_eq_some_iff]
  refine and_congr_right fun short => ⟨?_, fun read => ?_⟩
  · rintro ⟨ps, rfl, rfl⟩
    rw [List.forall₂_map_left_iff, List.forall₂_map_right_iff, List.forall₂_same]
    exact fun p _ => p.component?_text
  · clear short
    induction read with
    | nil => exact ⟨[], rfl, rfl⟩
    | cons read _ ih =>
      obtain ⟨p, rfl, rfl⟩ := Part.exists_of_component? read
      obtain ⟨ps, rfl, rfl⟩ := ih
      exact ⟨p :: ps, rfl, rfl⟩

/-- A part is blamed if it is the first bad one and there is a slot for it. -/
theorem readComponents_eq_invalid_iff :
    readComponents text slots parts = .error (.invalidComponent c t) ↔
      t = text ∧ ∃ i part, i < slots ∧ FirstBad parts i part ∧ c = String.ofList part := by
  induction parts generalizing slots with
  | nil =>
    rw [readComponents]
    constructor
    · rintro ⟨⟩
    · rintro ⟨-, i, part, -, ⟨⟨⟩⟩, -⟩
  | cons first parts ih =>
    cases slots with
    | zero =>
      rw [readComponents]
      constructor
      · rintro ⟨⟩
      · rintro ⟨-, i, part, lt, -⟩
        exact absurd lt (Nat.not_lt_zero i)
    | succ slots =>
      rw [readComponents]
      split
      · next bad =>
        have bad := component?_eq_none_iff.mp bad
        constructor
        · rintro ⟨⟩
          exact ⟨rfl, 0, first, Nat.succ_pos _, firstBad_zero_iff.mpr ⟨rfl, bad⟩, rfl⟩
        · rintro ⟨rfl, i, part, -, found, rfl⟩
          cases i with
          | zero => rw [(firstBad_zero_iff.mp found).1]
          | succ i => exact absurd (firstBad_succ_iff.mp found).1 bad
      · next n read =>
        rw [map_eq_error, ih, exists_firstBad_of_good (isGood_iff.mpr ⟨n, read⟩)]

/-- The number of parts is blamed if there are too many of them, and those that have a slot are
good. -/
theorem readComponents_eq_tooMany_iff :
    readComponents text slots parts = .error (.tooManyComponents t) ↔
      t = text ∧ slots < parts.length ∧ ∀ p ∈ parts.take slots, IsGood p := by
  induction parts generalizing slots with
  | nil =>
    rw [readComponents]
    constructor
    · rintro ⟨⟩
    · rintro ⟨-, lt, -⟩
      exact absurd lt (Nat.not_lt_zero slots)
  | cons first parts ih =>
    cases slots with
    | zero =>
      rw [readComponents]
      constructor
      · rintro ⟨⟩
        exact ⟨rfl, Nat.succ_pos _, fun p hp => absurd hp List.not_mem_nil⟩
      · rintro ⟨rfl, -⟩
        rfl
    | succ slots =>
      rw [readComponents, List.take_succ_cons, List.forall_mem_cons, List.length_cons,
        Nat.succ_lt_succ_iff]
      split
      · next bad =>
        constructor
        · rintro ⟨⟩
        · rintro ⟨-, -, good, -⟩
          exact absurd good (component?_eq_none_iff.mp bad)
      · next n read =>
        rw [map_eq_error, ih, and_iff_right (isGood_iff.mpr ⟨n, read⟩)]

/-- Parts that are there are never nothing. -/
theorem readComponents_ne_empty : readComponents text slots parts ≠ .error .empty := by
  induction parts generalizing slots with
  | nil =>
    rw [readComponents]
    rintro ⟨⟩
  | cons first parts ih =>
    cases slots with
    | zero =>
      rw [readComponents]
      rintro ⟨⟩
    | succ slots =>
      rw [readComponents]
      split
      · rintro ⟨⟩
      · exact fun failed => ih (map_eq_error.mp failed)

end

/-! ## Four slots -/

/-- Writes the number of each part into the slot with its index, from `i` on. `none` is an index outside
the slots. -/
def fillFrom (text : String) :
    Nat → List UInt64 → List (List Char) → Option (Except ParseError (List UInt64))
  | _, slots, [] => some (.ok slots)
  | i, slots, part :: parts =>
    if 4 ≤ i then some (.error (.tooManyComponents text))
    else match component? part with
      | none => some (.error (.invalidComponent (String.ofList part) text))
      | some n => if i < slots.length then fillFrom text (i + 1) (slots.set i n) parts else none

/-- Slots that are filled up to an index stay as they are, and the rest is filled. -/
theorem fillFrom_append (text : String) (filled : List UInt64) (free : Nat)
    (four : filled.length + free = 4) (parts : List (List Char)) :
    fillFrom text filled.length (filled ++ List.replicate free 0) parts =
      some ((readComponents text free parts).map fun ns =>
        filled ++ (ns ++ List.replicate (free - ns.length) 0)) := by
  induction parts generalizing filled free with
  | nil =>
    rw [fillFrom, readComponents]
    rfl
  | cons part parts ih =>
    rw [fillFrom]
    cases free with
    | zero =>
      rw [if_pos (show 4 ≤ filled.length by omega), readComponents]
      rfl
    | succ free =>
      have inside : filled.length < (filled ++ List.replicate (free + 1) (0 : UInt64)).length := by
        rw [List.length_append, List.length_replicate]
        omega
      rw [if_neg (by omega), readComponents]
      cases component? part with
      | none => rfl
      | some n =>
        have next : (filled ++ List.replicate (free + 1) (0 : UInt64)).set filled.length n =
            (filled ++ [n]) ++ List.replicate free 0 := by
          rw [List.set_append_right _ _ (Nat.le_refl _), Nat.sub_self, List.append_assoc]
          rfl
        have one : filled.length + 1 = (filled ++ [n]).length := by rw [List.length_append]; rfl
        dsimp only
        rw [if_pos inside, next, one, ih _ _ (by rw [← one]; omega)]
        cases readComponents text free parts with
        | error e => rfl
        | ok ns =>
          simp only [Except.map, List.length_cons, Nat.add_sub_add_right, List.append_assoc,
            List.cons_append, List.nil_append]

/-- **Four slots are enough**: no number is written outside of them, and together they hold the numbers
that are read, and zeros. -/
theorem fillFrom_eq (text : String) (parts : List (List Char)) :
    fillFrom text 0 (List.replicate 4 0) parts =
      some ((readComponents text 4 parts).map fun ns => ns.rightpad 4 0) :=
  fillFrom_append text [] 4 rfl parts

/-! ## Whole texts -/

/-- The text without the blanks around it. -/
def trimmed (text : String) : List Char :=
  Text.trim text.toList

/-- The parts between the dots in front of the first dash. -/
def dottedParts (text : String) : List (List Char) :=
  Text.split '.' (Text.cut '-' (trimmed text)).1

/-- The text behind the first dash. -/
def dashedPart (text : String) : List Char :=
  (Text.cut '-' (trimmed text)).2.getD []

/-- A version is its numbers and its qualifier. -/
theorem eq_of_numbers {v w : Version} (numbers : v.numbers = w.numbers)
    (qualifier : v.qualifier = w.qualifier) : v = w := by
  obtain ⟨major, minor, patch, build, _⟩ := v
  obtain ⟨major', minor', patch', build', _⟩ := w
  cases qualifier
  cases numbers
  rfl

/-- A text that is not blank is parsed from its dotted parts and what stands behind the dash. -/
theorem parse_of_trimmed {text : String} (some : trimmed text ≠ []) :
    parse text = (readComponents (String.ofList (trimmed text)) 4 (dottedParts text)).map fun ns =>
      ofComponents ns (String.ofList (dashedPart text)) :=
  if_neg (mt List.isEmpty_iff.mp some)

/-- A blank text is an error. -/
theorem parse_of_blank {text : String} (none : trimmed text = []) : parse text = .error .empty :=
  if_pos (List.isEmpty_iff.mpr none)

/-- A text of up to four good parts is the version with their numbers. -/
theorem parse_eq_ok_iff_good {text : String} (solid : trimmed text ≠ []) {v : Version} :
    parse text = .ok v ↔ (dottedParts text).length ≤ 4 ∧
      ∃ ns, List.Forall₂ (fun part n => Good part n.toNat) (dottedParts text) ns ∧
        v.numbers = ns.rightpad 4 0 ∧ v.qualifier = String.ofList (dashedPart text) := by
  rw [parse_of_trimmed solid, map_eq_ok]
  constructor
  · rintro ⟨ns, read, rfl⟩
    obtain ⟨short, good⟩ := readComponents_eq_ok_iff_good.mp read
    exact ⟨short, ns, good, numbers_ofComponents (good.length_eq ▸ short) _, rfl⟩
  · rintro ⟨short, ns, good, numbers, qualifier⟩
    refine ⟨ns, readComponents_eq_ok_iff_good.mpr ⟨short, good⟩, eq_of_numbers ?_ qualifier.symm⟩
    rw [numbers, numbers_ofComponents (good.length_eq ▸ short)]

/-- There is such a version whatever the numbers are. -/
theorem exists_parse_iff {text : String} (solid : trimmed text ≠ []) :
    (∃ v, parse text = .ok v) ↔
      (dottedParts text).length ≤ 4 ∧ ∀ part ∈ dottedParts text, IsGood part := by
  simp only [parse_eq_ok_iff_good solid, ← exists_numbers_iff]
  constructor
  · rintro ⟨v, short, ns, good, -⟩
    exact ⟨short, ns, good⟩
  · rintro ⟨short, ns, good⟩
    exact ⟨ofComponents ns (String.ofList (dashedPart text)), short, ns, good,
      numbers_ofComponents (good.length_eq ▸ short) _, rfl⟩

/-- The four slots hold what is read from the text. -/
theorem fillFrom_dottedParts {text : String} (solid : trimmed text ≠ []) :
    fillFrom (String.ofList (trimmed text)) 0 (List.replicate 4 0) (dottedParts text) =
      some ((parse text).map numbers) := by
  rw [fillFrom_eq, parse_of_trimmed solid]
  cases read : readComponents (String.ofList (trimmed text)) 4 (dottedParts text) with
  | error e => rfl
  | ok ns =>
    obtain ⟨short, good⟩ := readComponents_eq_ok_iff_good.mp read
    have numbers := numbers_ofComponents (good.length_eq ▸ short) (String.ofList (dashedPart text))
    exact congrArg (some ∘ Except.ok) numbers.symm

/-- **The grammar of versions.** Let the parts of a text be what stands between the dots in front of the
first dash, without the blanks around the text. The error that there is no version is that of a text
with nothing but blanks. Any other text is a version exactly if it has at most four parts and all are
good, and then the version has the numbers of the parts, filled up with zeros, and the text behind the
dash as its qualifier. A part is blamed exactly if it is the first bad one and one of the first four;
the number of parts is blamed exactly if there are more than four and the first four are good. Both
errors name the trimmed text. And no number of any text is written outside of four slots. -/
theorem parse_grammar (text : String) :
    (parse text = .error .empty ↔ trimmed text = []) ∧
    (trimmed text = Text.join '.' (dottedParts text) ++
      ((Text.cut '-' (trimmed text)).2.map ('-' :: ·)).getD [] ∧
      ∀ part ∈ dottedParts text, '.' ∉ part ∧ '-' ∉ part) ∧
    (trimmed text ≠ [] →
      ((∃ v, parse text = .ok v) ↔
        (dottedParts text).length ≤ 4 ∧ ∀ part ∈ dottedParts text, IsGood part) ∧
      (∀ v, parse text = .ok v ↔ (dottedParts text).length ≤ 4 ∧
        ∃ ns, List.Forall₂ (fun part n => Good part n.toNat) (dottedParts text) ns ∧
          v.numbers = ns.rightpad 4 0 ∧ v.qualifier = String.ofList (dashedPart text)) ∧
      (∀ c t, parse text = .error (.invalidComponent c t) ↔
        t = String.ofList (trimmed text) ∧
          ∃ i part, i < 4 ∧ FirstBad (dottedParts text) i part ∧ c = String.ofList part) ∧
      (∀ t, parse text = .error (.tooManyComponents t) ↔
        t = String.ofList (trimmed text) ∧ 4 < (dottedParts text).length ∧
          ∀ part ∈ (dottedParts text).take 4, IsGood part) ∧
      fillFrom (String.ofList (trimmed text)) 0 (List.replicate 4 0) (dottedParts text) =
        some ((parse text).map numbers)) := by
  refine ⟨⟨fun failed => ?_, parse_of_blank⟩, ⟨?_, fun part hpart => ?_⟩, fun solid =>
    ⟨exists_parse_iff solid, fun v => parse_eq_ok_iff_good solid, fun c t => ?_, fun t => ?_,
      fillFrom_dottedParts solid⟩⟩
  · by_contra solid
    rw [parse_of_trimmed solid, map_eq_error] at failed
    exact readComponents_ne_empty failed
  · rw [dottedParts, Text.join_split, Text.append_cut]
  · exact ⟨Text.not_mem_of_mem_split hpart,
      fun dash => Text.not_mem_cut _ _ (Text.mem_of_mem_split hpart dash)⟩
  · rw [parse_of_trimmed solid, map_eq_error, readComponents_eq_invalid_iff]
  · rw [parse_of_trimmed solid, map_eq_error, readComponents_eq_tooMany_iff]

/-! ### A fifth part, and a number that is too large

The first text has a bad fifth part, which is not looked at; the second has a bad third part in front of
one too many, and it is the least number that no word holds. -/

namespace Blamed

def surplus : String := " 1.+2.03.4.x-5 "

def large : String := "6.3.18446744073709551616.0.0"

/-- The number after the largest of 64 bits is bad. -/
theorem large_bad : ¬ IsGood "18446744073709551616".toList := by
  rw [← component?_eq_none_iff]
  decide

theorem parse_grammar_blamed :
    trimmed surplus ≠ [] ∧ trimmed large ≠ [] ∧
      parse surplus = .error (.tooManyComponents "1.+2.03.4.x-5") ∧
      parse large = .error (.invalidComponent "18446744073709551616" large) := by
  have solid : trimmed surplus ≠ [] ∧ trimmed large ≠ [] := by decide
  obtain ⟨-, -, surplusParts⟩ := parse_grammar surplus
  obtain ⟨-, -, -, tooMany, -⟩ := surplusParts solid.1
  obtain ⟨-, -, largeParts⟩ := parse_grammar large
  obtain ⟨-, -, invalid, -⟩ := largeParts solid.2
  refine ⟨solid.1, solid.2, (tooMany _).mpr ⟨by decide, by decide, ?_⟩,
    (invalid _ _).mpr ⟨by decide, 2, _, by decide, ⟨?_, large_bad, ?_⟩, by decide⟩⟩
  · simp only [isGood_iff, ← Option.isSome_iff_exists]
    decide
  · decide
  · simp only [isGood_iff, ← Option.isSome_iff_exists]
    decide

end Blamed

end AnalysisSettings.Version
