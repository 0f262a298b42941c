import AnalysisSettings.Proofs.Config.Layers
import AnalysisSettings.Proofs.Decimal.Plain
import Mathlib.Data.List.TakeWhile

/-!
# Words in variables

A word in a variable for a text field is given a type, and then it is printed. **Loading it succeeds,
and the field has the word itself, unless the word is a number** (`load_word`): one that is printed
otherwise than it is spelled comes out changed. Truth values and near-numbers come out as they are.

Which numbers those are depends on the point. Without one, a number of 64 bits loses its `Redundant`
zeros and no others, and a number with more bits is no number here. With one it is read as a double:
only a plain decimal can come out as it is, and one of at most fifteen digits does.

The typing looks at a truth value first (`valueAt?_word`), then at the whole word (`bareValue`); a word
has no blank, quote or bracket in it, so nothing is cut off.
-/

namespace AnalysisSettings.Config

/-! ## Bare values -/

/-- A number of one word, with the text that it is printed as: a whole number of 64 bits, a negative
one, or a decimal with a point. -/
inductive Number : List Char → String → Prop
  | unsigned {zeros n : Nat} (fits : n ≤ Numeral.maxWord) :
    Number (List.replicate zeros '0' ++ Numeral.write n) (String.ofList (Numeral.write n))
  | negative {zeros n : Nat} (fits : n ≤ Numeral.signBit) :
    Number ('-' :: (List.replicate zeros '0' ++ Numeral.write n)) (writeInt (-n))
  | pointed {n : Decimal.Written} {cs : List Char} (spelled : n.Pointed cs) :
    Number cs (floats.write n.toFloat)

/-- A character that is neither a digit nor a plus sign is in no number. -/
theorem readUpTo?_eq_none {limit : Nat} {cs : List Char} {c : Char} (hc : c ∈ cs) (noPlus : c ≠ '+')
    (noDigit : c.isDigit = false) : Numeral.readUpTo? limit cs = none := by
  cases read : Numeral.readUpTo? limit cs with
  | none => rfl
  | some n =>
    obtain ⟨digits, spelled, number, -⟩ := Numeral.readUpTo?_eq_some_iff.mp read
    have mem : c ∈ digits := by
      rcases spelled with rfl | rfl
      · exact hc
      · exact (List.mem_cons.mp hc).resolve_left noPlus
    rw [(Numeral.read?_eq_some_iff.mp number).2.1 c mem] at noDigit
    cases noDigit

/-- A whole number behind a sign, within 64 bits. -/
theorem readSigned?_of_signed {isNegative : Bool} {digits cs : List Char} {n : Nat}
    (sign : Decimal.Signed isNegative digits cs) (number : Numeral.read? digits = some n) :
    readSigned? cs =
      if isNegative then if n ≤ Numeral.signBit then some (-(n : Int)) else none
      else if n < Numeral.signBit then some (n : Int) else none := by
  rw [readSigned?, Decimal.cutSign_eq_iff.mpr sign]
  dsimp only
  rw [number]
  rfl

/-- There is no point in a whole number. -/
theorem noPoint_of_read? {digits : List Char} {n : Nat} (number : Numeral.read? digits = some n) :
    '.' ∉ digits := fun point =>
  absurd ((Numeral.read?_eq_some_iff.mp number).2.1 '.' point) (by decide)

/-- The value of a text without a point. -/
theorem bareValue_of_noPoint {cs : List Char} (noPoint : '.' ∉ cs) :
    bareValue cs = match Numeral.readUpTo? Numeral.maxWord cs, readSigned? cs with
      | some n, _ => .unsigned n
      | none, some i => .signed i
      | none, none => .text (String.ofList cs) := by
  have without : cs.contains '.' = false := by simpa using noPoint
  rw [bareValue, without]
  rcases Numeral.readUpTo? Numeral.maxWord cs with _ | n <;> rcases readSigned? cs with _ | i <;> rfl

/-- The value of a decimal with a point. -/
theorem bareValue_of_pointed {n : Decimal.Written} {cs : List Char} (spelled : n.Pointed cs) :
    bareValue cs = .float n.toFloat := by
  obtain ⟨read, point⟩ := Decimal.Written.pointed_iff.mp spelled
  have has : cs.contains '.' = true := by simpa using point
  rw [bareValue, has, if_pos rfl, read]

/-- A number is printed as its value. -/
theorem Number.text?_bareValue {cs : List Char} {s : String} (h : Number cs s) :
    (bareValue cs).text? = some s := by
  cases h with
  | @unsigned zeros n fits =>
    have number := Numeral.read?_zeros_write zeros n
    rw [bareValue_of_noPoint (noPoint_of_read? number),
      Numeral.readUpTo?_eq_some_iff.mpr ⟨_, .inl rfl, number, fits⟩]
    rfl
  | @negative zeros n fits =>
    have number := Numeral.read?_zeros_write zeros n
    have noPoint := List.not_mem_cons_of_ne_of_not_mem (by decide : '.' ≠ '-') (noPoint_of_read? number)
    rw [bareValue_of_noPoint noPoint, readUpTo?_eq_none List.mem_cons_self (by decide) (by decide),
      readSigned?_of_signed (.minus _) number, if_pos rfl, if_pos fits]
    rfl
  | pointed spelled =>
    rw [bareValue_of_pointed spelled]
    rfl

/-- A decimal is printed as the double that it is read as. -/
theorem Number.eq_of_pointed {n : Decimal.Written} {cs : List Char} {s : String} (h : Number cs s)
    (spelled : n.Pointed cs) : s = floats.write n.toFloat := by
  have text := h.text?_bareValue
  rw [bareValue_of_pointed spelled] at text
  exact (Option.some.inj text).symm

/-- A text that is no number stands for itself. -/
theorem bareValue_of_not_number {cs : List Char} (noPlus : '+' ∉ cs) (h : ∀ s, ¬ Number cs s) :
    bareValue cs = .text (String.ofList cs) := by
  have float : (if cs.contains '.' then Decimal.Written.read? cs else none) = none := by
    split
    · next point =>
      cases read : Decimal.Written.read? cs with
      | none => rfl
      | some n =>
        have point : '.' ∈ cs := by simpa using point
        exact absurd (.pointed (Decimal.Written.pointed_iff.mpr ⟨read, point⟩)) (h _)
    · rfl
  have unsigned : Numeral.readUpTo? Numeral.maxWord cs = none := by
    cases read : Numeral.readUpTo? Numeral.maxWord cs with
    | none => rfl
    | some n =>
      obtain ⟨digits, rfl | rfl, number, fits⟩ := Numeral.readUpTo?_eq_some_iff.mp read
      · obtain ⟨zeros, rfl⟩ := Numeral.exists_zeros_write number
        exact absurd (.unsigned fits) (h _)
      · exact absurd List.mem_cons_self noPlus
  have signed : readSigned? cs = none := by
    obtain ⟨isNegative, digits, sign⟩ : ∃ isNegative digits, Decimal.Signed isNegative digits cs :=
      ⟨_, _, Decimal.cutSign_eq_iff.mp rfl⟩
    cases number : Numeral.read? digits with
    | none =>
      rw [readSigned?, Decimal.cutSign_eq_iff.mpr sign]
      dsimp only
      rw [number]
      rfl
    | some n =>
      obtain ⟨zeros, rfl⟩ := Numeral.exists_zeros_write number
      rw [readSigned?_of_signed sign number]
      cases sign with
      | minus => exact if_neg fun fits => h _ (.negative fits)
      | plus => exact absurd List.mem_cons_self noPlus
      | bare =>
        refine if_neg fun fits => h _ (.unsigned (Nat.le_trans (Nat.le_of_lt fits) ?_))
        decide
  rw [bareValue, float, unsigned, signed]

/-- A number begins with a digit, a sign or the point. -/
theorem Number.head {c : Char} {cs : List Char} {s : String} (h : Number (c :: cs) s) :
    c.isDigit = true ∨ c = '-' ∨ c = '+' ∨ c = '.' := by
  generalize hword : c :: cs = word at h
  cases h with
  | @unsigned zeros n =>
    have digits := (Numeral.read?_eq_some_iff.mp (Numeral.read?_zeros_write zeros n)).2.1
    exact .inl (digits c (hword ▸ List.mem_cons_self))
  | negative => exact .inr (.inl (List.cons.inj hword).1)
  | @pointed n _ spelled =>
    obtain ⟨tail, -, sign⟩ := spelled.spelled
    generalize n.isNegative = isNegative at sign
    cases sign with
    | minus => exact .inr (.inl (List.cons.inj hword).1)
    | plus => exact .inr (.inr (.inl (List.cons.inj hword).1))
    | bare =>
      cases whole : n.whole with
      | nil =>
        rw [whole] at hword
        exact .inr (.inr (.inr (List.cons.inj hword).1))
      | cons d ds =>
        rw [whole] at hword
        rw [(List.cons.inj hword).1]
        exact .inl (spelled.digits d (by rw [whole]; exact List.mem_cons_self))

/-! ## Words -/

/-- The characters of a word: letters, digits, and three marks. -/
def isWordChar (c : Char) : Bool :=
  c.isAlphanum || c == '-' || c == '_' || c == '.'

/-- The characters of a word are ASCII. -/
theorem isWordChar_bound {c : Char} (h : isWordChar c = true) : c.toNat < 128 := by
  have kinds : (c.isUpper || c.isLower || c.isDigit || c == '-' || c == '_' || c == '.') = true := h
  simp only [Bool.or_eq_true, beq_iff_eq] at kinds
  rcases kinds with ((((upper | lower) | digit) | rfl) | rfl) | rfl
  · have range : c.val ≥ 'A'.val ∧ c.val ≤ 'Z'.val := of_decide_eq_true upper
    exact Nat.lt_of_le_of_lt (UInt32.le_iff_toNat_le.mp range.2) (by decide)
  · have last : c.val ≤ 'z'.val := of_decide_eq_true (Bool.and_eq_true_iff.mp lower).2
    exact Nat.lt_of_le_of_lt (UInt32.le_iff_toNat_le.mp last) (by decide)
  · exact Nat.lt_of_le_of_lt (Char.isDigit_iff_toNat.mp digit).2 (by decide)
  all_goals decide

/-- No blank, bracket, comma, quote or plus is in a word. -/
theorem isWordChar_plain {c : Char} (h : isWordChar c = true) :
    Text.isBlank c = false ∧ isValueBlank c = false ∧ isValueSeparator c = false ∧
      c ≠ '"' ∧ c ≠ '\'' ∧ c ≠ '+' := by
  have all : ∀ n < 128, isWordChar (Char.ofNat n) = true →
      Text.isBlank (Char.ofNat n) = false ∧ isValueBlank (Char.ofNat n) = false ∧
      isValueSeparator (Char.ofNat n) = false ∧ Char.ofNat n ≠ '"' ∧ Char.ofNat n ≠ '\'' ∧
      Char.ofNat n ≠ '+' := by
    decide +kernel
  have := all c.toNat (isWordChar_bound h)
  rw [c.ofNat_toNat] at this
  exact this h

section Word

variable {cs : List Char} (word : ∀ c ∈ cs, isWordChar c = true)
include word

/-- There is no plus sign in a word. -/
theorem noPlus_word : '+' ∉ cs := fun plus =>
  absurd (word _ plus) (by decide)

/-- There are no blanks at the ends of a word. -/
theorem trim_word : Text.trim cs = cs :=
  Text.trim_of_solid fun c hc => (isWordChar_plain (word c hc)).1

/-- A value at the beginning of a word is a truth value, or it is the whole word. -/
theorem valueAt?_word (fuel : Nat) :
    (∃ b rest, cs = (toString b).toList ++ rest ∧ valueAt? (fuel + 1) cs = some (.bool b, rest)) ∨
      valueAt? (fuel + 1) cs = some (bareValue cs, []) := by
  have noBlank {rest : List Char} (sub : rest ⊆ cs) : rest.dropWhile isValueBlank = rest := by
    cases rest with
    | nil => rfl
    | cons c rest =>
      have solid := (isWordChar_plain (word c (sub List.mem_cons_self))).2.1
      exact List.dropWhile_cons_of_neg (Bool.eq_false_iff.mp solid)
  have noSeparator : cs.takeWhile (fun c => !isValueSeparator c) = cs := by
    rw [List.takeWhile_eq_self_iff]
    intro c hc
    rw [(isWordChar_plain (word c hc)).2.2.1]
    rfl
  unfold valueAt?
  dsimp only
  rw [noBlank fun _ hc => hc]
  split
  · next rest =>
    have behind : rest.dropWhile isValueBlank = rest := noBlank fun c hc => by simp [hc]
    exact .inl ⟨true, rest, rfl, congrArg (fun rest => some (Value.bool true, rest)) behind⟩
  · next rest =>
    have behind : rest.dropWhile isValueBlank = rest := noBlank fun c hc => by simp [hc]
    exact .inl ⟨false, rest, rfl, congrArg (fun rest => some (Value.bool false, rest)) behind⟩
  · exact absurd (word _ List.mem_cons_self) (by decide)
  · exact absurd (word _ List.mem_cons_self) (by decide)
  · exact absurd (word _ List.mem_cons_self) (by decide)
  · exact absurd (word _ List.mem_cons_self) (by decide)
  · exact absurd (word _ List.mem_cons_self) (by decide)
  · refine .inr ?_
    rw [noSeparator, trim_word word, List.drop_length]
    rfl

end Word

/-- A word that begins with a letter is no number. -/
theorem bareValue_of_bool {b : Bool} {rest : List Char}
    (word : ∀ c ∈ (toString b).toList ++ rest, isWordChar c = true) :
    bareValue ((toString b).toList ++ rest) = .text (String.ofList ((toString b).toList ++ rest)) := by
  refine bareValue_of_not_number (noPlus_word word) fun s number => ?_
  cases b with
  | true => exact absurd number.head (by decide)
  | false => exact absurd number.head (by decide)

/-- **The text of a word**: a truth value is written as it is read, so what matters is whether the
word is a number. -/
theorem text?_valueOfVariable {v : String} (word : ∀ c ∈ v.toList, isWordChar c = true) :
    (valueOfVariable v).text? = (bareValue v.toList).text? := by
  rw [valueOfVariable, trim_word word, String.ofList_toList, valueOfText]
  rcases valueAt?_word word v.length with ⟨b, rest, spelled, found⟩ | found
  · rw [found, spelled, bareValue_of_bool (spelled ▸ word), ← spelled, String.ofList_toList]
    cases rest with
    | nil =>
      rw [List.append_nil, String.toList_inj] at spelled
      rw [spelled]
      cases b <;> rfl
    | cons c rest => rfl
  · rw [found]

/-! ## Loading one variable -/

/-- One variable selects a value for its field and nothing else. -/
theorem selected_singleton {name field : String} (own : fieldOfVariable? name = some field) (v f : String) :
    selected [] [(name, v)] f = if f = field then some (valueOfVariable v) else none := by
  rw [selected, List.lookup_nil, Option.or_none, Environment.value?_cons, own]
  simp [Environment.value?, eq_comm]

/-- A variable with the organization is loaded as its text. -/
theorem load_organization_iff {v s : String} :
    load none [("SETTINGS_SYNC_ORGANIZATION", v)] = .ok { organization := some s } ↔
      (valueOfVariable v).text? = some s := by
  have own : fieldOfVariable? "SETTINGS_SYNC_ORGANIZATION" = some "organization" := by decide +kernel
  rw [load_eq_ok_iff rfl, reading_iff]
  simp [selected_singleton own]

/-- A variable with the user agent is loaded as its text. -/
theorem load_userAgent_iff {v s : String} :
    load none [("SETTINGS_SYNC_USER_AGENT", v)] = .ok { userAgent := s } ↔
      (valueOfVariable v).text? = some s := by
  have own : fieldOfVariable? "SETTINGS_SYNC_USER_AGENT" = some "user_agent" := by decide +kernel
  rw [load_eq_ok_iff rfl, reading_iff]
  simp [selected_singleton own]

/-! ## What is kept -/

/-- A whole number of 64 bits with zeros that are not printed: zeros in front, or a minus sign in
front of zero. -/
inductive Redundant : List Char → Prop
  | unsigned {zeros n : Nat} (more : zeros ≠ 0) (fits : n ≤ Numeral.maxWord) :
    Redundant (List.replicate zeros '0' ++ Numeral.write n)
  | negative {zeros n : Nat} (more : zeros ≠ 0 ∨ n = 0) (fits : n ≤ Numeral.signBit) :
    Redundant ('-' :: (List.replicate zeros '0' ++ Numeral.write n))

/-- A negative whole number is written with a minus sign, and zero without one. -/
theorem toList_writeInt_neg (n : Nat) :
    (writeInt (-n)).toList = (if n = 0 then [] else ['-']) ++ Numeral.write n := by
  rw [writeInt, String.toList_ofList, Int.natAbs_neg, Int.natAbs_natCast]
  by_cases zero : n = 0
  · rw [if_pos zero, if_neg (by omega)]
  · rw [if_neg zero, if_pos (by omega)]

/-- There is no minus sign among digits. -/
theorem noMinus_zeros_write (zeros n : Nat) : '-' ∉ List.replicate zeros '0' ++ Numeral.write n := fun h =>
  absurd ((Numeral.read?_eq_some_iff.mp (Numeral.read?_zeros_write zeros n)).2.1 '-' h) (by decide)

/-- Digits are redundant if there are zeros in front. -/
theorem redundant_unsigned_iff {zeros n : Nat} (fits : n ≤ Numeral.maxWord) :
    Redundant (List.replicate zeros '0' ++ Numeral.write n) ↔ zeros ≠ 0 := by
  constructor
  · intro h
    generalize hcs : List.replicate zeros '0' ++ Numeral.write n = cs at h
    cases h with
    | unsigned more =>
      rw [(Numeral.zeros_write_inj hcs).1]
      exact more
    | negative => exact absurd (hcs ▸ List.mem_cons_self) (noMinus_zeros_write zeros n)
  · exact fun more => .unsigned more fits

/-- Digits behind a minus sign are redundant if there are zeros in front, or nothing but zero. -/
theorem redundant_negative_iff {zeros n : Nat} (fits : n ≤ Numeral.signBit) :
    Redundant ('-' :: (List.replicate zeros '0' ++ Numeral.write n)) ↔ zeros ≠ 0 ∨ n = 0 := by
  constructor
  · intro h
    generalize hcs : '-' :: (List.replicate zeros '0' ++ Numeral.write n) = cs at h
    cases h with
    | unsigned => exact absurd (hcs ▸ List.mem_cons_self) (noMinus_zeros_write _ _)
    | negative more =>
      obtain ⟨same, rfl⟩ := Numeral.zeros_write_inj (List.cons.inj hcs).2
      rw [same]
      exact more
  · exact fun more => .negative more fits

/-- There is no point in redundant digits. -/
theorem Redundant.noPoint {cs : List Char} (h : Redundant cs) : '.' ∉ cs := by
  cases h with
  | unsigned => exact noPoint_of_read? (Numeral.read?_zeros_write _ _)
  | negative =>
    exact List.not_mem_cons_of_ne_of_not_mem (by decide) (noPoint_of_read? (Numeral.read?_zeros_write _ _))

/-- A number without a point is printed as it is spelled unless it has redundant zeros. -/
theorem Number.kept_iff {cs : List Char} {s : String} (h : Number cs s) (noPoint : '.' ∉ cs) :
    s.toList = cs ↔ ¬ Redundant cs := by
  cases h with
  | @unsigned zeros n fits =>
    rw [redundant_unsigned_iff fits, not_not, String.toList_ofList]
    exact ⟨fun same => (@Numeral.zeros_write_inj 0 _ _ _ same).1.symm, fun none => none ▸ rfl⟩
  | @negative zeros n fits =>
    rw [redundant_negative_iff fits, not_or, not_not, toList_writeInt_neg]
    constructor
    · intro same
      by_cases zero : n = 0
      · rw [if_pos zero, List.nil_append] at same
        exact absurd (same ▸ List.mem_cons_self) (noMinus_zeros_write 0 n)
      · rw [if_neg zero] at same
        exact ⟨(@Numeral.zeros_write_inj 0 _ _ _ (List.cons.inj same).2).1.symm, zero⟩
    · rintro ⟨rfl, positive⟩
      rw [if_neg positive]
      rfl
  | pointed spelled => exact absurd (Decimal.Written.pointed_iff.mp spelled).2 noPoint

/-- The words for infinities and for what is no number are plain. -/
theorem floats_plain : floats.Plain :=
  ⟨fun _ => rfl, rfl, by decide, by decide⟩

/-- Redundant digits are a number. -/
theorem Redundant.number {cs : List Char} (h : Redundant cs) : ∃ s, Number cs s := by
  cases h with
  | unsigned _ fits => exact ⟨_, .unsigned fits⟩
  | negative _ fits => exact ⟨_, .negative fits⟩

/-- **A word in a variable reaches a text field as it is, unless it is a number that is printed
otherwise.** Without a point that are the numbers with redundant zeros. With a point it is at least
every decimal that is not plain, and no plain one of at most fifteen digits. -/
theorem load_word {v : String} (word : ∀ c ∈ v.toList, isWordChar c = true) :
    ∃ s, load none [("SETTINGS_SYNC_ORGANIZATION", v)] = .ok { organization := some s } ∧
      load none [("SETTINGS_SYNC_USER_AGENT", v)] = .ok { userAgent := s } ∧
      (Number v.toList s ∨ (∀ t, ¬ Number v.toList t) ∧ s = v) ∧
      ('.' ∉ v.toList → (s = v ↔ ¬ Redundant v.toList)) ∧
      ∀ n : Decimal.Written, n.Pointed v.toList → (s = v → n.Plain v.toList) ∧
        (n.Plain v.toList → (n.whole ++ n.fraction).length ≤ 15 → s = v) := by
  obtain ⟨s, text, reading⟩ : ∃ s, (valueOfVariable v).text? = some s ∧
      (Number v.toList s ∨ (∀ t, ¬ Number v.toList t) ∧ s = v) := by
    rw [text?_valueOfVariable word]
    by_cases h : ∃ s, Number v.toList s
    · obtain ⟨s, number⟩ := h
      exact ⟨s, number.text?_bareValue, .inl number⟩
    · have h := not_exists.mp h
      rw [bareValue_of_not_number (noPlus_word word) h, String.ofList_toList]
      exact ⟨v, rfl, .inr ⟨h, rfl⟩⟩
  refine ⟨s, load_organization_iff.mpr text, load_userAgent_iff.mpr text, reading, fun noPoint => ?_,
    fun n pointed => ?_⟩
  · rcases reading with number | ⟨none, rfl⟩
    · rw [← number.kept_iff noPoint, String.toList_inj]
    · refine ⟨fun _ redundant => ?_, fun _ => rfl⟩
      obtain ⟨t, number⟩ := redundant.number
      exact none t number
  · rcases reading with number | ⟨none, -⟩
    · rw [number.eq_of_pointed pointed, ← String.toList_inj]
      refine ⟨fun same => ?_, fun plain short => floats_plain.write_toFloat plain short⟩
      rw [← same] at pointed ⊢
      exact floats_plain.of_write pointed
    · exact absurd (.pointed pointed) (none _)

/-! ### Zeros at either end -/

namespace Zeros

theorem word : ∀ c ∈ "007".toList, isWordChar c = true :=
  List.all_eq_true.mp (by decide)

theorem wordRelease : ∀ c ∈ "9.90".toList, isWordChar c = true :=
  List.all_eq_true.mp (by decide)

theorem wordVersion : ∀ c ∈ "-9.9".toList, isWordChar c = true :=
  List.all_eq_true.mp (by decide)

/-- Zeros in front and at the end are lost; a decimal without them is kept. -/
theorem load_word_zeros :
    (∃ s, load none [("SETTINGS_SYNC_ORGANIZATION", "007")] = .ok { organization := some s } ∧ s ≠ "007") ∧
    (∃ s, load none [("SETTINGS_SYNC_ORGANIZATION", "9.90")] = .ok { organization := some s } ∧ s ≠ "9.90") ∧
    load none [("SETTINGS_SYNC_USER_AGENT", "-9.9")] = .ok { userAgent := "-9.9" } := by
  refine ⟨?_, ?_, ?_⟩
  · obtain ⟨s, loaded, -, -, kept, -⟩ := load_word word
    have redundant : Redundant "007".toList := @Redundant.unsigned 2 7 (by decide) (by decide)
    exact ⟨s, loaded, fun same => (kept (by decide)).mp same redundant⟩
  · obtain ⟨s, loaded, -, -, -, decimal⟩ := load_word wordRelease
    have pointed : Decimal.Written.Pointed ⟨false, ['9'], ['9', '0'], 0⟩ "9.90".toList :=
      Decimal.Written.pointed_iff.mpr (by decide)
    refine ⟨s, loaded, fun same => ?_⟩
    obtain ⟨d, last, nonzero⟩ := ((decimal _ pointed).1 same).last_ne
    exact nonzero (Option.some.inj last).symm
  · obtain ⟨s, -, loaded, -, -, decimal⟩ := load_word wordVersion
    have pointed : Decimal.Written.Pointed ⟨true, ['9'], ['9'], 0⟩ "-9.9".toList :=
      Decimal.Written.pointed_iff.mpr (by decide)
    have plain : Decimal.Written.Plain ⟨true, ['9'], ['9'], 0⟩ "-9.9".toList :=
      ⟨pointed, by decide, ⟨9, rfl⟩, ⟨'9', rfl, by decide⟩, rfl⟩
    rw [loaded, (decimal _ pointed).2 plain (by decide)]

/-- **Zeros in front are lost.** -/
theorem load_zeros_lost :
    load none [("SETTINGS_SYNC_ORGANIZATION", "007")] = .ok { organization := some "7" } :=
  load_organization_iff.mpr (by decide +kernel)

end Zeros

end AnalysisSettings.Config
