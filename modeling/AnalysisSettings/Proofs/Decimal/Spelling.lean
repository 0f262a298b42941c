import AnalysisSettings.Decimal.Written
import AnalysisSettings.Proofs.Numeral

/-!
# How decimals with a point are spelled

`Written.read?` reads a decimal from its sign on to its exponent, and what it reads from a text with a
point is what the text spells (`Written.pointed_iff`): a sign or none, digits before and behind the
point, at least one in all, and an exponent or none. Zeros may stand at either end, and the digits may
be missing on one side.
-/

namespace AnalysisSettings.Decimal

/-! ## Signs -/

/-- A text behind a sign. A text that is positive without one does not begin with one. -/
inductive Signed : Bool → List Char → List Char → Prop
  | minus (rest : List Char) : Signed true rest ('-' :: rest)
  | plus (rest : List Char) : Signed false rest ('+' :: rest)
  | bare {rest : List Char} (noMinus : rest.head? ≠ some '-') (noPlus : rest.head? ≠ some '+') :
    Signed false rest rest

/-- A sign is cut off exactly where there is one. -/
theorem cutSign_eq_iff {isNegative : Bool} {rest cs : List Char} :
    cutSign cs = (isNegative, rest) ↔ Signed isNegative rest cs := by
  constructor
  · intro cut
    unfold cutSign at cut
    split at cut
    · cases cut
      exact .minus _
    · cases cut
      exact .plus _
    · next noMinus noPlus =>
      cases cut
      refine .bare (fun h => ?_) fun h => ?_
      · obtain ⟨rest, rfl⟩ := List.head?_eq_some_iff.mp h
        exact noMinus rest rfl
      · obtain ⟨rest, rfl⟩ := List.head?_eq_some_iff.mp h
        exact noPlus rest rfl
  · rintro (_ | _ | ⟨noMinus, noPlus⟩)
    · rfl
    · rfl
    · unfold cutSign
      split
      · exact absurd rfl noMinus
      · exact absurd rfl noPlus
      · rfl

/-- Digits begin with no sign. -/
theorem Signed.of_isDigit {c : Char} (digit : c.isDigit = true) (rest : List Char) :
    Signed false (c :: rest) (c :: rest) := by
  refine .bare (fun h => ?_) fun h => ?_ <;>
  · cases Option.some.inj h
    exact absurd digit (by decide)

/-- What stands behind a sign is a part of the text. -/
theorem Signed.mem_of_mem {isNegative : Bool} {rest cs : List Char} {c : Char}
    (h : Signed isNegative rest cs) (hc : c ∈ rest) : c ∈ cs := by
  cases h with
  | minus | plus => exact List.mem_cons_of_mem _ hc
  | bare => exact hc

/-- Only signs are cut off. -/
theorem Signed.mem_rest {isNegative : Bool} {rest cs : List Char} {c : Char}
    (h : Signed isNegative rest cs) (noMinus : c ≠ '-') (noPlus : c ≠ '+') (hc : c ∈ cs) :
    c ∈ rest := by
  cases h with
  | minus => exact (List.mem_cons.mp hc).resolve_left noMinus
  | plus => exact (List.mem_cons.mp hc).resolve_left noPlus
  | bare => exact hc

/-! ## Exponents -/

/-- An exponent behind the digits of a decimal: nothing, or a mark and a whole number. -/
inductive Exponent : Int → List Char → Prop
  | none : Exponent 0 []
  | marked {mark : Char} {isNegative : Bool} {digits cs : List Char} {n : Nat}
    (hmark : mark = 'e' ∨ mark = 'E') (sign : Signed isNegative digits cs)
    (number : Numeral.read? digits = some n) :
    Exponent (if isNegative then -(n : Int) else n) (mark :: cs)

/-- There is no point in an exponent. -/
theorem Exponent.noPoint {i : Int} {tail : List Char} (h : Exponent i tail) : '.' ∉ tail := by
  cases h with
  | none => exact List.not_mem_nil
  | marked hmark sign number =>
    intro hc
    rcases List.mem_cons.mp hc with rfl | hc
    · rcases hmark with h | h <;> exact absurd h (by decide)
    · have digit := (Numeral.read?_eq_some_iff.mp number).2.1 '.'
        (sign.mem_rest (by decide) (by decide) hc)
      exact absurd digit (by decide)

/-- An exponent is read if it is a whole number with or without a sign. -/
theorem readExponent?_eq_some_iff {cs : List Char} {i : Int} :
    readExponent? cs = some i ↔ ∃ (isNegative : Bool) (digits : List Char) (n : Nat),
      Signed isNegative digits cs ∧ Numeral.read? digits = some n ∧
        (if isNegative then -(n : Int) else n) = i := by
  obtain ⟨isNegative, digits, sign⟩ : ∃ isNegative digits, Signed isNegative digits cs :=
    ⟨_, _, cutSign_eq_iff.mp rfl⟩
  have cut := cutSign_eq_iff.mpr sign
  have read : readExponent? cs =
      (Numeral.read? digits).map fun n : Nat => if isNegative then -(n : Int) else n := by
    rw [readExponent?, cut]
    dsimp only
    cases Numeral.read? digits <;> rfl
  rw [read, Option.map_eq_some_iff]
  constructor
  · rintro ⟨n, number, value⟩
    exact ⟨isNegative, digits, n, sign, number, value⟩
  · rintro ⟨isNegative', digits', n, sign', number, value⟩
    cases cut.symm.trans (cutSign_eq_iff.mpr sign')
    exact ⟨n, number, value⟩

/-- A character that is no mark of an exponent. -/
abbrev isUnmarked (c : Char) : Bool := !(c == 'e' || c == 'E')

/-- The two marks of an exponent. -/
theorem isUnmarked_eq_false_iff {c : Char} : isUnmarked c = false ↔ c = 'e' ∨ c = 'E' := by
  rw [isUnmarked, Bool.not_eq_false', Bool.or_eq_true, beq_iff_eq, beq_iff_eq]

/-- A digit is no mark of an exponent. -/
theorem isUnmarked_of_isDigit {c : Char} (digit : c.isDigit = true) : isUnmarked c = true := by
  cases unmarked : isUnmarked c with
  | true => rfl
  | false => rcases isUnmarked_eq_false_iff.mp unmarked with rfl | rfl <;> exact absurd digit (by decide)

/-- An exponent begins with its mark. -/
theorem Exponent.stop {i : Int} {tail : List Char} (h : Exponent i tail) :
    ∀ c ∈ tail.head?, isUnmarked c = false := by
  cases h with
  | none => rintro c ⟨⟩
  | marked hmark =>
    rintro c ⟨⟩
    exact isUnmarked_eq_false_iff.mpr hmark

/-- The exponent behind the first mark, if there is one. -/
def exponentOf? : List Char → Option Int
  | [] => some 0
  | _ :: cs => readExponent? cs

/-- What stands from the mark on is read as an exponent if it is one. -/
theorem exponentOf?_eq_some_iff {cs : List Char} {i : Int} :
    exponentOf? (cs.dropWhile isUnmarked) = some i ↔ Exponent i (cs.dropWhile isUnmarked) := by
  cases rest : cs.dropWhile isUnmarked with
  | nil =>
    constructor
    · rintro ⟨⟩
      exact .none
    · rintro ⟨⟩
      rfl
  | cons mark tail =>
    have marked : isUnmarked mark = false := by
      have first := List.head?_dropWhile_not isUnmarked cs
      rw [rest] at first
      simpa using first
    rw [exponentOf?, readExponent?_eq_some_iff]
    constructor
    · rintro ⟨isNegative, digits, n, sign, number, rfl⟩
      exact .marked (isUnmarked_eq_false_iff.mp marked) sign number
    · rintro (_ | ⟨-, sign, number⟩)
      exact ⟨_, _, _, sign, number, rfl⟩

/-! ## Decimals -/

namespace Written

/-- The parts of a text that is to be read: the sign, the digits up to the first mark with the point
among them, and the exponent. -/
theorem read?_eq_some_iff {n : Written} {cs : List Char} :
    read? cs = some n ↔ ∃ unsigned fraction?, cutSign cs = (n.isNegative, unsigned) ∧
      Text.cut '.' (unsigned.takeWhile isUnmarked) = (n.whole, fraction?) ∧
      fraction?.getD [] = n.fraction ∧
      exponentOf? (unsigned.dropWhile isUnmarked) = some n.exponent ∧
      n.whole ++ n.fraction ≠ [] ∧ ∀ c ∈ n.whole ++ n.fraction, c.isDigit = true := by
  have steps : read? cs = (exponentOf? ((cutSign cs).2.dropWhile isUnmarked)).bind fun exponent =>
      let parts := Text.cut '.' ((cutSign cs).2.takeWhile isUnmarked)
      if (parts.1 ++ parts.2.getD []).isEmpty = false ∧
          (parts.1 ++ parts.2.getD []).all Char.isDigit = true then
        some ⟨(cutSign cs).1, parts.1, parts.2.getD [], exponent⟩
      else none := by
    unfold read?
    dsimp only
    cases (cutSign cs).2.dropWhile isUnmarked <;> rfl
  rw [steps, Option.bind_eq_some_iff]
  simp only [Option.ite_none_right_eq_some, List.isEmpty_eq_false_iff, List.all_eq_true]
  constructor
  · rintro ⟨exponent, hexponent, ⟨ne, digits⟩, ⟨⟩⟩
    exact ⟨_, _, rfl, rfl, rfl, hexponent, ne, digits⟩
  · rintro ⟨unsigned, fraction?, sign, point, fraction, exponent, ne, digits⟩
    rw [sign, point, fraction]
    exact ⟨_, exponent, ⟨ne, digits⟩, rfl⟩

/-- A text that spells a decimal with a point. -/
structure Pointed (n : Written) (cs : List Char) : Prop where
  digits_ne : n.whole ++ n.fraction ≠ []
  digits : ∀ c ∈ n.whole ++ n.fraction, c.isDigit = true
  spelled : ∃ tail, Exponent n.exponent tail ∧
    Signed n.isNegative (n.whole ++ '.' :: n.fraction ++ tail) cs

/-- There is no mark of an exponent in front of it. -/
theorem Pointed.unmarked {n : Written} {cs : List Char} (h : n.Pointed cs) :
    ∀ c ∈ n.whole ++ '.' :: n.fraction, isUnmarked c = true := by
  intro c hc
  rcases List.mem_append.mp hc with whole | hc
  · exact isUnmarked_of_isDigit (h.digits c (List.mem_append_left _ whole))
  · rcases List.mem_cons.mp hc with rfl | fraction
    · decide
    · exact isUnmarked_of_isDigit (h.digits c (List.mem_append_right _ fraction))

/-- **A text with a point is read as the decimal that it spells.** -/
theorem pointed_iff {n : Written} {cs : List Char} :
    n.Pointed cs ↔ read? cs = some n ∧ '.' ∈ cs := by
  rw [read?_eq_some_iff]
  constructor
  · intro h
    obtain ⟨tail, exponent, sign⟩ := h.spelled
    obtain ⟨front, behind⟩ := Text.span_block h.unmarked exponent.stop
    have noPoint : '.' ∉ n.whole := fun hc =>
      absurd (h.digits _ (List.mem_append_left _ hc)) (by decide)
    refine ⟨⟨_, some n.fraction, cutSign_eq_iff.mpr sign, ?_, rfl, ?_, h.digits_ne, h.digits⟩, ?_⟩
    · rw [front, Text.cut_append noPoint]
    · rw [exponentOf?_eq_some_iff, behind]
      exact exponent
    · exact sign.mem_of_mem (by simp)
  · rintro ⟨⟨unsigned, fraction?, sign, cut, fraction, exponent, ne, digits⟩, point⟩
    have sign := cutSign_eq_iff.mp sign
    rw [exponentOf?_eq_some_iff] at exponent
    have whole := Text.append_cut '.' (unsigned.takeWhile isUnmarked)
    rw [cut] at whole
    refine ⟨ne, digits, _, exponent, ?_⟩
    cases fraction? with
    | some fraction' =>
      cases fraction
      change n.whole ++ '.' :: n.fraction = _ at whole
      rw [whole, List.takeWhile_append_dropWhile]
      exact sign
    | none =>
      have front : '.' ∉ unsigned.takeWhile isUnmarked := by
        have parts := Text.not_mem_cut '.' (unsigned.takeWhile isUnmarked)
        rw [cut] at parts
        rw [← whole]
        simpa using parts
      have pointed := sign.mem_rest (by decide) (by decide) point
      rw [← @List.takeWhile_append_dropWhile _ isUnmarked unsigned, List.mem_append] at pointed
      exact absurd (pointed.resolve_left front) exponent.noPoint

end Written

end AnalysisSettings.Decimal
