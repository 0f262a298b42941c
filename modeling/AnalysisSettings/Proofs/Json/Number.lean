import AnalysisSettings.Json.Number
import AnalysisSettings.Proofs.Json.Literal

/-!
# Numbers as they are written

`NumberText.Written` is the grammar of a number: a minus sign or none, a zero or digits that do not
start with one, a point with digits or neither, and an exponent with its mark and sign or none.

`NumberText.read_of_written` says that the reader takes exactly the number that was written, if
nothing follows that could belong to it (`EndsNumber`). Each part of the grammar has one such lemma,
and each of them hands the octets behind its part to the next. `NumberText.written_of_read` is the
converse: the reader takes nothing that is not a written number.
-/

namespace AnalysisSettings.Json

/-! ## The grammar -/

/-- The octets of ASCII characters. -/
def ascii (cs : List Char) : List UInt8 := cs.map Char.toUInt8

@[simp] theorem ascii_nil : ascii [] = [] := rfl

@[simp] theorem ascii_cons (c : Char) (cs : List Char) :
    ascii (c :: cs) = c.toUInt8 :: ascii cs := rfl

/-- The characters are ASCII digits. -/
def AllDigits (cs : List Char) : Prop := ∀ c ∈ cs, c.isDigit = true

instance (cs : List Char) : Decidable (AllDigits cs) :=
  List.decidableBAll _ _

/-- The octets of a fraction: none without digits, else a point and the digits. -/
def fractionOctets : List Char → List UInt8
  | [] => []
  | d :: ds => 0x2E :: ascii (d :: ds)

/-- The octets are an exponent, or nothing where there is none. -/
inductive Exponent.Written : Option (Bool × List Char) → List UInt8 → Prop
  | none : Exponent.Written none []
  | plain {mark : UInt8} {d : Char} {ds : List Char} (marked : mark = 0x65 ∨ mark = 0x45)
      (digits : AllDigits (d :: ds)) :
      Exponent.Written (some (false, d :: ds)) (mark :: ascii (d :: ds))
  | plus {mark : UInt8} {d : Char} {ds : List Char} (marked : mark = 0x65 ∨ mark = 0x45)
      (digits : AllDigits (d :: ds)) :
      Exponent.Written (some (false, d :: ds)) (mark :: 0x2B :: ascii (d :: ds))
  | minus {mark : UInt8} {d : Char} {ds : List Char} (marked : mark = 0x65 ∨ mark = 0x45)
      (digits : AllDigits (d :: ds)) :
      Exponent.Written (some (true, d :: ds)) (mark :: 0x2D :: ascii (d :: ds))

/-- The digits before the point: a zero alone, or digits that start with another one. -/
inductive WholeDigits : List Char → Prop
  | zero : WholeDigits ['0']
  | digits {d : Char} {ds : List Char} (nonzero : d ≠ '0') (digits : AllDigits (d :: ds)) :
      WholeDigits (d :: ds)

/-- The whole digits of a number begin with a digit. -/
theorem WholeDigits.head {cs : List Char} (h : WholeDigits cs) :
    ∃ d ds, cs = d :: ds ∧ d.isDigit = true := by
  cases h with
  | zero => exact ⟨_, _, rfl, rfl⟩
  | @digits d ds _ digits => exact ⟨_, _, rfl, digits d List.mem_cons_self⟩

/-- The octets are the number. -/
inductive NumberText.Written : NumberText → List UInt8 → Prop
  | mk {negative : Bool} {whole fraction : List Char} {exponent : Option (Bool × List Char)}
      {ebs : List UInt8} (wholeDigits : WholeDigits whole) (fractionDigits : AllDigits fraction)
      (exponentOctets : Exponent.Written exponent ebs) :
      NumberText.Written ⟨negative, whole, fraction, exponent⟩
        ((if negative then [0x2D] else []) ++ (ascii whole ++ (fractionOctets fraction ++ ebs)))

/-- No digit stands at the front of the octets. -/
def EndsDigits (bs : List UInt8) : Prop :=
  ∀ b ∈ bs.head?, NumberText.isDigitOctet b = false

/-- Nothing stands at the front of the octets that could go on with a number. -/
def EndsNumber (bs : List UInt8) : Prop :=
  ∀ b ∈ bs.head?, NumberText.isDigitOctet b = false ∧ b ≠ 0x2E ∧ b ≠ 0x65 ∧ b ≠ 0x45

/-- Where a number ends, its digits end. -/
theorem EndsNumber.endsDigits {bs : List UInt8} (h : EndsNumber bs) : EndsDigits bs :=
  fun b hb => (h b hb).1

/-! ## Reading what is written -/

namespace NumberText

/-- A digit is written as one octet, which is no sign. -/
theorem digit_octet {c : Char} (h : c.isDigit = true) :
    isDigitOctet c.toUInt8 = true ∧ Char.ofNat c.toUInt8.toNat = c ∧ c.toUInt8 ≠ 0x2D ∧
      c.toUInt8 ≠ 0x2B ∧ (c ≠ '0' → c.toUInt8 ≠ 0x30) := by
  have all : ∀ n < 58, 48 ≤ n →
      isDigitOctet (Char.ofNat n).toUInt8 = true ∧
        Char.ofNat (Char.ofNat n).toUInt8.toNat = Char.ofNat n ∧
        (Char.ofNat n).toUInt8 ≠ 0x2D ∧ (Char.ofNat n).toUInt8 ≠ 0x2B ∧
        (Char.ofNat n ≠ '0' → (Char.ofNat n).toUInt8 ≠ 0x30) := by
    decide
  have hc : 48 ≤ c.toNat ∧ c.toNat ≤ 57 := Char.isDigit_iff_toNat.mp h
  rw [← c.ofNat_toNat]
  exact all c.toNat (by omega) hc.1

/-- A block of digits is read up to its end. -/
theorem digits_ascii {ds : List Char} {rest : List UInt8} (hds : AllDigits ds)
    (hrest : EndsDigits rest) : digits (ascii ds ++ rest) = (ds, rest) := by
  induction ds with
  | nil =>
    cases rest with
    | nil => rfl
    | cons b rest =>
      rw [ascii_nil, List.nil_append, digits, hrest b rfl]
      rfl
  | cons d ds ih =>
    obtain ⟨hdigit, hchar, -⟩ := digit_octet (hds d List.mem_cons_self)
    rw [ascii_cons, List.cons_append, digits, ih fun c hc => hds c (List.mem_cons_of_mem d hc),
      if_pos hdigit, hchar]

/-- A block with at least one digit is read up to its end. -/
theorem someDigits_ascii {d : Char} {ds : List Char} {rest : List UInt8}
    (hds : AllDigits (d :: ds)) (hrest : EndsDigits rest) (k : List Char → NumberText) :
    someDigits (ascii (d :: ds) ++ rest) k = (.ok (k (d :: ds)), rest) := by
  rw [someDigits, digits_ascii hds hrest]

/-- An exponent is read as it is written. -/
theorem readExponent_of_written {n : NumberText} {exponent : Option (Bool × List Char)}
    {ebs rest : List UInt8} (absent : n.exponent = none) (h : Exponent.Written exponent ebs)
    (hrest : EndsNumber rest) :
    readExponent n (ebs ++ rest) = (.ok { n with exponent := exponent }, rest) := by
  rw [readExponent.eq_def]
  cases h with
  | none =>
    have same : { n with exponent := none } = n := by rw [← absent]
    rw [List.nil_append, same]
    cases rest with
    | nil => rfl
    | cons b rest =>
      obtain ⟨-, -, he, hE⟩ := hrest b rfl
      exact if_neg (not_or.mpr ⟨he, hE⟩)
  | @plain mark d ds marked digits =>
    obtain ⟨-, -, hminus, hplus, -⟩ := digit_octet (digits d List.mem_cons_self)
    have read := someDigits_ascii digits hrest.endsDigits fun ds =>
      { n with exponent := some (false, ds) }
    rw [ascii_cons, List.cons_append] at read
    rw [List.cons_append, ascii_cons, List.cons_append]
    dsimp only
    rw [if_pos marked]
    split
    · next hcons => exact absurd (List.cons.inj hcons).1 hplus
    · next hcons => exact absurd (List.cons.inj hcons).1 hminus
    · exact read
  | plus marked digits =>
    exact (if_pos marked).trans (someDigits_ascii digits hrest.endsDigits fun ds =>
      { n with exponent := some (false, ds) })
  | minus marked digits =>
    exact (if_pos marked).trans (someDigits_ascii digits hrest.endsDigits fun ds =>
      { n with exponent := some (true, ds) })

/-- An exponent, or what follows the number, does not go on with the digits before it. -/
theorem endsDigits_exponent {exponent : Option (Bool × List Char)} {ebs rest : List UInt8}
    (h : Exponent.Written exponent ebs) (hrest : EndsNumber rest) : EndsDigits (ebs ++ rest) := by
  have mark : ∀ {mark : UInt8}, mark = 0x65 ∨ mark = 0x45 → isDigitOctet mark = false := by
    rintro _ (rfl | rfl) <;> rfl
  cases h with
  | none => exact hrest.endsDigits
  | plain marked _ | plus marked _ | minus marked _ =>
    intro b hb
    cases hb
    exact mark marked

/-- A fraction and what follows it are read as they are written. -/
theorem readFraction_of_written {n : NumberText} {fraction : List Char}
    {exponent : Option (Bool × List Char)} {ebs rest : List UInt8} (noFraction : n.fraction = [])
    (noExponent : n.exponent = none) (hfraction : AllDigits fraction)
    (h : Exponent.Written exponent ebs) (hrest : EndsNumber rest) :
    readFraction n (fractionOctets fraction ++ (ebs ++ rest)) =
      (.ok { n with fraction := fraction, exponent := exponent }, rest) := by
  cases fraction with
  | nil =>
    have read := readExponent_of_written noExponent h hrest
    rw [fractionOctets, List.nil_append, readFraction.eq_2, read, ← noFraction]
    intro more hpoint
    cases h with
    | none =>
      cases rest with
      | nil => cases hpoint
      | cons b rest => exact (hrest b rfl).2.1 (List.cons.inj hpoint).1
    | plain marked _ | plus marked _ | minus marked _ =>
      rw [(List.cons.inj hpoint).1] at marked
      revert marked
      decide
  | cons d ds =>
    rw [fractionOctets, List.cons_append, readFraction,
      someDigits_ascii hfraction (endsDigits_exponent h hrest)]
    exact readExponent_of_written noExponent h hrest

/-- The whole digits end in front of a fraction. -/
theorem endsDigits_fraction {fraction : List Char} {rest : List UInt8} (hrest : EndsDigits rest) :
    EndsDigits (fractionOctets fraction ++ rest) := by
  cases fraction with
  | nil => exact hrest
  | cons d ds =>
    intro b hb
    cases hb
    rfl

/-- A zero in front is the only whole digit. -/
theorem readWhole_zero {negative : Bool} {rest : List UInt8} (hrest : EndsDigits rest) :
    readWhole negative (0x30 :: rest) = readFraction ⟨negative, ['0'], [], none⟩ rest := by
  rw [readWhole.eq_def]
  cases rest with
  | nil => rfl
  | cons b rest =>
    have hb : ¬ isDigitOctet b = true := by
      rw [hrest b rfl]
      exact Bool.false_ne_true
    exact if_neg hb

/-- Whole digits that do not begin with a zero are read up to their end. -/
theorem readWhole_digits {negative : Bool} {d : Char} {ds : List Char} {rest : List UInt8}
    (nonzero : d ≠ '0') (hds : AllDigits (d :: ds)) (hrest : EndsDigits rest) :
    readWhole negative (ascii (d :: ds) ++ rest) =
      readFraction ⟨negative, d :: ds, [], none⟩ rest := by
  obtain ⟨-, -, -, -, hzero⟩ := digit_octet (hds d List.mem_cons_self)
  have read := someDigits_ascii hds hrest fun ds => ⟨negative, ds, [], none⟩
  rw [ascii_cons, List.cons_append] at read ⊢
  rw [readWhole.eq_def]
  split
  · next hnil => cases hnil
  · next hcons => exact absurd (List.cons.inj hcons).1 (hzero nonzero)
  · rw [read]

/-- **A number is read as it was written**, where nothing follows that could belong to it. -/
theorem read_of_written {n : NumberText} {bs rest : List UInt8} (h : n.Written bs)
    (hrest : EndsNumber rest) : read (bs ++ rest) = (.ok n, rest) := by
  cases h with
  | @mk negative whole fraction exponent ebs wholeDigits fractionDigits exponentOctets =>
    have behind : EndsDigits (fractionOctets fraction ++ (ebs ++ rest)) :=
      endsDigits_fraction (endsDigits_exponent exponentOctets hrest)
    have tail := readFraction_of_written (n := ⟨negative, whole, [], none⟩) rfl rfl
      fractionDigits exponentOctets hrest
    have front : readWhole negative (ascii whole ++ (fractionOctets fraction ++ (ebs ++ rest))) =
        (.ok ⟨negative, whole, fraction, exponent⟩, rest) := by
      cases wholeDigits with
      | zero => exact (readWhole_zero behind).trans tail
      | digits nonzero digits => exact (readWhole_digits nonzero digits behind).trans tail
    simp only [List.append_assoc]
    cases negative with
    | true => exact front
    | false =>
      obtain ⟨d, ds, rfl, hd⟩ := wholeDigits.head
      obtain ⟨-, -, hminus, -, -⟩ := digit_octet hd
      rw [ascii_cons, List.cons_append] at front
      rw [ascii_cons, List.cons_append, read.eq_def]
      split
      · next hcons => exact absurd (List.cons.inj hcons).1 hminus
      · exact front

/-- A written number starts with a minus sign or a digit. -/
theorem Written.head {n : NumberText} {bs : List UInt8} (h : n.Written bs) :
    ∃ b more, bs = b :: more ∧ (b = 0x2D ∨ isDigitOctet b = true) := by
  cases h with
  | @mk negative whole fraction exponent ebs wholeDigits fractionDigits exponentOctets =>
    cases negative with
    | true => exact ⟨_, _, rfl, .inl rfl⟩
    | false =>
      obtain ⟨d, ds, rfl, hd⟩ := wholeDigits.head
      exact ⟨_, _, rfl, .inr (digit_octet hd).1⟩

end NumberText

/-! ## Writing what is read

The octets are put together again in the order in which the reader took them: what a part of the
reader accepted is written, and the octets behind it are those it handed on. -/

namespace NumberText

variable {n m : NumberText} {octets rest : List UInt8}

/-- A digit octet is the octet of its character, which is an ASCII digit. -/
theorem digit_of_octet {b : UInt8} (h : isDigitOctet b = true) :
    (Char.ofNat b.toNat).isDigit = true ∧ (Char.ofNat b.toNat).toUInt8 = b := by
  rw [isDigitOctet, Bool.and_eq_true, decide_eq_true_iff, decide_eq_true_iff] at h
  have low : 48 ≤ b.toNat := h.1
  have high : b.toNat ≤ 57 := h.2
  refine ⟨?_, (octet_of_ofNat rfl).symm⟩
  rw [Char.isDigit_iff_toNat, toNat_ofNat_octet]
  exact ⟨low, high⟩

/-- What is read as a block of digits is written as these digits. -/
theorem written_digits (octets : List UInt8) :
    AllDigits (digits octets).1 ∧ octets = ascii (digits octets).1 ++ (digits octets).2 := by
  induction octets with
  | nil => exact ⟨List.forall_mem_nil _, rfl⟩
  | cons b octets ih =>
    rw [digits]
    split
    · next hb =>
      obtain ⟨digit, octet⟩ := digit_of_octet hb
      refine ⟨List.forall_mem_cons.mpr ⟨digit, ih.1⟩, ?_⟩
      rw [ascii_cons, octet, List.cons_append, ← ih.2]
    · exact ⟨List.forall_mem_nil _, rfl⟩

/-- What is read as at least one digit is written as these digits. -/
theorem written_someDigits {k : List Char → NumberText} (h : someDigits octets k = (.ok n, rest)) :
    ∃ d ds, AllDigits (d :: ds) ∧ n = k (d :: ds) ∧ octets = ascii (d :: ds) ++ rest := by
  obtain ⟨hdigits, hoctets⟩ := written_digits octets
  rw [someDigits] at h
  generalize digits octets = taken at hdigits hoctets h
  obtain ⟨ds, rest'⟩ := taken
  cases ds with
  | nil => cases rest' <;> cases h
  | cons d ds =>
    cases h
    exact ⟨d, ds, hdigits, rfl, hoctets⟩

/-- What is read as an exponent is written as this exponent. -/
theorem written_readExponent (h : readExponent n octets = (.ok m, rest)) (absent : n.exponent = none) :
    ∃ exponent ebs, Exponent.Written exponent ebs ∧ m = { n with exponent := exponent } ∧
      octets = ebs ++ rest := by
  have same : n = { n with exponent := none } := by rw [← absent]
  rw [readExponent.eq_def] at h
  split at h
  · next mark octets =>
    split at h
    · next marked =>
      split at h
      · obtain ⟨d, ds, hds, rfl, rfl⟩ := written_someDigits h
        exact ⟨_, _, .plus marked hds, rfl, rfl⟩
      · obtain ⟨d, ds, hds, rfl, rfl⟩ := written_someDigits h
        exact ⟨_, _, .minus marked hds, rfl, rfl⟩
      · obtain ⟨d, ds, hds, rfl, rfl⟩ := written_someDigits h
        exact ⟨_, _, .plain marked hds, rfl, rfl⟩
    · cases h
      exact ⟨none, [], .none, same, rfl⟩
  · cases h
    exact ⟨none, [], .none, same, rfl⟩

/-- What is read as a fraction and what follows it is written so. -/
theorem written_readFraction (h : readFraction n octets = (.ok m, rest)) (noFraction : n.fraction = [])
    (noExponent : n.exponent = none) :
    ∃ fraction exponent ebs, AllDigits fraction ∧ Exponent.Written exponent ebs ∧
      m = { n with fraction := fraction, exponent := exponent } ∧
      octets = fractionOctets fraction ++ (ebs ++ rest) := by
  rw [readFraction.eq_def] at h
  split at h
  · split at h
    · next read =>
      obtain ⟨d, ds, hds, rfl, rfl⟩ := written_someDigits read
      obtain ⟨exponent, ebs, hexponent, rfl, rfl⟩ := written_readExponent h noExponent
      exact ⟨d :: ds, exponent, ebs, hds, hexponent, rfl, rfl⟩
    · next broken =>
      exact absurd h (broken m rest)
  · obtain ⟨exponent, ebs, hexponent, rfl, rfl⟩ := written_readExponent h noExponent
    refine ⟨[], exponent, ebs, List.forall_mem_nil _, hexponent, ?_, rfl⟩
    rw [← noFraction]

/-- What is read from the whole digits on is written so. -/
theorem written_readWhole {negative : Bool} (h : readWhole negative octets = (.ok n, rest)) :
    ∃ whole fraction exponent ebs, WholeDigits whole ∧ AllDigits fraction ∧
      Exponent.Written exponent ebs ∧ n = ⟨negative, whole, fraction, exponent⟩ ∧
      octets = ascii whole ++ (fractionOctets fraction ++ (ebs ++ rest)) := by
  have behind : ∀ {whole : List Char} {octets : List UInt8}, WholeDigits whole →
      readFraction ⟨negative, whole, [], none⟩ octets = (.ok n, rest) →
      ∃ whole' fraction exponent ebs, WholeDigits whole' ∧ AllDigits fraction ∧
        Exponent.Written exponent ebs ∧ n = ⟨negative, whole', fraction, exponent⟩ ∧
        ascii whole ++ octets = ascii whole' ++ (fractionOctets fraction ++ (ebs ++ rest)) := by
    intro whole octets hwhole h
    obtain ⟨fraction, exponent, ebs, hfraction, hexponent, rfl, rfl⟩ :=
      written_readFraction h rfl rfl
    exact ⟨whole, fraction, exponent, ebs, hwhole, hfraction, hexponent, rfl, rfl⟩
  rw [readWhole.eq_def] at h
  split at h
  · cases h
  · split at h
    · split at h
      · cases h
      · exact behind .zero h
    · exact behind .zero h
  · next noZero =>
    split at h
    · next read =>
      obtain ⟨d, ds, hds, rfl, rfl⟩ := written_someDigits read
      refine behind (.digits ?_ hds) h
      rintro rfl
      exact noZero _ rfl
    · next broken => exact absurd h (broken n rest)

/-- **What is read as a number is written so.** -/
theorem written_of_read (h : read octets = (.ok n, rest)) :
    ∃ bs, n.Written bs ∧ octets = bs ++ rest := by
  have signed : ∀ {negative : Bool} {octets : List UInt8},
      readWhole negative octets = (.ok n, rest) →
      ∃ bs, n.Written bs ∧ (if negative then [0x2D] else []) ++ octets = bs ++ rest := by
    intro negative octets h
    obtain ⟨whole, fraction, exponent, ebs, hwhole, hfraction, hexponent, rfl, rfl⟩ :=
      written_readWhole h
    refine ⟨_, .mk hwhole hfraction hexponent, ?_⟩
    simp only [List.append_assoc]
  rw [read.eq_def] at h
  split at h
  · exact signed h
  · exact signed h

end NumberText

end AnalysisSettings.Json
