import AnalysisSettings.Duration.Text
import AnalysisSettings.Proofs.Numeral
import Mathlib.Algebra.GroupWithZero.Nat

/-!
# Durations read back

A duration is written as counts of units, from years to nanoseconds, without those that are zero. Read
one after the other they add up to the duration again (`read?_write`): the units in between divide what
the greater ones leave over (`sum_counts`), and no sum on the way is more than the whole, so none goes
beyond a word (`plus?_of_nanos`).

Everything is counted in nanoseconds here (`Duration.nanos`), of which each duration has its own number
(`eq_of_nanos`).
-/

namespace AnalysisSettings.Duration

/-! ## Nanoseconds -/

/-- A duration in nanoseconds. -/
theorem nanos_eq (t : Duration) :
    t.nanos = 1000000000 * t.seconds.toNat + t.nanoseconds.val := rfl

/-- Durations with the same nanoseconds are the same. -/
theorem eq_of_nanos {t u : Duration} (h : t.nanos = u.nanos) : t = u := by
  obtain ⟨s, n, hn⟩ := t
  obtain ⟨s', n', hn'⟩ := u
  simp only [nanos_eq] at h
  obtain rfl : s = s' := UInt64.toNat_inj.mp (by omega)
  obtain rfl : n = n' := by omega
  rfl

/-- Less than a duration is a duration. -/
theorem exists_nanos_eq {t : Duration} {n : Nat} (h : n ≤ t.nanos) : ∃ u : Duration, u.nanos = n := by
  have fits : n / 1000000000 < 2 ^ 64 := by
    have := t.seconds.toNat_lt
    have := t.nanoseconds.isLt
    rw [nanos_eq] at h
    omega
  refine ⟨⟨UInt64.ofNat (n / 1000000000), ⟨n % 1000000000, Nat.mod_lt _ (by decide)⟩⟩, ?_⟩
  rw [nanos_eq, UInt64.toNat_ofNat_of_lt' fits]
  exact Nat.div_add_mod n 1000000000

/-- A sum that is a duration is found, if the nanoseconds stay within a word on the way. -/
theorem plus?_of_nanos {t u : Duration} {seconds nanos : Nat}
    (sum : t.nanos + (1000000000 * seconds + nanos) = u.nanos)
    (fits : t.nanoseconds + nanos ≤ Numeral.maxWord) : t.plus? seconds nanos = some u := by
  have := u.seconds.toNat_lt
  have := u.nanoseconds.isLt
  have word : Numeral.maxWord = 2 ^ 64 - 1 := rfl
  simp only [nanos_eq] at sum
  have whole : t.seconds.toNat + seconds + (t.nanoseconds.val + nanos) / 1000000000 =
      u.seconds.toNat := by
    omega
  have rest : (t.nanoseconds.val + nanos) % 1000000000 = u.nanoseconds.val := by omega
  rw [plus?, if_pos ⟨by omega, fits⟩, ofParts?, whole, if_pos (by omega)]
  refine congrArg some (eq_of_nanos ?_)
  rw [nanos_eq, nanos_eq, UInt64.ofNat_toNat]
  exact congrArg (1000000000 * u.seconds.toNat + ·) rest

namespace TimeUnit

/-- The nanoseconds of a unit. -/
def inNanos (u : TimeUnit) : Nat :=
  u.nanos?.getD (1000000000 * u.seconds)

/-- The factor of a unit in seconds is not zero. -/
theorem one_le_seconds (u : TimeUnit) : 1 ≤ u.seconds := by
  cases u <;> decide

/-- The factor of a small unit in nanoseconds. -/
theorem nanos?_bounds {u : TimeUnit} {nanos : Nat} (h : u.nanos? = some nanos) :
    1 ≤ nanos ∧ nanos ≤ 1000000 := by
  cases u <;> cases h <;> decide

/-- The names of units are letters, and end what comes before them. -/
theorem letters_of_named {name : String} {u : TimeUnit} (h : named? name = some u) :
    name.toList ≠ [] ∧
      ∀ c ∈ name.toList, isUnitChar c = true ∧ isNumberChar c = false ∧ c ≠ '.' := by
  have all : ∀ u ∈ all, ∀ name ∈ u.names, name.toList ≠ [] ∧
      name.toList.all (fun c => isUnitChar c && !isNumberChar c && c != '.') = true := by
    decide
  rw [named?] at h
  have called := List.find?_some h
  obtain ⟨ne, letters⟩ := all u (List.mem_of_find?_eq_some h) name (List.contains_iff_mem.mp called)
  refine ⟨ne, fun c hc => ?_⟩
  simpa [and_assoc] using List.all_eq_true.mp letters c hc

end TimeUnit

/-! ## Counts -/

/-- A whole number of units, with one of the names of the unit. Of a unit below a second there are less
than a thousand. -/
structure Count where
  number : Nat
  unit : TimeUnit
  name : String
  named : TimeUnit.named? name = some unit
  below : unit.nanos? ≠ none → number < 1000

namespace Count

/-- The nanoseconds that are counted. -/
def nanos (c : Count) : Nat :=
  c.number * c.unit.inNanos

/-- The number in front of the name. -/
def text (c : Count) : List Char :=
  Numeral.write c.number ++ c.name.toList

/-- The count as it is written, if it is not zero. -/
def written (c : Count) : List (List Char) :=
  if c.number = 0 then [] else [c.text]

/-- Counts of units below a second stay below a second. -/
theorem lt_second {c : Count} {nanos : Nat} (h : c.unit.nanos? = some nanos) :
    c.number * nanos < 1000000000 :=
  calc c.number * nanos
      ≤ c.number * 1000000 := Nat.mul_le_mul_left _ (TimeUnit.nanos?_bounds h).2
    _ < 1000 * 1000000 := Nat.mul_lt_mul_of_pos_right (c.below (h ▸ nofun)) (by decide)
    _ = 1000000000 := rfl

/-- A count of units is added if the sum is a duration. -/
theorem plusUnits?_of_nanos {t u : Duration} {c : Count} (sum : t.nanos + c.nanos = u.nanos) :
    t.plusUnits? c.number c.unit = some u := by
  rw [nanos, TimeUnit.inNanos] at sum
  rw [plusUnits?]
  cases h : c.unit.nanos? with
  | some nanos =>
    rw [h, Option.getD_some] at sum
    have := lt_second h
    have := t.nanoseconds.isLt
    have word : Numeral.maxWord = 2 ^ 64 - 1 := rfl
    exact plus?_of_nanos (by omega) (by omega)
  | none =>
    rw [h, Option.getD_none, Nat.mul_left_comm] at sum
    have := t.nanoseconds.isLt
    have word : Numeral.maxWord = 2 ^ 64 - 1 := rfl
    exact plus?_of_nanos (by omega) (by omega)

/-- The number of a count that is part of a duration is one of a word. -/
theorem number_le {u : Duration} {c : Count} (le : c.nanos ≤ u.nanos) :
    c.number ≤ Numeral.maxWord := by
  have word : Numeral.maxWord = 2 ^ 64 - 1 := rfl
  rw [nanos, TimeUnit.inNanos] at le
  cases h : c.unit.nanos? with
  | some nanos =>
    have := Nat.le_mul_of_pos_right c.number ((TimeUnit.nanos?_bounds h).1)
    have := lt_second h
    omega
  | none =>
    rw [h, Option.getD_none, Nat.mul_left_comm, nanos_eq] at le
    have := Nat.le_mul_of_pos_right c.number c.unit.one_le_seconds
    have := u.seconds.toNat_lt
    have := u.nanoseconds.isLt
    omega

/-- What follows a count when it is read: nothing, or a blank and another one. -/
def Ends (rest : List Char) : Prop :=
  rest = [] ∨ ∃ more, rest = ' ' :: more

/-- The name of a unit ends where the text of a duration goes on. -/
theorem Ends.stop {rest : List Char} (ends : Ends rest) :
    ∀ c ∈ rest.head?, isUnitChar c = false := by
  rcases ends with rfl | ⟨more, rfl⟩
  · exact nofun
  · rintro c ⟨⟩
    decide

/-- A count is cut from the text that begins with it. -/
theorem cut_text_append (c : Count) {rest : List Char} (ends : Ends rest) :
    Amount.cut (c.text ++ rest) = ⟨Numeral.write c.number, none, c.name, rest⟩ := by
  obtain ⟨ne, letters⟩ := TimeUnit.letters_of_named c.named
  obtain ⟨letter, others, name⟩ := List.exists_cons_of_ne_nil ne
  obtain ⟨-, notNumber, notPoint⟩ := letters letter (name ▸ List.mem_cons_self)
  have unit := Text.span_block (fun d hd => (letters d hd).1) ends.stop
  have digits : ∀ d ∈ Numeral.write c.number, isNumberChar d = true := fun d hd => by
    rw [isNumberChar, Numeral.isDigit_of_mem_write hd, Bool.true_or]
  have stop : ∀ d ∈ (c.name.toList ++ rest).head?, isNumberChar d = false := by
    rw [name]
    rintro d ⟨⟩
    exact notNumber
  have number := Text.span_block digits stop
  have plain : (Numeral.write c.number).filter Char.isDigit = Numeral.write c.number :=
    List.filter_eq_self.mpr fun d => Numeral.isDigit_of_mem_write
  unfold Amount.cut
  rw [text, List.append_assoc, number.1, number.2, plain]
  split
  · next point =>
    rw [name] at point
    exact absurd (List.cons.inj point).1 notPoint
  · rw [Amount.ofUnit, unit.1, unit.2, String.ofList_toList]

/-- A written count of units is added if the sum is a duration. -/
theorem plusAmount?_of_nanos {t u : Duration} (c : Count) (sum : t.nanos + c.nanos = u.nanos)
    (rest : List Char) :
    t.plusAmount? ⟨Numeral.write c.number, none, c.name, rest⟩ = some u := by
  have fits : decide (c.number ≤ Numeral.maxWord) = true :=
    decide_eq_true (number_le (u := u) (by omega))
  have read : (Numeral.read? (Numeral.write c.number)).filter (· ≤ Numeral.maxWord) =
      some c.number := by
    rw [Numeral.read?_write, Option.filter_some, if_pos fits]
  rw [plusAmount?, read, c.named]
  show (t.plusUnits? c.number c.unit).bind some = some u
  rw [plusUnits?_of_nanos sum, Option.bind_some]

/-- **A count is added** to what was read before it. -/
theorem plusAmounts?_text_append {t u : Duration} (c : Count) {rest : List Char} (ends : Ends rest)
    (sum : t.nanos + c.nanos = u.nanos) : plusAmounts? t (c.text ++ rest) = plusAmounts? u rest := by
  obtain ⟨d, ds, digits⟩ := List.exists_cons_of_ne_nil (Numeral.write_ne_nil c.number)
  have digit : d.isDigit = true :=
    Numeral.isDigit_of_mem_write (n := c.number) (digits ▸ List.mem_cons_self)
  have front : (c.text ++ rest).dropWhile Text.isBlank = c.text ++ rest := by
    rw [text, digits]
    exact List.dropWhile_cons_of_neg (Bool.eq_false_iff.mp (Text.isBlank_of_isDigit digit))
  have first : (c.text ++ rest).head?.any Char.isDigit = true := by
    rw [text, digits]
    exact digit
  have solid : ¬ (c.text ++ rest).isEmpty = true := by
    rw [text, digits]
    exact Bool.false_ne_true
  rw [plusAmounts?, front, if_neg solid, dif_pos first, c.cut_text_append ends,
    c.plusAmount?_of_nanos sum]

/-- A blank between two counts does not matter. -/
theorem plusAmounts?_blank (t : Duration) (cs : List Char) :
    plusAmounts? t (' ' :: cs) = plusAmounts? t cs := by
  have skipped : (' ' :: cs).dropWhile Text.isBlank = cs.dropWhile Text.isBlank :=
    List.dropWhile_cons_of_pos (by decide)
  rw [plusAmounts?, plusAmounts?, skipped]

/-- **Counts that add up to a duration** are read as what they come to. -/
theorem plusAmounts?_join {t u : Duration} {cs : List Count}
    (sum : t.nanos + (cs.map nanos).sum = u.nanos) :
    plusAmounts? t (Text.join ' ' (cs.map text)) = some u := by
  induction cs generalizing t with
  | nil =>
    obtain rfl : t = u := eq_of_nanos sum
    rw [List.map_nil, Text.join, plusAmounts?]
    rfl
  | cons c cs ih =>
    rw [List.map_cons, List.sum_cons, ← Nat.add_assoc] at sum
    obtain ⟨next, hnext⟩ := exists_nanos_eq (t := u) (n := t.nanos + c.nanos) (by omega)
    cases cs with
    | nil =>
      have read := c.plusAmounts?_text_append (.inl rfl) hnext.symm
      rw [List.append_nil] at read
      exact read.trans (ih (by rwa [hnext]))
    | cons d cs =>
      show plusAmounts? t (c.text ++ ' ' :: Text.join ' ' ((d :: cs).map text)) = some u
      rw [c.plusAmounts?_text_append (.inr ⟨_, rfl⟩) hnext.symm, plusAmounts?_blank,
        ih (by rwa [hnext])]

end Count

/-! ## The counts of a duration -/

namespace Count

/-- A count of a unit of a second or above. -/
def whole (n : Nat) (unit : TimeUnit) (name : String) (named : TimeUnit.named? name = some unit)
    (above : unit.nanos? = none) : Count where
  number := n
  unit := unit
  name := name
  named := named
  below := fun below => absurd above below

/-- A count under the name of its unit in full, in the plural from two on. -/
def counted (n : Nat) (unit : TimeUnit) (name : String)
    (named : ∀ name' ∈ [name, name ++ "s"], TimeUnit.named? name' = some unit)
    (above : unit.nanos? = none) : Count :=
  whole n unit (if n ≤ 1 then name else name ++ "s") (named _ (by split <;> simp)) above

/-- A count of less than a thousand. -/
def small (n : Nat) (unit : TimeUnit) (name : String) (named : TimeUnit.named? name = some unit)
    (lt : n < 1000) : Count where
  number := n
  unit := unit
  name := name
  named := named
  below := fun _ => lt

section

variable {n : Nat} {unit : TimeUnit} {name : String}

theorem nanos_whole {named : TimeUnit.named? name = some unit} {above : unit.nanos? = none} :
    (whole n unit name named above).nanos = n * (1000000000 * unit.seconds) := by
  show n * unit.inNanos = _
  rw [TimeUnit.inNanos, above, Option.getD_none]

theorem nanos_counted {named : ∀ name' ∈ [name, name ++ "s"], TimeUnit.named? name' = some unit}
    {above : unit.nanos? = none} :
    (counted n unit name named above).nanos = n * (1000000000 * unit.seconds) :=
  nanos_whole

theorem nanos_small {named : TimeUnit.named? name = some unit} {lt : n < 1000} :
    (small n unit name named lt).nanos = n * unit.inNanos := rfl

end

/-- Without the counts that are not written there are as many nanoseconds. -/
theorem exists_flatMap_written (cs : List Count) :
    ∃ shown : List Count, cs.flatMap written = shown.map text ∧
      (shown.map nanos).sum = (cs.map nanos).sum := by
  induction cs with
  | nil => exact ⟨[], rfl, rfl⟩
  | cons c cs ih =>
    obtain ⟨shown, texts, sum⟩ := ih
    rw [List.flatMap_cons, texts, List.map_cons, List.sum_cons, ← sum, written]
    split
    · next none => exact ⟨shown, rfl, by rw [nanos, none, Nat.zero_mul, Nat.zero_add]⟩
    · exact ⟨c :: shown, rfl, rfl⟩

end Count

/-- From years to nanoseconds. -/
def counts (t : Duration) : List Count :=
  let seconds := t.seconds.toNat
  let inYear := seconds % TimeUnit.year.seconds
  let inMonth := inYear % TimeUnit.month.seconds
  let inDay := inMonth % TimeUnit.day.seconds
  let nanoseconds : Nat := t.nanoseconds
  [.counted (seconds / TimeUnit.year.seconds) .year "year" (by decide) (by decide),
    .counted (inYear / TimeUnit.month.seconds) .month "month" (by decide) (by decide),
    .counted (inMonth / TimeUnit.day.seconds) .day "day" (by decide) (by decide),
    .whole (inDay / 3600) .hour "h" (by decide) (by decide),
    .whole (inDay % 3600 / 60) .minute "m" (by decide) (by decide),
    .whole (inDay % 60) .second "s" (by decide) (by decide),
    .small (nanoseconds / 1000000) .millisecond "ms" (by decide)
      (Nat.div_lt_of_lt_mul t.nanoseconds.isLt),
    .small (nanoseconds / 1000 % 1000) .microsecond "us" (by decide) (Nat.mod_lt _ (by decide)),
    .small (nanoseconds % 1000) .nanosecond "ns" (by decide) (Nat.mod_lt _ (by decide))]

/-- A duration is written as its counts that are not zero. -/
theorem amounts_eq (t : Duration) : t.amounts = t.counts.flatMap Count.written := by
  simp only [counts, List.flatMap_cons, List.flatMap_nil, ← List.append_assoc, List.append_nil]
  rfl

/-- The counts of a duration add up to it. -/
theorem sum_counts (t : Duration) : (t.counts.map Count.nanos).sum = t.nanos := by
  have year : TimeUnit.year.seconds = 31557600 := rfl
  have month : TimeUnit.month.seconds = 2630016 := rfl
  have day : TimeUnit.day.seconds = 86400 := rfl
  have hour : TimeUnit.hour.seconds = 3600 := rfl
  have minute : TimeUnit.minute.seconds = 60 := rfl
  have second : TimeUnit.second.seconds = 1 := rfl
  have millisecond : TimeUnit.millisecond.inNanos = 1000000 := rfl
  have microsecond : TimeUnit.microsecond.inNanos = 1000 := rfl
  have nanosecond : TimeUnit.nanosecond.inNanos = 1 := rfl
  unfold counts
  dsimp only
  -- One rewrite at a time: unfolding all sums at once makes the kernel compare products of this size.
  iterate 9 rw [List.map_cons, List.sum_cons]
  iterate 3 rw [Count.nanos_counted]
  iterate 3 rw [Count.nanos_whole]
  iterate 3 rw [Count.nanos_small]
  rw [List.map_nil, List.sum_nil, nanos_eq, year, month, day, hour, minute, second, millisecond,
    microsecond, nanosecond]
  omega

/-! ## Reading what is written -/

/-- Joined parts begin with the first of them. -/
theorem join_cons_eq_append (sep : Char) (part : List Char) (parts : List (List Char)) :
    ∃ rest, Text.join sep (part :: parts) = part ++ rest := by
  cases parts with
  | nil => exact ⟨[], (List.append_nil part).symm⟩
  | cons next parts => exact ⟨_, rfl⟩

/-- A text that begins with a count is neither blank nor a bare zero. -/
theorem read?_text_append (c : Count) (rest : List Char) :
    read? (String.ofList (c.text ++ rest)) = plusAmounts? zero (c.text ++ rest) := by
  obtain ⟨ne, letters⟩ := TimeUnit.letters_of_named c.named
  obtain ⟨letter, others, name⟩ := List.exists_cons_of_ne_nil ne
  have listed : letter ∈ c.text ++ rest := by
    rw [Count.text, name, List.append_assoc]
    exact List.mem_append_right _ List.mem_cons_self
  have notZero : String.ofList (c.text ++ rest) ≠ "0" := by
    intro zero
    rw [← String.toList_inj, String.toList_ofList] at zero
    rw [zero] at listed
    obtain rfl := List.mem_singleton.mp listed
    exact absurd (letters '0' (name ▸ List.mem_cons_self)).1 (by decide)
  have notBlank : ¬ (c.text ++ rest).all Text.isBlank = true := by
    obtain ⟨d, ds, digits⟩ := List.exists_cons_of_ne_nil (Numeral.write_ne_nil c.number)
    have digit : d.isDigit = true :=
      Numeral.isDigit_of_mem_write (n := c.number) (digits ▸ List.mem_cons_self)
    rw [Count.text, digits, List.cons_append, List.cons_append, List.all_cons,
      Text.isBlank_of_isDigit digit]
    exact Bool.false_ne_true
  rw [read?, if_neg notZero, String.toList_ofList, if_neg notBlank]

/-- **What is written is read back**, to the nanosecond, whatever the duration is. -/
theorem read?_write (t : Duration) : read? t.write = some t := by
  rw [write]
  split
  · next none =>
    rw [none]
    decide +kernel
  · next some =>
    obtain ⟨shown, texts, sum⟩ := Count.exists_flatMap_written t.counts
    rw [sum_counts] at sum
    rw [amounts_eq, texts]
    have read : plusAmounts? zero (Text.join ' ' (shown.map Count.text)) = Option.some t :=
      Count.plusAmounts?_join ((Nat.zero_add _).trans sum)
    cases shown with
    | nil => exact absurd (eq_of_nanos (t := t) (u := zero) sum.symm) some
    | cons c shown =>
      rw [List.map_cons] at read ⊢
      obtain ⟨rest, text⟩ := join_cons_eq_append ' ' c.text (shown.map Count.text)
      rw [text] at read ⊢
      rw [read?_text_append, read]

end AnalysisSettings.Duration
