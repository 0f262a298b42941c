/-!
# Blank characters

The white space that surrounds a version text or a configuration value: the 25 characters with the
`White_Space` property. `trim` removes them at both ends and nowhere else.
-/

namespace AnalysisSettings.Text

/-- The characters with the `White_Space` property. -/
def isBlank (c : Char) : Bool :=
  let n := c.toNat
  (0x09 ≤ n && n ≤ 0x0D) || n == 0x20 || n == 0x85 || n == 0xA0 || n == 0x1680 ||
  (0x2000 ≤ n && n ≤ 0x200A) || n == 0x2028 || n == 0x2029 || n == 0x202F || n == 0x205F ||
  n == 0x3000

/-- A digit is not blank. -/
theorem isBlank_of_isDigit {c : Char} (h : c.isDigit = true) : isBlank c = false := by
  have range : 48 ≤ c.toNat ∧ c.toNat ≤ 57 := Char.isDigit_iff_toNat.mp h
  simp only [isBlank, Bool.or_eq_false_iff, Bool.and_eq_false_iff, decide_eq_false_iff_not,
    beq_eq_false_iff_ne]
  omega

/-- A list without its longest tail of characters in the class `p`. -/
def dropEndWhile (p : Char → Bool) (cs : List Char) : List Char :=
  (cs.reverse.dropWhile p).reverse

/-- A character outside the class ends the tail. -/
theorem dropEndWhile_append_cons {p : Char → Bool} {c : Char} (h : p c = false)
    (before after : List Char) :
    dropEndWhile p (before ++ c :: after) = before ++ c :: dropEndWhile p after := by
  have stop : ¬ p c = true := Bool.eq_false_iff.mp h
  unfold dropEndWhile
  rw [List.reverse_append, List.reverse_cons, List.append_assoc, List.dropWhile_append]
  split
  · next none =>
    rw [List.isEmpty_iff.mp none, List.singleton_append, List.dropWhile_cons_of_neg stop]
    simp
  · simp

/-- A tail in the class is dropped. -/
theorem dropEndWhile_append_of_all {p : Char → Bool} {tail : List Char}
    (h : ∀ c ∈ tail, p c = true) (cs : List Char) :
    dropEndWhile p (cs ++ tail) = dropEndWhile p cs := by
  unfold dropEndWhile
  rw [List.reverse_append, List.dropWhile_append_of_pos fun c hc => h c (List.mem_reverse.mp hc)]

/-- What is dropped is a tail in the class. -/
theorem exists_dropEndWhile (p : Char → Bool) (cs : List Char) :
    ∃ tail, cs = dropEndWhile p cs ++ tail ∧ ∀ c ∈ tail, p c = true := by
  refine ⟨(cs.reverse.takeWhile p).reverse, ?_, fun c hc => ?_⟩
  · rw [dropEndWhile, ← List.reverse_append, List.takeWhile_append_dropWhile, List.reverse_reverse]
  · exact List.all_eq_true.mp List.all_takeWhile c (List.mem_reverse.mp hc)

/-- Nothing is left to drop. -/
theorem dropEndWhile_dropEndWhile (p : Char → Bool) (cs : List Char) :
    dropEndWhile p (dropEndWhile p cs) = dropEndWhile p cs := by
  obtain ⟨tail, hcs, all⟩ := exists_dropEndWhile p cs
  rw [← dropEndWhile_append_of_all all, ← hcs]

/-- A text without the blanks at its two ends. -/
def trim (cs : List Char) : List Char :=
  dropEndWhile isBlank (cs.dropWhile isBlank)

/-- What is trimmed are blanks at the two ends. -/
theorem exists_trim (cs : List Char) :
    ∃ before after, cs = before ++ (trim cs ++ after) ∧ (∀ c ∈ before, isBlank c = true) ∧
      ∀ c ∈ after, isBlank c = true := by
  obtain ⟨after, hcs, blank⟩ := exists_dropEndWhile isBlank (cs.dropWhile isBlank)
  refine ⟨cs.takeWhile isBlank, after, ?_, List.all_eq_true.mp List.all_takeWhile, blank⟩
  rw [trim, ← hcs, List.takeWhile_append_dropWhile]

/-- The blanks around a text without blanks, and those at the end of what follows it. -/
theorem trim_append {before core after : List Char} (blank : ∀ c ∈ before, isBlank c = true)
    (ne : core ≠ []) (solid : ∀ c ∈ core, isBlank c = false) :
    trim (before ++ (core ++ after)) = core ++ dropEndWhile isBlank after := by
  have first : (core ++ after).dropWhile isBlank = core ++ after := by
    cases core with
    | nil => exact absurd rfl ne
    | cons c core =>
      exact List.dropWhile_cons_of_neg (Bool.eq_false_iff.mp (solid c List.mem_cons_self))
  obtain ⟨front, last, rfl⟩ : ∃ front last, core = front ++ [last] :=
    ⟨_, _, (List.dropLast_concat_getLast ne).symm⟩
  have lastSolid : isBlank last = false :=
    solid last (List.mem_append_right _ List.mem_cons_self)
  rw [trim, List.dropWhile_append_of_pos blank, first, List.append_assoc, List.singleton_append,
    dropEndWhile_append_cons lastSolid, List.append_assoc]
  rfl

/-- There is nothing to trim in a text without blanks. -/
theorem trim_of_solid {cs : List Char} (solid : ∀ c ∈ cs, isBlank c = false) : trim cs = cs := by
  cases cs with
  | nil => rfl
  | cons c cs =>
    have trimmed : trim ([] ++ (c :: cs ++ [])) = c :: cs ++ dropEndWhile isBlank [] :=
      trim_append (fun _ h => absurd h List.not_mem_nil) (List.cons_ne_nil c cs) solid
    rwa [List.nil_append, List.append_nil, dropEndWhile, List.reverse_nil, List.dropWhile_nil,
      List.reverse_nil, List.append_nil] at trimmed

end AnalysisSettings.Text
