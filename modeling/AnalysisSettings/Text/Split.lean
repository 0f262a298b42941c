/-!
# Splitting a text at a separator

`split` is the inverse of joining with one separator between the parts: no part contains the
separator, and joining gives the text back. `cut` divides a text at the first separator only.
-/

namespace AnalysisSettings.Text

/-- The parts of a text between the separators; a text without a separator is one part. -/
def split (sep : Char) : List Char → List (List Char)
  | [] => [[]]
  | c :: cs =>
    if c = sep then [] :: split sep cs
    else match split sep cs with
      | [] => [[c]]
      | part :: parts => (c :: part) :: parts

/-- The text before the first separator and, if there is one, the text after it. -/
def cut (sep : Char) : List Char → List Char × Option (List Char)
  | [] => ([], none)
  | c :: cs =>
    if c = sep then ([], some cs)
    else ((c :: (cut sep cs).1), (cut sep cs).2)

/-- Parts joined with one separator between neighbours. -/
def join (sep : Char) : List (List Char) → List Char
  | [] => []
  | [part] => part
  | part :: next :: parts => part ++ sep :: join sep (next :: parts)

/-- There is at least one part. -/
theorem split_ne_nil (sep : Char) (cs : List Char) : split sep cs ≠ [] := by
  cases cs with
  | nil => simp [split]
  | cons c cs =>
    rw [split]
    split
    · simp
    · split <;> simp

/-- Joining the parts gives the text back. -/
@[simp] theorem join_split (sep : Char) (cs : List Char) : join sep (split sep cs) = cs := by
  induction cs with
  | nil => rfl
  | cons c cs ih =>
    rw [split]
    split
    · next h =>
      cases hs : split sep cs with
      | nil => exact absurd hs (split_ne_nil sep cs)
      | cons part parts => rw [join, ← hs, ih, h]; rfl
    · cases hs : split sep cs with
      | nil => exact absurd hs (split_ne_nil sep cs)
      | cons part parts =>
        rw [hs] at ih
        cases parts with
        | nil => simpa [join] using ih
        | cons next parts => simpa [join] using ih

/-! ## A part in front -/

/-- The cut is behind a text without the separator. -/
theorem cut_append_left {sep : Char} {before : List Char} (h : sep ∉ before) (after : List Char) :
    cut sep (before ++ after) = (before ++ (cut sep after).1, (cut sep after).2) := by
  induction before with
  | nil => rfl
  | cons c before ih =>
    have hbefore := List.not_mem_of_not_mem_cons h
    rw [List.cons_append, cut, if_neg (List.ne_of_not_mem_cons h).symm, ih hbefore]
    rfl

/-- The first separator is where a text is cut. -/
theorem cut_append {sep : Char} {before : List Char} (h : sep ∉ before) (after : List Char) :
    cut sep (before ++ sep :: after) = (before, some after) := by
  rw [cut_append_left h, cut, if_pos rfl, List.append_nil]

/-- A text without the separator is not cut. -/
theorem cut_of_not_mem {sep : Char} {cs : List Char} (h : sep ∉ cs) : cut sep cs = (cs, none) := by
  induction cs with
  | nil => rfl
  | cons c cs ih =>
    have hcs := List.not_mem_of_not_mem_cons h
    rw [cut, if_neg (List.ne_of_not_mem_cons h).symm, ih hcs]

/-- What was written behind a separator, if anything, is cut off again. -/
theorem cut_append_optional {sep : Char} {before : List Char} (h : sep ∉ before)
    (after : Option (List Char)) :
    cut sep (before ++ (after.map (sep :: ·)).getD []) = (before, after) := by
  cases after with
  | none =>
    show cut sep (before ++ []) = _
    rw [List.append_nil, cut_of_not_mem h]
  | some after => exact cut_append h after

/-- A text without the separator is one part. -/
theorem split_of_not_mem {sep : Char} {part : List Char} (h : sep ∉ part) :
    split sep part = [part] := by
  induction part with
  | nil => rfl
  | cons c part ih =>
    have hpart := List.not_mem_of_not_mem_cons h
    rw [split, if_neg (List.ne_of_not_mem_cons h).symm, ih hpart]

/-- A part in front of a separator. -/
theorem split_append {sep : Char} {part : List Char} (h : sep ∉ part) (rest : List Char) :
    split sep (part ++ sep :: rest) = part :: split sep rest := by
  induction part with
  | nil => simp [split]
  | cons c part ih =>
    have hpart := List.not_mem_of_not_mem_cons h
    rw [List.cons_append, split, if_neg (List.ne_of_not_mem_cons h).symm, ih hpart]

/-- The parts on the two sides of a separator. -/
@[simp] theorem split_append_cons (sep : Char) (before after : List Char) :
    split sep (before ++ sep :: after) = split sep before ++ split sep after := by
  induction before with
  | nil => simp [split]
  | cons c before ih =>
    rw [List.cons_append, split, split, ih]
    split
    · rfl
    · cases hs : split sep before with
      | nil => exact absurd hs (split_ne_nil sep before)
      | cons part parts => rfl

/-- A separator at the end leaves an empty part behind it. -/
theorem split_concat (sep : Char) (cs : List Char) :
    split sep (cs ++ [sep]) = split sep cs ++ [[]] :=
  split_append_cons sep cs []

/-- Splitting what was joined gives the parts back, if none of them has the separator. -/
theorem split_join {sep : Char} {parts : List (List Char)} (ne : parts ≠ [])
    (h : ∀ part ∈ parts, sep ∉ part) : split sep (join sep parts) = parts := by
  induction parts with
  | nil => exact absurd rfl ne
  | cons part parts ih =>
    obtain ⟨hpart, hparts⟩ := List.forall_mem_cons.mp h
    cases parts with
    | nil => exact split_of_not_mem hpart
    | cons next parts => rw [join, split_append hpart, ih (List.cons_ne_nil _ _) hparts]

/-- Joining is writing the separator before each part, but for the first. -/
theorem cons_join (sep : Char) {parts : List (List Char)} (ne : parts ≠ []) :
    sep :: join sep parts = parts.flatMap (sep :: ·) := by
  induction parts with
  | nil => exact absurd rfl ne
  | cons part parts ih =>
    cases parts with
    | nil => simp [join]
    | cons next parts =>
      rw [join, ih (List.cons_ne_nil _ _), List.flatMap_cons]
      rfl

/-- A joined text is made of its parts and the separator. -/
theorem mem_join {sep c : Char} {parts : List (List Char)} (h : c ∈ join sep parts) :
    c = sep ∨ ∃ part ∈ parts, c ∈ part := by
  cases parts with
  | nil => cases h
  | cons part parts =>
    have written := List.mem_cons_of_mem sep h
    rw [cons_join sep (List.cons_ne_nil _ _)] at written
    obtain ⟨part', hpart, hc⟩ := List.mem_flatMap.mp written
    rcases List.mem_cons.mp hc with rfl | hc
    · exact .inl rfl
    · exact .inr ⟨part', hpart, hc⟩

/-- The parts are made of the text. -/
theorem mem_of_mem_split {sep c : Char} {part cs : List Char} (hpart : part ∈ split sep cs)
    (hc : c ∈ part) : c ∈ cs := by
  induction cs generalizing part with
  | nil =>
    rw [split, List.mem_singleton] at hpart
    exact hpart ▸ hc
  | cons d cs ih =>
    rw [split] at hpart
    split at hpart
    · rcases List.mem_cons.mp hpart with rfl | hpart
      · cases hc
      · exact List.mem_cons_of_mem _ (ih hpart hc)
    · cases hs : split sep cs with
      | nil => exact absurd hs (split_ne_nil sep cs)
      | cons first parts =>
        rw [hs] at hpart ih
        rcases List.mem_cons.mp hpart with rfl | hpart
        · rcases List.mem_cons.mp hc with rfl | hc
          · exact List.mem_cons_self
          · exact List.mem_cons_of_mem _ (ih List.mem_cons_self hc)
        · exact List.mem_cons_of_mem _ (ih (List.mem_cons_of_mem _ hpart) hc)

/-- No part has the separator. -/
theorem not_mem_of_mem_split {sep : Char} {part cs : List Char} (h : part ∈ split sep cs) :
    sep ∉ part := by
  induction cs generalizing part with
  | nil =>
    rw [split, List.mem_singleton] at h
    exact h ▸ List.not_mem_nil
  | cons c cs ih =>
    rw [split] at h
    split at h
    · rcases List.mem_cons.mp h with rfl | h
      · exact List.not_mem_nil
      · exact ih h
    · next ne =>
      cases hs : split sep cs with
      | nil => exact absurd hs (split_ne_nil sep cs)
      | cons first parts =>
        rw [hs] at h ih
        rcases List.mem_cons.mp h with rfl | h
        · exact List.not_mem_cons_of_ne_of_not_mem (Ne.symm ne) (ih List.mem_cons_self)
        · exact ih (List.mem_cons_of_mem _ h)

/-! ## The two sides of a cut -/

/-- What stands before the cut does not have the separator. -/
theorem not_mem_cut (sep : Char) (cs : List Char) : sep ∉ (cut sep cs).1 := by
  induction cs with
  | nil => exact List.not_mem_nil
  | cons c cs ih =>
    rw [cut]
    split
    · exact List.not_mem_nil
    · next h => exact List.not_mem_cons_of_ne_of_not_mem (Ne.symm h) ih

/-- The two sides with the separator between them are the text. -/
theorem append_cut (sep : Char) (cs : List Char) :
    (cut sep cs).1 ++ ((cut sep cs).2.map (sep :: ·)).getD [] = cs := by
  induction cs with
  | nil => rfl
  | cons c cs ih =>
    rw [cut]
    split
    · next h => exact h ▸ rfl
    · exact congrArg (c :: ·) ih

/-- What stands before the cut is a part of the text. -/
theorem mem_of_mem_cut {sep c : Char} {cs : List Char} (h : c ∈ (cut sep cs).1) : c ∈ cs := by
  rw [← append_cut sep cs]
  exact List.mem_append_left _ h

/-- So is what stands behind it. -/
theorem mem_of_mem_cut_some {sep c : Char} {cs after : List Char}
    (hafter : (cut sep cs).2 = some after) (h : c ∈ after) : c ∈ cs := by
  rw [← append_cut sep cs, hafter]
  exact List.mem_append_right _ (List.mem_cons_of_mem _ h)

/-! ## Blocks -/

/-- A block of characters of a class ends where the class does. -/
theorem span_block {p : Char → Bool} {block rest : List Char} (all : ∀ c ∈ block, p c = true)
    (stop : ∀ c ∈ rest.head?, p c = false) :
    (block ++ rest).takeWhile p = block ∧ (block ++ rest).dropWhile p = rest := by
  rw [List.takeWhile_append_of_pos all, List.dropWhile_append_of_pos all]
  cases rest with
  | nil => exact ⟨List.append_nil block, rfl⟩
  | cons c rest =>
    have other : ¬ p c = true := Bool.eq_false_iff.mp (stop c rfl)
    rw [List.takeWhile_cons_of_neg other, List.dropWhile_cons_of_neg other, List.append_nil]
    exact ⟨rfl, rfl⟩

/-! ## Commas -/

/-- Texts joined with a comma. -/
def commaJoined (texts : List String) : String :=
  String.ofList (join ',' (texts.map String.toList))

end AnalysisSettings.Text
