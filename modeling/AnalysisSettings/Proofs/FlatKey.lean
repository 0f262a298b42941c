import AnalysisSettings.Download
import AnalysisSettings.Proofs.Numeral
import Mathlib.Data.List.Nodup

/-!
# Where flat keys meet

A field set writes the keys `key.number.field`, and keys and fields may contain dots and digits
themselves. So two records can write one flat key although their own keys differ, but only in one
way: the key of one record lies inside the field set of the other (`Record.meets_of_mem_flatten`).

All of it comes from one fact about the separator. A number has no dot, so the first dot behind
`key.` is the one that ends the number: if a text `y.b` is also read as `number.x`, then `y` is the
number, or goes on behind it (`cut_number`).
-/

namespace AnalysisSettings.Setting

/-! ## Numbers and dots -/

/-- A text that starts with a number and a dot, and is divided at any of its dots: the part before
that dot is the number, or has the number and a dot in front. -/
theorem cut_number {number : Nat} {x y b : List Char}
    (h : Numeral.write number ++ '.' :: x = y ++ '.' :: b) :
    (y = Numeral.write number ∧ b = x) ∨ ∃ z, y = Numeral.write number ++ '.' :: z := by
  have plain : '.' ∉ Numeral.write number := Numeral.not_mem_write (by decide) number
  rcases List.append_eq_append_iff.mp h with ⟨more, rfl, tail⟩ | ⟨more, digits, tail⟩
  · cases more with
    | nil =>
      rw [List.nil_append] at tail
      exact .inl ⟨List.append_nil _, (List.cons.inj tail).2.symm⟩
    | cons c more =>
      rw [List.cons_append] at tail
      rw [← (List.cons.inj tail).1]
      exact .inr ⟨more, rfl⟩
  · cases more with
    | nil =>
      rw [List.nil_append] at tail
      rw [List.append_nil] at digits
      exact .inl ⟨digits.symm, (List.cons.inj tail).2⟩
    | cons c more =>
      -- a dot in the middle of the number
      rw [List.cons_append] at tail
      rw [digits, ← (List.cons.inj tail).1] at plain
      exact absurd (List.mem_append_right y List.mem_cons_self) plain

namespace Record

theorem toList_fieldKey (key : String) (number : Nat) (field : String) :
    (fieldKey key number field).toList =
      key.toList ++ '.' :: (Numeral.write number ++ '.' :: field.toList) := by
  simp only [fieldKey, String.toList_append, String.toList_ofList, List.append_assoc]
  rfl

/-- A flat key of a field has one group number and one field name. -/
theorem fieldKey_injective {key : String} {m n : Nat} {f g : String}
    (h : fieldKey key m f = fieldKey key n g) : m = n ∧ f = g := by
  have texts := congrArg String.toList h
  rw [toList_fieldKey, toList_fieldKey] at texts
  have behind := (List.cons.inj (List.append_cancel_left texts)).2
  rcases cut_number behind with ⟨digits, field⟩ | ⟨z, digits⟩
  · exact ⟨(Numeral.write_injective digits).symm, (String.toList_inj.mp field).symm⟩
  · have dot : '.' ∈ Numeral.write n := by
      rw [digits]
      exact List.mem_append_right _ List.mem_cons_self
    exact absurd dot (Numeral.not_mem_write (by decide) n)

/-- The flat key of a field is longer than the key of its setting. -/
theorem fieldKey_ne (key : String) (number : Nat) (field : String) :
    fieldKey key number field ≠ key := by
  intro h
  have length := congrArg (fun text => text.toList.length) h
  simp only [toList_fieldKey, List.length_append, List.length_cons] at length
  omega

/-! ## The entries of one record -/

theorem mem_groupEntries {key : String} {first : Nat} {groups : List FieldGroup} {e : Entry} :
    e ∈ groupEntries key first groups ↔ ∃ i g field, groups[i]? = some g ∧ field ∈ g.fields ∧
      e = ⟨fieldKey key (first + i) field.1, field.2⟩ := by
  induction groups generalizing first with
  | nil => simp [groupEntries]
  | cons g gs ih =>
    rw [groupEntries, List.mem_append, List.mem_map, ih]
    constructor
    · rintro (⟨field, hfield, rfl⟩ | ⟨i, g', field, hg, hfield, rfl⟩)
      · exact ⟨0, g, field, rfl, hfield, rfl⟩
      · refine ⟨i + 1, g', field, hg, hfield, ?_⟩
        rw [Nat.add_right_comm, Nat.add_assoc]
    · rintro ⟨i, g', field, hg, hfield, rfl⟩
      cases i with
      | zero =>
        cases hg
        exact .inl ⟨field, hfield, rfl⟩
      | succ i =>
        refine .inr ⟨i, g', field, hg, hfield, ?_⟩
        rw [Nat.add_right_comm, Nat.add_assoc]

/-- What the key of a flat entry is: the key of the record, or the flat key of a field in one of
its groups, which are numbered from one. -/
theorem key_of_mem_flatten {r : Record} {e : Entry} (h : e ∈ r.flatten) :
    e.key = r.key ∨ ∃ groups number field, r.value = .fieldSet groups ∧ 1 ≤ number ∧
      number ≤ groups.length ∧ e.key = fieldKey r.key number field := by
  rw [flatten] at h
  split at h
  · cases List.mem_singleton.mp h
    exact .inl rfl
  · cases List.mem_singleton.mp h
    exact .inl rfl
  · next groups hvalue =>
    rcases List.mem_append.mp h with h | h
    · obtain ⟨i, g, field, hg, -, rfl⟩ := mem_groupEntries.mp h
      have bound : i < groups.length := (List.getElem?_eq_some_iff.mp hg).1
      exact .inr ⟨groups, 1 + i, field.1, hvalue, by omega, by omega, rfl⟩
    · cases List.mem_singleton.mp h
      exact .inl rfl

theorem nodup_groupEntries (key : String) (first : Nat) (groups : List FieldGroup) :
    ((groupEntries key first groups).map Entry.key).Nodup := by
  induction groups generalizing first with
  | nil => exact .nil
  | cons g gs ih =>
    rw [groupEntries, List.map_append, List.map_map]
    refine List.nodup_append.mpr ⟨?_, ih (first + 1), ?_⟩
    · have names : (g.fields.map (Entry.key ∘ fun field =>
          ⟨fieldKey key first field.1, field.2⟩)) =
            (g.fields.map Prod.fst).map (fieldKey key first) := by
        rw [List.map_map]
        rfl
      rw [names]
      exact g.distinct.map fun _ _ h => (fieldKey_injective h).2
    · -- the groups behind this one have larger numbers
      rintro _ hk _ hk' rfl
      obtain ⟨field, -, hfield⟩ := List.mem_map.mp hk
      obtain ⟨e, he, hkey⟩ := List.mem_map.mp hk'
      obtain ⟨i, g', field', -, -, rfl⟩ := mem_groupEntries.mp he
      have same : fieldKey key first field.1 = fieldKey key (first + 1 + i) field'.1 :=
        hfield.trans hkey.symm
      have numbers := (fieldKey_injective same).1
      omega

/-- **No record writes a flat key twice.** -/
theorem nodup_flatten (r : Record) : (r.flatten.map Entry.key).Nodup := by
  rw [flatten]
  split
  · exact List.nodup_singleton _
  · exact List.nodup_singleton _
  · next groups _ =>
    rw [List.map_append]
    refine List.nodup_append.mpr ⟨nodup_groupEntries _ _ _, List.nodup_singleton _, ?_⟩
    rintro _ hk _ hk' rfl
    obtain ⟨e, he, hkey⟩ := List.mem_map.mp hk
    obtain ⟨i, g, field, -, -, rfl⟩ := mem_groupEntries.mp he
    exact fieldKey_ne _ _ _ (hkey.trans (List.mem_singleton.mp hk'))

/-! ## The entries of two records -/

/-- The key of `inner` lies inside the field set `outer`: it is the key of `outer` followed by a dot
and the number of one of the groups, and then by nothing or by a dot and a text. -/
def Nests (outer inner : Record) : Prop :=
  ∃ groups number, outer.value = .fieldSet groups ∧ 1 ≤ number ∧ number ≤ groups.length ∧
    (inner.key = outer.key ++ "." ++ String.ofList (Numeral.write number) ∨
      ∃ text, inner.key = fieldKey outer.key number text)

/-- The records have the same key, or the key of one lies inside the field set of the other. -/
def Meets (r r' : Record) : Prop :=
  r.key = r'.key ∨ r.Nests r' ∨ r'.Nests r

/-- A key that lies inside a field set begins with the key of the field set and a dot. -/
theorem Nests.isPrefix {outer inner : Record} (h : outer.Nests inner) :
    outer.key.toList ++ ['.'] <+: inner.key.toList := by
  obtain ⟨groups, number, -, -, -, hkey | ⟨text, hkey⟩⟩ := h
  · refine ⟨Numeral.write number, ?_⟩
    simp only [hkey, String.toList_append, String.toList_ofList, List.append_assoc]
    rfl
  · refine ⟨Numeral.write number ++ '.' :: text.toList, ?_⟩
    rw [hkey, toList_fieldKey, List.append_assoc, List.singleton_append]

/-- One flat key of fields of two settings, where the key of the second setting is no shorter: it
is the same, or it goes on with the number of the group. -/
theorem nested_of_fieldKey_eq {key more : List Char} {m n : Nat} {f g : List Char}
    (h : key ++ '.' :: (Numeral.write m ++ '.' :: f) =
      (key ++ more) ++ '.' :: (Numeral.write n ++ '.' :: g)) :
    more = [] ∨ more = '.' :: Numeral.write m ∨ ∃ z, more = '.' :: (Numeral.write m ++ '.' :: z) := by
  rw [List.append_assoc] at h
  have behind := List.append_cancel_left h
  cases more with
  | nil => exact .inl rfl
  | cons c more =>
    obtain ⟨rfl, inside⟩ := List.cons.inj behind
    rcases cut_number inside with ⟨rfl, -⟩ | ⟨z, rfl⟩
    · exact .inr (.inl rfl)
    · exact .inr (.inr ⟨z, rfl⟩)

theorem nests_of_fieldKey_eq {r r' : Record} {groups : List FieldGroup} {m n : Nat} {f g : String}
    {more : List Char} (value : r.value = .fieldSet groups) (low : 1 ≤ m)
    (high : m ≤ groups.length) (longer : r'.key.toList = r.key.toList ++ more)
    (same : fieldKey r.key m f = fieldKey r'.key n g) : r.key = r'.key ∨ r.Nests r' := by
  have texts := congrArg String.toList same
  rw [toList_fieldKey, toList_fieldKey, longer] at texts
  rcases nested_of_fieldKey_eq texts with rfl | rfl | ⟨z, rfl⟩
  · rw [List.append_nil] at longer
    exact .inl (String.toList_inj.mp longer.symm)
  · refine .inr ⟨groups, m, value, low, high, .inl (String.toList_inj.mp ?_)⟩
    simp only [longer, String.toList_append, String.toList_ofList, List.append_assoc]
    rfl
  · refine .inr ⟨groups, m, value, low, high, .inr ⟨String.ofList z, String.toList_inj.mp ?_⟩⟩
    rw [toList_fieldKey, longer, String.toList_ofList]

/-- **Two records that write one flat key** meet. -/
theorem meets_of_mem_flatten {r r' : Record} {e f : Entry} (he : e ∈ r.flatten)
    (hf : f ∈ r'.flatten) (same : e.key = f.key) : r.Meets r' := by
  rcases key_of_mem_flatten he with hk | ⟨groups, m, name, hv, low, high, hk⟩ <;>
    rcases key_of_mem_flatten hf with hk' | ⟨groups', n, name', hv', low', high', hk'⟩ <;>
    rw [hk, hk'] at same
  · exact .inl same
  · exact .inr (.inr ⟨groups', n, hv', low', high', .inr ⟨name', same⟩⟩)
  · exact .inr (.inl ⟨groups, m, hv, low, high, .inr ⟨name, same.symm⟩⟩)
  · -- one of the two keys begins with the other
    have texts := congrArg String.toList same
    rw [toList_fieldKey, toList_fieldKey] at texts
    rcases List.append_eq_append_iff.mp texts with ⟨more, longer, -⟩ | ⟨more, longer, -⟩
    · exact (nests_of_fieldKey_eq hv low high longer same).imp_right .inl
    · exact (nests_of_fieldKey_eq hv' low' high' longer same.symm).imp Eq.symm .inr

end Record

end AnalysisSettings.Setting
