import AnalysisSettings.Proofs.FlatKey
import AnalysisSettings.Proofs.Override
import AnalysisSettings.Proofs.Store
import AnalysisSettings.Session
import AnalysisSettings.Transport.Canned
import Mathlib.Algebra.GroupWithZero.Nat

/-!
# A field set is in its flat entries

The entries of a field set say all that the field set says. The list at its key tells how many groups
there are (`split_indexList`), and the entries whose keys begin with `key.number.` are the fields of the
group with that number, no matter what dots and digits are in the names (`fieldOf?_eq_some_iff`). In a
delivery they even stand in the order of the group (`fieldsOf_flatten`).

`fieldSet_recovered` reads a field set back, from the delivery and from a store that holds nothing
else.
-/

namespace AnalysisSettings

/-- A store to which only entries with distinct keys were put has exactly these entries. -/
theorem Store.mem_entries_putAll_empty {es : List Entry} (distinct : (es.map Entry.key).Nodup)
    {e : Entry} : e ∈ (Sink.putAll Store.empty es).entries ↔ e ∈ es := by
  rw [mem_entries_iff]
  constructor
  · intro h
    rw [show Sink.putAll Store.empty es = Store.empty.putAll es from rfl, get?_putAll, get?_empty,
      Option.or_none] at h
    exact Entry.mem_valuesAt.mp (List.mem_of_getLast? h)
  · exact fun he => KeyedSink.get?_putAll_of_mem distinct he Store.empty

namespace Setting.Record

variable {key : String} {groups : List FieldGroup}

/-! ## The list of the groups -/

/-- Cut at its commas, the list has the numbers from one on; the list of no groups is empty. -/
theorem split_indexList (count : Nat) : Text.split ',' (indexList count).toList =
    if count = 0 then [[]] else (List.range' 1 count).map Numeral.write := by
  have list : (indexList count).toList =
      Text.join ',' ((List.range' 1 count).map Numeral.write) := by
    rw [indexList, Text.commaJoined, String.toList_ofList, List.map_map]
    congr 2
    funext number
    exact String.toList_ofList
  rw [list]
  split
  · next none =>
    subst none
    rfl
  · next some =>
    refine Text.split_join ?_ fun part hpart => ?_
    · simpa using some
    · obtain ⟨number, -, rfl⟩ := List.mem_map.mp hpart
      exact Numeral.not_mem_write (by decide) number

/-- The list tells how many groups there are: its parts, but for the empty one. -/
theorem count_indexList (count : Nat) :
    ((Text.split ',' (indexList count).toList).filter (· ≠ [])).length = count := by
  rw [split_indexList]
  split
  · next none => exact none.symm
  · have all : ∀ part ∈ (List.range' 1 count).map Numeral.write, decide (part ≠ []) = true := by
      intro part hpart
      obtain ⟨number, -, rfl⟩ := List.mem_map.mp hpart
      exact decide_eq_true (Numeral.write_ne_nil number)
    rw [List.filter_eq_self.mpr all, List.length_map, List.length_range']

/-- The list of indices shows how many groups there are. -/
theorem indexList_injective {m n : Nat} (h : indexList m = indexList n) : m = n := by
  rw [← count_indexList m, h, count_indexList]

/-! ## The fields of a group -/

/-- What the flat keys of the fields of a group begin with. -/
def groupFront (key : String) (number : Nat) : List Char :=
  key.toList ++ '.' :: (Numeral.write number ++ ['.'])

/-- The field of the group that an entry stands for, if its key begins as those of the group. -/
def fieldOf? (key : String) (number : Nat) (e : Entry) : Option (String × String) :=
  if groupFront key number <+: e.key.toList then
    some (String.ofList (e.key.toList.drop (groupFront key number).length), e.value)
  else none

/-- The key of a field is the front of its group and its name. -/
theorem toList_fieldKey_eq (key : String) (number : Nat) (field : String) :
    (fieldKey key number field).toList = groupFront key number ++ field.toList := by
  rw [toList_fieldKey, groupFront]
  simp

/-- The keys that begin as those of a group are the flat keys of its fields. -/
theorem groupFront_isPrefix_iff {text : String} {number : Nat} :
    groupFront key number <+: text.toList ↔ ∃ field, text = fieldKey key number field := by
  constructor
  · rintro ⟨field, h⟩
    refine ⟨String.ofList field, String.toList_inj.mp ?_⟩
    rw [toList_fieldKey_eq, String.toList_ofList, h]
  · rintro ⟨field, rfl⟩
    exact ⟨field.toList, (toList_fieldKey_eq key number field).symm⟩

/-- An entry is a field of a group if its key begins with the front of the group. -/
theorem fieldOf?_eq_some_iff {number : Nat} {e : Entry} {field : String × String} :
    fieldOf? key number e = some field ↔ e = ⟨fieldKey key number field.1, field.2⟩ := by
  obtain ⟨text, value⟩ := e
  rw [fieldOf?]
  constructor
  · intro h
    split at h
    · next front =>
      obtain ⟨name, rfl⟩ := groupFront_isPrefix_iff.mp front
      cases h
      rw [toList_fieldKey_eq, List.drop_left, String.ofList_toList]
    · cases h
  · intro h
    obtain ⟨rfl, rfl⟩ := Entry.mk.inj h
    rw [if_pos (groupFront_isPrefix_iff.mpr ⟨_, rfl⟩), toList_fieldKey_eq, List.drop_left,
      String.ofList_toList]

/-- An entry of another group, or of the setting itself, stands for no field of the group. -/
theorem fieldOf?_fieldKey {m n : Nat} {field : String × String} (h : m ≠ n) :
    fieldOf? key m ⟨fieldKey key n field.1, field.2⟩ = none := by
  rw [Option.eq_none_iff_forall_ne_some]
  intro other same
  exact h (fieldKey_injective (Entry.mk.inj (fieldOf?_eq_some_iff.mp same)).1.symm).1

/-- The entry with the list of indices is no field. -/
theorem fieldOf?_key (number : Nat) (value : String) : fieldOf? key number ⟨key, value⟩ = none := by
  rw [Option.eq_none_iff_forall_ne_some]
  intro other same
  exact fieldKey_ne _ _ _ (Entry.mk.inj (fieldOf?_eq_some_iff.mp same)).1.symm

/-- The fields of a group among entries, in their order. -/
def fieldsOf (key : String) (number : Nat) (es : List Entry) : List (String × String) :=
  es.filterMap (fieldOf? key number)

/-- The numbers in front of the first group belong to no group. -/
theorem fieldsOf_of_lt {number first : Nat} (h : number < first) (groups : List FieldGroup) :
    fieldsOf key number (groupEntries key first groups) = [] := by
  refine List.filterMap_eq_nil_iff.mpr fun e he => ?_
  obtain ⟨i, g, field, -, -, rfl⟩ := mem_groupEntries.mp he
  exact fieldOf?_fieldKey (by omega)

/-- The fields of one group are recovered from their entries. -/
theorem fieldsOf_map (number : Nat) (fields : List (String × String)) :
    fieldsOf key number (fields.map fun field => ⟨fieldKey key number field.1, field.2⟩) = fields := by
  have each : (fieldOf? key number ∘ fun field : String × String =>
      ⟨fieldKey key number field.1, field.2⟩) = some :=
    funext fun field => fieldOf?_eq_some_iff.mpr rfl
  rw [fieldsOf, List.filterMap_map, each, List.filterMap_some]

/-- They are recovered from the entries of all groups. -/
theorem fieldsOf_groupEntries {first i : Nat} {g : FieldGroup} (hg : groups[i]? = some g) :
    fieldsOf key (first + i) (groupEntries key first groups) = g.fields := by
  induction groups generalizing first i with
  | nil => cases hg
  | cons h gs ih =>
    rw [groupEntries, fieldsOf, List.filterMap_append]
    cases i with
    | zero =>
      cases hg
      have others : fieldsOf key first (groupEntries key (first + 1) gs) = [] :=
        fieldsOf_of_lt (Nat.lt_succ_self first) gs
      exact (congrArg₂ (· ++ ·) (fieldsOf_map first g.fields) others).trans (List.append_nil _)
    | succ i =>
      have own : fieldsOf key (first + (i + 1)) (h.fields.map fun field =>
          ⟨fieldKey key first field.1, field.2⟩) = [] := by
        refine List.filterMap_eq_nil_iff.mpr fun e he => ?_
        obtain ⟨field, -, rfl⟩ := List.mem_map.mp he
        exact fieldOf?_fieldKey (by omega)
      have others : fieldsOf key (first + (i + 1)) (groupEntries key (first + 1) gs) = g.fields := by
        rw [← Nat.add_assoc, Nat.add_right_comm]
        exact ih hg
      exact (congrArg₂ (· ++ ·) own others).trans (List.nil_append _)

/-- **A delivery has the fields of each group**, in their order. -/
theorem fieldsOf_flatten {i : Nat} {g : FieldGroup} (hg : groups[i]? = some g) :
    fieldsOf key (i + 1) (flatten ⟨key, .fieldSet groups⟩) = g.fields := by
  show fieldsOf key (i + 1) (groupEntries key 1 groups ++ [⟨key, indexList groups.length⟩]) = _
  rw [fieldsOf, List.filterMap_append, List.filterMap_cons_none (fieldOf?_key _ _), Nat.add_comm]
  exact (List.append_nil _).trans (fieldsOf_groupEntries hg)

/-- Its entries below the front of a group are the fields of that group, if there is one with the
number. -/
theorem mem_flatten_front_iff {number : Nat} {e : Entry} :
    e ∈ flatten ⟨key, .fieldSet groups⟩ ∧ groupFront key number <+: e.key.toList ↔
      ∃ i g field, number = i + 1 ∧ groups[i]? = some g ∧ field ∈ g.fields ∧
        e = ⟨fieldKey key number field.1, field.2⟩ := by
  show e ∈ groupEntries key 1 groups ++ [_] ∧ _ ↔ _
  rw [List.mem_append, mem_groupEntries, groupFront_isPrefix_iff]
  constructor
  · rintro ⟨⟨i, g, field, hg, hfield, rfl⟩ | he, name, hkey⟩
    · obtain ⟨rfl, -⟩ := fieldKey_injective hkey
      exact ⟨i, g, field, Nat.add_comm 1 i, hg, hfield, rfl⟩
    · rw [List.mem_singleton.mp he] at hkey
      exact absurd hkey.symm (fieldKey_ne _ _ _)
  · rintro ⟨i, g, field, rfl, hg, hfield, rfl⟩
    exact ⟨.inl ⟨i, g, field, hg, hfield, by rw [Nat.add_comm]⟩, field.1, rfl⟩

/-! ## How many entries there are -/

/-- Each field of each group has one entry. -/
theorem length_groupEntries (key : String) (first : Nat) (groups : List FieldGroup) :
    (groupEntries key first groups).length = (groups.map fun g => g.fields.length).sum := by
  induction groups generalizing first with
  | nil => rfl
  | cons g gs ih =>
    rw [groupEntries, List.length_append, List.length_map, ih, List.map_cons, List.sum_cons]

/-- Flattened, there is one entry more, with the list of indices. -/
theorem length_flatten (key : String) (groups : List FieldGroup) :
    (flatten ⟨key, .fieldSet groups⟩).length =
      (groups.map fun g => g.fields.length).sum + 1 := by
  show (groupEntries key 1 groups ++ [_]).length = _
  rw [List.length_append, length_groupEntries]
  rfl

/-- **Field sets with one key and one flattening are equal.** -/
theorem flatten_fieldSet_injective {groups' : List FieldGroup}
    (h : flatten ⟨key, .fieldSet groups'⟩ = flatten ⟨key, .fieldSet groups⟩) : groups' = groups := by
  have list : Entry.mk key (indexList groups'.length) = ⟨key, indexList groups.length⟩ := by
    have last := congrArg List.getLast? h
    simpa only [flatten, List.getLast?_append, List.getLast?_singleton, Option.some_or,
      Option.some.injEq] using last
  have length : groups'.length = groups.length := indexList_injective (Entry.mk.inj list).2
  refine List.ext_getElem length fun i hi' hi => FieldGroup.ext ?_
  calc groups'[i].fields
      = fieldsOf key (i + 1) (flatten ⟨key, .fieldSet groups'⟩) :=
        (fieldsOf_flatten (List.getElem?_eq_getElem hi')).symm
    _ = fieldsOf key (i + 1) (flatten ⟨key, .fieldSet groups⟩) := by rw [h]
    _ = groups[i].fields := fieldsOf_flatten (List.getElem?_eq_getElem hi)

/-- **A field set is recovered** from its flat entries, whatever its key, its groups and the names in
them are. The flat keys are distinct; there are as many as there are fields in all groups, and one
more; and a step that flattens the field set into a sink counts so many. In a sorted store that was
empty before, the value at the key of the field set, cut at its commas, are the numbers of the groups,
and the keys that begin with the key, a dot, a number and a dot are those of the fields of the group
with that number, with their values. In the delivery itself the fields of each group stand in their
order, so a field set with the same key and the same flattening is the same. -/
theorem fieldSet_recovered (key : String) (groups : List FieldGroup) :
    let es := flatten ⟨key, .fieldSet groups⟩
    let count := (groups.map fun g => g.fields.length).sum + 1
    let store := Sink.putAll Store.empty es
    (es.map Entry.key).Nodup ∧ es.length = count ∧
    (∀ {σ τ : Type} (setup : Session.Setup σ τ) (s : Session σ) (name : String) (sink : AnySink),
      s.sinks.lookup name = some sink →
      (s.perform setup (.flatten name ⟨key, .fieldSet groups⟩)).1 =
        .delivered count (Sink.putAll sink es).shown) ∧
    (∃ list, store.get? key = some list ∧ Text.split ',' list.toList =
      if groups = [] then [[]] else (List.range' 1 groups.length).map Numeral.write) ∧
    (∀ number e, e ∈ store.entries ∧ groupFront key number <+: e.key.toList ↔
      ∃ i g field, number = i + 1 ∧ groups[i]? = some g ∧ field ∈ g.fields ∧
        e = ⟨fieldKey key number field.1, field.2⟩) ∧
    (∀ i g, groups[i]? = some g → fieldsOf key (i + 1) es = g.fields) ∧
    ∀ groups', flatten ⟨key, .fieldSet groups'⟩ = es → groups' = groups := by
  intro es count store
  have distinct : (es.map Entry.key).Nodup := nodup_flatten _
  refine ⟨distinct, length_flatten key groups, fun setup s name sink there => ?_,
    ⟨indexList groups.length, ?_, ?_⟩, fun number e => ?_, fun i g hg => fieldsOf_flatten hg,
    fun groups' h => flatten_fieldSet_injective h⟩
  · rw [Session.perform, there]
    exact congrArg (StepResult.delivered · _) (length_flatten key groups)
  · exact KeyedSink.get?_putAll_of_mem distinct mem_flatten_list Store.empty
  · rw [split_indexList]
    simp only [List.length_eq_zero_iff]
  · rw [Store.mem_entries_putAll_empty distinct]
    exact mem_flatten_front_iff

/-! ### Names with dots and digits

The names in the first group look like keys of other groups; the second group has no fields, and the
third a field without a name. -/

namespace Puzzling

def puzzle : List FieldGroup :=
  [⟨[("2.b", "x"), ("10", "y")], by decide⟩, .empty, ⟨[("", "1,2")], by decide⟩]

def setup : Session.Setup Canned Canned.Action :=
  ⟨Canned.transport, Canned.perform, ⟨.json, none⟩, ⟨.json, none⟩⟩

def session : Session Canned :=
  { transport := {}, sinks := [("s", .sorted .empty)] }

theorem fieldSet_recovered_puzzling :
    (session.perform setup (.flatten "s" ⟨"k.1", .fieldSet puzzle⟩)).1 = .delivered 4 (some
      [⟨"k.1", "1,2,3"⟩, ⟨"k.1.1.10", "y"⟩, ⟨"k.1.1.2.b", "x"⟩, ⟨"k.1.3.", "1,2"⟩]) ∧
    fieldsOf "k.1" 1 (flatten ⟨"k.1", .fieldSet puzzle⟩) = [("2.b", "x"), ("10", "y")] := by
  obtain ⟨-, -, counted, -, -, ordered, -⟩ := fieldSet_recovered "k.1" puzzle
  exact ⟨counted setup session "s" _ rfl, ordered 0 _ rfl⟩

end Puzzling

end Setting.Record

end AnalysisSettings
