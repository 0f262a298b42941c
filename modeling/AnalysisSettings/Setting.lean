import AnalysisSettings.Entry
import AnalysisSettings.Numeral
import AnalysisSettings.Text.Split

/-!
# Settings

A setting is a key with one text, a list of texts, or a list of field groups. A server says of
each setting whether it is inherited from the global scope; a setting whose value it gave in no
shape, or in several shapes at once, has no value.

Stores know flat entries only. `Record.flatten` writes a setting as entries: a list is joined with
commas, and the fields of the n-th group get the keys `key.n.field`, followed by an entry at `key`
that lists the group numbers.
-/

namespace AnalysisSettings

/-- Named texts in the order in which their names came first; no name occurs twice. -/
structure FieldGroup where
  fields : List (String × String)
  distinct : (fields.map Prod.fst).Nodup

namespace FieldGroup

/-- A group is its fields. -/
theorem ext {g h : FieldGroup} (e : g.fields = h.fields) : g = h := by
  cases g; cases h; cases e; rfl

instance : DecidableEq FieldGroup := fun g h =>
  if e : g.fields = h.fields then isTrue (ext e) else isFalse fun he => e (congrArg fields he)

instance : Repr FieldGroup := ⟨fun g => reprPrec g.fields⟩

/-- The group without fields. -/
def empty : FieldGroup := ⟨[], .nil⟩

/-- A list of fields in which `name` has the value `value`, in its old place if it has one. -/
def assigned (name value : String) : List (String × String) → List (String × String)
  | [] => [(name, value)]
  | field :: fields =>
    if field.1 = name then (name, value) :: fields else field :: assigned name value fields

/-- A field that is assigned keeps its place, or comes last. -/
theorem map_fst_assigned (name value : String) (fields : List (String × String)) :
    (assigned name value fields).map Prod.fst =
      if name ∈ fields.map Prod.fst then fields.map Prod.fst
      else fields.map Prod.fst ++ [name] := by
  induction fields with
  | nil => simp [assigned]
  | cons field fields ih =>
    rw [assigned]
    split
    · next h => simp [← h]
    · next h =>
      have hne : name ≠ field.1 := fun he => h he.symm
      simp only [List.map_cons, ih, List.mem_cons, hne, false_or]
      split <;> simp

/-- The group with a field set. A name that is there already keeps its place. -/
def insert (g : FieldGroup) (name value : String) : FieldGroup where
  fields := assigned name value g.fields
  distinct := by
    rw [map_fst_assigned]
    split
    · exact g.distinct
    · next h =>
      exact List.nodup_append.mpr ⟨g.distinct, by simp, by
        intro a ha b hb hab
        exact h (List.mem_singleton.mp hb ▸ hab ▸ ha)⟩

/-- The group of the fields, set one after the other. -/
def ofList (fields : List (String × String)) : FieldGroup :=
  fields.foldl (fun g field => g.insert field.1 field.2) empty

/-- A new field comes last. -/
theorem assigned_of_not_mem {name : String} (value : String) {fields : List (String × String)}
    (h : name ∉ fields.map Prod.fst) : assigned name value fields = fields ++ [(name, value)] := by
  induction fields with
  | nil => rfl
  | cons field fields ih =>
    rw [List.map_cons, List.mem_cons, not_or] at h
    rw [assigned, if_neg fun he => h.1 he.symm, ih h.2, List.cons_append]

/-- Fields with different names are inserted in their order. -/
theorem fields_foldl_insert (fields : List (String × String)) (g : FieldGroup)
    (h : ((g.fields ++ fields).map Prod.fst).Nodup) :
    (fields.foldl (fun g field => g.insert field.1 field.2) g).fields = g.fields ++ fields := by
  induction fields generalizing g with
  | nil => exact (List.append_nil _).symm
  | cons field fields ih =>
    have new : field.1 ∉ g.fields.map Prod.fst := by
      rw [List.map_append, List.nodup_append] at h
      exact fun hmem => h.2.2 _ hmem _ List.mem_cons_self rfl
    have grown : (g.insert field.1 field.2).fields = g.fields ++ [field] :=
      assigned_of_not_mem field.2 new
    rw [List.foldl_cons, ih, grown, List.append_assoc, List.singleton_append]
    rwa [grown, List.append_assoc, List.singleton_append]

/-- Distinct fields are kept as they are. -/
theorem ofList_fields (g : FieldGroup) : ofList g.fields = g :=
  ext (fields_foldl_insert g.fields empty g.distinct)

/-- The value of a field. -/
def get? (g : FieldGroup) (name : String) : Option String :=
  g.fields.lookup name

end FieldGroup

namespace Setting

/-- The value of a setting. -/
inductive Value where
  | scalar (text : String)
  | multi (texts : List String)
  | fieldSet (groups : List FieldGroup)
deriving DecidableEq, Repr

/-- A key with its value. -/
structure Record where
  key : String
  value : Value
deriving DecidableEq, Repr

end Setting

/-- A setting as a server tells it. -/
structure Setting where
  key : String
  inherited : Bool
  value : Option Setting.Value
deriving DecidableEq, Repr

namespace Setting

/-- The setting as a record, if it has a value. -/
def record? (s : Setting) : Option Record :=
  s.value.map fun value => ⟨s.key, value⟩

namespace Record

/-- The flat key of a field of the group with the given number. -/
def fieldKey (key : String) (number : Nat) (field : String) : String :=
  key ++ "." ++ String.ofList (Numeral.write number) ++ "." ++ field

/-- The entries of the fields of groups that are numbered from `number`. -/
def groupEntries (key : String) : Nat → List FieldGroup → List Entry
  | _, [] => []
  | number, g :: gs =>
    (g.fields.map fun field => ⟨fieldKey key number field.1, field.2⟩) ++
      groupEntries key (number + 1) gs

/-- The numbers 1 to `count`, joined with commas. -/
def indexList (count : Nat) : String :=
  Text.commaJoined ((List.range' 1 count).map fun n => String.ofList (Numeral.write n))

/-- The entries a record stands for, in the order in which they are delivered. -/
def flatten (r : Record) : List Entry :=
  match r.value with
  | .scalar text => [⟨r.key, text⟩]
  | .multi texts => [⟨r.key, Text.commaJoined texts⟩]
  | .fieldSet groups => groupEntries r.key 1 groups ++ [⟨r.key, indexList groups.length⟩]

end Record

end Setting

end AnalysisSettings
