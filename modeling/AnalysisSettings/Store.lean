import AnalysisSettings.Entry

/-!
# Stores

A store keeps one value for each key and lists its entries in ascending order of their keys. The
view of a store is `Store.get?`: putting an entry changes the value of its key and of no other
(`get?_put`), so of several values put for one key the last one stays.
-/

namespace AnalysisSettings

/-- Entries with distinct keys, in ascending order of the keys. -/
structure Store where
  entries : List Entry
  ascending : entries.Pairwise fun a b => a.key < b.key

namespace Store

/-- The store without entries. -/
def empty : Store := ⟨[], .nil⟩

instance : EmptyCollection Store := ⟨empty⟩

instance : Inhabited Store := ⟨empty⟩

/-- A store is its entries. -/
theorem ext {s t : Store} (h : s.entries = t.entries) : s = t := by
  cases s; cases t; cases h; rfl

instance : DecidableEq Store := fun s t =>
  if h : s.entries = t.entries then isTrue (ext h) else isFalse fun e => h (congrArg entries e)

/-- The value of a key. -/
def get? (s : Store) (key : String) : Option String :=
  (s.entries.find? fun e => e.key == key).map Entry.value

/-- The key has a value. -/
def contains (s : Store) (key : String) : Bool :=
  s.entries.any fun e => e.key == key

/-- The number of keys. -/
def size (s : Store) : Nat :=
  s.entries.length

/-- There are no keys. -/
def isEmpty (s : Store) : Bool :=
  s.entries.isEmpty

/-! ## Putting an entry -/

/-- An ascending list with an entry put in its place, instead of the one with the same key. -/
def placed (e : Entry) : List Entry → List Entry
  | [] => [e]
  | x :: xs =>
    if e.key < x.key then e :: x :: xs
    else if e.key = x.key then e :: xs
    else x :: placed e xs

/-- Of two different texts one is less. -/
theorem lt_of_not_lt_of_ne {a b : String} (h : ¬ a < b) (hne : a ≠ b) : b < a :=
  Decidable.byContradiction fun hn =>
    hne (String.le_antisymm (String.not_lt.mp hn) (String.not_lt.mp h))

/-- Placing an entry adds nothing else. -/
theorem mem_placed {e x : Entry} {xs : List Entry} (h : x ∈ placed e xs) : x = e ∨ x ∈ xs := by
  induction xs with
  | nil => exact .inl (List.mem_singleton.mp h)
  | cons y ys ih =>
    rw [placed] at h
    split at h
    · exact (List.mem_cons.mp h).imp_right id
    · split at h
      · exact (List.mem_cons.mp h).imp_right (List.mem_cons_of_mem y)
      · rcases List.mem_cons.mp h with h | h
        · exact .inr (h ▸ List.mem_cons_self)
        · exact (ih h).imp_right (List.mem_cons_of_mem y)

/-- Placing an entry keeps the order. -/
theorem ascending_placed (e : Entry) {xs : List Entry}
    (h : xs.Pairwise fun a b => a.key < b.key) :
    (placed e xs).Pairwise fun a b => a.key < b.key := by
  induction xs with
  | nil => simp [placed]
  | cons x xs ih =>
    obtain ⟨hx, hxs⟩ := List.pairwise_cons.mp h
    rw [placed]
    split
    · next hlt =>
      refine List.pairwise_cons.mpr ⟨fun y hy => ?_, h⟩
      rcases List.mem_cons.mp hy with rfl | hy
      · exact hlt
      · exact String.lt_trans hlt (hx y hy)
    · next hnlt =>
      split
      · next heq => exact List.pairwise_cons.mpr ⟨fun y hy => heq ▸ hx y hy, hxs⟩
      · next hne =>
        refine List.pairwise_cons.mpr ⟨fun y hy => ?_, ih hxs⟩
        rcases mem_placed hy with rfl | hy
        · exact lt_of_not_lt_of_ne hnlt hne
        · exact hx y hy

/-- The store in which the key of the entry has the entry's value. -/
def put (s : Store) (e : Entry) : Store :=
  ⟨placed e s.entries, ascending_placed e s.ascending⟩

/-- The entries put one after the other. -/
def putAll (s : Store) (es : List Entry) : Store :=
  es.foldl put s

/-- The store of the entries; a key has the value that comes last. -/
def ofList (es : List Entry) : Store :=
  empty.putAll es

/-! ## The view -/

@[simp] theorem get?_empty (key : String) : empty.get? key = none := rfl

private theorem find?_placed (e : Entry) (key : String) {xs : List Entry}
    (h : xs.Pairwise fun a b => a.key < b.key) :
    (placed e xs).find? (fun x => x.key == key) =
      if e.key = key then some e else xs.find? fun x => x.key == key := by
  induction xs with
  | nil => by_cases hk : e.key = key <;> simp [placed, hk]
  | cons x xs ih =>
    obtain ⟨hx, hxs⟩ := List.pairwise_cons.mp h
    rw [placed]
    split
    · by_cases hk : e.key = key <;> simp [List.find?_cons, hk]
    · split
      · next heq =>
        by_cases hk : e.key = key
        · simp [hk]
        · have hxk : x.key ≠ key := heq ▸ hk
          simp [hk, hxk]
      · next hne =>
        by_cases hxk : x.key = key
        · have hk : e.key ≠ key := fun he => hne (he.trans hxk.symm)
          simp [hxk, hk]
        · simpa [List.find?_cons, hxk] using ih hxs

/-- Putting an entry changes the value of its key and of no other. -/
theorem get?_put (s : Store) (e : Entry) (key : String) :
    (s.put e).get? key = if e.key = key then some e.value else s.get? key := by
  unfold get? put
  rw [find?_placed e key s.ascending]
  split <;> rfl

/-- A key is in the store exactly if it has a value. -/
theorem contains_eq_isSome_get? (s : Store) (key : String) :
    s.contains key = (s.get? key).isSome := by
  simp [contains, get?, List.isSome_find?]

end Store

end AnalysisSettings
