import AnalysisSettings.Sink
import Mathlib.Data.List.Sort

/-!
# Sinks as functions of their last entries

Two facts carry every statement about what a sink holds. After a list of entries is put, a key has
the value that the list gives it last, or the value it had before; that is so for every sink that
looks keys up and keeps the last value of each (`KeyedSink.get?_putAll`). And a sorted store is
determined by its view: two stores that answer every key alike are equal (`Store.eq_of_get?`),
because their entries ascend.

`Entry.valuesAt` is the vocabulary of both: the values that a list of entries gives to one key, in
the order of the list. Where no key is given twice, the order does not matter
(`Entry.valuesAt_perm`).
-/

namespace AnalysisSettings

namespace Entry

/-- The values that entries give to a key, in their order. -/
def valuesAt (key : String) (es : List Entry) : List String :=
  (es.filter fun e => e.key == key).map Entry.value

@[simp] theorem valuesAt_nil (key : String) : valuesAt key [] = [] := rfl

/-- An entry in front gives its value to its key. -/
@[simp] theorem valuesAt_cons (key : String) (e : Entry) (es : List Entry) :
    valuesAt key (e :: es) = if e.key = key then e.value :: valuesAt key es else valuesAt key es := by
  by_cases h : e.key = key <;> simp [valuesAt, h]

/-- The values of entries one behind the other. -/
@[simp] theorem valuesAt_append (key : String) (es fs : List Entry) :
    valuesAt key (es ++ fs) = valuesAt key es ++ valuesAt key fs := by
  simp only [valuesAt, List.filter_append, List.map_append]

/-- The values of a key are those of its entries. -/
theorem mem_valuesAt {key value : String} {es : List Entry} :
    value ∈ valuesAt key es ↔ ⟨key, value⟩ ∈ es := by
  simp only [valuesAt, List.mem_map, List.mem_filter, beq_iff_eq]
  constructor
  · rintro ⟨e, ⟨he, rfl⟩, rfl⟩
    exact he
  · exact fun h => ⟨_, ⟨h, rfl⟩, rfl⟩

/-- A key that no entry has is given no value. -/
theorem valuesAt_eq_nil {key : String} {es : List Entry} (h : ∀ e ∈ es, e.key ≠ key) :
    valuesAt key es = [] :=
  List.eq_nil_iff_forall_not_mem.mpr fun _ hv => h _ (mem_valuesAt.mp hv) rfl

/-- Where the keys are distinct, the key of an entry has the value of that entry alone. -/
theorem valuesAt_of_mem {es : List Entry} (distinct : (es.map Entry.key).Nodup) {e : Entry}
    (he : e ∈ es) : valuesAt e.key es = [e.value] := by
  induction es with
  | nil => cases he
  | cons x es ih =>
    obtain ⟨hx, hes⟩ := List.nodup_cons.mp distinct
    rcases List.mem_cons.mp he with rfl | he
    · simp [valuesAt_eq_nil fun y hy hk => hx (List.mem_map.mpr ⟨y, hy, hk⟩)]
    · have other : x.key ≠ e.key := fun hk => hx (List.mem_map.mpr ⟨e, he, hk.symm⟩)
      simp [other, ih hes he]

/-- Where the keys are distinct, the order of the entries does not matter. -/
theorem valuesAt_perm {es fs : List Entry} (distinct : (es.map Entry.key).Nodup)
    (perm : es.Perm fs) (key : String) : valuesAt key es = valuesAt key fs := by
  have distinct' : (fs.map Entry.key).Nodup := (perm.map Entry.key).nodup distinct
  by_cases h : ∃ e ∈ es, e.key = key
  · obtain ⟨e, he, rfl⟩ := h
    rw [valuesAt_of_mem distinct he, valuesAt_of_mem distinct' (perm.mem_iff.mp he)]
  · have absent : ∀ e ∈ es, e.key ≠ key := fun e he hk => h ⟨e, he, hk⟩
    rw [valuesAt_eq_nil absent, valuesAt_eq_nil fun f hf => absent f (perm.mem_iff.mpr hf)]

end Entry

/-! ## Sinks with keys -/

/-- A sink that looks keys up: putting an entry changes the value of its key and of no other. -/
class KeyedSink (σ : Type) extends Sink σ where
  /-- The value of a key. -/
  get? : σ → String → Option String
  get?_put : ∀ (sink : σ) (e : Entry) (key : String),
    get? (put sink e) key = if e.key = key then some e.value else get? sink key

namespace KeyedSink

variable {σ : Type} [KeyedSink σ]

/-- After entries are put, a key has the value given to it last, or the one it had before. -/
@[simp] theorem get?_putAll (sink : σ) (es : List Entry) (key : String) :
    get? (Sink.putAll sink es) key = (Entry.valuesAt key es).getLast?.or (get? sink key) := by
  induction es generalizing sink with
  | nil => rfl
  | cons e es ih =>
    show get? (Sink.putAll (Sink.put sink e) es) key = _
    rw [ih, get?_put, Entry.valuesAt_cons]
    split
    · rw [List.getLast?_cons]
      cases (Entry.valuesAt key es).getLast? <;> rfl
    · rfl

/-- Entries with distinct keys can be read back. -/
theorem get?_putAll_of_mem {es : List Entry} (distinct : (es.map Entry.key).Nodup) {e : Entry}
    (he : e ∈ es) (sink : σ) : get? (Sink.putAll sink es) e.key = some e.value := by
  simp [Entry.valuesAt_of_mem distinct he]

/-- Entries with distinct keys can be put in any order. -/
theorem get?_putAll_perm {es fs : List Entry} (distinct : (es.map Entry.key).Nodup)
    (perm : es.Perm fs) (sink : σ) (key : String) :
    get? (Sink.putAll sink es) key = get? (Sink.putAll sink fs) key := by
  rw [get?_putAll, get?_putAll, Entry.valuesAt_perm distinct perm]

end KeyedSink

instance : KeyedSink Store where
  get? := Store.get?
  get?_put := Store.get?_put

instance : KeyedSink Snapshot.Builder where
  get? b := b.store.get?
  get?_put b := b.store.get?_put

instance : KeyedSink ProjectSettings.Builder where
  get? b := b.store.get?
  get?_put b := b.store.get?_put

instance : KeyedSink HashStore where
  get? m key := m[key]?
  get?_put m e key := by
    show (m.insert e.key e.value)[key]? = _
    rw [Std.HashMap.getElem?_insert]
    simp only [beq_iff_eq]

namespace Store

/-- The last value put under a key is found, and the old one if none is put. -/
@[simp] theorem get?_putAll (s : Store) (es : List Entry) (key : String) :
    (s.putAll es).get? key = (Entry.valuesAt key es).getLast?.or (s.get? key) :=
  KeyedSink.get?_putAll s es key

/-- A store has each key once. -/
theorem distinct_keys (s : Store) : (s.entries.map Entry.key).Nodup :=
  List.pairwise_map.mpr (s.ascending.imp fun h => String.ne_of_lt h)

/-- A store has at most one value for a key. -/
theorem get?_eq_head? (s : Store) (key : String) :
    s.get? key = (Entry.valuesAt key s.entries).head? := by
  rw [get?, Entry.valuesAt, List.head?_map, List.head?_filter]

/-- An entry is in a store exactly if its key has its value. -/
theorem mem_entries_iff {s : Store} {e : Entry} :
    e ∈ s.entries ↔ s.get? e.key = some e.value := by
  rw [get?_eq_head?]
  constructor
  · intro he
    rw [Entry.valuesAt_of_mem s.distinct_keys he, List.head?_cons]
  · intro h
    exact Entry.mem_valuesAt.mp (List.mem_of_head? h)

/-- Two stores that give every key the same value are equal. -/
theorem eq_of_get? {s t : Store} (h : ∀ key, s.get? key = t.get? key) : s = t := by
  have irrefl : Std.Irrefl fun a b : Entry => a.key < b.key := ⟨fun a => String.lt_irrefl a.key⟩
  have antisymm : Std.Antisymm fun a b : Entry => a.key < b.key :=
    ⟨fun a b hab hba => absurd hba (String.lt_asymm hab)⟩
  refine ext (s.ascending.eq_of_mem_iff t.ascending fun e => ?_)
  rw [mem_entries_iff, mem_entries_iff, h]

end Store

/-! ## The builder of a project's settings -/

namespace ProjectSettings

/-- The settings of a project to which only the entries were delivered. -/
def ofEntries (project : String) (es : List Entry) : ProjectSettings :=
  (Sink.putAll (⟨project, .empty⟩ : Builder) es).build

/-- Putting into a builder is putting into its store. -/
theorem Builder.putAll_store (b : Builder) (es : List Entry) :
    Sink.putAll b es = ⟨b.projectKey, b.store.putAll es⟩ := by
  induction es generalizing b with
  | nil => rfl
  | cons e es ih => exact ih (b.put e)

/-- The settings of a project are the store of their entries. -/
@[simp] theorem ofEntries_store (project : String) (es : List Entry) :
    (ofEntries project es).store = Store.ofList es := by
  rw [ofEntries, Builder.putAll_store]
  rfl

/-- The project's own value of a key is the one delivered last. -/
@[simp] theorem get?_ofEntries (project : String) (es : List Entry) (key : String) :
    (ofEntries project es).get? key = (Entry.valuesAt key es).getLast? := by
  simp [get?, Store.ofList]

/-- A consumer sees the value delivered last, or the global one. -/
theorem effective_ofEntries (project : String) (es : List Entry) (key : String)
    (global : Snapshot) :
    (ofEntries project es).effective key global =
      (Entry.valuesAt key es).getLast?.or (global.get? key) := by
  simp [effective]

end ProjectSettings

end AnalysisSettings
