import AnalysisSettings.Proofs.Store
import Mathlib.Data.List.Dedup

/-!
# One map in every sink

A keyed sink holds a store if it answers every key as the store does (`KeyedSink.Holds`). Putting an
entry into both keeps that (`KeyedSink.Holds.put`), so sinks of all kinds that start alike hold one
store after any entries (`KeyedSink.Holds.putAll`), and what is known of a store is known of them all.
What entries do to a sink depends on the last value of each key alone
(`Entry.SameEffect.of_last`).

`sinks_agree` puts together what is known: every key has the value put last, the entries ascend by the
code points of their keys, there are as many as keys were put, and neither putting all entries again nor
an order that keeps the values of each key in their order changes anything.

The journal is no such sink: it keeps every entry.
-/

namespace AnalysisSettings

/-! ## The order of keys -/

/-- The numbers of the characters of a key. -/
def codePoints (key : String) : List Nat :=
  key.toList.map Char.toNat

/-- The order of texts is that of their code points. -/
theorem codePoints_lt {a b : String} (h : a < b) : codePoints a < codePoints b :=
  List.map_lt (fun _ _ lt => lt) h

/-! ## Sinks that hold a store -/

namespace KeyedSink

variable {σ : Type} [KeyedSink σ]

/-- **A sink holds a store** if it has the store's value for every key. -/
def Holds (sink : σ) (store : Store) : Prop :=
  ∀ key, get? sink key = store.get? key

variable {sink : σ} {store : Store}

/-- One entry more in both. -/
theorem Holds.put (h : Holds sink store) (e : Entry) : Holds (Sink.put sink e) (store.put e) := by
  intro key
  rw [get?_put, Store.get?_put, h key]

/-- The same entries put into both. -/
theorem Holds.putAll (h : Holds sink store) (es : List Entry) :
    Holds (Sink.putAll sink es) (store.putAll es) := by
  induction es generalizing sink store with
  | nil => exact h
  | cons e es ih => exact ih (h.put e)

/-- Only the last value of each key matters. -/
theorem get?_putAll_congr {es fs : List Entry}
    (last : ∀ key, (Entry.valuesAt key fs).getLast? = (Entry.valuesAt key es).getLast?) (sink : σ)
    (key : String) : get? (Sink.putAll sink fs) key = get? (Sink.putAll sink es) key := by
  rw [get?_putAll, get?_putAll, last]

end KeyedSink

/-! ## The keys of a store -/

namespace Entry

/-- A key was given a value exactly if it is among the keys. -/
theorem exists_getLast?_valuesAt_iff {key : String} {es : List Entry} :
    (∃ value, (valuesAt key es).getLast? = some value) ↔ key ∈ es.map Entry.key := by
  rw [← Option.isSome_iff_exists, List.getLast?_isSome]
  constructor
  · intro given
    obtain ⟨value, h⟩ := List.exists_mem_of_ne_nil _ given
    exact List.mem_map.mpr ⟨_, mem_valuesAt.mp h, rfl⟩
  · intro h
    obtain ⟨e, he, rfl⟩ := List.mem_map.mp h
    exact List.ne_nil_of_mem (mem_valuesAt.mpr he)

/-- Distinct keys that are those of some entries are as many as these have. -/
theorem length_eq_dedup {keys : List String} {es : List Entry} (distinct : keys.Nodup)
    (h : ∀ key, key ∈ keys ↔ key ∈ es.map Entry.key) :
    keys.length = (es.map Entry.key).dedup.length := by
  refine List.Perm.length_eq ((List.perm_ext_iff_of_nodup distinct (List.nodup_dedup _)).mpr ?_)
  intro key
  rw [h, List.mem_dedup]

end Entry

namespace Store

/-- The keys of a store are those under which something is found. -/
theorem mem_keys_iff {s : Store} {key : String} :
    key ∈ s.entries.map Entry.key ↔ ∃ value, s.get? key = some value := by
  constructor
  · intro h
    obtain ⟨e, he, rfl⟩ := List.mem_map.mp h
    exact ⟨e.value, mem_entries_iff.mp he⟩
  · rintro ⟨value, h⟩
    exact List.mem_map.mpr ⟨⟨key, value⟩, mem_entries_iff.mpr h, rfl⟩

/-- Of a list of entries the last value of a key is stored. -/
@[simp] theorem get?_ofList (es : List Entry) (key : String) :
    (ofList es).get? key = (Entry.valuesAt key es).getLast? := by
  simp [ofList]

/-- A store of a list has as many entries as the list has keys. -/
@[simp] theorem size_ofList (es : List Entry) : (ofList es).size = (es.map Entry.key).dedup.length := by
  rw [size, ← List.length_map Entry.key]
  refine Entry.length_eq_dedup (distinct_keys _) fun key => ?_
  rw [mem_keys_iff, get?_ofList, Entry.exists_getLast?_valuesAt_iff]

end Store

/-! ## The builder of a snapshot, and hash maps -/

namespace Snapshot

/-- The snapshot to which only the entries were delivered. -/
def ofEntries (es : List Entry) : Snapshot :=
  (Sink.putAll ({} : Builder) es).build

/-- Putting into a builder is putting into its store. -/
theorem Builder.putAll_store (b : Builder) (es : List Entry) :
    Sink.putAll b es = ⟨b.store.putAll es⟩ := by
  induction es generalizing b with
  | nil => rfl
  | cons e es ih => exact ih (b.put e)

/-- Entries put one by one make the snapshot of their list. -/
theorem ofEntries_eq (es : List Entry) : ofEntries es = ofList es := by
  rw [ofEntries, Builder.putAll_store]
  rfl

end Snapshot

namespace HashStore

/-- The hash map into which only the entries were put. -/
def ofEntries (es : List Entry) : HashStore :=
  Sink.putAll (∅ : HashStore) es

/-- The hash map of some entries holds what their store holds. -/
theorem holds_ofEntries (es : List Entry) : KeyedSink.Holds (ofEntries es) (Store.ofList es) :=
  KeyedSink.Holds.putAll (fun _ => Std.HashMap.getElem?_empty) es

/-- It has as many entries as there are keys. -/
@[simp] theorem size_ofEntries (es : List Entry) :
    (ofEntries es).size = (es.map Entry.key).dedup.length := by
  rw [← Std.HashMap.length_keys]
  refine Entry.length_eq_dedup Std.HashMap.nodup_keys fun key => ?_
  rw [Std.HashMap.mem_keys, ← Entry.exists_getLast?_valuesAt_iff, ← Store.get?_ofList,
    ← holds_ofEntries es key, ← Option.isSome_iff_exists]
  exact Std.HashMap.mem_iff_isSome_getElem?

/-- What a hash map shows is the store with its values. -/
theorem entries_of_holds {m : HashStore} {store : Store} (h : KeyedSink.Holds m store) :
    HashStore.entries m = store.entries := by
  have listed : ∀ e : Entry, e ∈ m.toList.map (fun p => ⟨p.1, p.2⟩) ↔ m[e.key]? = some e.value := by
    rintro ⟨key, value⟩
    rw [← Std.HashMap.mem_toList_iff_getElem?_eq_some, List.mem_map]
    constructor
    · rintro ⟨p, hp, same⟩
      cases same
      exact hp
    · exact fun hp => ⟨(key, value), hp, rfl⟩
  have distinct : ((m.toList.map fun p => (⟨p.1, p.2⟩ : Entry)).map Entry.key).Nodup := by
    rw [List.map_map]
    exact Std.HashMap.map_fst_toList_eq_keys (m := m) ▸ Std.HashMap.nodup_keys
  have same : Store.ofList (m.toList.map fun p => ⟨p.1, p.2⟩) = store := by
    refine Store.eq_of_get? fun key => ?_
    rw [← h key]
    show _ = m[key]?
    refine Option.ext fun value => ?_
    rw [Store.get?_ofList]
    constructor
    · intro last
      exact (listed ⟨key, value⟩).mp (Entry.mem_valuesAt.mp (List.mem_of_getLast? last))
    · intro found
      rw [Entry.valuesAt_of_mem distinct ((listed ⟨key, value⟩).mpr found)]
      rfl
  rw [entries, ← same]

end HashStore

/-! ## Entries with the same effect -/

/-- **The same effect**: no sink tells one list of entries from the other. -/
structure Entry.SameEffect (es fs : List Entry) : Prop where
  snapshot : ∀ b : Snapshot.Builder, Sink.putAll b fs = Sink.putAll b es
  project : ∀ b : ProjectSettings.Builder, Sink.putAll b fs = Sink.putAll b es
  store : ∀ s : Store, Sink.putAll s fs = Sink.putAll s es
  hashed : ∀ m : HashStore, (Sink.putAll m fs).Equiv (Sink.putAll m es)

/-- Lists with the same last values have the same effect. -/
theorem Entry.SameEffect.of_last {es fs : List Entry}
    (last : ∀ key, (Entry.valuesAt key fs).getLast? = (Entry.valuesAt key es).getLast?) :
    Entry.SameEffect es fs := by
  have stores (s : Store) : s.putAll fs = s.putAll es :=
    Store.eq_of_get? (KeyedSink.get?_putAll_congr last s)
  refine ⟨fun b => ?_, fun b => ?_, stores, fun m => ?_⟩
  · rw [Snapshot.Builder.putAll_store, Snapshot.Builder.putAll_store, stores]
  · rw [ProjectSettings.Builder.putAll_store, ProjectSettings.Builder.putAll_store, stores]
  · exact Std.HashMap.Equiv.of_forall_getElem?_eq (KeyedSink.get?_putAll_congr last m)

/-- **All sinks keep one map.** Whatever entries are put into the builder of a snapshot, the builder of
a project's settings, a sorted store and a hash map that are empty, in all four each key has the value
put last for it, and none if there is no such; all four have the same entries, in ascending order of the
code points of their keys, and as many as there are distinct keys. In the snapshot, a key is contained
if it has a value, and the entries are the keys with their values. The snapshot of the list is the one
whose builder was given the entries one by one. Putting all the entries a second time changes nothing,
and neither does any other order of them in which the values of each key keep their order, whatever was
in the sinks before. -/
theorem sinks_agree (project : String) (es : List Entry) :
    (∀ key, (Snapshot.ofEntries es).get? key = (Entry.valuesAt key es).getLast? ∧
      (ProjectSettings.ofEntries project es).get? key = (Entry.valuesAt key es).getLast? ∧
      (Sink.putAll Store.empty es).get? key = (Entry.valuesAt key es).getLast? ∧
      (HashStore.ofEntries es)[key]? = (Entry.valuesAt key es).getLast?) ∧
    ((Snapshot.ofEntries es).store = Sink.putAll Store.empty es ∧
      (ProjectSettings.ofEntries project es).store = Sink.putAll Store.empty es ∧
      HashStore.entries (HashStore.ofEntries es) = (Sink.putAll Store.empty es).entries ∧
      (Sink.putAll Store.empty es).entries.Pairwise fun a b => codePoints a.key < codePoints b.key) ∧
    ((Snapshot.ofEntries es).size = (es.map Entry.key).dedup.length ∧
      (ProjectSettings.ofEntries project es).size = (es.map Entry.key).dedup.length ∧
      (Sink.putAll Store.empty es).size = (es.map Entry.key).dedup.length ∧
      (HashStore.ofEntries es).size = (es.map Entry.key).dedup.length) ∧
    (∀ key, (Snapshot.ofEntries es).contains key = true ↔
      ∃ value, (Snapshot.ofEntries es).get? key = some value) ∧
    (∀ key value, (⟨key, value⟩ : Entry) ∈ (Snapshot.ofEntries es).store.entries ↔
      (Snapshot.ofEntries es).get? key = some value) ∧
    Snapshot.ofList es = Snapshot.ofEntries es ∧
    Entry.SameEffect es (es ++ es) ∧
    ∀ fs, (∀ key, Entry.valuesAt key fs = Entry.valuesAt key es) → Entry.SameEffect es fs := by
  have snapshot : Snapshot.ofEntries es = ⟨.ofList es⟩ := Snapshot.ofEntries_eq es
  have own : (ProjectSettings.ofEntries project es).store = .ofList es :=
    ProjectSettings.ofEntries_store project es
  have sorted : Sink.putAll Store.empty es = .ofList es := rfl
  have hashed : KeyedSink.Holds (HashStore.ofEntries es) (.ofList es) :=
    HashStore.holds_ofEntries es
  rw [snapshot, sorted]
  refine ⟨fun key => ⟨Store.get?_ofList es key, ProjectSettings.get?_ofEntries project es key,
      Store.get?_ofList es key, (hashed key).trans (Store.get?_ofList es key)⟩,
    ⟨rfl, own, HashStore.entries_of_holds hashed, ?_⟩,
    ⟨Store.size_ofList es, ?_, Store.size_ofList es, HashStore.size_ofEntries es⟩,
    fun key => ?_, fun key value => Store.mem_entries_iff, rfl, .of_last fun key => ?_,
    fun fs same => .of_last fun key => by rw [same]⟩
  · exact (Store.ofList es).ascending.imp codePoints_lt
  · rw [ProjectSettings.size, own, Store.size_ofList]
  · rw [Snapshot.contains, Store.contains_eq_isSome_get?, Option.isSome_iff_exists]
    rfl
  · rw [Entry.valuesAt_append, List.getLast?_append]
    cases (Entry.valuesAt key es).getLast? <;> rfl

/-! ### A key that is put twice

The two values of `z` keep their order in the second list, and `é` goes to the front. Its code point is
the greater one. -/

namespace PutTwice

def entries : List Entry := [⟨"z", "1"⟩, ⟨"é", "2"⟩, ⟨"z", "3"⟩]

def rearranged : List Entry := [⟨"é", "2"⟩, ⟨"z", "1"⟩, ⟨"z", "3"⟩]

theorem same_values (key : String) :
    Entry.valuesAt key rearranged = Entry.valuesAt key entries := by
  simp only [entries, rearranged, Entry.valuesAt_cons, Entry.valuesAt_nil]
  by_cases z : "z" = key
  · subst z
    rfl
  · simp only [if_neg z]

theorem sinks_agree_putTwice :
    Entry.SameEffect entries rearranged ∧ (Sink.putAll Store.empty entries).size = 2 ∧
      (HashStore.ofEntries entries)["z"]? = some "3" := by
  obtain ⟨last, -, ⟨-, -, size, -⟩, -, -, -, -, order⟩ := sinks_agree "p" entries
  exact ⟨order rearranged same_values, size.trans (by decide), (last "z").2.2.2.trans (by decide)⟩

end PutTwice

end AnalysisSettings
