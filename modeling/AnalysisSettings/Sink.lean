import AnalysisSettings.Snapshot
import Std.Data.HashMap

/-!
# Sinks

A sink takes the entries of a download one by one. Five kinds are known: a sorted store, a hash
map, the builders of a snapshot and of a project's settings, and a journal that keeps every entry
in the order of arrival. All but the journal keep the last value put for each key.
-/

namespace AnalysisSettings

/-- A type that takes entries. -/
class Sink (σ : Type) where
  /-- The sink after one more entry. -/
  put : σ → Entry → σ

/-- The sink after the entries, in their order. -/
def Sink.putAll {σ : Type} [Sink σ] (sink : σ) (es : List Entry) : σ :=
  es.foldl Sink.put sink

instance : Sink Store := ⟨Store.put⟩

instance : Sink Snapshot.Builder := ⟨Snapshot.Builder.put⟩

instance : Sink ProjectSettings.Builder := ⟨ProjectSettings.Builder.put⟩

/-- Keys and values without an order. -/
abbrev HashStore := Std.HashMap String String

instance : Sink HashStore := ⟨fun m e => m.insert e.key e.value⟩

/-- The entries of a hash map in ascending order of their keys. -/
def HashStore.entries (m : HashStore) : List Entry :=
  (Store.ofList (m.toList.map fun (key, value) => ⟨key, value⟩)).entries

/-- Entries in the order of their arrival. -/
structure Journal where
  entries : List Entry := []

instance : Sink Journal := ⟨fun j e => ⟨j.entries ++ [e]⟩⟩

/-- A sink of any kind. -/
inductive AnySink where
  | sorted (store : Store)
  | hashed (store : HashStore)
  | global (builder : Snapshot.Builder)
  | project (builder : ProjectSettings.Builder)
  | journal (entries : Journal)

instance : Sink AnySink where
  put sink e := match sink with
    | .sorted s => .sorted (Sink.put s e)
    | .hashed s => .hashed (Sink.put s e)
    | .global b => .global (Sink.put b e)
    | .project b => .project (Sink.put b e)
    | .journal j => .journal (Sink.put j e)

/-- What a sink shows of itself. A builder shows nothing before it is built. -/
def AnySink.shown : AnySink → Option (List Entry)
  | .sorted s => some s.entries
  | .hashed m => some (HashStore.entries m)
  | .journal j => some j.entries
  | .global _ | .project _ => none

end AnalysisSettings
