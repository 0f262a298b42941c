import AnalysisSettings.Store

/-!
# Global settings and the settings of a project

A `Snapshot` holds the settings of the server as a whole. `ProjectSettings` holds what differs for
one project; `effective` looks a key up as a consumer does, in the project first and then in the
global scope.

Both are filled entry by entry through a builder and do not change afterwards.
-/

namespace AnalysisSettings

/-- The settings of the global scope. -/
structure Snapshot where
  store : Store
deriving DecidableEq

/-- The settings of one project, apart from those it shares with the global scope. -/
structure ProjectSettings where
  projectKey : String
  store : Store
deriving DecidableEq

namespace Snapshot

/-- The value of a key. -/
def get? (s : Snapshot) (key : String) : Option String :=
  s.store.get? key

/-- The key has a value. -/
def contains (s : Snapshot) (key : String) : Bool :=
  s.store.contains key

/-- The number of keys. -/
def size (s : Snapshot) : Nat :=
  s.store.size

/-- The snapshot of the entries; a key has the value that comes last. -/
def ofList (es : List Entry) : Snapshot :=
  ⟨.ofList es⟩

/-- A snapshot under construction. -/
structure Builder where
  store : Store := .empty

/-- The entry added to what was put before. -/
def Builder.put (b : Builder) (e : Entry) : Builder :=
  ⟨b.store.put e⟩

/-- The finished snapshot. -/
def Builder.build (b : Builder) : Snapshot :=
  ⟨b.store⟩

end Snapshot

namespace ProjectSettings

/-- The value the project itself has for a key. -/
def get? (p : ProjectSettings) (key : String) : Option String :=
  p.store.get? key

/-- The number of keys. -/
def size (p : ProjectSettings) : Nat :=
  p.store.size

/-- The value a consumer sees: the project's own, else the global one. -/
def effective (p : ProjectSettings) (key : String) (global : Snapshot) : Option String :=
  (p.get? key).or (global.get? key)

/-- The settings of a project under construction. -/
structure Builder where
  projectKey : String
  store : Store := .empty

/-- The entry added to what was put before. -/
def Builder.put (b : Builder) (e : Entry) : Builder :=
  { b with store := b.store.put e }

/-- The finished settings. -/
def Builder.build (b : Builder) : ProjectSettings :=
  ⟨b.projectKey, b.store⟩

end ProjectSettings

end AnalysisSettings
