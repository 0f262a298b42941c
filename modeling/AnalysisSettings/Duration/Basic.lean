import AnalysisSettings.Numeral

/-!
# Lengths of time

A duration is a number of whole seconds in a 64-bit word and the nanoseconds of the next second.
Sums that need more seconds than that have no value.
-/

namespace AnalysisSettings

/-- A length of time. -/
structure Duration where
  seconds : UInt64
  nanoseconds : Fin 1000000000
deriving DecidableEq, Repr

namespace Duration

/-- No time at all. -/
def zero : Duration := ⟨0, ⟨0, by decide⟩⟩

/-- A number of whole seconds. -/
def ofSeconds (n : UInt64) : Duration := ⟨n, ⟨0, by decide⟩⟩

/-- The duration in nanoseconds. -/
def nanos (t : Duration) : Nat :=
  1000000000 * t.seconds.toNat + t.nanoseconds

/-- The duration of some seconds and some nanoseconds, if it is one. -/
def ofParts? (seconds nanos : Nat) : Option Duration :=
  let whole := seconds + nanos / 1000000000
  if whole ≤ Numeral.maxWord then
    some ⟨UInt64.ofNat whole, ⟨nanos % 1000000000, Nat.mod_lt _ (by decide)⟩⟩
  else none

/-- Whole milliseconds, at most what a 64-bit word can hold. -/
def millis (t : Duration) : Nat :=
  min (1000 * t.seconds.toNat + t.nanoseconds / 1000000) Numeral.maxWord

end Duration

end AnalysisSettings
