import AnalysisSettings.Duration.Basic

/-!
# Units of time

The units in which a duration can be given, each with the names it goes by. A month is a twelfth of
a year of 365.25 days, to the nearest hundredth of a day.
-/

namespace AnalysisSettings.Duration

/-- A unit of time. -/
inductive TimeUnit where
  | nanosecond
  | microsecond
  | millisecond
  | second
  | minute
  | hour
  | day
  | week
  | month
  | year
deriving DecidableEq, Repr

namespace TimeUnit

/-- Every unit, from the shortest to the longest. -/
def all : List TimeUnit :=
  [.nanosecond, .microsecond, .millisecond, .second, .minute, .hour, .day, .week, .month, .year]

/-- The names of a unit in texts. -/
def names : TimeUnit → List String
  | .nanosecond => ["nanos", "nsec", "ns"]
  | .microsecond => ["usec", "us", "µs"]
  | .millisecond => ["millis", "msec", "ms"]
  | .second => ["seconds", "second", "secs", "sec", "s"]
  | .minute => ["minutes", "minute", "min", "mins", "m"]
  | .hour => ["hours", "hour", "hrs", "hr", "h"]
  | .day => ["days", "day", "d"]
  | .week => ["weeks", "week", "wks", "wk", "w"]
  | .month => ["months", "month", "M"]
  | .year => ["years", "year", "yrs", "yr", "y"]

/-- The unit with a name. -/
def named? (name : String) : Option TimeUnit :=
  all.find? fun u => u.names.contains name

/-- The nanoseconds of a unit below one second. -/
def nanos? : TimeUnit → Option Nat
  | .nanosecond => some 1
  | .microsecond => some 1000
  | .millisecond => some 1000000
  | _ => none

/-- The seconds of a unit of one second and above. -/
def seconds : TimeUnit → Nat
  | .minute => 60
  | .hour => 3600
  | .day => 86400
  | .week => 604800
  | .month => 2630016
  | .year => 31557600
  | _ => 1

/-- The nanoseconds of a unit whose fractions are counted in nanoseconds; those of an hour and above
are counted in seconds. -/
def fractionNanos? (u : TimeUnit) : Option Nat :=
  match u with
  | .second => some 1000000000
  | .minute => some 60000000000
  | u => u.nanos?

end TimeUnit

end AnalysisSettings.Duration
