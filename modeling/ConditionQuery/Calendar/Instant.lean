import ConditionQuery.Calendar.Date

set_option autoImplicit false

/-! # Instants

Points in time, counted in seconds from the start of 1970 in universal time, with a part of a
second in nanoseconds. A leap second has no number of its own; it is told as a part that is
not less than one second.
-/

namespace ConditionQuery

structure Instant where
  /-- Whole seconds since the start of 1970. -/
  seconds : Int
  /-- Nanoseconds on top of them. -/
  nanos : Nat
deriving DecidableEq, Repr

namespace Instant

def secondsPerDay : Int := 86400

def midnight (d : Date) : Instant :=
  ⟨d.toDays * secondsPerDay, 0⟩

def date (t : Instant) : Date :=
  Date.ofDays (t.seconds / secondsPerDay)

/-- Whole milliseconds since the start of 1970, rounded down. -/
def unixMillis (t : Instant) : Int :=
  t.seconds * 1000 + (t.nanos / 1000000 : Nat)

end Instant

end ConditionQuery
