set_option autoImplicit false

/-! # Dates

The proleptic Gregorian calendar: the Gregorian rules extended to all years, with a year zero
and negative years before it. A date is also a number of days since 1 January 1970, and
arithmetic with days goes through that number. Dates lie between the years `Date.firstYear`
and `Date.lastYear`; arithmetic that leaves this range has no result.
-/

namespace ConditionQuery

structure Date where
  /-- The year; the year before 1 is 0. -/
  year : Int
  /-- The month, from 1. -/
  month : Nat
  /-- The day of the month, from 1. -/
  day : Nat
deriving DecidableEq, Repr

namespace Date

def firstYear : Int := -262143

def lastYear : Int := 262142

/-- A leap year: every fourth year, but of the full centuries only every fourth. -/
def isLeapYear (year : Int) : Bool :=
  year % 4 == 0 && (year % 100 != 0 || year % 400 == 0)

def monthLengths (year : Int) : List Nat :=
  [31, if isLeapYear year then 29 else 28, 31, 30, 31, 30, 31, 31, 30, 31, 30, 31]

/-- The length of a month; zero if there is no such month. -/
def daysInMonth (year : Int) (month : Nat) : Nat :=
  match month with
  | 0 => 0
  | m + 1 => (monthLengths year)[m]?.getD 0

/-- The date exists in the calendar and lies in the range. -/
def isValid (d : Date) : Bool :=
  firstYear ≤ d.year && d.year ≤ lastYear && 1 ≤ d.day && d.day ≤ daysInMonth d.year d.month

def ofParts? (year : Int) (month day : Nat) : Option Date :=
  if isValid ⟨year, month, day⟩ then some ⟨year, month, day⟩ else none

/-- The number of days from 1 January of year 1 to 1 January of a year. -/
def daysBeforeYear (year : Int) : Int :=
  let y := year - 1
  365 * y + y / 4 - y / 100 + y / 400

/-- The number of days from 1 January of year 1 to 1 January 1970. -/
def epoch : Int := 719162

def daysBeforeMonth (d : Date) : Nat :=
  ((monthLengths d.year).take (d.month - 1)).foldl (· + ·) 0

/-- The number of days since 1 January 1970. -/
def toDays (d : Date) : Int :=
  daysBeforeYear d.year + d.daysBeforeMonth + (d.day - 1 : Int) - epoch

/-- The month and the day of the month of a day of the year, counted from zero, given the
lengths of the months from `month` on. -/
def monthAndDay (month : Nat) : List Nat → Nat → Nat × Nat
  | [], n => (month, n + 1)
  | length :: rest, n =>
    if n < length then (month, n + 1) else monthAndDay (month + 1) rest (n - length)

/-- The year and the day of the year, counted from zero, of a number of days since 1 January
of year 1. Four centuries have 146097 days; the last century of four and the last year of
four are one day longer than the others. -/
def yearAndDay (n : Int) : Int × Nat :=
  let inEra := n % 146097
  let century := min (inEra / 36524) 3
  let inCentury := inEra - 36524 * century
  let quad := inCentury / 1461
  let inQuad := inCentury % 1461
  let year := min (inQuad / 365) 3
  (400 * (n / 146097) + 100 * century + 4 * quad + year + 1, (inQuad - 365 * year).toNat)

/-- The date that is a number of days after 1 January 1970. -/
def ofDays (n : Int) : Date :=
  let (year, rest) := yearAndDay (n + epoch)
  let (month, day) := monthAndDay 1 (monthLengths year) rest
  ⟨year, month, day⟩

def inRange? (d : Date) : Option Date :=
  if firstYear ≤ d.year ∧ d.year ≤ lastYear then some d else none

/-- The date a number of days later, or earlier if the number is negative. -/
def addDays? (d : Date) (n : Int) : Option Date :=
  inRange? (ofDays (d.toDays + n))

/-- The number of months from the start of year zero to the date's month. -/
def monthIndex (d : Date) : Int :=
  12 * d.year + (d.month - 1 : Int)

/-- The date a number of months later, or earlier if the number is negative: the same day of
the month, or the month's last day if it has fewer. -/
def addMonths? (d : Date) (n : Int) : Option Date :=
  let index := d.monthIndex + n
  let year := index / 12
  let month := (index % 12).toNat + 1
  inRange? ⟨year, month, min d.day (daysInMonth year month)⟩

end Date

end ConditionQuery
