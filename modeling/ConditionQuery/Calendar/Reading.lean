import ConditionQuery.Calendar.Notation

set_option autoImplicit false

/-! # Reading dates

The instant that a text stands for, relative to a reference instant. The text is taken as a
keyword, a distance from the reference, a timestamp, a date in numbers or the title of a day
note; a date stands for its first moment in universal time. Blanks around the text do not
matter.
-/

namespace ConditionQuery

inductive DateProblem where
  /-- The number of a distance has digits outside ASCII or does not fit a word. -/
  | amountOutOfRange
  | dateOutOfRange
  | unknownMonth (name : List Char)
  /-- The day of a title has digits outside ASCII. -/
  | invalidDay
  /-- The year of a title has digits outside ASCII. -/
  | invalidYear
  | dayOutOfRange
  | unrecognized
deriving DecidableEq, Repr

def DateProblem.message : DateProblem → String
  | .amountOutOfRange => "amount out of range"
  | .dateOutOfRange => "date out of range"
  | .unknownMonth name => "unknown month '" ++ String.ofList name ++ "'"
  | .invalidDay => "invalid day"
  | .invalidYear => "invalid year"
  | .dayOutOfRange => "day out of range for month"
  | .unrecognized => "unrecognized date expression"

namespace DateReading

/-- The start of a date a number of units after another. -/
def shift (d : Date) (n : Int) (u : DateUnit) : Except DateProblem Instant :=
  match u.shift? d n with
  | some e => .ok (.midnight e)
  | none => .error .dateOutOfRange

def ofKeyword (now : Instant) : DateKeyword → Except DateProblem Instant
  | .now => .ok now
  | .today => .ok (.midnight now.date)
  | .yesterday => shift now.date (-1) .day
  | .tomorrow => shift now.date 1 .day

/-- The instant at a distance, in the direction of `sign`. -/
def ofDistance (now : Instant) (sign : Int) (p : Distance) : Except DateProblem Instant :=
  match p.number? with
  | some n => shift now.date (sign * n) p.unit
  | none => .error .amountOutOfRange

/-- The instant of a title. The month is looked at first, then the day, the year and the
date as a whole. -/
def ofTitle (t : Notation.Title) : Except DateProblem Instant :=
  match Notation.monthNumber? t.month with
  | none => .error (.unknownMonth t.month)
  | some month =>
    match Text.Decimal.read? t.day with
    | none => .error .invalidDay
    | some day =>
      match Text.Decimal.read? t.year with
      | none => .error .invalidYear
      | some year =>
        match Date.ofParts? year month day with
        | some d => .ok (.midnight d)
        | none => .error .dayOutOfRange

def ofNotation (s : List Char) : Except DateProblem Instant :=
  match Notation.timestamp? s with
  | some t => .ok t
  | none =>
    match (Notation.yearFirst? s).or (Notation.monthFirst? s) with
    | some d => .ok (.midnight d)
    | none =>
      match Notation.Title.ofText? s with
      | some t => ofTitle t
      | none => .error .unrecognized

def ofTrimmed (now : Instant) (s : List Char) : Except DateProblem Instant :=
  match DateKeyword.ofText? s with
  | some k => ofKeyword now k
  | none =>
    match Distance.ago? s with
    | some p => ofDistance now (-1) p
    | none =>
      match Distance.ahead? s with
      | some p => ofDistance now 1 p
      | none => ofNotation s

end DateReading

/-- The instant that a text stands for. -/
def Instant.ofText (now : Instant) (text : String) : Except DateProblem Instant :=
  DateReading.ofTrimmed now (Text.trimmed text)

end ConditionQuery
