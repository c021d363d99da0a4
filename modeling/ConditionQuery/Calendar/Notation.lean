import ConditionQuery.Calendar.Phrase

set_option autoImplicit false

/-! # Notations for dates

The notations that name a date or an instant by itself: timestamps in the form of RFC 3339,
dates with numbers in two orders, and the titles of day notes such as `January 5th, 2024`.
-/

namespace ConditionQuery

open Text

namespace Notation

/-- Takes exactly `n` ASCII digits from the start of a text. -/
def fixed? (n : Nat) (s : List Char) : Option (Nat × List Char) :=
  if (s.take n).length = n && (s.take n).all Decimal.isDigit then
    some (Decimal.extend 0 (s.take n), s.drop n)
  else none

def char? (c : Char) : List Char → Option (List Char)
  | [] => none
  | d :: s => if c = d then some s else none

/-! ## Timestamps -/

/-- Takes the sign between the date and the time of a timestamp. -/
def timeMark? : List Char → Option (List Char)
  | 'T' :: s | 't' :: s | ' ' :: s => some s
  | _ => none

/-- Takes the part of a second, if there is one, in nanoseconds. Digits after the ninth do
not count. -/
def fraction? : List Char → Option (Nat × List Char)
  | '.' :: s =>
    let ds := s.takeWhile Decimal.isDigit
    if ds.isEmpty then none
    else
      let first := ds.take 9
      some (Decimal.extend 0 first * Nat.pow 10 (9 - first.length), s.dropWhile Decimal.isDigit)
  | s => some (0, s)

/-- Takes a distance from universal time, in seconds. The sign may be the minus of
mathematics. -/
def offset? : List Char → Option (Int × List Char)
  | 'Z' :: s | 'z' :: s => some (0, s)
  | c :: s => do
    let sign : Int ←
      if c = '+' then some 1
      else if c = '-' || c = Char.ofNat 0x2212 then some (-1) else none
    let (h, s) ← fixed? 2 s
    let s ← char? ':' s
    let (m, s) ← fixed? 2 s
    if h < 24 ∧ m < 60 then return (sign * (3600 * h + 60 * m : Nat), s) else none
  | [] => none

/-- Takes a time of day: seconds since midnight and nanoseconds. The second 60 is the leap
second after the second 59. -/
def timeOfDay? (s : List Char) : Option ((Nat × Nat) × List Char) := do
  let (h, s) ← fixed? 2 s
  let s ← char? ':' s
  let (m, s) ← fixed? 2 s
  let s ← char? ':' s
  let (sec, s) ← fixed? 2 s
  let (nanos, s) ← fraction? s
  if h < 24 ∧ m < 60 ∧ sec ≤ 60 then
    if sec = 60 then return ((3600 * h + 60 * m + 59, 1000000000 + nanos), s)
    else return ((3600 * h + 60 * m + sec, nanos), s)
  else none

/-- Reads a timestamp: a date with four, two and two digits, a time of day, and the distance
from universal time. -/
def timestamp? (s : List Char) : Option Instant := do
  let (year, s) ← fixed? 4 s
  let s ← char? '-' s
  let (month, s) ← fixed? 2 s
  let s ← char? '-' s
  let (day, s) ← fixed? 2 s
  let s ← timeMark? s
  let ((seconds, nanos), s) ← timeOfDay? s
  let (offset, s) ← offset? s
  let date ← Date.ofParts? year month day
  Words.atEnd? ⟨date.toDays * Instant.secondsPerDay + seconds - offset, nanos⟩ s

/-! ## Dates in numbers -/

/-- Takes ASCII digits, at least one and at most `most`, from the start of a text. -/
def upTo? (most : Nat) (s : List Char) : Option (Nat × List Char) :=
  let ds := (s.take most).takeWhile Decimal.isDigit
  if ds.isEmpty then none else some (Decimal.extend 0 ds, s.drop ds.length)

/-- Takes a month or a day after any blanks: one or two digits. -/
def part? (s : List Char) : Option (Nat × List Char) :=
  upTo? 2 (trimLeft s)

/-- Takes a year after any blanks: up to four digits, or a sign and any number of digits. -/
def year? (s : List Char) : Option (Int × List Char) :=
  match trimLeft s with
  | '-' :: s => (upTo? s.length s).map fun (n, s) => (-(n : Int), s)
  | '+' :: s => (upTo? s.length s).map fun (n, s) => ((n : Int), s)
  | s => (upTo? 4 s).map fun (n, s) => ((n : Int), s)

/-- Reads a date such as `2024-01-05`. -/
def yearFirst? (s : List Char) : Option Date := do
  let (year, s) ← year? s
  let s ← char? '-' s
  let (month, s) ← part? s
  let s ← char? '-' s
  let (day, s) ← part? s
  let date ← Date.ofParts? year month day
  Words.atEnd? date s

/-- Reads a date such as `01/05/2024`, with the month before the day. -/
def monthFirst? (s : List Char) : Option Date := do
  let (month, s) ← part? s
  let s ← char? '/' s
  let (day, s) ← part? s
  let s ← char? '/' s
  let (year, s) ← year? s
  let date ← Date.ofParts? year month day
  Words.atEnd? date s

/-! ## Titles of day notes -/

/-- A title of a day note, with its parts as written. -/
structure Title where
  month : List Char
  /-- The digits of the day, of any scripts. -/
  day : List Char
  /-- The digits of the year, of any scripts. -/
  year : List Char
deriving DecidableEq, Repr

def isLetter (c : Char) : Bool :=
  'a' ≤ Words.letter c && Words.letter c ≤ 'z'

def ordinals : List (List Char × Unit) :=
  [(['s', 't'], ()), (['n', 'd'], ()), (['r', 'd'], ()), (['t', 'h'], ())]

/-- Takes the ending of an ordinal number if one stands at the start of a text. -/
def optionalOrdinal (s : List Char) : List Char :=
  match Words.anyWord? ordinals s with
  | some (_, rest) => rest
  | none => s

/-- Reads the title of a day note: a word, a day of one or two digits with or without the
ending of an ordinal number and a comma, and a year of four digits. -/
def Title.ofText? (s : List Char) : Option Title := do
  let month := s.takeWhile isLetter
  if month.isEmpty then none
  let s ← Words.blanks? (s.dropWhile isLetter)
  let (day, s) ← Words.digits? s
  if 2 < day.length then none
  let s := optionalOrdinal s
  let s ← Words.blanks? ((char? ',' s).getD s)
  let (year, s) ← Words.digits? s
  if year.length ≠ 4 then none
  Words.atEnd? ⟨month, day, year⟩ s

def monthNames : List String :=
  ["january", "february", "march", "april", "may", "june", "july", "august", "september",
    "october", "november", "december"]

/-- The number of the month with a given name, in full or cut to three letters. -/
def monthNumber? (name : List Char) : Option Nat :=
  let lower := name.map Char.toLower
  (monthNames.findIdx? fun m => lower = m.toList || lower = m.toList.take 3).map (· + 1)

end Notation

end ConditionQuery
