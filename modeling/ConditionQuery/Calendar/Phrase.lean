import ConditionQuery.Calendar.Instant
import ConditionQuery.Text.Blank
import ConditionQuery.Text.Decimal

set_option autoImplicit false

/-! # Phrases for dates

The phrases that name a date by its distance from a reference: four keywords, and a number of
days, weeks, months or years before or after. Case does not matter, and the words may be set
apart by any blanks.
-/

namespace ConditionQuery

open Text

namespace Words

/-- The letter that a character stands for in a word, in lower case. The long s is an s and
the Kelvin sign a k. -/
def letter (c : Char) : Char :=
  if c = Char.ofNat 0x17F then 's' else if c = Char.ofNat 0x212A then 'k' else c.toLower

/-- Takes a word, given in lower case, from the start of a text. -/
def word? : List Char → List Char → Option (List Char)
  | [], s => some s
  | l :: w, c :: s => if letter c = l then word? w s else none
  | _ :: _, [] => none

def anyWord? {α : Type} (words : List (List Char × α)) (s : List Char) :
    Option (α × List Char) :=
  words.findSome? fun (w, a) => (word? w s).map fun rest => (a, rest)

def optionalWord (w : List Char) (s : List Char) : List Char :=
  (word? w s).getD s

/-- Takes blanks, at least one, from the start of a text. -/
def blanks? : List Char → Option (List Char)
  | [] => none
  | c :: s => if isBlank c then some (trimLeft s) else none

/-- Takes digits of any scripts, at least one, from the start of a text. -/
def digits? (s : List Char) : Option (List Char × List Char) :=
  let ds := s.takeWhile Decimal.isAnyDigit
  if ds.isEmpty then none else some (ds, s.dropWhile Decimal.isAnyDigit)

/-- What was read, if nothing is left. -/
def atEnd? {α : Type} (a : α) (s : List Char) : Option α :=
  if s.isEmpty then some a else none

end Words

inductive DateKeyword where
  | now
  | today
  | yesterday
  | tomorrow
deriving DecidableEq, Repr

def DateKeyword.ofText? (s : List Char) : Option DateKeyword :=
  let lower := s.map Char.toLower
  if lower = "now".toList then some .now
  else if lower = "today".toList then some .today
  else if lower = "yesterday".toList then some .yesterday
  else if lower = "tomorrow".toList then some .tomorrow
  else none

inductive DateUnit where
  | day
  | week
  | month
  | year
deriving DecidableEq, Repr

namespace DateUnit

def names : List (List Char × DateUnit) :=
  [("day".toList, .day), ("week".toList, .week), ("month".toList, .month), ("year".toList, .year)]

/-- Takes the name of a unit, in the singular or the plural. -/
def take? (s : List Char) : Option (DateUnit × List Char) :=
  (Words.anyWord? names s).map fun (u, rest) => (u, Words.optionalWord ['s'] rest)

def shift? (u : DateUnit) (d : Date) (n : Int) : Option Date :=
  match u with
  | .day => d.addDays? n
  | .week => d.addDays? (7 * n)
  | .month => d.addMonths? n
  | .year => d.addMonths? (12 * n)

end DateUnit

/-- A distance from the reference, with its number as written. -/
structure Distance where
  /-- The digits of the number, of any scripts. -/
  amount : List Char
  unit : DateUnit
deriving DecidableEq, Repr

namespace Distance

/-- Reads a distance into the past such as `3 days ago`. -/
def ago? (s : List Char) : Option Distance := do
  let (amount, s) ← Words.digits? s
  let s ← Words.blanks? s
  let (unit, s) ← DateUnit.take? s
  let s ← Words.blanks? s
  let s ← Words.word? "ago".toList s
  Words.atEnd? ⟨amount, unit⟩ s

/-- Reads a distance into the future such as `in 3 days`. -/
def ahead? (s : List Char) : Option Distance := do
  let s ← Words.word? "in".toList s
  let s ← Words.blanks? s
  let (amount, s) ← Words.digits? s
  let s ← Words.blanks? s
  let (unit, s) ← DateUnit.take? s
  Words.atEnd? ⟨amount, unit⟩ s

/-- The number of units, if it is written in ASCII digits and fits a signed word of 64
bits. -/
def number? (p : Distance) : Option Int :=
  Decimal.readInt64? p.amount

end Distance

end ConditionQuery
