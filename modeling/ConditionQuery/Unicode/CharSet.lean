import ConditionQuery.Text.Hexadecimal

set_option autoImplicit false

/-! # Sets of characters

A set of characters is a list of ranges of code points, first and last included. The ranges
may overlap and stand in any order, unless a function says otherwise.
-/

namespace ConditionQuery.Unicode

/-- A set of characters, as a list of ranges of code points. -/
abbrev CharSet := List (Nat × Nat)

namespace CharSet

def all : CharSet :=
  [(0, 0x10FFFF)]

/-- Membership: a character belongs to a set if one of the ranges holds its code point. -/
def contains (s : CharSet) (c : Char) : Bool :=
  s.any fun r => r.1 ≤ c.toNat && c.toNat ≤ r.2

/-- Joins the ranges that overlap or touch in a list that is sorted by first code points and
starts with `r`. -/
def joinFrom (r : Nat × Nat) : CharSet → CharSet
  | [] => [r]
  | q :: rest => if q.1 ≤ r.2 + 1 then joinFrom (r.1, max r.2 q.2) rest else r :: joinFrom q rest

/-- The same set with its ranges apart from each other and in ascending order. -/
def sorted (s : CharSet) : CharSet :=
  match s.mergeSort fun a b => a.1 ≤ b.1 with
  | [] => []
  | r :: rest => joinFrom r rest

/-- The code points from `start` on that lie between sorted ranges. -/
def gaps (start : Nat) : CharSet → CharSet
  | [] => if start ≤ 0x10FFFF then [(start, 0x10FFFF)] else []
  | r :: rest =>
    if start < r.1 then (start, r.1 - 1) :: gaps (r.2 + 1) rest
    else gaps (max start (r.2 + 1)) rest

def complement (s : CharSet) : CharSet :=
  gaps 0 (sorted s)

def difference (s t : CharSet) : CharSet :=
  complement (complement s ++ t)

/-- Reads a range: a hexadecimal code point, or two with a hyphen between them. -/
def readRange? (s : String) : Option (Nat × Nat) :=
  match s.splitOn "-" with
  | [one] => (Text.Hexadecimal.read? one.toList).map fun n => (n, n)
  | [first, last] =>
    (Text.Hexadecimal.read? first.toList).bind fun a =>
      (Text.Hexadecimal.read? last.toList).map fun b => (a, b)
  | _ => none

def words (s : String) : List String :=
  (s.splitOn "\n").flatMap fun line => line.splitOn " "

/-- Reads a set from the hexadecimal code points of its ranges. -/
def read (s : String) : CharSet :=
  (words s).filterMap readRange?

end CharSet

end ConditionQuery.Unicode
