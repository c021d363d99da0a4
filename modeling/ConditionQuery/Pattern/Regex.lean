import ConditionQuery.Unicode.CaseFolding
import ConditionQuery.Unicode.Property

set_option autoImplicit false

/-! # Regular expressions

The regular expressions that written patterns stand for, and the search for a match. An
expression is read on a fixed text: it leads from a position of the text to the positions
where a match that starts there may end. A set of positions is a number whose binary digits
mark the members, so that one step of a search moves all starting points at once.
-/

namespace ConditionQuery

open Unicode

inductive CharClass where
  | ranges (s : CharSet)
  | complement (a : CharClass)
  | union (a b : CharClass)
  | intersection (a b : CharClass)
  /-- The characters that are the same up to case as a member. -/
  | folded (a : CharClass)
  /-- The members and the other case of every member that is an ASCII letter. -/
  | foldedAscii (a : CharClass)
deriving Repr

namespace CharClass

def none : CharClass :=
  .ranges []

def single (c : Char) : CharClass :=
  .ranges [(c.toNat, c.toNat)]

def contains : CharClass → Char → Bool
  | .ranges s, c => s.contains c
  | .complement a, c => !a.contains c
  | .union a b, c => a.contains c || b.contains c
  | .intersection a b, c => a.contains c && b.contains c
  | .folded a, c => (CaseFolding.orbit c).any a.contains
  | .foldedAscii a, c => a.contains c || a.contains c.toLower || a.contains c.toUpper

end CharClass

/-- What an assertion asks of the characters on both sides of a position. -/
inductive Look where
  | textStart
  | textEnd
  /-- The start of a line that line feeds end. -/
  | lineStart
  /-- The end of a line that line feeds end. -/
  | lineEnd
  /-- The start of a line that carriage returns and line feeds end. -/
  | anyLineStart
  /-- The end of a line that carriage returns and line feeds end. -/
  | anyLineEnd
  /-- Exactly one side is a word character. -/
  | boundary (word : CharSet)
  /-- Both sides are word characters, or none is. -/
  | noBoundary (word : CharSet)
  /-- A word starts: only the right side is a word character. -/
  | wordStart (word : CharSet)
  | wordEnd (word : CharSet)
  /-- The left side is no word character. -/
  | wordStartHalf (word : CharSet)
  | wordEndHalf (word : CharSet)
deriving Repr

/-- Whether an assertion holds between two neighbours; `none` is an end of the text. -/
def Look.holds (l : Look) (before after : Option Char) : Bool :=
  match l with
  | .textStart => before.isNone
  | .textEnd => after.isNone
  | .lineStart => before.isNone || before == some '\n'
  | .lineEnd => after.isNone || after == some '\n'
  | .anyLineStart =>
    before.isNone || before == some '\n' || (before == some '\r' && after != some '\n')
  | .anyLineEnd =>
    after.isNone || after == some '\r' || (after == some '\n' && before != some '\r')
  | .boundary w => before.any w.contains != after.any w.contains
  | .noBoundary w => before.any w.contains == after.any w.contains
  | .wordStart w => !before.any w.contains && after.any w.contains
  | .wordEnd w => before.any w.contains && !after.any w.contains
  | .wordStartHalf w => !before.any w.contains
  | .wordEndHalf w => !after.any w.contains

inductive Regex where
  | empty
  | one (c : CharClass)
  /-- Matches the empty text where an assertion holds. -/
  | look (l : Look)
  | seq (a b : Regex)
  | alt (a b : Regex)
  /-- Matches at least `least` matches in a row, and at most `most` if that is given. -/
  | times (r : Regex) (least : Nat) (most : Option Nat)
deriving Repr

/-- A set of positions in a text: position `i` is a member if binary digit `i` is one. -/
abbrev Positions := Nat

namespace Positions

/-- The positions in front of the characters for which a test holds. -/
def before (p : Char → Bool) : List Char → Positions
  | [] => 0
  | c :: rest => 2 * before p rest + (p c).toNat

/-- The positions where a test of both neighbours holds, in a text that `left` precedes. -/
def between (p : Option Char → Option Char → Bool) (left : Option Char) :
    List Char → Positions
  | [] => (p left none).toNat
  | c :: rest => 2 * between p (some c) rest + (p left (some c)).toNat

def all : List Char → Positions
  | [] => 1
  | _ :: rest => 2 * all rest + 1

def iterate (step : Positions → Positions) : Nat → Positions → Positions
  | 0, s => s
  | n + 1, s =>
    let next := step s
    if next = s then s else iterate step n next

/-- The positions reached by at most `n` steps. -/
def reach (step : Positions → Positions) : Nat → Positions → Positions
  | 0, s => s
  | n + 1, s =>
    let next := s ||| step s
    if next = s then s else reach step n next

end Positions

namespace Regex

/-- The ends of the matches that start at the given positions of a text. Every match moves
forward, so that a repetition without an upper limit has reached all it can after as many
rounds as the text has characters. -/
def ends (text : List Char) : Regex → Positions → Positions
  | .empty, s => s
  | .one c, s => (s &&& Positions.before c.contains text) <<< 1
  | .look l, s => s &&& Positions.between l.holds none text
  | .seq a b, s => ends text b (ends text a s)
  | .alt a b, s => ends text a s ||| ends text b s
  | .times r least most, s =>
    Positions.reach (ends text r) (most.elim text.length (· - least))
      (Positions.iterate (ends text r) least s)

/-- An expression is found in a text if a match starts somewhere in it. -/
def isFoundIn (r : Regex) (text : String) : Bool :=
  ends text.toList r (Positions.all text.toList) != 0

/-- A repetition of an expression. A repetition of a repetition is written as one where that
is the same, so that nested stars cost no more than one. -/
def repeated (r : Regex) (least : Nat) (most : Option Nat) : Regex :=
  match r with
  | .times _ 0 none => if most = some 0 then .empty else r
  | .times q 1 none =>
    if most = none && least ≤ 1 then .times q least none else .times r least most
  | _ => .times r least most

end Regex

end ConditionQuery
