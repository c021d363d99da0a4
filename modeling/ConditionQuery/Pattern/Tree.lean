set_option autoImplicit false

/-! # Patterns as written

The structure of a written pattern, before its flags and class names are given a meaning,
and two measures of it: how deeply it nests and how large it grows when its repetitions are
written out. Both are limited.

The depth is exact. The limit on size is a limit on the memory of the automaton that a pattern
is compiled to, and automata are not modelled: `Tree.weight` is an estimate of this memory. A
pattern that is far below the limit or far above it is decided rightly, but close to the limit,
as with hundreds of repetitions of a large class, the estimate may refuse a pattern that can be
compiled and accept one that cannot. The proofs that a pattern is accepted are about patterns
far below the limit.
-/

namespace ConditionQuery.Pattern

inductive Flag where
  | ignoreCase
  /-- The line anchors match at every line. -/
  | multiLine
  /-- The dot matches line ends too. -/
  | dotAll
  /-- Repetitions prefer short matches; this changes where a match ends, not whether there
  is one. -/
  | swapGreed
  /-- Classes hold characters of all scripts, not of ASCII alone. -/
  | unicode
  /-- Carriage returns end lines too. -/
  | anyLineEnd
  /-- Blanks and comments in the pattern are skipped. -/
  | verbose
deriving DecidableEq, Repr

abbrev Switch := Flag × Bool

/-- A character of a pattern, and whether it was written as two hexadecimal digits. -/
structure Literal where
  char : Char
  /-- It was written as `\x` with two digits and so may stand for a byte. -/
  isByte : Bool
deriving DecidableEq, Repr

/-- The classes that a backslash and one letter stand for. -/
inductive Shorthand where
  | digit
  | space
  | word
deriving DecidableEq, Repr

/-- The classes that a bracketed class may name between colons. -/
inductive PosixClass where
  | alnum
  | alpha
  | ascii
  | blank
  | cntrl
  | digit
  | graph
  | lower
  | print
  | punct
  | space
  | upper
  | word
  | xdigit
deriving DecidableEq, Repr

/-- The name of a character property: a value alone, or a property and its value. -/
structure PropertyName where
  property : Option (List Char)
  value : List Char
deriving DecidableEq, Repr

inductive SetOperator where
  | intersection
  | difference
  | symmetricDifference
deriving DecidableEq, Repr

inductive SetTree where
  | single (l : Literal)
  | range (first last : Literal)
  /-- A backslash and a letter. -/
  | shorthand (s : Shorthand) (negated : Bool)
  | property (p : PropertyName) (negated : Bool)
  | posix (p : PosixClass) (negated : Bool)
  /-- Items side by side. -/
  | union (items : List SetTree)
  | operation (op : SetOperator) (left right : SetTree)
  | bracketed (negated : Bool) (body : SetTree)
deriving Repr

inductive Anchor where
  | lineStart
  | lineEnd
  | textStart
  | textEnd
  | boundary
  | noBoundary
  | wordStart
  | wordEnd
  | wordStartHalf
  | wordEndHalf
deriving DecidableEq, Repr

inductive Tree where
  | empty
  | literal (l : Literal)
  | dot
  | anchor (a : Anchor)
  | shorthand (s : Shorthand) (negated : Bool)
  | property (p : PropertyName) (negated : Bool)
  | bracketed (negated : Bool) (body : SetTree)
  /-- Switches that hold from here to the end of the enclosing group. -/
  | switches (s : List Switch)
  /-- A group, with the switches that hold in it. -/
  | group (s : List Switch) (body : Tree)
  | repeated (body : Tree) (least : Nat) (most : Option Nat)
  | concat (parts : List Tree)
  | alternation (branches : List Tree)
deriving Repr

mutual

def SetTree.depth : SetTree → Nat
  | .union items => SetTree.depths items + 1
  | .operation _ a b => max a.depth b.depth + 1
  | .bracketed _ body => body.depth + 1
  | _ => 0

def SetTree.depths : List SetTree → Nat
  | [] => 0
  | t :: rest => max t.depth (SetTree.depths rest)

end

mutual

def Tree.depth : Tree → Nat
  | .bracketed _ body => body.depth + 1
  | .group _ body => body.depth + 1
  | .repeated body _ _ => body.depth + 1
  | .concat parts => Tree.depths parts + 1
  | .alternation branches => Tree.depths branches + 1
  | _ => 0

def Tree.depths : List Tree → Nat
  | [] => 0
  | t :: rest => max t.depth (Tree.depths rest)

end

def depthLimit : Nat := 250

/-- The memory in bytes that the automaton of a pattern may take. -/
def weightLimit : Nat := 10 * 1024 * 1024

def encodedLength (c : Char) : Nat :=
  if c.toNat < 0x80 then 1 else if c.toNat < 0x800 then 2 else if c.toNat < 0x10000 then 3 else 4

/-- An estimate of the memory that a shorthand takes in an automaton, not a count of its states:
most of it is in the sequences of bytes that encode the members. -/
def Shorthand.weight : Shorthand → Nat
  | .digit => 8000
  | .space => 700
  | .word => 50000

mutual

/-- An estimate, like `Shorthand.weight`, of the memory that a part of a bracketed class takes. -/
def SetTree.weight : SetTree → Nat
  | .single l => 8 * encodedLength l.char
  | .range a b => 8 * encodedLength a.char + 40 * (encodedLength b.char - 1)
  | .shorthand s _ => s.weight
  | .property _ _ => 20000
  | .posix _ _ => 32
  | .union items => SetTree.weights items
  | .operation _ a b => a.weight + b.weight
  | .bracketed negated body => body.weight + if negated then 500 else 0

def SetTree.weights : List SetTree → Nat
  | [] => 0
  | t :: rest => t.weight + SetTree.weights rest

end

mutual

/-- An estimate of the memory that a pattern takes when its repetitions are written out. -/
def Tree.weight : Tree → Nat
  | .empty => 0
  | .literal l => 32 * encodedLength l.char
  | .dot => 500
  | .anchor _ => 32
  | .shorthand s _ => s.weight
  | .property _ _ => 20000
  | .bracketed negated body => 64 + body.weight + if negated then 500 else 0
  | .switches _ => 0
  | .group _ body => 64 + body.weight
  | .repeated body least most =>
    match most with
    | none => body.weight * max least 1 + 64
    | some n => body.weight * n + 36 * (n - least) + 32
  | .concat parts => Tree.weights parts
  | .alternation branches => 64 + Tree.weights branches

def Tree.weights : List Tree → Nat
  | [] => 0
  | t :: rest => t.weight + Tree.weights rest

end

end ConditionQuery.Pattern
