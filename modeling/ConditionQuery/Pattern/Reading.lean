import ConditionQuery.Pattern.Token

set_option autoImplicit false

/-! # From tokens to trees

A row of tokens is a pattern if its parentheses match, every repetition has something to
repeat, no two groups have one name, and the tree that the tokens build keeps to the limits
on depth and weight. The weight is an estimate, so that patterns close to its limit may be decided
wrongly.
-/

namespace ConditionQuery.Pattern

/-- A group that is being read. -/
structure Level where
  opened : List Switch
  /-- The alternatives that are complete, the last one first. -/
  branches : List Tree
  /-- The parts of the alternative that is being read, the last one first. -/
  parts : List Tree

namespace Level

def start (s : List Switch) : Level :=
  ⟨s, [], []⟩

/-- Parts one after the other; one part is not wrapped. -/
def chain : List Tree → Tree
  | [] => .empty
  | [t] => t
  | parts => .concat parts

def push (l : Level) (t : Tree) : Level :=
  { l with parts := t :: l.parts }

def next (l : Level) : Level :=
  { l with branches := chain l.parts.reverse :: l.branches, parts := [] }

/-- Repeats the last part, if there is one and it is not switches. -/
def repeatLast? (l : Level) (least : Nat) (most : Option Nat) : Option Level :=
  match l.parts with
  | [] | .switches _ :: _ => none
  | t :: parts => some { l with parts := .repeated t least most :: parts }

/-- What has been read of the group; a group without a bar has one alternative, which is not
wrapped. -/
def body (l : Level) : Tree :=
  if l.branches.isEmpty then chain l.parts.reverse
  else .alternation l.next.branches.reverse

end Level

/-- Reads the rest of a pattern. `l` is the innermost group that is open, `outer` are the
groups around it. -/
def read? : Level → List Level → List Token → Option Tree
  | l, outer, [] => if outer.isEmpty then some l.body else none
  | l, outer, .atom t :: rest => read? (l.push t) outer rest
  | l, outer, .opening s _ :: rest => read? (.start s) (l :: outer) rest
  | l, outer, .closing :: rest =>
    match outer with
    | [] => none
    | enclosing :: outer => read? (enclosing.push (.group l.opened l.body)) outer rest
  | l, outer, .bar :: rest => read? l.next outer rest
  | l, outer, .repetition least most :: rest =>
    (l.repeatLast? least most).bind fun l => read? l outer rest

def groupNames (ts : List Token) : List (List Char) :=
  ts.filterMap fun
    | .opening _ name => name
    | _ => none

/-- The tree of a written pattern, if it is one. -/
def Tree.ofText? (s : List Char) : Option Tree := do
  let ts ← tokens? s
  if (groupNames ts).Nodup then
    let t ← read? (.start []) [] ts
    if t.depth ≤ depthLimit && t.weight ≤ weightLimit then return t else none
  else none

end ConditionQuery.Pattern
