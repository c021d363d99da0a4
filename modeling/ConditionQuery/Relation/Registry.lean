import ConditionQuery.Pattern.Meaning
import ConditionQuery.Relation.Handler

set_option autoImplicit false

/-! # The registry of relations

The relations that can be asked for, in the order in which their names were registered. A
text that names no relation exactly is searched for the names instead: every name is also a
pattern, and the first one that is found somewhere in the text, in letters of either case,
is the relation that is meant.
-/

namespace ConditionQuery

structure Entry where
  key : String
  /-- The name read as a pattern, if it is one. -/
  pattern : Option Regex
  handler : Handler

namespace Entry

def make (key : String) (handler : Handler) : Entry :=
  ⟨key, Regex.ofPattern? true key, handler⟩

def isFoundIn (e : Entry) (text : String) : Bool :=
  e.pattern.any fun p => p.isFoundIn text

end Entry

inductive MatchKind where
  | exact
  /-- The relation's name, as a pattern, is found in the text. -/
  | fuzzy
deriving DecidableEq, Repr

/-- The relation that a text was taken for. -/
structure Resolved where
  key : String
  handler : Handler
  kind : MatchKind

/-- The registered relations, in the order of their registration. -/
structure Registry where
  entries : List Entry

namespace Registry

def empty : Registry :=
  ⟨[]⟩

def builtins : Registry :=
  ⟨Builtin.all.map fun b => Entry.make b.name (.builtin b)⟩

def keys (r : Registry) : List String :=
  r.entries.map Entry.key

def size (r : Registry) : Nat :=
  r.entries.length

def find? (r : Registry) (name : String) : Option Entry :=
  r.entries.find? fun e => e.key = name

def get? (r : Registry) (name : String) : Option Handler :=
  (r.find? name).map Entry.handler

def contains (r : Registry) (name : String) : Bool :=
  r.entries.any fun e => e.key = name

def isEmpty (r : Registry) : Bool :=
  r.entries.isEmpty

/-- Puts a handler in the first entry of a name, or in a new entry at the end. -/
def put (name : String) (handler : Handler) : List Entry → List Entry
  | [] => [Entry.make name handler]
  | e :: rest =>
    if e.key = name then { e with handler := handler } :: rest else e :: put name handler rest

/-- Registers a handler. A name that is there keeps its place and its pattern; a new one goes
to the end. -/
def register (r : Registry) (name : String) (handler : Handler) : Registry :=
  ⟨put name handler r.entries⟩

def unregister (r : Registry) (name : String) : Registry :=
  ⟨r.entries.filter fun e => e.key ≠ name⟩

/-- Whether removing a name removes anything. -/
def removes (r : Registry) (name : String) : Bool :=
  (r.unregister name).size != r.size

/-- The names that are offered to users, the longest first and names of one length in the
order of their registration. The identity relation is not offered. -/
def labels (r : Registry) : List String :=
  (r.keys.filter (· ≠ Builtin.selfName)).mergeSort fun a b => b.length ≤ a.length

/-- The relation that a text names: the one of exactly that name, or else the first one whose
name is found in the text. -/
def resolve (r : Registry) (text : String) : Option Resolved :=
  match r.find? text with
  | some e => some ⟨e.key, e.handler, .exact⟩
  | none => (r.entries.find? fun e => e.isFoundIn text).map fun e => ⟨e.key, e.handler, .fuzzy⟩

end Registry

end ConditionQuery
