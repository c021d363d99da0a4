import ConditionQuery.Text.Decimal
import ConditionQuery.Text.Hexadecimal

set_option autoImplicit false

/-! # JSON values

The values in which clauses, conditions and settings are exchanged, and their printed form
over several lines. Numbers are integers, and the fields of an object keep their order.
-/

namespace ConditionQuery

inductive Json where
  | null
  | bool (b : Bool)
  | integer (i : Int)
  | text (s : String)
  | array (items : List Json)
  | object (fields : List (String × Json))
deriving Inhabited, Repr

namespace Json

def field? (name : String) : Json → Option Json
  | .object fields => fields.lookup name
  | _ => none

def text? : Json → Option String
  | .text s => some s
  | _ => none

def items? : Json → Option (List Json)
  | .array items => some items
  | _ => none

/-- The text in a field that must be there. -/
def textField? (name : String) (j : Json) : Option String :=
  (j.field? name).bind text?

def texts? (j : Json) : Option (List String) :=
  j.items?.bind fun items => items.mapM text?

/-- The value of a field that may be missing, with a default for it. A field that is there
has to be readable. -/
def fieldD? {α : Type} (name : String) (fallback : α) (read : Json → Option α) (j : Json) :
    Option α :=
  match j.field? name with
  | none => some fallback
  | some v => read v

/-- A record as an object. It may be written as an array of its values, in the order of the
names of its fields. -/
def record (names : List String) : Json → Json
  | .array items =>
    if items.length ≤ names.length then .object (names.zip items) else .array items
  | j => j

/-! ## Printing -/

def escapeChar (c : Char) : List Char :=
  if c = '"' then ['\\', '"']
  else if c = '\\' then ['\\', '\\']
  else if c = '\n' then ['\\', 'n']
  else if c = '\r' then ['\\', 'r']
  else if c = '\t' then ['\\', 't']
  else if c = '\x08' then ['\\', 'b']
  else if c = '\x0c' then ['\\', 'f']
  else if c.toNat < 0x10 then '\\' :: 'u' :: '0' :: '0' :: '0' :: Text.Hexadecimal.write c.toNat
  else if c.toNat < 0x20 then '\\' :: 'u' :: '0' :: '0' :: Text.Hexadecimal.write c.toNat
  else [c]

def quote (s : String) : List Char :=
  '"' :: s.toList.flatMap escapeChar ++ ['"']

/-- A new line at a given depth. -/
def newLine (depth : Nat) : List Char :=
  '\n' :: List.replicate (2 * depth) ' '

mutual

/-- The printed form of a value at a given depth, with two spaces for each step inward and
one item or field on a line. -/
def pretty (depth : Nat) : Json → List Char
  | .null => "null".toList
  | .bool b => if b then "true".toList else "false".toList
  | .integer i => Text.Decimal.write i
  | .text s => quote s
  | .array [] => ['[', ']']
  | .array (j :: rest) =>
    '[' :: newLine (depth + 1) ++ pretty (depth + 1) j ++ prettyItems (depth + 1) rest
      ++ newLine depth ++ [']']
  | .object [] => ['\x7b', '\x7d']
  | .object ((name, j) :: rest) =>
    '\x7b' :: newLine (depth + 1) ++ quote name ++ [':', ' '] ++ pretty (depth + 1) j
      ++ prettyFields (depth + 1) rest ++ newLine depth ++ ['\x7d']

/-- The printed form of the items of an array after the first one. -/
def prettyItems (depth : Nat) : List Json → List Char
  | [] => []
  | j :: rest => ',' :: newLine depth ++ pretty depth j ++ prettyItems depth rest

def prettyFields (depth : Nat) : List (String × Json) → List Char
  | [] => []
  | (name, j) :: rest =>
    ',' :: newLine depth ++ quote name ++ [':', ' '] ++ pretty depth j ++ prettyFields depth rest

end

end Json

end ConditionQuery
