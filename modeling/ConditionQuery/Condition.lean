import ConditionQuery.Json.Basic

set_option autoImplicit false

/-! # Conditions

A row of a user's query: the source has a relation to the target, or has not. The relation is
the text that the user typed.
-/

namespace ConditionQuery

/-- A row of a user's query. -/
structure Condition where
  source : String
  /-- The relation as typed. -/
  relation : String
  /-- The variable or text that the source is compared with. -/
  target : String
  /-- The relation must not hold. -/
  negate : Bool
  uid : String
deriving DecidableEq, Repr

namespace Condition

def toJson (c : Condition) : Json :=
  .object [("source", .text c.source), ("relation", .text c.relation), ("target", .text c.target),
    ("not", .bool c.negate), ("uid", .text c.uid)]

def flag? : Json → Option Bool
  | .bool b => some b
  | _ => none

/-- Reads a condition. A condition is not negated and has no identifier unless it says so. -/
def ofJson? (j : Json) : Option Condition := do
  let j := j.record ["source", "relation", "target", "not", "uid"]
  let source ← j.textField? "source"
  let relation ← j.textField? "relation"
  let target ← j.textField? "target"
  let negate ← j.fieldD? "not" false flag?
  let uid ← j.fieldD? "uid" "" Json.text?
  return ⟨source, relation, target, negate, uid⟩

def listOfJson? (j : Json) : Option (List Condition) :=
  j.items?.bind fun items => items.mapM ofJson?

end Condition

end ConditionQuery
