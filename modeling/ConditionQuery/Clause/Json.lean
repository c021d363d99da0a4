import ConditionQuery.Clause.Basic
import ConditionQuery.Json.Basic

set_option autoImplicit false

/-! # Clauses as JSON

The exchange form of terms and clauses. Every value is an object whose field `type` tells
its shape. Reading looks fields up by name, so their order does not matter and fields that
the shape does not use are ignored. An array with the values of all fields in order, the
type first, is read too.
-/

namespace ConditionQuery

namespace Term

def toJson : Term → Json
  | .var name => .object [("type", .text "variable"), ("value", .text name)]
  | .const text => .object [("type", .text "constant"), ("value", .text text)]

def ofJson? (j : Json) : Option Term := do
  let j := j.record ["type", "value"]
  let kind ← j.textField? "type"
  let value ← j.textField? "value"
  if kind = "variable" then return .var value
  else if kind = "constant" then return .const value
  else none

def listOfJson? (j : Json) : Option (List Term) :=
  j.items?.bind fun items => items.mapM ofJson?

/-- The JSON form of a term that a result is bound to. -/
def toBindingJson (result : Term) : Json :=
  .object [("type", .text "bind-scalar"), ("variable", result.toJson)]

def ofBindingJson? (j : Json) : Option Term := do
  let j := j.record ["type", "variable"]
  let kind ← j.textField? "type"
  if kind = "bind-scalar" then (j.field? "variable").bind ofJson? else none

end Term

namespace Clause

inductive Shape where
  | pattern
  | anyOf
  | noneOf
  | bind
  | test
deriving DecidableEq, Repr

def Shape.name : Shape → String
  | .pattern => "data-pattern"
  | .anyOf => "or-clause"
  | .noneOf => "not-clause"
  | .bind => "fn-expr"
  | .test => "pred-expr"

def Shape.ofName? (name : String) : Option Shape :=
  [pattern, anyOf, noneOf, bind, test].find? fun s => s.name = name

mutual

def toJson : Clause → Json
  | .pattern e a v =>
    .object [("type", .text Shape.pattern.name),
      ("arguments", .array ([e, a, v].map Term.toJson))]
  | .anyOf branches =>
    .object [("type", .text Shape.anyOf.name), ("clauses", .array (toJsons branches))]
  | .noneOf clauses =>
    .object [("type", .text Shape.noneOf.name), ("clauses", .array (toJsons clauses))]
  | .bind function arguments result =>
    .object [("type", .text Shape.bind.name), ("fn", .text function),
      ("arguments", .array (arguments.map Term.toJson)), ("binding", result.toBindingJson)]
  | .test predicate arguments =>
    .object [("type", .text Shape.test.name), ("pred", .text predicate),
      ("arguments", .array (arguments.map Term.toJson))]

def toJsons : List Clause → List Json
  | [] => []
  | c :: rest => toJson c :: toJsons rest

end

def patternOfJson? (terms : Json) : Option Clause :=
  match Term.listOfJson? terms with
  | some [e, a, v] => some (.pattern e a v)
  | _ => none

/-- Reads the parts of a call whose result is bound. -/
def bindOfJson? (function arguments result : Json) : Option Clause := do
  let function ← function.text?
  let arguments ← Term.listOfJson? arguments
  let result ← Term.ofBindingJson? result
  return .bind function arguments result

def testOfJson? (predicate arguments : Json) : Option Clause := do
  let predicate ← predicate.text?
  let arguments ← Term.listOfJson? arguments
  return .test predicate arguments

mutual

def ofJson? : Json → Option Clause
  | .object fields =>
    match ((fields.lookup "type").bind Json.text?).bind Shape.ofName? with
    | some .pattern => do patternOfJson? (← fields.lookup "arguments")
    | some .anyOf => (ofFields? fields).map .anyOf
    | some .noneOf => (ofFields? fields).map .noneOf
    | some .bind => do
      bindOfJson? (← fields.lookup "fn") (← fields.lookup "arguments") (← fields.lookup "binding")
    | some .test => do testOfJson? (← fields.lookup "pred") (← fields.lookup "arguments")
    | none => none
  | .array (.text name :: values) =>
    match Shape.ofName? name, values with
    | some .pattern, [terms] => patternOfJson? terms
    | some .anyOf, [.array items] => (ofItems? items).map .anyOf
    | some .noneOf, [.array items] => (ofItems? items).map .noneOf
    | some .bind, [function, arguments, result] => bindOfJson? function arguments result
    | some .test, [predicate, arguments] => testOfJson? predicate arguments
    | _, _ => none
  | _ => none

/-- Reads the clauses in the first field named `clauses`. -/
def ofFields? : List (String × Json) → Option (List Clause)
  | [] => none
  | (name, j) :: rest =>
    if name = "clauses" then
      match j with
      | .array items => ofItems? items
      | _ => none
    else ofFields? rest

def ofItems? : List Json → Option (List Clause)
  | [] => some []
  | j :: rest => do
    let c ← ofJson? j
    let cs ← ofItems? rest
    return c :: cs

end

def listOfJson? (j : Json) : Option (List Clause) :=
  j.items?.bind ofItems?

end Clause

end ConditionQuery
