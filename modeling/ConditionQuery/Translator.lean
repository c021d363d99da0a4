import ConditionQuery.Condition
import ConditionQuery.Relation.Registry

set_option autoImplicit false

/-! # From conditions to clauses

A condition becomes clauses in three steps: its relation is resolved, the relation's handler
generates clauses, and the clauses are negated if the condition says so. A relation that
cannot be resolved gives no clauses. Several conditions give the clauses of each in turn, up
to the first failure.
-/

namespace ConditionQuery

/-- Why a condition has no clauses, or a relation no suggestions. -/
inductive TranslateError where
  | generation (relation : String) (cause : GenerateError)
  | targetOptions (relation : String) (cause : ServiceError)
deriving DecidableEq, Repr

namespace TranslateError

/-- The wording of the failure that a failure comes from. -/
def cause : TranslateError → String
  | .generation _ cause => cause.message
  | .targetOptions _ cause => cause.message

def message (e : TranslateError) : String :=
  match e with
  | .generation relation _ =>
    "Relation '" ++ relation ++ "' failed to generate clauses: " ++ e.cause
  | .targetOptions relation _ =>
    "Target options for relation '" ++ relation ++ "' unavailable: " ++ e.cause

end TranslateError

/-- What the clauses of a condition depend on besides the condition. -/
structure Translator where
  registry : Registry
  /-- The services and the pattern of day-note titles. -/
  setting : Setting

namespace Translator

/-- Negates clauses as a whole. Nothing stays nothing. -/
def negateIf (negate : Bool) (clauses : List Clause) : List Clause :=
  if negate && !clauses.isEmpty then [.noneOf clauses] else clauses

def translate (t : Translator) (c : Condition) : Except TranslateError (List Clause) :=
  match t.registry.resolve c.relation with
  | none => .ok []
  | some resolved =>
    match resolved.handler.generator.generate ⟨c.source, c.target, c.uid⟩ t.setting with
    | .ok clauses => .ok (negateIf c.negate clauses)
    | .error e => .error (.generation resolved.key e)

def translateAll (t : Translator) : List Condition → Except TranslateError (List Clause)
  | [] => .ok []
  | c :: rest => do
    let first ← t.translate c
    let last ← t.translateAll rest
    return first ++ last

/-- The suggestions for the targets of the relation with exactly the given name. There are
none for an unknown relation and for one without suggestions. -/
def targetOptions (t : Translator) (source relation : String) :
    Except TranslateError (List String) :=
  match (t.registry.get? relation).bind Handler.options with
  | none => .ok []
  | some options =>
    (options.resolve source t.setting.services).mapError (.targetOptions relation)

def labels (t : Translator) : List String :=
  t.registry.labels

end Translator

end ConditionQuery
