import ConditionQuery.Clause.Basic
import ConditionQuery.Text.Symbol

set_option autoImplicit false

/-! # Clauses as Datalog text

The text of a sequence of clauses, as it stands after `:where` in a query. Neighbours are
separated by one space; a group without clauses and a call without arguments keep the space
that stands before them.
-/

namespace ConditionQuery

/-- Texts with one space between neighbours. -/
def spaced : List (List Char) → List Char
  | [] => []
  | [t] => t
  | t :: rest => t ++ ' ' :: spaced rest

/-- The text of a term: a symbol, or the constant as it is. -/
def Term.datalog : Term → List Char
  | .var name => Text.Symbol.ofName name
  | .const text => text.toList

def Term.datalogs (ts : List Term) : List Char :=
  spaced (ts.map Term.datalog)

namespace Clause

mutual

def datalog : Clause → List Char
  | .pattern e a v => '[' :: Term.datalogs [e, a, v] ++ [']']
  | .anyOf branches => "(or ".toList ++ datalogs branches ++ [')']
  | .noneOf clauses => "(not ".toList ++ datalogs clauses ++ [')']
  | .bind function arguments result =>
    ['[', '('] ++ function.toList ++ ' ' :: Term.datalogs arguments ++ ')' :: ' '
      :: result.datalog ++ [']']
  | .test predicate arguments =>
    ['[', '('] ++ predicate.toList ++ ' ' :: Term.datalogs arguments ++ [')', ']']

def datalogs : List Clause → List Char
  | [] => []
  | [c] => datalog c
  | c :: rest => datalog c ++ ' ' :: datalogs rest

end

/-- The text of a sequence of clauses. -/
def toDatalog (clauses : List Clause) : String :=
  String.ofList (datalogs clauses)

end Clause

end ConditionQuery
