import ConditionQuery.Clause.Basic

set_option autoImplicit false

/-! # The binding check

A query is sound only if every variable is bound before a function or a test uses it. The
check goes through a sequence of clauses from left to right and collects the uses of
variables that nothing has introduced. Patterns introduce the variables they mention and a
call introduces its result; alternatives introduce what every branch introduces, and a
negated group introduces nothing outside itself.
-/

namespace ConditionQuery

def Term.names (ts : List Term) : List String :=
  ts.filterMap Term.name?

def Term.unboundIn (ts : List Term) (bound : List String) : List String :=
  (Term.names ts).filter fun name => !bound.contains name

namespace Clause

/-- The outcome of the check: the names that are bound afterwards, and the uses of names that
were not, in the order found. -/
structure Scope where
  bound : List String
  /-- The uses that nothing had introduced. -/
  unbound : List String

def boundByAll : List Scope → List String
  | [] => []
  | s :: rest => s.bound.filter fun name => rest.all fun t => t.bound.contains name

mutual

/-- Checks one clause after the names in `bound`. -/
def check (bound : List String) : Clause → Scope
  | .pattern e a v => ⟨bound ++ Term.names [e, a, v], []⟩
  | .anyOf branches =>
    let scopes := checkBranches bound branches
    ⟨bound ++ boundByAll scopes, scopes.flatMap Scope.unbound⟩
  | .noneOf clauses => ⟨bound, (checkAll bound clauses).unbound⟩
  | .bind _ arguments result => ⟨bound ++ [result.text], Term.unboundIn arguments bound⟩
  | .test _ arguments => ⟨bound, Term.unboundIn arguments bound⟩

def checkAll (bound : List String) : List Clause → Scope
  | [] => ⟨bound, []⟩
  | c :: rest =>
    let first := check bound c
    let last := checkAll first.bound rest
    ⟨last.bound, first.unbound ++ last.unbound⟩

/-- Checks alternatives, each of them after the names in `bound`. -/
def checkBranches (bound : List String) : List Clause → List Scope
  | [] => []
  | c :: rest => check bound c :: checkBranches bound rest

end

/-- The uses of variables that neither a seed nor a clause before them introduces, in the
order found and with repetitions. -/
def unboundVariables (clauses : List Clause) (seeds : List String) : List String :=
  (checkAll seeds clauses).unbound

end Clause

end ConditionQuery
