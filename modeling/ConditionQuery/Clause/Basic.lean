import ConditionQuery.Text.Decimal
import ConditionQuery.Text.Literal

set_option autoImplicit false

/-! # Clauses

The fragments of a query: patterns over the graph's triples, groups of alternatives, negated
groups, calls of functions whose results are bound, and tests. Their arguments are terms: a
logic variable, or a constant whose text is already in its written form. Constants are made
by the functions of this module, which quote and escape in one place.
-/

namespace ConditionQuery

/-- An argument of a clause. -/
inductive Term where
  /-- A logic variable; any text may be its name. -/
  | var (name : String)
  /-- A constant in its written form. -/
  | const (text : String)
deriving DecidableEq, Repr

namespace Term

/-- An attribute keyword such as `:block/refs`, written as it is. -/
def keyword (k : String) : Term :=
  .const k

def string (s : String) : Term :=
  .const (String.ofList (Text.Literal.encode s.toList))

def number (i : Int) : Term :=
  .const (String.ofList (Text.Decimal.write i))

def name? : Term → Option String
  | .var name => some name
  | .const _ => none

/-- The name of a variable or the written form of a constant. -/
def text : Term → String
  | .var name => name
  | .const text => text

end Term

/-- A fragment of a query. -/
inductive Clause where
  /-- A triple of the graph. -/
  | pattern (entity attr value : Term)
  /-- Satisfied if one of the branches is. -/
  | anyOf (branches : List Clause)
  /-- Satisfied if the clauses are not satisfied together. -/
  | noneOf (clauses : List Clause)
  | bind (function : String) (arguments : List Term) (result : Term)
  | test (predicate : String) (arguments : List Term)
deriving Repr

/-- Induction on clauses: a property of all members of a group passes to the group. -/
@[elab_as_elim, induction_eliminator]
theorem Clause.ind {motive : Clause → Prop}
    (pattern : ∀ e a v, motive (.pattern e a v))
    (anyOf : ∀ branches, (∀ c ∈ branches, motive c) → motive (.anyOf branches))
    (noneOf : ∀ clauses, (∀ c ∈ clauses, motive c) → motive (.noneOf clauses))
    (bind : ∀ function arguments result, motive (.bind function arguments result))
    (test : ∀ predicate arguments, motive (.test predicate arguments)) (c : Clause) :
    motive c := by
  refine @Clause.rec motive (fun cs => ∀ c ∈ cs, motive c) pattern anyOf noneOf bind test ?_ ?_ c
  · intro c hc
    exact absurd hc List.not_mem_nil
  · intro head tail hhead htail c hc
    rcases List.mem_cons.mp hc with rfl | hc
    · exact hhead
    · exact htail c hc

/-- A triple with a keyword as its attribute. -/
def Clause.triple (entity : Term) (attr : String) (value : Term) : Clause :=
  .pattern entity (.keyword attr) value

def Clause.edge (source attr target : String) : Clause :=
  .triple (.var source) attr (.var target)

end ConditionQuery
