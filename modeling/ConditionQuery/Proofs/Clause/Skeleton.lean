import ConditionQuery.Proofs.Clause.Readability

set_option autoImplicit false

/-! # Skeletons of clauses

The skeleton of a clause is what is left of it when the names of variables, the contents of string
literals and the values of numbers are taken out: the tree of groups, the names of functions and
tests, the keywords, and at every other place which of the three kinds of terms stands there.
-/

namespace ConditionQuery

/-- What a term is, apart from what a text or a number of the user's decides. -/
inductive Term.Kind where
  | variable
  | string
  | keyword (k : String)
  | number
deriving DecidableEq, Repr

namespace Term

/-- The kind of a term. String literals start with a quote, keywords with a colon, and numbers with
neither. -/
def kind : Term → Kind
  | .var _ => .variable
  | .const text =>
    match text.toList.head? with
    | some '"' => .string
    | some ':' => .keyword text
    | _ => .number

@[simp] theorem kind_var (name : String) : kind (.var name) = .variable := rfl

@[simp] theorem kind_string (s : String) : kind (.string s) = .string := by
  rw [string, kind, String.toList_ofList]
  rfl

theorem kind_keyword {k : String} (hk : IsKeyword k) : kind (.keyword k) = .keyword k := by
  rw [keyword, kind, hk.1]
  rfl

@[simp] theorem kind_number (i : Int) : kind (.number i) = .number := by
  rw [number, kind, String.toList_ofList]
  -- neither a quote nor a colon occurs in a number
  have hsymbol : ∀ c, (Text.Decimal.write i).head? = some c →
      Text.Symbol.isSymbolChar c = true :=
    fun c hc => isSymbolChar_of_mem_write (List.mem_of_mem_head? hc)
  split
  · next hhead => exact absurd (hsymbol _ hhead) (by decide)
  · next hhead => exact absurd (hsymbol _ hhead) (by decide)
  · rfl

end Term

inductive Skeleton where
  | pattern (entity attr value : Term.Kind)
  | anyOf (branches : List Skeleton)
  | noneOf (clauses : List Skeleton)
  | bind (function : String) (arguments : List Term.Kind) (result : Term.Kind)
  | test (predicate : String) (arguments : List Term.Kind)
deriving Repr

namespace Clause

mutual

def skeleton : Clause → Skeleton
  | .pattern e a v => .pattern e.kind a.kind v.kind
  | .anyOf branches => .anyOf (skeletons branches)
  | .noneOf clauses => .noneOf (skeletons clauses)
  | .bind function arguments result => .bind function (arguments.map Term.kind) result.kind
  | .test predicate arguments => .test predicate (arguments.map Term.kind)

def skeletons : List Clause → List Skeleton
  | [] => []
  | c :: rest => skeleton c :: skeletons rest

end

end Clause

end ConditionQuery
