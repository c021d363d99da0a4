import ConditionQuery.Json.Basic
import ConditionQuery.Services.Problem
import ConditionQuery.Yaml.Node

set_option autoImplicit false

/-! # Catalogs

The titles of the pages and the names of the users that are known, and the file that lists
them.
-/

namespace ConditionQuery

/-- The titles of the known pages and the names of the known users. -/
structure Catalog where
  pages : List String
  users : List String
deriving DecidableEq, Repr

namespace Catalog

def empty : Catalog :=
  ⟨[], []⟩

/-- Reads a catalog. Fields that are missing are empty. -/
def ofJson? (j : Json) : Option Catalog :=
  match j.record ["pages", "users"] with
  | .object fields => do
    let j := Json.object fields
    let pages ← j.fieldD? "pages" [] Json.texts?
    let users ← j.fieldD? "users" [] Json.texts?
    return ⟨pages, users⟩
  | _ => none

def ofText? (text : String) : Option Catalog := do
  let root ← Yaml.Node.ofText? text
  let fields ← root.fields?
  let pages ← Yaml.Node.fieldD? "pages" [] Yaml.Node.texts? fields
  let users ← Yaml.Node.fieldD? "users" [] Yaml.Node.texts? fields
  return ⟨pages, users⟩

def ofFile (path : String) (content : FileContent) : Except ServiceError Catalog :=
  match content.text with
  | .error problem => .error (.catalogUnavailable (path ++ ": " ++ problem.message))
  | .ok text =>
    match ofText? text with
    | some catalog => .ok catalog
    | none => .error (.catalogUnavailable (path ++ ": " ++ Yaml.problem))

end Catalog

end ConditionQuery
