import ConditionQuery.Settings

set_option autoImplicit false

/-! # Reports

What the program says of an error: the error itself, and below it the errors that it comes from,
with numbers if there are several of them.
-/

namespace ConditionQuery.CommandLine

/-- An error, and the errors that it comes from, the nearest one first. -/
structure Report where
  message : String
  causes : List String
deriving DecidableEq, Repr

namespace Report

/-- A text behind `first`, with `rest` before each of its further lines. -/
def indented (first rest text : String) : String :=
  first ++ String.intercalate ("\n" ++ rest) (text.splitOn "\n")

/-- A cause behind its number, which is flush right in five columns. -/
def numbered (number : Nat) (cause : String) : String :=
  let digits := (Text.Decimal.writeNat number).leftpad 5 ' '
  indented (String.ofList digits ++ ": ") "       " cause

def causeLines : List String → List String
  | [] => []
  | [cause] => ["", "Caused by:", indented "    " "    " cause]
  | causes => ["", "Caused by:"] ++ causes.mapIdx numbered

def text (r : Report) : String :=
  String.intercalate "\n" (("Error: " ++ r.message) :: causeLines r.causes)

/-- Settings that are missing are reported as such. Why they are is one of the causes. -/
def ofSettings (e : SettingsError) : Report :=
  ⟨"Configuration error", [e.message, e.cause]⟩

def ofService (e : ServiceError) : Report :=
  ⟨e.message, []⟩

def ofTranslation (e : TranslateError) : Report :=
  ⟨e.message, [e.cause]⟩

end Report

end ConditionQuery.CommandLine
