import ConditionQuery.Text.Utf8

set_option autoImplicit false

/-! # Failures of the surroundings

What can go wrong while clauses are made: a file that cannot be read, a text that stands for
no instant, a catalog that cannot be listed.
-/

namespace ConditionQuery

/-- Why a file cannot be read. -/
inductive FileProblem where
  | notFound
  | denied
  | notDirectory
  | isDirectory
  /-- Its bytes are not text. -/
  | notText
deriving DecidableEq, Repr

def FileProblem.message : FileProblem → String
  | .notFound => "No such file or directory (os error 2)"
  | .denied => "Permission denied (os error 13)"
  | .notDirectory => "Not a directory (os error 20)"
  | .isDirectory => "Is a directory (os error 21)"
  | .notText => "stream did not contain valid UTF-8"

/-- What a file holds, or why it cannot be read. -/
abbrev FileContent : Type :=
  Except FileProblem (List UInt8)

def FileContent.text (content : FileContent) : Except FileProblem String :=
  content.bind fun bytes =>
    match Text.Utf8.read? bytes with
    | some text => .ok text
    | none => .error .notText

inductive ServiceError where
  | unreadableDate (input reason : String)
  /-- The known titles and names cannot be listed. -/
  | catalogUnavailable (detail : String)
deriving DecidableEq, Repr

def ServiceError.message : ServiceError → String
  | .unreadableDate input reason => "Could not parse '" ++ input ++ "' as a date: " ++ reason
  | .catalogUnavailable detail => "Catalog unavailable: " ++ detail

end ConditionQuery
