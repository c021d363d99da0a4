import ConditionQuery.Relation.Builtin
import ConditionQuery.Relation.DayNote
import ConditionQuery.Services.Basic

set_option autoImplicit false

/-! # The clauses of the built-in relations

Every built-in relation turns a source and a target into a fixed arrangement of clauses. The
source is a logic variable; the target is a variable or a text, as the relation has it.
Variables that an arrangement needs for itself are named after the source or the target with
a hyphen and a word added.
-/

namespace ConditionQuery

structure Request where
  source : String
  /-- The variable or text that it is compared with. -/
  target : String
  uid : String
deriving DecidableEq, Repr

/-- What an arrangement of clauses may depend on besides the request. -/
structure Setting where
  services : Services
  dayNotePattern : String

/-- Why a relation has no clauses for a request. -/
inductive GenerateError where
  | service (e : ServiceError)
  | custom (detail : String)
deriving DecidableEq, Repr

def GenerateError.message : GenerateError → String
  | .service e => e.message
  | .custom detail => "Custom relation failed: " ++ detail

namespace Template

/-- The variable that an arrangement needs for itself. -/
def helper (node word : String) : Term :=
  .var (node ++ "-" ++ word)

/-- The title as a string literal, in the form in which titles are stored. -/
def title (setting : Setting) (text : String) : Term :=
  .string (setting.services.normalizeTitle text)

/-- The title of `node` is `text`, or any day note's if `text` is the placeholder. -/
def titled (setting : Setting) (node text : String) : List Clause :=
  if DayNote.isPlaceholder text then DayNote.clauses node setting.dayNotePattern
  else [.triple (.var node) ":node/title" (title setting text)]

def includes (whole part : Term) : Clause :=
  .test "clojure.string/includes?" [whole, part]

/-- The user that an attribute of the source leads to has a name. -/
def user (source attr : String) (name : Term) : List Clause :=
  [.triple (.var source) attr (helper source "User"),
    .triple (helper source "User") ":user/display-name" name]

/-- Headings have numbers as their levels; another text is compared as it is. -/
def headingLevel (target : String) : Term :=
  match Text.Decimal.readInt64? (Text.trimmed target) with
  | some level => .number level
  | none => .string target

/-- A time of the source compared with an instant, which is the first operand. -/
def timed (source attr word operator : String) (instant : Instant) : List Clause :=
  [.triple (.var source) attr (helper source word),
    .test operator [.number instant.unixMillis, helper source word]]

def timedBy (setting : Setting) (r : Request) (attr word operator : String) :
    Except GenerateError (List Clause) :=
  match setting.services.readDate r.target with
  | .ok instant => .ok (timed r.source attr word operator instant)
  | .error e => .error (.service e)

end Template

open Template in
/-- The clauses of a built-in relation for a request. -/
def Builtin.generate (b : Builtin) (r : Request) (setting : Setting) :
    Except GenerateError (List Clause) :=
  match b with
  | .self => .ok [.triple (.var r.source) ":block/uid" (.string r.source)]
  | .references => .ok [.edge r.source ":block/refs" r.target]
  | .isReferencedBy => .ok [.edge r.target ":block/refs" r.source]
  | .isInPage => .ok [.edge r.source ":block/page" r.target]
  | .hasTitle => .ok (titled setting r.source r.target)
  | .withTextInTitle =>
    .ok [.triple (.var r.source) ":node/title" (helper r.source "Title"),
      includes (helper r.source "Title") (title setting r.target)]
  | .hasAttribute =>
    .ok [.triple (helper r.target "Attribute") ":node/title" (.string r.target),
      .triple (.var r.target) ":block/refs" (helper r.target "Attribute"),
      .edge r.target ":block/parents" r.source]
  | .hasChild => .ok [.edge r.source ":block/children" r.target]
  | .hasParent => .ok [.edge r.target ":block/children" r.source]
  | .hasAncestor => .ok [.edge r.source ":block/parents" r.target]
  | .hasDescendant => .ok [.edge r.target ":block/parents" r.source]
  | .withText =>
    .ok [.anyOf [.triple (.var r.source) ":block/string" (helper r.source "String"),
        .triple (.var r.source) ":node/title" (helper r.source "String")],
      includes (helper r.source "String") (title setting r.target)]
  | .createdBy => .ok (user r.source ":create/user" (title setting r.target))
  | .editedBy => .ok (user r.source ":edit/user" (title setting r.target))
  | .referencesTitle =>
    .ok (.edge r.source ":block/refs" r.target :: titled setting r.target r.target)
  | .hasHeading => .ok [.triple (.var r.source) ":block/heading" (headingLevel r.target)]
  | .isInPageWithTitle =>
    .ok (.edge r.source ":block/page" r.target :: titled setting r.target r.target)
  | .createdAfter => timedBy setting r ":create/time" "CreateTime" "<"
  | .createdBefore => timedBy setting r ":create/time" "CreateTime" ">"
  | .editedAfter => timedBy setting r ":edit/time" "EditTime" "<"
  | .editedBefore => timedBy setting r ":edit/time" "EditTime" ">"

end ConditionQuery
