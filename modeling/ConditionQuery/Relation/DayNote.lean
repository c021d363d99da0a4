import ConditionQuery.Clause.Basic
import ConditionQuery.Text.Blank

set_option autoImplicit false

/-! # Day notes

The target `{date}` stands for any day note: a page whose title is a date. Where a relation
compares titles, such a target is replaced by a test of the title against a pattern.
-/

namespace ConditionQuery

namespace DayNote

def defaultPattern : String :=
  "(January|February|March|April|May|June|July|August|September|October|November|December)"
    ++ " [0-3]?[0-9](st|nd|rd|th), [0-9][0-9][0-9][0-9]"

/-- The variable that the pattern is bound to. -/
def regexVariable : String := "date-regex"

def placeholder : List Char :=
  "\x7bdate\x7d".toList

/-- Takes the placeholder, with letters of either case, from the start of a text. -/
def takePlaceholder? : List Char → List Char → Option (List Char)
  | [], s => some s
  | p :: ps, c :: s => if c.toLower = p then takePlaceholder? ps s else none
  | _ :: _, [] => none

/-- A text is the placeholder, with any blanks around it. -/
def isPlaceholder (text : String) : Bool :=
  match takePlaceholder? placeholder (Text.trimLeft text.toList) with
  | some rest => rest.all Text.isBlank
  | none => false

/-- The clauses that ask for a day note as `node`: its title is bound, the pattern is made,
and the title is tested against it. -/
def clauses (node pattern : String) : List Clause :=
  let title := node ++ "-Title"
  [.triple (.var node) ":node/title" (.var title),
    .bind "re-pattern" [.string pattern] (.var regexVariable),
    .test "re-find" [.var regexVariable, .var title]]

end DayNote

end ConditionQuery
