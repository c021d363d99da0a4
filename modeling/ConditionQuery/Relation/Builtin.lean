set_option autoImplicit false

/-! # The built-in relations

The relations that a graph of blocks and pages offers from the start, with their names and
the order in which they are tried.
-/

namespace ConditionQuery

/-- A built-in relation between a source and a target. -/
inductive Builtin where
  /-- The source is the block that the source's name identifies. -/
  | self
  | references
  | isReferencedBy
  | isInPage
  | hasTitle
  | withTextInTitle
  | hasAttribute
  | hasChild
  | hasParent
  | hasAncestor
  | hasDescendant
  | withText
  | createdBy
  | editedBy
  | referencesTitle
  | hasHeading
  | isInPageWithTitle
  | createdAfter
  | createdBefore
  | editedAfter
  | editedBefore
deriving DecidableEq, Repr

namespace Builtin

def all : List Builtin :=
  [.self, .references, .isReferencedBy, .isInPage, .hasTitle, .withTextInTitle, .hasAttribute,
    .hasChild, .hasParent, .hasAncestor, .hasDescendant, .withText, .createdBy, .editedBy,
    .referencesTitle, .hasHeading, .isInPageWithTitle, .createdAfter, .createdBefore,
    .editedAfter, .editedBefore]

/-- The name of the relation that labels leave out. -/
def selfName : String := "self"

def name : Builtin → String
  | .self => selfName
  | .references => "references"
  | .isReferencedBy => "is referenced by"
  | .isInPage => "is in page"
  | .hasTitle => "has title"
  | .withTextInTitle => "with text in title"
  | .hasAttribute => "has attribute"
  | .hasChild => "has child"
  | .hasParent => "has parent"
  | .hasAncestor => "has ancestor"
  | .hasDescendant => "has descendant"
  | .withText => "with text"
  | .createdBy => "created by"
  | .editedBy => "edited by"
  | .referencesTitle => "references title"
  | .hasHeading => "has heading"
  | .isInPageWithTitle => "is in page with title"
  | .createdAfter => "created after"
  | .createdBefore => "created before"
  | .editedAfter => "edited after"
  | .editedBefore => "edited before"

def ofName? (name : String) : Option Builtin :=
  all.find? fun b => b.name = name

def position (b : Builtin) : Nat :=
  all.idxOf b

end Builtin

end ConditionQuery
