import ConditionQuery.Relation.Template

set_option autoImplicit false

/-! # Handlers

What is registered under the name of a relation: how its clauses are generated, and where the
suggestions for its targets come from.
-/

namespace ConditionQuery

inductive Generator where
  | builtin (b : Builtin)
  | custom (generate : Request → Setting → Except GenerateError (List Clause))

def Generator.generate : Generator → Request → Setting → Except GenerateError (List Clause)
  | .builtin b => b.generate
  | .custom generate => generate

/-- Where the suggestions for a relation's targets come from. -/
inductive TargetOptions where
  | fixed (values : List String)
  | dynamic (options : String → Services → Except ServiceError (List String))

def TargetOptions.resolve (o : TargetOptions) (source : String) (services : Services) :
    Except ServiceError (List String) :=
  match o with
  | .fixed values => .ok values
  | .dynamic options => options source services

namespace TargetOptions

def pageTitles : TargetOptions :=
  .dynamic fun _ services => services.pageTitles

def userNames : TargetOptions :=
  .dynamic fun _ services => services.userNames

/-- The levels of headings; zero is a block that is no heading. -/
def headingLevels : TargetOptions :=
  .fixed ["1", "2", "3", "0"]

end TargetOptions

/-- What is registered under a relation's name. -/
structure Handler where
  generator : Generator
  /-- Where suggestions for targets come from, if there are any. -/
  options : Option TargetOptions

def Builtin.options : Builtin → Option TargetOptions
  | .hasTitle | .hasAttribute | .referencesTitle | .isInPageWithTitle => some .pageTitles
  | .createdBy | .editedBy => some .userNames
  | .hasHeading => some .headingLevels
  | _ => none

namespace Handler

def builtin (b : Builtin) : Handler :=
  ⟨.builtin b, b.options⟩

/-- The handler of a relation of the user's own, without suggestions. -/
def custom (generate : Request → Setting → Except GenerateError (List Clause)) : Handler :=
  ⟨.custom generate, none⟩

/-- The built-in relation that a handler stands for, if it does. -/
def builtin? (h : Handler) : Option Builtin :=
  match h.generator with
  | .builtin b => some b
  | .custom _ => none

end Handler

end ConditionQuery
