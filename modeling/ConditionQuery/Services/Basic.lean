import ConditionQuery.Calendar.Reading
import ConditionQuery.Services.Catalog

set_option autoImplicit false

/-! # Services of the surroundings

The clauses of a condition lean on three services of the program around it: the canonical form
of a title, the instant that a text stands for, and the titles and names that are known. They
are values here, so that clauses are a function of their inputs.
-/

namespace ConditionQuery

/-- The services of the surroundings. -/
structure Services where
  /-- The form in which a title is stored. -/
  normalizeTitle : String → String
  readDate : String → Except ServiceError Instant
  pageTitles : Except ServiceError (List String)
  userNames : Except ServiceError (List String)

namespace Services

/-- Dates read relative to a reference instant. -/
def readDateFrom (now : Instant) (text : String) : Except ServiceError Instant :=
  (Instant.ofText now text).mapError fun p => .unreadableDate text p.message

/-- The services that take titles as they are, read dates relative to a reference instant
and know a fixed catalog. -/
def ofCatalog (now : Instant) (catalog : Catalog) : Services :=
  ⟨id, readDateFrom now, .ok catalog.pages, .ok catalog.users⟩

end Services

end ConditionQuery
