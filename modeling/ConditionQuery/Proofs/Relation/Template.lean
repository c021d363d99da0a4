import ConditionQuery.Proofs.Clause.Binding
import ConditionQuery.Relation.Template

set_option autoImplicit false

/-! # Properties of the built-in arrangements

Every arrangement of clauses of a built-in relation is closed: its tests and calls use only
variables that the arrangement itself has introduced before, whatever the source, the target
and the services are.
-/

namespace ConditionQuery

open Clause

/-! ## Closed arrangements -/

theorem DayNote.clauses_closed (node pattern : String) : Closed (DayNote.clauses node pattern) := by
  have htitle : Closed [.triple (.var node) ":node/title" (.var (node ++ "-Title"))] :=
    Closed.pattern _ _ _
  have hregex : Closed [.bind "re-pattern" [.string pattern] (.var DayNote.regexVariable)] := by
    rw [Closed, unboundVariables_bind]
    rfl
  refine (htitle.append hregex).concat fun name hname => ?_
  rw [unboundVariables_test, Term.mem_names] at hname
  simp [someIntroduces, introduces, introduces_triple, Term.text] at hname ⊢
  rcases hname with rfl | rfl
  · exact Or.inr rfl
  · exact Or.inl (Or.inr rfl)

namespace Template

theorem titled_closed (setting : Setting) (node text : String) :
    Closed (titled setting node text) := by
  unfold titled
  split
  · exact DayNote.clauses_closed node setting.dayNotePattern
  · exact Closed.pattern _ _ _

theorem user_closed (source attr : String) (name : Term) : Closed (user source attr name) :=
  (Closed.pattern _ _ _).triple_cons _ _ _

/-- A helper variable that the first clause introduces may be tested together with a constant. -/
theorem helper_closed (e : Term) (attr : String) (node word : String) {arguments : List Term}
    (ha : Term.names arguments = [node ++ "-" ++ word]) (predicate : String) :
    Closed [.triple e attr (helper node word), .test predicate arguments] := by
  have htriple : Closed [.triple e attr (helper node word)] := Closed.pattern _ _ _
  refine htriple.concat ?_
  rw [unboundVariables_test, ha]
  simp [someIntroduces, introduces_triple, helper]

theorem timed_closed (source attr word operator : String) (instant : Instant) :
    Closed (timed source attr word operator instant) :=
  helper_closed _ _ _ _ rfl _

/-- A comparison with a time has clauses only if the target stands for an instant. -/
theorem timedBy_eq_ok {setting : Setting} {r : Request} {attr word operator : String}
    {xs : List Clause} (h : timedBy setting r attr word operator = .ok xs) :
    ∃ instant : Instant, setting.services.readDate r.target = .ok instant ∧
      xs = timed r.source attr word operator instant := by
  unfold timedBy at h
  cases hread : setting.services.readDate r.target with
  | error e =>
      rw [hread] at h
      cases h
  | ok instant =>
      rw [hread] at h
      cases h
      exact ⟨instant, rfl, rfl⟩

/-- The text of a block or the title of a page, whichever it has, contains a text. -/
theorem withText_closed (source : String) (e : Term) (s : String) :
    Closed [.anyOf [.triple e ":block/string" (helper source "String"),
        .triple e ":node/title" (helper source "String")],
      includes (helper source "String") (.string s)] := by
  have hany : Closed [.anyOf [.triple e ":block/string" (helper source "String"),
      .triple e ":node/title" (helper source "String")]] := rfl
  refine hany.concat fun name hname => ?_
  rw [includes, unboundVariables_test, Term.mem_names] at hname
  have hhelper : helper source "String" = .var name := by
    simpa [Term.string, eq_comm] using hname
  simp [someIntroduces, introduces, eachIntroduces, introduces_triple, hhelper]

/-- The level of a heading is a constant. -/
theorem headingLevel_eq_const (target : String) : ∃ text, headingLevel target = .const text := by
  unfold headingLevel
  split
  · exact ⟨_, rfl⟩
  · exact ⟨_, rfl⟩

end Template

open Template in
/-- The arrangement of every built-in relation is closed. -/
theorem Builtin.generate_closed {b : Builtin} {r : Request} {setting : Setting}
    {xs : List Clause} (h : b.generate r setting = .ok xs) : Closed xs := by
  cases b with
  | self | references | isReferencedBy | isInPage | hasChild | hasParent | hasAncestor
  | hasDescendant | hasHeading =>
      cases h
      exact Closed.pattern _ _ _
  | hasTitle =>
      cases h
      exact titled_closed _ _ _
  | withTextInTitle =>
      cases h
      exact helper_closed _ _ _ _ rfl _
  | hasAttribute =>
      cases h
      exact ((Closed.pattern _ _ _).triple_cons _ _ _).triple_cons _ _ _
  | withText =>
      cases h
      exact withText_closed _ _ _
  | createdBy | editedBy =>
      cases h
      exact user_closed _ _ _
  | referencesTitle | isInPageWithTitle =>
      cases h
      exact (titled_closed _ _ _).triple_cons _ _ _
  | createdAfter | createdBefore | editedAfter | editedBefore =>
      obtain ⟨instant, -, rfl⟩ := timedBy_eq_ok h
      exact timed_closed _ _ _ _ _

end ConditionQuery
