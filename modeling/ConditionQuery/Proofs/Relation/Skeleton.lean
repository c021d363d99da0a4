import ConditionQuery.Proofs.Clause.Skeleton
import ConditionQuery.Proofs.Relation.Template

set_option autoImplicit false

/-! # Skeletons of the built-in arrangements

What a request puts into the arrangement of a built-in relation are names of variables, string
literals and numbers; the keywords are the relation's own (`Builtin.generate_over`). Two requests
are told apart by the skeleton of their clauses only where the target decides on the arrangement: a
title may be the day-note placeholder, a heading may be a number, and a time has to be understood
(`Builtin.SameForm`).
-/

namespace ConditionQuery

open Clause

namespace Builtin

/-- The attributes that the arrangement of a relation is about. -/
def keywords : Builtin → List String
  | .self => [":block/uid"]
  | .references | .isReferencedBy => [":block/refs"]
  | .isInPage => [":block/page"]
  | .hasTitle | .withTextInTitle => [":node/title"]
  | .hasAttribute => [":node/title", ":block/refs", ":block/parents"]
  | .hasChild | .hasParent => [":block/children"]
  | .hasAncestor | .hasDescendant => [":block/parents"]
  | .withText => [":block/string", ":node/title"]
  | .createdBy => [":create/user", ":user/display-name"]
  | .editedBy => [":edit/user", ":user/display-name"]
  | .referencesTitle => [":block/refs", ":node/title"]
  | .hasHeading => [":block/heading"]
  | .isInPageWithTitle => [":block/page", ":node/title"]
  | .createdAfter | .createdBefore => [":create/time"]
  | .editedAfter | .editedBefore => [":edit/time"]

/-- The terms that may stand in the arrangement of a relation: its keywords and, whatever the user
writes, variables, string literals and numbers. -/
inductive Allows (b : Builtin) : Term → Prop
  | var (name : String) : Allows b (.var name)
  | keyword {k : String} (h : k ∈ b.keywords) : Allows b (.keyword k)
  | string (s : String) : Allows b (.string s)
  | number (i : Int) : Allows b (.number i)

def comparesTitle : Builtin → Bool
  | .hasTitle | .referencesTitle | .isInPageWithTitle => true
  | _ => false

def comparesTime : Builtin → Bool
  | .createdAfter | .createdBefore | .editedAfter | .editedBefore => true
  | _ => false

/-- Two targets are of one form for a relation: for a title, both or neither are the day-note
placeholder; for a heading, both or neither are a number; for a time, both stand for an instant. -/
structure SameForm (b : Builtin) (setting setting' : Setting) (target target' : String) : Prop where
  title : b.comparesTitle = true → DayNote.isPlaceholder target = DayNote.isPlaceholder target'
  heading : b = .hasHeading → (Text.Decimal.readInt64? (Text.trimmed target)).isSome
    = (Text.Decimal.readInt64? (Text.trimmed target')).isSome
  time : b.comparesTime = true → (∃ i, setting.services.readDate target = .ok i) ∧
    ∃ i, setting'.services.readDate target' = .ok i

theorem isKeyword_of_mem_keywords {b : Builtin} {k : String} (h : k ∈ b.keywords) :
    Term.IsKeyword k := by
  revert k
  cases b <;> decide

theorem Allows.readable {b : Builtin} {t : Term} (h : b.Allows t) : t.Readable := by
  cases h with
  | var name => exact Term.readable_var name
  | keyword hk => exact Term.readable_keyword (isKeyword_of_mem_keywords hk)
  | string s => exact Term.readable_string s
  | number i => exact Term.readable_number i

end Builtin

/-! ## Terms -/

namespace Template

variable {b : Builtin} {setting : Setting}

theorem allows_title (text : String) : b.Allows (title setting text) :=
  .string _

theorem allows_headingLevel (target : String) : b.Allows (headingLevel target) := by
  unfold headingLevel
  split
  · exact .number _
  · exact .string _

theorem over_triple {e v : Term} {attr : String} (he : b.Allows e) (hattr : attr ∈ b.keywords)
    (hv : b.Allows v) : (Clause.triple e attr v).Over b.Allows :=
  .pattern he (.keyword hattr) hv

theorem over_titled (htitle : ":node/title" ∈ b.keywords) (node text : String) :
    ∀ c ∈ titled setting node text, c.Over b.Allows := by
  have hre : IsWord "re-pattern".toList := by decide
  have hfind : IsWord "re-find".toList := by decide
  unfold titled
  split
  · simp only [DayNote.clauses, List.forall_mem_cons, List.not_mem_nil, false_implies, implies_true,
      and_true]
    exact ⟨over_triple (.var _) htitle (.var _),
      .bind hre (List.forall_mem_singleton.mpr (.string _)) (.var _),
      .test hfind (List.forall_mem_cons.mpr ⟨.var _, List.forall_mem_singleton.mpr (.var _)⟩)⟩
  · exact List.forall_mem_singleton.mpr (over_triple (.var _) htitle (allows_title _))

theorem over_includes {whole part : Term} (hw : b.Allows whole) (hp : b.Allows part) :
    (includes whole part).Over b.Allows :=
  .test (by decide) (List.forall_mem_cons.mpr ⟨hw, List.forall_mem_singleton.mpr hp⟩)

theorem over_user {source attr : String} {name : Term} (hattr : attr ∈ b.keywords)
    (hname : ":user/display-name" ∈ b.keywords) (h : b.Allows name) :
    ∀ c ∈ user source attr name, c.Over b.Allows :=
  List.forall_mem_cons.mpr ⟨over_triple (.var _) hattr (.var _),
    List.forall_mem_singleton.mpr (over_triple (.var _) hname h)⟩

theorem over_timed {source attr word operator : String} {instant : Instant}
    (hattr : attr ∈ b.keywords) (hoperator : IsWord operator.toList) :
    ∀ c ∈ timed source attr word operator instant, c.Over b.Allows :=
  List.forall_mem_cons.mpr ⟨over_triple (.var _) hattr (.var _), List.forall_mem_singleton.mpr
    (.test hoperator
      (List.forall_mem_cons.mpr ⟨.number _, List.forall_mem_singleton.mpr (.var _)⟩))⟩

end Template

open Template in
/-- The constants of an arrangement are its keywords, string literals and numbers. -/
theorem Builtin.generate_over {b : Builtin} {r : Request} {setting : Setting} {xs : List Clause}
    (h : b.generate r setting = .ok xs) : ∀ c ∈ xs, c.Over b.Allows := by
  cases b with
  | references | isReferencedBy | isInPage | hasChild | hasParent | hasAncestor | hasDescendant =>
      cases h
      exact List.forall_mem_singleton.mpr (over_triple (.var _) (by decide) (.var _))
  | self =>
      cases h
      exact List.forall_mem_singleton.mpr (over_triple (.var _) (by decide) (.string _))
  | hasHeading =>
      cases h
      exact List.forall_mem_singleton.mpr
        (over_triple (.var _) (by decide) (allows_headingLevel _))
  | hasTitle =>
      cases h
      exact over_titled (by decide) _ _
  | withTextInTitle =>
      cases h
      exact List.forall_mem_cons.mpr ⟨over_triple (.var _) (by decide) (.var _),
        List.forall_mem_singleton.mpr (over_includes (.var _) (allows_title _))⟩
  | hasAttribute =>
      cases h
      exact List.forall_mem_cons.mpr ⟨over_triple (.var _) (by decide) (.string _),
        List.forall_mem_cons.mpr ⟨over_triple (.var _) (by decide) (.var _),
          List.forall_mem_singleton.mpr (over_triple (.var _) (by decide) (.var _))⟩⟩
  | withText =>
      cases h
      have hbranches : ∀ c ∈
          [Clause.triple (.var r.source) ":block/string" (helper r.source "String"),
            .triple (.var r.source) ":node/title" (helper r.source "String")],
          c.Over Builtin.withText.Allows :=
        List.forall_mem_cons.mpr ⟨over_triple (.var _) (by decide) (.var _),
          List.forall_mem_singleton.mpr (over_triple (.var _) (by decide) (.var _))⟩
      exact List.forall_mem_cons.mpr ⟨.anyOf hbranches,
        List.forall_mem_singleton.mpr (over_includes (.var _) (allows_title _))⟩
  | createdBy | editedBy =>
      cases h
      exact over_user (by decide) (by decide) (allows_title _)
  | referencesTitle | isInPageWithTitle =>
      cases h
      exact List.forall_mem_cons.mpr ⟨over_triple (.var _) (by decide) (.var _),
        over_titled (by decide) _ _⟩
  | createdAfter | createdBefore | editedAfter | editedBefore =>
      obtain ⟨instant, -, rfl⟩ := timedBy_eq_ok h
      exact over_timed (by decide) (by decide)

/-! ## Skeletons -/

namespace Template

theorem kind_title (setting setting' : Setting) (text text' : String) :
    (title setting text).kind = (title setting' text').kind := by
  rw [title, title, Term.kind_string, Term.kind_string]

theorem kind_headingLevel {target target' : String}
    (h : (Text.Decimal.readInt64? (Text.trimmed target)).isSome
      = (Text.Decimal.readInt64? (Text.trimmed target')).isSome) :
    (headingLevel target).kind = (headingLevel target').kind := by
  unfold headingLevel
  cases hread : Text.Decimal.readInt64? (Text.trimmed target) <;>
    cases hread' : Text.Decimal.readInt64? (Text.trimmed target')
  case none.none => simp
  case some.some => simp
  all_goals simp [hread, hread'] at h

theorem skeleton_triple {e e' v v' : Term} (attr : String) (he : e.kind = e'.kind)
    (hv : v.kind = v'.kind) :
    skeleton (.triple e attr v) = skeleton (.triple e' attr v') := by
  rw [triple, triple, skeleton, skeleton, he, hv]

theorem skeletons_cons {c c' : Clause} {cs cs' : List Clause} (hc : skeleton c = skeleton c')
    (hcs : skeletons cs = skeletons cs') : skeletons (c :: cs) = skeletons (c' :: cs') := by
  rw [skeletons, skeletons, hc, hcs]

theorem skeletons_titled (setting setting' : Setting) (node node' : String) {text text' : String}
    (h : DayNote.isPlaceholder text = DayNote.isPlaceholder text') :
    skeletons (titled setting node text) = skeletons (titled setting' node' text') := by
  unfold titled
  rw [h]
  split
  · refine skeletons_cons rfl (skeletons_cons ?_ (skeletons_cons rfl rfl))
    simp [skeleton]
  · exact skeletons_cons (skeleton_triple _ rfl (kind_title ..)) rfl

theorem skeleton_includes {whole whole' part part' : Term} (hw : whole.kind = whole'.kind)
    (hp : part.kind = part'.kind) :
    skeleton (includes whole part) = skeleton (includes whole' part') := by
  simp [includes, skeleton, hw, hp]

theorem skeletons_user (source source' attr : String) {name name' : Term}
    (h : name.kind = name'.kind) :
    skeletons (user source attr name) = skeletons (user source' attr name') :=
  skeletons_cons rfl (skeletons_cons (skeleton_triple _ rfl h) rfl)

theorem skeletons_timed (source source' attr word operator : String) (i i' : Instant) :
    skeletons (timed source attr word operator i)
      = skeletons (timed source' attr word operator i') := by
  refine skeletons_cons rfl (skeletons_cons ?_ rfl)
  simp [skeleton, helper]

end Template

open Template in
/-- Requests whose targets are of one form have clauses of one skeleton, under any settings. -/
theorem Builtin.skeletons_generate {b : Builtin} {r r' : Request} {setting setting' : Setting}
    {xs ys : List Clause} (h : b.SameForm setting setting' r.target r'.target)
    (hxs : b.generate r setting = .ok xs) (hys : b.generate r' setting' = .ok ys) :
    skeletons xs = skeletons ys := by
  cases b with
  | references | isReferencedBy | isInPage | hasChild | hasParent | hasAncestor | hasDescendant =>
      cases hxs
      cases hys
      rfl
  | self =>
      cases hxs
      cases hys
      exact skeletons_cons (skeleton_triple _ rfl (by simp)) rfl
  | hasHeading =>
      cases hxs
      cases hys
      exact skeletons_cons (skeleton_triple _ rfl (kind_headingLevel (h.heading rfl))) rfl
  | hasTitle =>
      cases hxs
      cases hys
      exact skeletons_titled _ _ _ _ (h.title rfl)
  | withTextInTitle =>
      cases hxs
      cases hys
      exact skeletons_cons rfl (skeletons_cons (skeleton_includes rfl (kind_title ..)) rfl)
  | hasAttribute =>
      cases hxs
      cases hys
      exact skeletons_cons (skeleton_triple _ rfl (by simp)) rfl
  | withText =>
      cases hxs
      cases hys
      exact skeletons_cons rfl (skeletons_cons (skeleton_includes rfl (kind_title ..)) rfl)
  | createdBy | editedBy =>
      cases hxs
      cases hys
      exact skeletons_user _ _ _ (kind_title ..)
  | referencesTitle | isInPageWithTitle =>
      cases hxs
      cases hys
      exact skeletons_cons rfl (skeletons_titled _ _ _ _ (h.title rfl))
  | createdAfter | createdBefore | editedAfter | editedBefore =>
      obtain ⟨i, -, rfl⟩ := timedBy_eq_ok hxs
      obtain ⟨i', -, rfl⟩ := timedBy_eq_ok hys
      exact skeletons_timed ..

/-- A request has clauses unless its relation compares a time with a target that stands for no
instant. -/
theorem Builtin.exists_generate {b : Builtin} {r : Request} {setting : Setting}
    (h : b.comparesTime = true → ∃ i, setting.services.readDate r.target = .ok i) :
    ∃ xs, b.generate r setting = .ok xs := by
  cases b with
  | createdAfter | createdBefore | editedAfter | editedBefore =>
      obtain ⟨i, hi⟩ := h rfl
      exact ⟨_, by rw [generate, Template.timedBy, hi]⟩
  | _ => exact ⟨_, rfl⟩

end ConditionQuery
