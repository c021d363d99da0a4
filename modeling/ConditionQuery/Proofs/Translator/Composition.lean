import ConditionQuery.Proofs.Relation.Resolution
import ConditionQuery.Proofs.Translator.Translation
import Mathlib.Data.List.Forall2

set_option autoImplicit false

/-! # Translating lists of conditions

The clauses of a list are put together from the clauses of its members, in order; the first member
without clauses decides the failure, whatever comes after it. Conditions whose relation is unknown
leave no trace. Among the rest only the name matters that a relation is resolved to, not its
spelling, and negation works on the clauses as a whole.
-/

namespace ConditionQuery.Translator

variable {t : Translator} {c : Condition} {conditions before after : List Condition}
  {clauses : List Clause} {e : TranslateError}

/-! ## Lists -/

theorem translateAll_cons (t : Translator) (c : Condition) (rest : List Condition) :
    t.translateAll (c :: rest) = match t.translate c with
      | .error e => .error e
      | .ok first => (t.translateAll rest).map (first ++ ·) := by
  rw [translateAll]
  cases t.translate c with
  | error e => rfl
  | ok first => cases t.translateAll rest <;> rfl

theorem translateAll_cons_of_ok {first : List Clause} (h : t.translate c = .ok first)
    (rest : List Condition) :
    t.translateAll (c :: rest) = (t.translateAll rest).map (first ++ ·) := by
  rw [translateAll_cons, h]

theorem translateAll_cons_of_error (h : t.translate c = .error e) (rest : List Condition) :
    t.translateAll (c :: rest) = .error e := by
  rw [translateAll_cons, h]

/-- If every member has clauses, the list has them one after the other. -/
theorem translateAll_of_forall₂ {parts : List (List Clause)}
    (h : List.Forall₂ (fun c part => t.translate c = .ok part) conditions parts) :
    t.translateAll conditions = .ok parts.flatten := by
  induction h with
  | nil => rfl
  | cons hc _ ih =>
      rw [translateAll_cons_of_ok hc, ih]
      rfl

theorem exists_forall₂_of_translateAll (h : t.translateAll conditions = .ok clauses) :
    ∃ parts : List (List Clause),
      List.Forall₂ (fun c part => t.translate c = .ok part) conditions parts ∧
        clauses = parts.flatten := by
  induction conditions generalizing clauses with
  | nil =>
      cases h
      exact ⟨[], .nil, rfl⟩
  | cons c rest ih =>
      obtain ⟨first, last, hfirst, hlast, rfl⟩ := translateAll_cons_eq_ok h
      obtain ⟨parts, hparts, rfl⟩ := ih hlast
      exact ⟨first :: parts, .cons hfirst hparts, rfl⟩

/-- After members that have clauses, the next one decides if it has none. -/
theorem translateAll_of_first_error
    (hbefore : ∀ d ∈ before, ∃ part, t.translate d = .ok part) (hc : t.translate c = .error e)
    (after : List Condition) : t.translateAll (before ++ c :: after) = .error e := by
  induction before with
  | nil => exact translateAll_cons_of_error hc after
  | cons d before ih =>
      obtain ⟨part, hd⟩ := hbefore d (List.mem_cons_self ..)
      have hrest := ih fun d' hd' => hbefore d' (List.mem_cons_of_mem _ hd')
      rw [List.cons_append, translateAll_cons_of_ok hd, hrest]
      rfl

theorem exists_first_error_of_translateAll (h : t.translateAll conditions = .error e) :
    ∃ before c after, conditions = before ++ c :: after ∧
      (∀ d ∈ before, ∃ part, t.translate d = .ok part) ∧ t.translate c = .error e := by
  induction conditions with
  | nil => cases h
  | cons c rest ih =>
      cases hc : t.translate c with
      | error e' =>
          rw [translateAll_cons_of_error hc] at h
          cases h
          exact ⟨[], c, rest, rfl, by simp, hc⟩
      | ok first =>
          rw [translateAll_cons_of_ok hc] at h
          -- the failure comes from the rest, and one more member before it has clauses
          have hrest : t.translateAll rest = .error e := by
            cases hrest : t.translateAll rest with
            | error e' =>
                rw [hrest] at h
                exact h
            | ok last =>
                rw [hrest] at h
                cases h
          obtain ⟨before, d, after, rfl, hbefore, hd⟩ := ih hrest
          refine ⟨c :: before, d, after, rfl, fun d' hd' => ?_, hd⟩
          rcases List.mem_cons.mp hd' with rfl | hd'
          · exact ⟨first, hc⟩
          · exact hbefore d' hd'

/-! ## Unknown relations -/

theorem translate_of_unresolved (h : t.registry.resolve c.relation = none) :
    t.translate c = .ok [] := by
  rw [translate, h]

/-- Lists that are translated alike are translated alike after the same beginning. -/
theorem translateAll_append_congr {others : List Condition}
    (h : t.translateAll conditions = t.translateAll others) (before : List Condition) :
    t.translateAll (before ++ conditions) = t.translateAll (before ++ others) := by
  induction before with
  | nil => exact h
  | cons d before ih =>
      rw [List.cons_append, List.cons_append, translateAll_cons, translateAll_cons, ih]

theorem translateAll_insert_unresolved (h : t.registry.resolve c.relation = none)
    (before after : List Condition) :
    t.translateAll (before ++ c :: after) = t.translateAll (before ++ after) := by
  refine translateAll_append_congr ?_ before
  rw [translateAll_cons_of_ok (translate_of_unresolved h)]
  cases t.translateAll after <;> rfl

/-! ## Spellings of a relation -/

/-- In a well kept registry the name that two texts are taken for determines the handler. -/
theorem handler_eq_of_key_eq (ht : t.registry.WellKept) {text text' : String} {a b : Resolved}
    (ha : t.registry.resolve text = some a) (hb : t.registry.resolve text' = some b)
    (hkey : a.key = b.key) : a.handler = b.handler := by
  have hgeta := (ht.cases_of_resolve ha).1
  have hgetb := (ht.cases_of_resolve hb).1
  rw [hkey, hgetb] at hgeta
  exact (Option.some.inj hgeta).symm

theorem translate_respell (ht : t.registry.WellKept) {relation : String} {a b : Resolved}
    (ha : t.registry.resolve c.relation = some a) (hb : t.registry.resolve relation = some b)
    (hkey : a.key = b.key) : t.translate { c with relation := relation } = t.translate c := by
  simp only [translate, ha, hb, hkey, handler_eq_of_key_eq ht ha hb hkey]

/-! ## Negation -/

/-- The negated condition has the clauses of the plain one, negated as a whole. -/
theorem translate_negated (t : Translator) (c : Condition) :
    t.translate { c with negate := true }
      = (t.translate { c with negate := false }).map (negateIf true) := by
  simp only [translate]
  cases t.registry.resolve c.relation with
  | none => rfl
  | some resolved =>
      dsimp only
      cases resolved.handler.generator.generate ⟨c.source, c.target, c.uid⟩ t.setting <;> rfl

/-! ## The law of composition -/

/-- Lists of conditions are translated member by member. -/
structure Compositional (t : Translator) : Prop where
  /-- A list has clauses if all members have, and then theirs, one after the other. -/
  eq_ok_iff : ∀ conditions clauses, t.translateAll conditions = .ok clauses ↔
    ∃ parts : List (List Clause),
      List.Forall₂ (fun c part => t.translate c = .ok part) conditions parts ∧
        clauses = parts.flatten
  /-- It fails as its first member without clauses does, whatever comes after. -/
  eq_error_iff : ∀ conditions e, t.translateAll conditions = .error e ↔
    ∃ before c after, conditions = before ++ c :: after ∧
      (∀ d ∈ before, ∃ part, t.translate d = .ok part) ∧ t.translate c = .error e
  /-- A condition whose relation is unknown may stand anywhere or nowhere. -/
  insert_unresolved : ∀ before c after, t.registry.resolve c.relation = none →
    t.translateAll (before ++ c :: after) = t.translateAll (before ++ after)
  /-- Two texts that are taken for one name give the same clauses and the same failure. -/
  respell : ∀ (c : Condition) (relation : String) (a b : Resolved),
    t.registry.resolve c.relation = some a → t.registry.resolve relation = some b →
      a.key = b.key → t.translate { c with relation := relation } = t.translate c
  /-- The negation of no clauses is no clauses, -/
  negate_nil : ∀ c : Condition, t.translate { c with negate := false } = .ok [] →
    t.translate { c with negate := true } = .ok []
  /-- the negation of some is one clause that holds them all, -/
  negate_cons : ∀ (c : Condition) (first : Clause) (rest : List Clause),
    t.translate { c with negate := false } = .ok (first :: rest) →
      t.translate { c with negate := true } = .ok [.noneOf (first :: rest)]
  /-- and a failure stays what it is. -/
  negate_error : ∀ (c : Condition) (e : TranslateError),
    t.translate { c with negate := false } = .error e →
      t.translate { c with negate := true } = .error e

/-- **Translation is compositional**, with every registry that comes about by changes of the empty
one or of the built-in one, with all services and with relations of any kind. -/
theorem translateAll_compositional (start : Registry.Start) (changes : List Registry.Change)
    (setting : Setting) : Compositional ⟨start.registry.run changes, setting⟩ := by
  have ht : (start.registry.run changes).WellKept := Registry.wellKept_run start changes
  constructor
  case eq_ok_iff =>
    intro conditions clauses
    constructor
    · exact exists_forall₂_of_translateAll
    · rintro ⟨parts, hparts, rfl⟩
      exact translateAll_of_forall₂ hparts
  case eq_error_iff =>
    intro conditions e
    constructor
    · exact exists_first_error_of_translateAll
    · rintro ⟨before, c, after, rfl, hbefore, hc⟩
      exact translateAll_of_first_error hbefore hc after
  case insert_unresolved =>
    exact fun before _ after h => translateAll_insert_unresolved h before after
  case respell => exact fun _ _ _ _ ha hb hkey => translate_respell ht ha hb hkey
  case negate_nil =>
    intro c h
    rw [translate_negated, h]
    rfl
  case negate_cons =>
    intro c first rest h
    rw [translate_negated, h]
    rfl
  case negate_error =>
    intro c e h
    rw [translate_negated, h]
    rfl

end ConditionQuery.Translator
