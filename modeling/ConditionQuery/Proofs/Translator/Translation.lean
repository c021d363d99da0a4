import ConditionQuery.Proofs.Relation.Registry
import ConditionQuery.Proofs.Relation.Template
import ConditionQuery.Translator

set_option autoImplicit false

/-! # Translating conditions

What a successful translation says about the condition: its relation is unknown and there are no
clauses, or its handler has generated clauses, which may then have been negated. For registries
whose relations are all generated by built-in arrangements, under whatever names, it follows that
the clauses of any list of conditions bind every variable before they use it.
-/

namespace ConditionQuery

open Clause

/-! ## Registries of built-in relations -/

namespace Registry

/-- Every relation is generated by the arrangement of a built-in relation, under whatever name
and with whatever suggestions. -/
def BuiltinsOnly (r : Registry) : Prop :=
  ∀ e ∈ r.entries, ∃ b : Builtin, e.handler.generator = .builtin b

theorem builtinsOnly_builtins : BuiltinsOnly builtins := by
  intro e he
  obtain ⟨b, -, rfl⟩ := List.mem_map.mp he
  exact ⟨b, rfl⟩

theorem BuiltinsOnly.register {r : Registry} (hr : r.BuiltinsOnly) (name : String) (b : Builtin)
    (options : Option TargetOptions) : (r.register name ⟨.builtin b, options⟩).BuiltinsOnly := by
  intro e he
  rcases mem_put he with he | ⟨d, -, rfl⟩ | rfl
  · exact hr e he
  · exact ⟨b, rfl⟩
  · exact ⟨b, rfl⟩

theorem BuiltinsOnly.unregister {r : Registry} (hr : r.BuiltinsOnly) (name : String) :
    (r.unregister name).BuiltinsOnly :=
  fun e he => hr e (List.mem_filter.mp he).1

/-- What a text is taken for is registered. -/
theorem exists_entry_of_resolve {r : Registry} {text : String} {resolved : Resolved}
    (h : r.resolve text = some resolved) :
    ∃ e ∈ r.entries, e.key = resolved.key ∧ e.handler = resolved.handler := by
  unfold resolve at h
  cases hfind : r.find? text with
  | some e =>
      rw [hfind] at h
      cases h
      exact ⟨e, List.mem_of_find?_eq_some hfind, rfl, rfl⟩
  | none =>
      rw [hfind] at h
      obtain ⟨e, he, rfl⟩ := Option.map_eq_some_iff.mp h
      exact ⟨e, List.mem_of_find?_eq_some he, rfl, rfl⟩

/-- Among built-in relations a text is taken for one that a built-in arrangement generates. -/
theorem BuiltinsOnly.exists_generator_eq {r : Registry} (hr : r.BuiltinsOnly) {text : String}
    {resolved : Resolved} (h : r.resolve text = some resolved) :
    ∃ b : Builtin, resolved.handler.generator = .builtin b := by
  obtain ⟨e, he, -, hhandler⟩ := exists_entry_of_resolve h
  rw [← hhandler]
  exact hr e he

end Registry

namespace Translator

/-! ## Successful translations -/

def builtinOf? (t : Translator) (c : Condition) : Option Builtin :=
  (t.registry.resolve c.relation).bind fun resolved => resolved.handler.builtin?

/-- A translated condition has an unknown relation and no clauses, or the clauses that its
handler generates, negated if it says so. -/
theorem translate_eq_ok {t : Translator} {c : Condition} {xs : List Clause}
    (h : t.translate c = .ok xs) :
    (t.registry.resolve c.relation = none ∧ xs = []) ∨
    ∃ (resolved : Resolved) (ys : List Clause),
      t.registry.resolve c.relation = some resolved ∧
      resolved.handler.generator.generate ⟨c.source, c.target, c.uid⟩ t.setting = .ok ys ∧
      xs = negateIf c.negate ys := by
  unfold translate at h
  cases hres : t.registry.resolve c.relation with
  | none =>
      rw [hres] at h
      cases h
      exact Or.inl ⟨rfl, rfl⟩
  | some resolved =>
      rw [hres] at h
      dsimp only at h
      cases hgen : resolved.handler.generator.generate ⟨c.source, c.target, c.uid⟩ t.setting with
      | error e =>
          rw [hgen] at h
          cases h
      | ok ys =>
          rw [hgen] at h
          cases h
          exact Or.inr ⟨resolved, ys, rfl, hgen, rfl⟩

/-- Among built-in relations the clauses are those of a built-in arrangement. -/
theorem translate_eq_ok_of_builtinsOnly {t : Translator} (ht : t.registry.BuiltinsOnly)
    {c : Condition} {xs : List Clause} (h : t.translate c = .ok xs) :
    xs = [] ∨ ∃ (b : Builtin) (ys : List Clause), t.builtinOf? c = some b ∧
      b.generate ⟨c.source, c.target, c.uid⟩ t.setting = .ok ys ∧ xs = negateIf c.negate ys := by
  rcases translate_eq_ok h with ⟨-, hxs⟩ | ⟨resolved, ys, hres, hgen, hxs⟩
  · exact Or.inl hxs
  · obtain ⟨b, hb⟩ := ht.exists_generator_eq hres
    rw [hb] at hgen
    refine Or.inr ⟨b, ys, ?_, hgen, hxs⟩
    rw [builtinOf?, hres, Option.bind_some, Handler.builtin?, hb]

/-- If the arrangement has clauses, they are the clauses of the condition. -/
theorem translate_of_generate {t : Translator} {c : Condition} {b : Builtin} {ys : List Clause}
    (hb : t.builtinOf? c = some b)
    (hgen : b.generate ⟨c.source, c.target, c.uid⟩ t.setting = .ok ys) :
    t.translate c = .ok (negateIf c.negate ys) := by
  obtain ⟨resolved, hres, hbuiltin⟩ := Option.bind_eq_some_iff.mp hb
  have hgenerator : resolved.handler.generator = .builtin b := by
    unfold Handler.builtin? at hbuiltin
    split at hbuiltin
    · next b' hb' => rw [hb', Option.some.inj hbuiltin]
    · exact absurd hbuiltin (by simp)
  simp only [translate, hres, hgenerator, Generator.generate, hgen]

/-- The clauses of a list are those of its first condition and those of the rest. -/
theorem translateAll_cons_eq_ok {t : Translator} {c : Condition} {rest : List Condition}
    {xs : List Clause} (h : t.translateAll (c :: rest) = .ok xs) :
    ∃ first last : List Clause, t.translate c = .ok first ∧ t.translateAll rest = .ok last ∧
      xs = first ++ last := by
  unfold translateAll at h
  cases hc : t.translate c with
  | error e =>
      rw [hc] at h
      cases h
  | ok first =>
      cases hrest : t.translateAll rest with
      | error e =>
          rw [hc, hrest] at h
          cases h
      | ok last =>
          rw [hc, hrest] at h
          cases h
          exact ⟨first, last, rfl, rfl, rfl⟩

/-! ## Variables are bound before they are used -/

theorem closed_negateIf {xs : List Clause} (h : Closed xs) (negate : Bool) :
    Closed (negateIf negate xs) := by
  unfold negateIf
  split
  · exact h.noneOf
  · exact h

theorem closed_of_translate {t : Translator} (ht : t.registry.BuiltinsOnly) {c : Condition}
    {xs : List Clause} (h : t.translate c = .ok xs) : Closed xs := by
  rcases translate_eq_ok_of_builtinsOnly ht h with rfl | ⟨b, ys, -, hgen, rfl⟩
  · exact Closed.nil
  · exact closed_negateIf (Builtin.generate_closed hgen) c.negate

theorem closed_of_translateAll {t : Translator} (ht : t.registry.BuiltinsOnly)
    {conditions : List Condition} {xs : List Clause} (h : t.translateAll conditions = .ok xs) :
    Closed xs := by
  induction conditions generalizing xs with
  | nil =>
      cases h
      exact Closed.nil
  | cons c rest ih =>
      obtain ⟨first, last, hfirst, hlast, rfl⟩ := translateAll_cons_eq_ok h
      exact (closed_of_translate ht hfirst).append (ih hlast)

/-- **No forward references.** The clauses of conditions on built-in relations use no variable
before it is bound, under all seeds, also under none. -/
theorem unboundVariables_translateAll (t : Translator) (ht : t.registry.BuiltinsOnly)
    (conditions : List Condition) (clauses : List Clause)
    (h : t.translateAll conditions = .ok clauses) (seeds : List String) :
    unboundVariables clauses seeds = [] :=
  (closed_of_translateAll ht h).unboundVariables_eq seeds

/-- Two built-in relations under other names, in a registry from which a third one has been
removed; the source of one condition is named like a helper of the other. -/
theorem unboundVariables_translateAll_renamed :
    let registry := ((Registry.builtins.unregister "self").register "reads like"
      ⟨.builtin .withText, none⟩).register "self" ⟨.builtin .isInPageWithTitle, some .pageTitles⟩
    let t : Translator :=
      ⟨registry, ⟨⟨id, fun _ => .ok ⟨0, 0⟩, .ok [], .ok []⟩, DayNote.defaultPattern⟩⟩
    let conditions : List Condition :=
      [⟨"A", "reads like", "x", true, ""⟩, ⟨"A-String", "self", " \x7bDate\x7d", false, ""⟩]
    ∃ clauses : List Clause, t.translateAll conditions = .ok clauses ∧ clauses.length = 5 ∧
      unboundVariables clauses [] = [] := by
  intro registry t conditions
  have hregistry : registry.BuiltinsOnly :=
    ((Registry.builtinsOnly_builtins.unregister "self").register _ _ _).register _ _ _
  have h : t.translateAll conditions = .ok _ := rfl
  exact ⟨_, h, rfl, unboundVariables_translateAll t hregistry conditions _ h []⟩

end Translator

end ConditionQuery
