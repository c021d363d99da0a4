import ConditionQuery.Proofs.Relation.Skeleton
import ConditionQuery.Proofs.Translator.Translation

set_option autoImplicit false

/-! # Texts of the user's cannot change the structure of a query

Two conditions on one built-in relation, with targets of one form, have clauses of one skeleton. It
does not matter what the sources, the targets, the titles and the day-note pattern hold: they come
to stand in variables, string literals and numbers only. The text of the clauses is read as the same
clauses, so that it has this structure as well.
-/

namespace ConditionQuery

open Clause

/-- Negation keeps the terms of clauses. -/
theorem over_negateIf {P : Term → Prop} {xs : List Clause} (h : ∀ c ∈ xs, c.Over P)
    (negate : Bool) : ∀ c ∈ Translator.negateIf negate xs, c.Over P := by
  unfold Translator.negateIf
  split
  · exact List.forall_mem_singleton.mpr (.noneOf h)
  · exact h

/-- Clauses of one skeleton are negated to clauses of one skeleton. -/
theorem skeletons_negateIf {xs ys : List Clause} (h : skeletons xs = skeletons ys)
    (negate : Bool) :
    skeletons (Translator.negateIf negate xs) = skeletons (Translator.negateIf negate ys) := by
  -- one of both sequences is empty only if the other is
  have hempty : xs.isEmpty = ys.isEmpty := by
    cases xs <;> cases ys <;> simp [skeletons] at h ⊢
  unfold Translator.negateIf
  rw [hempty]
  split
  · simp only [skeletons, skeleton, h]
  · exact h

namespace Translator

/-- **The user's texts do not change the structure of a query.** The constants in the clauses of a
built-in relation are keywords of the relation, string literals and numbers. Two conditions on one
built-in relation, both negated or neither, with targets of one form, have clauses of one skeleton
under any services and day-note patterns, and their texts are read as these clauses. -/
theorem translate_skeletons :
    (∀ (b : Builtin) (r : Request) (setting : Setting) (xs : List Clause),
      b.generate r setting = .ok xs → ∀ c ∈ xs, c.Over b.Allows) ∧
    ∀ (b : Builtin) (t t' : Translator) (c c' : Condition), t.builtinOf? c = some b →
      t'.builtinOf? c' = some b → c.negate = c'.negate →
      b.SameForm t.setting t'.setting c.target c'.target →
      ∃ xs ys : List Clause, t.translate c = .ok xs ∧ t'.translate c' = .ok ys ∧
        skeletons xs = skeletons ys ∧
        ofDatalog? (toDatalog xs) = some xs ∧ ofDatalog? (toDatalog ys) = some ys := by
  refine ⟨fun _ _ _ _ => Builtin.generate_over, fun b t t' c c' hc hc' hnegate hform => ?_⟩
  obtain ⟨xs, hxs⟩ : ∃ xs, b.generate ⟨c.source, c.target, c.uid⟩ t.setting = .ok xs :=
    Builtin.exists_generate fun h => (hform.time h).1
  obtain ⟨ys, hys⟩ : ∃ ys, b.generate ⟨c'.source, c'.target, c'.uid⟩ t'.setting = .ok ys :=
    Builtin.exists_generate fun h => (hform.time h).2
  have hread : ∀ {r : Request} {setting : Setting} {zs : List Clause} (negate : Bool),
      b.generate r setting = .ok zs →
      ofDatalog? (toDatalog (negateIf negate zs)) = some (negateIf negate zs) := by
    intro r setting zs negate hzs
    have hover := over_negateIf (Builtin.generate_over hzs) negate
    exact ofDatalog?_of_over fun d hd => (hover d hd).mono fun _ => Builtin.Allows.readable
  refine ⟨_, _, translate_of_generate hc hxs, translate_of_generate hc' hys, ?_, hread _ hxs,
    hread _ hys⟩
  rw [← hnegate]
  exact skeletons_negateIf (Builtin.skeletons_generate hform hxs hys) c.negate

/-- A relation under its own name and under another one, with different services, and texts that
look like the end of the clause and the start of another one. -/
theorem translate_skeletons_hostile :
    let t : Translator := ⟨Registry.builtins,
      ⟨⟨id, fun _ => .ok ⟨0, 0⟩, .ok [], .ok []⟩, DayNote.defaultPattern⟩⟩
    let t' : Translator := ⟨Registry.empty.register "titled" (.builtin .referencesTitle),
      ⟨⟨fun s => "\")] (or [" ++ s, fun _ => .ok ⟨0, 0⟩, .ok [], .ok []⟩, "x"⟩⟩
    let c : Condition := ⟨"A", "references title", "Inbox", true, ""⟩
    let c' : Condition := ⟨"A]\n[?B", "titled", "\\\"] [?x :block/uid \"", true, "7"⟩
    ∃ xs ys : List Clause, t.translate c = .ok xs ∧ t'.translate c' = .ok ys ∧
      skeletons xs = [.noneOf [.pattern .variable (.keyword ":block/refs") .variable,
        .pattern .variable (.keyword ":node/title") .string]] ∧
      skeletons ys = skeletons xs ∧ ofDatalog? (toDatalog ys) = some ys := by
  intro t t' c c'
  have hc : t.builtinOf? c = some .referencesTitle := rfl
  have hc' : t'.builtinOf? c' = some .referencesTitle := rfl
  have hform : Builtin.referencesTitle.SameForm t.setting t'.setting c.target c'.target :=
    ⟨fun _ => by decide, nofun, nofun⟩
  obtain ⟨xs, ys, hxs, hys, hskeletons, -, hread⟩ :=
    translate_skeletons.2 .referencesTitle t t' c c' hc hc' rfl hform
  refine ⟨xs, ys, hxs, hys, ?_, hskeletons.symm, hread⟩
  have hgenerate : Builtin.referencesTitle.generate ⟨"A", "Inbox", ""⟩ t.setting
      = .ok [.edge "A" ":block/refs" "Inbox",
        .triple (.var "Inbox") ":node/title" (.string "Inbox")] := rfl
  have htranslate := translate_of_generate hc hgenerate
  rw [hxs] at htranslate
  cases htranslate
  rfl

end Translator

end ConditionQuery
