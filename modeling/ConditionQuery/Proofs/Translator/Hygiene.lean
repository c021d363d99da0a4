import ConditionQuery.Proofs.Relation.Helper
import ConditionQuery.Proofs.Translator.Translation

set_option autoImplicit false

/-! # Helpers shared by conditions

Conditions that are translated together may use the same helper variable. Joining them is
harmless if they introduce it by the same clause, and changes their meaning if they do not: the
helper then has to satisfy what each of them alone asks of a variable of its own. The main
statement says when the first holds. It does not for a list that asks both for the user who
created a node and for the user who edited it, since the two users share a variable, and it does
for every other list.
-/

namespace ConditionQuery.Translator

open Clause

variable {t : Translator} {conditions : List Condition}

/-- No condition of the list has the name as its source or its target. -/
def IsPrivate (conditions : List Condition) (name : String) : Prop :=
  ∀ e ∈ conditions, name ≠ e.source ∧ name ≠ e.target

/-- A private variable that occurs in the clauses of two conditions of the list is introduced by
the same clause in both. -/
def SharedHelpersAgree (t : Translator) (conditions : List Condition) : Prop :=
  ∀ c ∈ conditions, ∀ d ∈ conditions, ∀ xs ys : List Clause,
    t.translate c = .ok xs → t.translate d = .ok ys →
    ∀ name, IsPrivate conditions name → name ∈ varsAll xs → name ∈ varsAll ys →
      ∃ p, introducer? name xs = some p ∧ introducer? name ys = some p

/-- The clauses `zs` of all conditions together introduce every private variable by the clause
that introduces it in the clauses of each condition that uses it. -/
def JoinKeepsHelpers (t : Translator) (conditions : List Condition) (zs : List Clause) : Prop :=
  ∀ c ∈ conditions, ∀ xs : List Clause, t.translate c = .ok xs →
    ∀ name, IsPrivate conditions name → name ∈ varsAll xs →
      introducer? name zs = introducer? name xs

/-- The list asks both for the user who created a node and for the user who edited it, and no
condition has the variable of these users as its source or its target. -/
def AsksCreatorAndEditor (t : Translator) (conditions : List Condition) : Prop :=
  ∃ c ∈ conditions, ∃ d ∈ conditions,
    t.builtinOf? c = some .createdBy ∧ t.builtinOf? d = some .editedBy ∧ c.source = d.source ∧
    IsPrivate conditions (Helper.creator.name c.source)

/-! ## Helpers in the clauses of a condition -/

theorem mem_varsAll_negateIf (negate : Bool) (ys : List Clause) (name : String) :
    name ∈ varsAll (negateIf negate ys) ↔ name ∈ varsAll ys := by
  unfold negateIf
  split
  · simp [varsAll, vars]
  · exact Iff.rfl

theorem introducer?_negateIf (negate : Bool) (ys : List Clause) (name : String) :
    introducer? name (negateIf negate ys) = introducer? name ys := by
  unfold negateIf
  split
  · exact introducer?_noneOf name ys
  · rfl

/-- A private variable in the clauses of a condition is a helper of its arrangement. -/
theorem isHelperIn_of_translate (ht : t.registry.BuiltinsOnly) {c : Condition}
    (hc : c ∈ conditions) {xs : List Clause} (hxs : t.translate c = .ok xs) {name : String}
    (hname : IsPrivate conditions name) (h : name ∈ varsAll xs) :
    (∃ b k node, t.builtinOf? c = some b ∧
      b.helper? ⟨c.source, c.target, c.uid⟩ = some (k, node) ∧ IsHelperIn xs name k node) ∨
    IsRegexIn xs name t.setting.dayNotePattern := by
  rcases translate_eq_ok_of_builtinsOnly ht hxs with rfl | ⟨b, ys, hb, hgen, rfl⟩
  · exact absurd h List.not_mem_nil
  · obtain ⟨hsource, htarget⟩ := hname c hc
    rw [mem_varsAll_negateIf] at h
    simp only [IsHelperIn, IsRegexIn, introducer?_negateIf]
    rcases Builtin.isHelperIn_of_mem_vars hgen h hsource htarget with
      ⟨k, node, hk, hhelper⟩ | hregex
    · exact Or.inl ⟨b, k, node, hb, hk, hhelper⟩
    · exact Or.inr hregex

/-- The user that a condition asks for is introduced as the helper of its source. -/
theorem isHelperIn_user {c : Condition} {b : Builtin} {k : Helper} {attr : String}
    (hb : t.builtinOf? c = some b)
    (hgen : b.generate ⟨c.source, c.target, c.uid⟩ t.setting
      = .ok (Template.user c.source attr (Template.title t.setting c.target)))
    (hword : k.word = "User") (hk : k.introducer c.source = .edge c.source attr (k.name c.source)) :
    ∃ xs, t.translate c = .ok xs ∧ k.name c.source ∈ varsAll xs ∧
      introducer? (k.name c.source) xs = some (k.introducer c.source) := by
  have hname : Template.helper c.source "User" = .var (k.name c.source) := by
    rw [Template.helper, Helper.name, hword]
  have hintro : introducer? (k.name c.source)
      (negateIf c.negate (Template.user c.source attr (Template.title t.setting c.target)))
        = some (k.introducer c.source) := by
    rw [introducer?_negateIf, Template.user, introducer?_triple_cons,
      if_pos (Or.inr hname), hk, hname, edge]
  exact ⟨_, translate_of_generate hb hgen, mem_varsAll_of_introducer? hintro, hintro⟩

/-! ## Agreement -/

/-- Two conditions that introduce a private variable in different ways are one that asks for the
user who created a node and one that asks for the user who edited it. -/
theorem asksCreatorAndEditor_of_ne (ht : t.registry.BuiltinsOnly) {c d : Condition}
    (hc : c ∈ conditions) (hd : d ∈ conditions) {xs ys : List Clause}
    (hxs : t.translate c = .ok xs) (hys : t.translate d = .ok ys) {name : String}
    (hname : IsPrivate conditions name) (hx : name ∈ varsAll xs)
    (hy : name ∈ varsAll ys) (hne : introducer? name xs ≠ introducer? name ys) :
    t.AsksCreatorAndEditor conditions := by
  rcases isHelperIn_of_translate ht hc hxs hname hx with
    ⟨b, k, node, hb, hk, hkname, hkintro⟩ | ⟨hregex, hintro⟩
  · rcases isHelperIn_of_translate ht hd hys hname hy with
      ⟨b', k', node', hb', hk', hkname', hkintro'⟩ | ⟨hregex', -⟩
    · subst hkname
      -- the name tells node and kind, except for the two kinds of users
      obtain ⟨rfl, rfl | ⟨rfl, rfl⟩ | ⟨rfl, rfl⟩⟩ := Helper.name_inj hkname'
      · exact absurd (hkintro.trans hkintro'.symm) hne
      · obtain ⟨rfl, rfl⟩ := Builtin.eq_of_helper?_user.1 hk
        obtain ⟨rfl, hsource⟩ := Builtin.eq_of_helper?_user.2 hk'
        exact ⟨c, hc, d, hd, hb, hb', hsource, hname⟩
      · obtain ⟨rfl, hsource⟩ := Builtin.eq_of_helper?_user.2 hk
        obtain ⟨rfl, rfl⟩ := Builtin.eq_of_helper?_user.1 hk'
        exact ⟨d, hd, c, hc, hb', hb, hsource, hname⟩
    · exact absurd (hkname.symm.trans hregex') (Helper.name_ne_regexVariable k node)
  · rcases isHelperIn_of_translate ht hd hys hname hy with
      ⟨b', k', node', -, -, hkname', -⟩ | ⟨-, hintro'⟩
    · exact absurd (hkname'.symm.trans hregex) (Helper.name_ne_regexVariable k' node')
    · exact absurd (hintro.trans hintro'.symm) hne

/-- Every private variable in the clauses of a condition is introduced there. -/
theorem exists_introducer_of_translate (ht : t.registry.BuiltinsOnly) {c : Condition}
    (hc : c ∈ conditions) {xs : List Clause} (hxs : t.translate c = .ok xs) {name : String}
    (hname : IsPrivate conditions name) (h : name ∈ varsAll xs) :
    ∃ p, introducer? name xs = some p := by
  rcases isHelperIn_of_translate ht hc hxs hname h with ⟨-, k, node, -, -, -, hp⟩ | ⟨-, hp⟩
  · exact ⟨_, hp⟩
  · exact ⟨_, hp⟩

/-- Conditions that introduce a variable by the same clause, if at all, introduce it by this
clause when they are joined. -/
theorem introducer?_translateAll {zs : List Clause} (hzs : t.translateAll conditions = .ok zs)
    {name : String} {p : Clause}
    (hsame : ∀ d ∈ conditions, ∀ ys, t.translate d = .ok ys →
      introducer? name ys = none ∨ introducer? name ys = some p)
    {c : Condition} (hc : c ∈ conditions) {xs : List Clause} (hxs : t.translate c = .ok xs)
    (hp : introducer? name xs = some p) : introducer? name zs = some p := by
  induction conditions generalizing zs with
  | nil => exact absurd hc List.not_mem_nil
  | cons d rest ih =>
      obtain ⟨first, last, hfirst, hlast, rfl⟩ := translateAll_cons_eq_ok hzs
      rw [introducer?_append]
      rcases hsame d (by simp) first hfirst with hnone | hsome
      · -- the first condition does not introduce it, so it is not the one that does
        have hrest : c ∈ rest := by
          rcases List.mem_cons.mp hc with rfl | hc
          · rw [hfirst] at hxs
            cases hxs
            rw [hnone] at hp
            cases hp
          · exact hc
        rw [hnone, Option.none_or]
        exact ih hlast (fun e he => hsame e (by simp [he])) hrest
      · rw [hsome, Option.some_or]

/-- Joining keeps the helpers if and only if the conditions agree on those that they share. -/
theorem joinKeepsHelpers_iff (ht : t.registry.BuiltinsOnly) {zs : List Clause}
    (hzs : t.translateAll conditions = .ok zs) :
    t.JoinKeepsHelpers conditions zs ↔ t.SharedHelpersAgree conditions := by
  constructor
  · intro h c hc d hd xs ys hxs hys name hname hx hy
    obtain ⟨p, hp⟩ := exists_introducer_of_translate ht hc hxs hname hx
    refine ⟨p, hp, ?_⟩
    rw [← h d hd ys hys name hname hy, h c hc xs hxs name hname hx, hp]
  · intro h c hc xs hxs name hname hx
    obtain ⟨p, hp, -⟩ := h c hc c hc xs xs hxs hxs name hname hx hx
    rw [hp]
    refine introducer?_translateAll hzs (fun d hd ys hys => ?_) hc hxs hp
    cases hq : introducer? name ys with
    | none => exact Or.inl rfl
    | some q =>
        have hy : name ∈ varsAll ys := mem_varsAll_of_introducer? hq
        obtain ⟨p', hp', hq'⟩ := h c hc d hd xs ys hxs hys name hname hx hy
        exact Or.inr (by rw [← hq, hq', ← hp', hp])

/-- Conditions agree on the helpers that they share unless they ask for creator and editor of
one node. -/
theorem sharedHelpersAgree_iff (ht : t.registry.BuiltinsOnly) :
    t.SharedHelpersAgree conditions ↔ ¬ t.AsksCreatorAndEditor conditions := by
  constructor
  · rintro h ⟨c, hc, d, hd, hcreator, heditor, hsource, hprivate⟩
    -- each of the two introduces the user of the node by an edge of its own
    obtain ⟨xs, hxs, hx, hp⟩ := isHelperIn_user (k := .creator) hcreator rfl rfl rfl
    obtain ⟨ys, hys, hy, hq⟩ := isHelperIn_user (k := .editor) heditor rfl rfl rfl
    have hname : Helper.editor.name d.source = Helper.creator.name c.source := by
      rw [hsource]
      rfl
    rw [hname] at hy hq
    obtain ⟨p, hp', hq'⟩ := h c hc d hd xs ys hxs hys _ hprivate hx hy
    rw [hp] at hp'
    rw [hq] at hq'
    have heq : Helper.creator.introducer c.source = Helper.editor.introducer d.source :=
      Option.some.inj (hp'.trans hq'.symm)
    revert heq
    simp [Helper.introducer, edge, triple, Term.keyword]
  · intro h c hc d hd xs ys hxs hys name hname hx hy
    obtain ⟨p, hp⟩ := exists_introducer_of_translate ht hc hxs hname hx
    refine ⟨p, hp, ?_⟩
    by_cases hne : introducer? name xs = introducer? name ys
    · rw [← hne, hp]
    · exact absurd (asksCreatorAndEditor_of_ne ht hc hd hxs hys hname hx hy hne) h

/-- **Hygiene of helpers.** Conditions on built-in relations introduce the helpers that they
share by the same clauses, and joining them introduces every helper as each of them alone does,
if and only if they do not ask for both the creator and the editor of one node. -/
theorem helpers_agree_iff (t : Translator) (ht : t.registry.BuiltinsOnly)
    (conditions : List Condition) :
    (t.SharedHelpersAgree conditions ↔ ¬ t.AsksCreatorAndEditor conditions) ∧
    ∀ zs : List Clause, t.translateAll conditions = .ok zs →
      (t.JoinKeepsHelpers conditions zs ↔ ¬ t.AsksCreatorAndEditor conditions) :=
  ⟨sharedHelpersAgree_iff ht, fun _ hzs =>
    (joinKeepsHelpers_iff ht hzs).trans (sharedHelpersAgree_iff ht)⟩

/-- Creator and editor of different nodes, and two titles that are compared with the day-note
pattern. -/
theorem helpers_agree_iff_nodes :
    let t : Translator := ⟨Registry.builtins,
      ⟨⟨id, fun _ => .ok ⟨0, 0⟩, .ok [], .ok []⟩, DayNote.defaultPattern⟩⟩
    let conditions : List Condition :=
      [⟨"A", "created by", "Ada", false, ""⟩, ⟨"B", "edited by", "Bob", true, ""⟩,
        ⟨"A", "has title", "\x7bdate\x7d", false, ""⟩,
        ⟨"A", "references title", "\x7bdate\x7d", true, ""⟩]
    t.SharedHelpersAgree conditions ∧ ∃ zs : List Clause,
      t.translateAll conditions = .ok zs ∧ t.JoinKeepsHelpers conditions zs := by
  intro t conditions
  have hasks : ¬ t.AsksCreatorAndEditor conditions := by
    rintro ⟨c, hc, d, hd, hcreator, heditor, hsource, -⟩
    have hcreators : ∀ c ∈ conditions, t.builtinOf? c = some .createdBy → c.source = "A" := by
      decide
    have heditors : ∀ d ∈ conditions, t.builtinOf? d = some .editedBy → d.source = "B" := by
      decide
    rw [hcreators c hc hcreator, heditors d hd heditor] at hsource
    exact absurd hsource (by decide)
  have hagree := helpers_agree_iff t Registry.builtinsOnly_builtins conditions
  have hzs : t.translateAll conditions = .ok _ := rfl
  exact ⟨hagree.1.mpr hasks, _, hzs, (hagree.2 _ hzs).mpr hasks⟩

/-- The user who created a node and the user who edited it are one variable, which two
conditions on them introduce differently. -/
theorem not_sharedHelpersAgree_users :
    let t : Translator := ⟨Registry.builtins,
      ⟨⟨id, fun _ => .ok ⟨0, 0⟩, .ok [], .ok []⟩, DayNote.defaultPattern⟩⟩
    ¬ t.SharedHelpersAgree
      [⟨"A", "created by", "Ada", false, ""⟩, ⟨"A", "edited by", "Bob", false, ""⟩] := by
  intro t h
  let c : Condition := ⟨"A", "created by", "Ada", false, ""⟩
  let d : Condition := ⟨"A", "edited by", "Bob", false, ""⟩
  have hxs : t.translate c = .ok (Template.user "A" ":create/user" (.string "Ada")) := rfl
  have hys : t.translate d = .ok (Template.user "A" ":edit/user" (.string "Bob")) := rfl
  have hprivate : IsPrivate [c, d] "A-User" := by
    simp [IsPrivate, c, d]
  obtain ⟨p, hp, hq⟩ := h c (by simp [c]) d (by simp [d]) _ _ hxs hys "A-User" hprivate
    (by decide) (by decide)
  have hpq : Clause.edge "A" ":create/user" "A-User" = Clause.edge "A" ":edit/user" "A-User" :=
    Option.some.inj (hp.trans hq.symm)
  revert hpq
  simp [edge, triple, Term.keyword]

end ConditionQuery.Translator
