import ConditionQuery.Proofs.Clause.Binding
import Mathlib.Logic.Basic
import Mathlib.Tactic.ByContra

set_option autoImplicit false

/-! # The binding check and the choice of branches

Alternatives can be resolved by choosing one branch of every group, at every depth. Each way to
choose leaves a sequence without alternatives, an expansion of the clauses. The check goes through
the clauses once and keeps what all branches introduce; an expansion is what one run of the query
sees. Both report the same names: a name is reported for the clauses if and only if it is reported
for one of their expansions.

That a list of expansions stands for some clauses in this sense is `Covers`. It is kept by putting
sequences in a row (`Covers.append`), where the choices on both sides are independent, by choosing a
branch (`Covers.anyOf`) and by negation (`Covers.noneOf`).
-/

namespace ConditionQuery.Clause

/-! ## Expansions -/

/-- The sequences made of one of the first list and one of the second after it. -/
def joined (xss yss : List (List Clause)) : List (List Clause) :=
  xss.flatMap fun xs => yss.map fun ys => xs ++ ys

mutual

/-- What may stand in the place of a clause: for alternatives the expansions of their branches, or
nothing if there are no branches; for a negated group a group of each of its expansions. -/
def expansions : Clause → List (List Clause)
  | .anyOf branches => if branches.isEmpty then [[]] else expansionsAny branches
  | .noneOf clauses => (expansionsAll clauses).map fun e => [.noneOf e]
  | c => [[c]]

/-- The expansions of a sequence of clauses; the choices in its members are independent. -/
def expansionsAll : List Clause → List (List Clause)
  | [] => [[]]
  | c :: rest => joined (expansions c) (expansionsAll rest)

def expansionsAny : List Clause → List (List Clause)
  | [] => []
  | c :: rest => expansions c ++ expansionsAny rest

end

mutual

/-- A clause holds no alternatives, at any depth. -/
def isChosen : Clause → Bool
  | .anyOf _ => false
  | .noneOf clauses => areChosen clauses
  | _ => true

def areChosen : List Clause → Bool
  | [] => true
  | c :: rest => isChosen c && areChosen rest

end

theorem mem_joined {xss yss : List (List Clause)} {e : List Clause} :
    e ∈ joined xss yss ↔ ∃ xs ∈ xss, ∃ ys ∈ yss, xs ++ ys = e := by
  simp only [joined, List.mem_flatMap, List.mem_map]

theorem mem_expansionsAny {branches : List Clause} {e : List Clause} :
    e ∈ expansionsAny branches ↔ ∃ c ∈ branches, e ∈ expansions c := by
  induction branches with
  | nil => simp [expansionsAny]
  | cons c rest ih => simp [expansionsAny, ih]

theorem areChosen_append (xs ys : List Clause) :
    areChosen (xs ++ ys) = (areChosen xs && areChosen ys) := by
  induction xs with
  | nil => rfl
  | cons c xs ih => rw [List.cons_append, areChosen, areChosen, ih, Bool.and_assoc]

theorem areChosen_expansionsAll {cs : List Clause}
    (h : ∀ c ∈ cs, ∀ e ∈ expansions c, areChosen e = true) :
    ∀ e ∈ expansionsAll cs, areChosen e = true := by
  induction cs with
  | nil => simp [expansionsAll, areChosen]
  | cons c cs ih =>
      intro e he
      rw [expansionsAll, mem_joined] at he
      obtain ⟨xs, hxs, ys, hys, rfl⟩ := he
      have hfirst : areChosen xs = true := h c (by simp) xs hxs
      have hrest : areChosen ys = true := ih (fun d hd => h d (by simp [hd])) ys hys
      rw [areChosen_append, hfirst, hrest, Bool.and_self]

/-- Expansions hold no alternatives. -/
theorem areChosen_expansions (c : Clause) : ∀ e ∈ expansions c, areChosen e = true := by
  induction c with
  | pattern | bind | test => simp [expansions, areChosen, isChosen]
  | anyOf branches ih =>
      intro e he
      rw [expansions] at he
      split at he
      · rw [List.mem_singleton.mp he, areChosen]
      · obtain ⟨c, hc, he⟩ := mem_expansionsAny.mp he
        exact ih c hc e he
  | noneOf clauses ih =>
      intro e he
      rw [expansions, List.mem_map] at he
      obtain ⟨d, hd, rfl⟩ := he
      rw [areChosen, isChosen, areChosen_expansionsAll ih d hd, areChosen, Bool.and_self]

/-! ## What expansions say about clauses -/

/-- Some sequences stand for clauses: what is introduced by the clauses is what is introduced by
every one of the sequences, and what is reported for the clauses is what is reported for one of
them. -/
structure Covers (es : List (List Clause)) (cs : List Clause) : Prop where
  ne_nil : es ≠ []
  introduces_iff : ∀ name,
    someIntroduces name cs = true ↔ ∀ e ∈ es, someIntroduces name e = true
  unbound_iff : ∀ name,
    name ∈ unboundVariables cs [] ↔ ∃ e ∈ es, name ∈ unboundVariables e []

variable {cs xs ys : List Clause} {es fs : List (List Clause)}

theorem Covers.singleton (cs : List Clause) : Covers [cs] cs :=
  ⟨by simp, by simp, by simp⟩

/-- Reports for two sequences in a row are reports for the first, or reports for the second of a
name that the first does not introduce. -/
theorem mem_unboundVariables_append {name : String} :
    name ∈ unboundVariables (xs ++ ys) [] ↔ name ∈ unboundVariables xs [] ∨
      (name ∈ unboundVariables ys [] ∧ ¬ someIntroduces name xs = true) := by
  rw [unboundVariables_append, List.mem_append, List.mem_filter, Bool.not_eq_true',
    Bool.not_eq_true]

/-- A choice in one of two sequences in a row leaves all choices in the other. -/
theorem Covers.append (hx : Covers es xs) (hy : Covers fs ys) :
    Covers (joined es fs) (xs ++ ys) where
  ne_nil := by
    obtain ⟨e, he⟩ := List.exists_mem_of_ne_nil es hx.ne_nil
    obtain ⟨f, hf⟩ := List.exists_mem_of_ne_nil fs hy.ne_nil
    exact List.ne_nil_of_mem (mem_joined.mpr ⟨e, he, f, hf, rfl⟩)
  introduces_iff := by
    intro name
    rw [someIntroduces_append, Bool.or_eq_true, hx.introduces_iff, hy.introduces_iff]
    constructor
    · intro h e he
      obtain ⟨a, ha, b, hb, rfl⟩ := mem_joined.mp he
      rw [someIntroduces_append, Bool.or_eq_true]
      exact h.imp (fun h => h a ha) fun h => h b hb
    · intro h
      -- otherwise an expansion of each side that does not introduce the name makes one of both
      by_contra hneither
      simp only [not_or, not_forall] at hneither
      obtain ⟨⟨a, ha, hna⟩, b, hb, hnb⟩ := hneither
      have hab := h (a ++ b) (mem_joined.mpr ⟨a, ha, b, hb, rfl⟩)
      rw [someIntroduces_append, Bool.or_eq_true] at hab
      exact hab.elim hna hnb
  unbound_iff := by
    intro name
    rw [mem_unboundVariables_append, hx.unbound_iff, hy.unbound_iff, hx.introduces_iff]
    constructor
    · rintro (⟨a, ha, hname⟩ | ⟨⟨b, hb, hname⟩, hnot⟩)
      · obtain ⟨b, hb⟩ := List.exists_mem_of_ne_nil fs hy.ne_nil
        exact ⟨a ++ b, mem_joined.mpr ⟨a, ha, b, hb, rfl⟩,
          mem_unboundVariables_append.mpr (Or.inl hname)⟩
      · -- the report on the right meets a choice on the left that does not introduce the name
        simp only [not_forall] at hnot
        obtain ⟨a, ha, hna⟩ := hnot
        exact ⟨a ++ b, mem_joined.mpr ⟨a, ha, b, hb, rfl⟩,
          mem_unboundVariables_append.mpr (Or.inr ⟨hname, hna⟩)⟩
    · rintro ⟨e, he, hname⟩
      obtain ⟨a, ha, b, hb, rfl⟩ := mem_joined.mp he
      rcases mem_unboundVariables_append.mp hname with hname | ⟨hname, hna⟩
      · exact Or.inl ⟨a, ha, hname⟩
      · exact Or.inr ⟨⟨b, hb, hname⟩, fun h => hna (h a ha)⟩

/-- Reports for a group of alternatives are the reports for its branches. -/
theorem mem_unboundVariables_anyOf {name : String} {branches : List Clause} :
    name ∈ unboundVariables [.anyOf branches] [] ↔
      ∃ c ∈ branches, name ∈ unboundVariables [c] [] := by
  simp [unboundVariables, checkAll, check, checkBranches_eq_map]

/-- Branches may be chosen one at a time. -/
theorem Covers.anyOf {branches : List Clause} (hne : branches ≠ [])
    (h : ∀ c ∈ branches, Covers (expansions c) [c]) :
    Covers (expansionsAny branches) [.anyOf branches] where
  ne_nil := by
    obtain ⟨c, hc⟩ := List.exists_mem_of_ne_nil branches hne
    obtain ⟨e, he⟩ := List.exists_mem_of_ne_nil _ (h c hc).ne_nil
    exact List.ne_nil_of_mem (mem_expansionsAny.mpr ⟨c, hc, he⟩)
  introduces_iff := by
    intro name
    have hbranch : ∀ c ∈ branches, introduces name c = true ↔
        ∀ e ∈ expansions c, someIntroduces name e = true := by
      intro c hc
      rw [← (h c hc).introduces_iff, someIntroduces_singleton]
    simp only [someIntroduces_singleton, introduces, eachIntroduces_eq_all, Bool.and_eq_true,
      List.all_eq_true, Bool.not_eq_true', List.isEmpty_eq_false_iff, mem_expansionsAny]
    constructor
    · rintro ⟨-, hall⟩ e ⟨c, hc, he⟩
      exact (hbranch c hc).mp (hall c hc) e he
    · intro hall
      exact ⟨hne, fun c hc => (hbranch c hc).mpr fun e he => hall e ⟨c, hc, he⟩⟩
  unbound_iff := by
    intro name
    rw [mem_unboundVariables_anyOf]
    constructor
    · rintro ⟨c, hc, hname⟩
      obtain ⟨e, he, hname⟩ := ((h c hc).unbound_iff name).mp hname
      exact ⟨e, mem_expansionsAny.mpr ⟨c, hc, he⟩, hname⟩
    · rintro ⟨e, he, hname⟩
      obtain ⟨c, hc, he⟩ := mem_expansionsAny.mp he
      exact ⟨c, hc, ((h c hc).unbound_iff name).mpr ⟨e, he, hname⟩⟩

/-- A group without branches introduces nothing and uses nothing, as if it were not there. -/
theorem Covers.anyOf_nil : Covers [[]] [.anyOf []] :=
  ⟨by simp, by simp [someIntroduces, introduces],
    by simp [unboundVariables, checkAll, check, checkBranches]⟩

/-- Reports for a negated group are the reports for its clauses. -/
theorem unboundVariables_noneOf (cs : List Clause) :
    unboundVariables [.noneOf cs] [] = unboundVariables cs [] := by
  simp [unboundVariables, checkAll, check]

/-- Choices inside a negated group are choices of the group. -/
theorem Covers.noneOf (h : Covers es cs) : Covers (es.map fun e => [.noneOf e]) [.noneOf cs] where
  ne_nil := by simpa using h.ne_nil
  introduces_iff := by
    intro name
    obtain ⟨e, he⟩ := List.exists_mem_of_ne_nil es h.ne_nil
    -- neither the group nor any choice of it introduces a name, and there is a choice
    simp only [someIntroduces_singleton, introduces, List.mem_map, forall_exists_index, and_imp,
      forall_apply_eq_imp_iff₂, Bool.false_eq_true, false_iff]
    exact fun hall => hall e he
  unbound_iff := by
    intro name
    simp only [unboundVariables_noneOf, h.unbound_iff, List.mem_map, exists_exists_and_eq_and]

theorem covers_expansionsAll (h : ∀ c ∈ cs, Covers (expansions c) [c]) :
    Covers (expansionsAll cs) cs := by
  induction cs with
  | nil => exact Covers.singleton []
  | cons c cs ih =>
      have hfirst : Covers (expansions c) [c] := h c (by simp)
      have hrest : Covers (expansionsAll cs) cs := ih fun d hd => h d (by simp [hd])
      exact hfirst.append hrest

/-- The expansions of a clause stand for it. -/
theorem covers_expansions (c : Clause) : Covers (expansions c) [c] := by
  induction c with
  | pattern | bind | test => exact Covers.singleton _
  | anyOf branches ih =>
      rw [expansions]
      split
      · next hempty =>
        rw [List.isEmpty_iff.mp hempty]
        exact Covers.anyOf_nil
      · next hne => exact Covers.anyOf (fun hnil => hne (List.isEmpty_iff.mpr hnil)) ih
  | noneOf clauses ih =>
      rw [expansions]
      exact (covers_expansionsAll ih).noneOf

/-! ## Use before introduction -/

/-- A clause uses a name that the clause itself has not introduced before: as an argument of a call
or of a test, or in a negated group after clauses of the group that do not introduce it. -/
inductive Uses (name : String) : Clause → Prop
  | bind {function : String} {arguments : List Term} {result : Term}
      (h : .var name ∈ arguments) : Uses name (.bind function arguments result)
  | test {predicate : String} {arguments : List Term} (h : .var name ∈ arguments) :
      Uses name (.test predicate arguments)
  | noneOf {before after : List Clause} {c : Clause}
      (hbefore : ∀ d ∈ before, introduces name d = false) (h : Uses name c) :
      Uses name (.noneOf (before ++ c :: after))

/-- A clause of a sequence uses a name, and no clause before it introduces the name. -/
def UsesFirst (name : String) (cs : List Clause) : Prop :=
  ∃ before c after, cs = before ++ c :: after ∧ (∀ d ∈ before, introduces name d = false) ∧
    Uses name c

theorem uses_noneOf_iff {name : String} : Uses name (.noneOf cs) ↔ UsesFirst name cs := by
  constructor
  · rintro (_ | _ | ⟨hbefore, h⟩)
    exact ⟨_, _, _, rfl, hbefore, h⟩
  · rintro ⟨before, c, after, rfl, hbefore, h⟩
    exact .noneOf hbefore h

theorem usesFirst_cons {name : String} {c : Clause} :
    UsesFirst name (c :: cs) ↔ Uses name c ∨ (UsesFirst name cs ∧ introduces name c = false) := by
  constructor
  · rintro ⟨before, d, after, hsplit, hbefore, h⟩
    rcases List.cons_eq_append_iff.mp hsplit with ⟨rfl, heq⟩ | ⟨before, rfl, rfl⟩
    · obtain ⟨rfl, rfl⟩ := List.cons.inj heq
      exact Or.inl h
    · rw [List.forall_mem_cons] at hbefore
      exact Or.inr ⟨⟨before, d, after, rfl, hbefore.2, h⟩, hbefore.1⟩
  · rintro (h | ⟨⟨before, d, after, rfl, hbefore, h⟩, hc⟩)
    · exact ⟨[], c, cs, rfl, by simp, h⟩
    · exact ⟨c :: before, d, after, rfl, List.forall_mem_cons.mpr ⟨hc, hbefore⟩, h⟩

theorem mem_unboundVariables_iff_usesFirst_of {name : String}
    (h : ∀ c ∈ cs, name ∈ unboundVariables [c] [] ↔ Uses name c) :
    name ∈ unboundVariables cs [] ↔ UsesFirst name cs := by
  induction cs with
  | nil => simp [unboundVariables, checkAll, UsesFirst]
  | cons c cs ih =>
      have hrest := ih fun d hd => h d (by simp [hd])
      rw [← List.singleton_append, mem_unboundVariables_append, h c (by simp), hrest,
        List.singleton_append, usesFirst_cons, someIntroduces_singleton, Bool.not_eq_true]

theorem areChosen_iff : areChosen cs = true ↔ ∀ c ∈ cs, isChosen c = true := by
  induction cs with
  | nil => simp [areChosen]
  | cons c cs ih => simp [areChosen, ih]

/-- Without alternatives, the reports for a clause are the names that it uses. -/
theorem mem_unboundVariables_iff_uses {name : String} {c : Clause} (h : isChosen c = true) :
    name ∈ unboundVariables [c] [] ↔ Uses name c := by
  induction c with
  | pattern e a v =>
      have hnone : ¬ Uses name (.pattern e a v) := nofun
      simpa [unboundVariables, checkAll, check] using hnone
  | anyOf branches => exact absurd h (by simp [isChosen])
  | noneOf clauses ih =>
      rw [isChosen, areChosen_iff] at h
      rw [unboundVariables_noneOf, uses_noneOf_iff]
      exact mem_unboundVariables_iff_usesFirst_of fun c hc => ih c hc (h c hc)
  | bind function arguments result =>
      rw [unboundVariables_bind, Term.mem_names]
      refine ⟨.bind, fun huse => ?_⟩
      cases huse with
      | bind h => exact h
  | test predicate arguments =>
      rw [unboundVariables_test, Term.mem_names]
      refine ⟨.test, fun huse => ?_⟩
      cases huse with
      | test h => exact h

theorem mem_unboundVariables_iff_usesFirst {name : String} (h : areChosen cs = true) :
    name ∈ unboundVariables cs [] ↔ UsesFirst name cs :=
  mem_unboundVariables_iff_usesFirst_of fun c hc =>
    mem_unboundVariables_iff_uses (areChosen_iff.mp h c hc)

/-! ## The law of choices -/

/-- Seeds hide reports of their own names. -/
theorem mem_unboundVariables_iff {name : String} {seeds : List String} :
    name ∈ unboundVariables cs seeds ↔ name ∈ unboundVariables cs [] ∧ name ∉ seeds := by
  rw [unboundVariables_eq_filter, List.mem_filter]
  simp

/-- **The check follows every choice of branches.** A name is reported for a sequence of clauses if
and only if it is reported for one of the expansions, which hold no alternatives; and nothing is
reported exactly if in every expansion each name is a seed or is introduced before its first use. -/
theorem mem_unboundVariables_iff_exists_expansion (cs : List Clause) (seeds : List String) :
    (∀ name, name ∈ unboundVariables cs seeds ↔
      ∃ e ∈ expansionsAll cs, name ∈ unboundVariables e seeds) ∧
    (∀ e ∈ expansionsAll cs, areChosen e = true) ∧
    (unboundVariables cs seeds = [] ↔
      ∀ e ∈ expansionsAll cs, ∀ name, UsesFirst name e → name ∈ seeds) := by
  have hcovers : Covers (expansionsAll cs) cs :=
    covers_expansionsAll fun c _ => covers_expansions c
  have hchosen : ∀ e ∈ expansionsAll cs, areChosen e = true :=
    areChosen_expansionsAll fun c _ => areChosen_expansions c
  have hreport : ∀ name, name ∈ unboundVariables cs seeds ↔
      ∃ e ∈ expansionsAll cs, name ∈ unboundVariables e seeds := by
    intro name
    rw [mem_unboundVariables_iff, hcovers.unbound_iff]
    constructor
    · rintro ⟨⟨e, he, hname⟩, hseed⟩
      exact ⟨e, he, mem_unboundVariables_iff.mpr ⟨hname, hseed⟩⟩
    · rintro ⟨e, he, hname⟩
      exact ⟨⟨e, he, (mem_unboundVariables_iff.mp hname).1⟩, (mem_unboundVariables_iff.mp hname).2⟩
  refine ⟨hreport, hchosen, ?_⟩
  rw [List.eq_nil_iff_forall_not_mem]
  constructor
  · intro hnone e he name huse
    have hmem := (mem_unboundVariables_iff_usesFirst (hchosen e he)).mpr huse
    by_contra hseed
    exact hnone name ((hreport name).mpr ⟨e, he, mem_unboundVariables_iff.mpr ⟨hmem, hseed⟩⟩)
  · intro hall name hname
    obtain ⟨e, he, hmem⟩ := (hreport name).mp hname
    obtain ⟨hmem, hseed⟩ := mem_unboundVariables_iff.mp hmem
    exact hseed (hall e he name ((mem_unboundVariables_iff_usesFirst (hchosen e he)).mp hmem))

/-- A name that only one branch introduces is missing in the expansion by the other branch. -/
example :
    let cs : List Clause :=
      [.anyOf [.edge "A" ":block/refs" "s", .noneOf [.anyOf []]], .test "even?" [.var "s"]]
    (expansionsAll cs).map (fun e => unboundVariables e ["A"]) = [[], ["s"]] ∧
      unboundVariables cs ["A"] = ["s"] := by
  decide

end ConditionQuery.Clause
