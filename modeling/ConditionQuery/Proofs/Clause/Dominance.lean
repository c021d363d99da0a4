import ConditionQuery.Clause.Json
import ConditionQuery.Proofs.Clause.Binding
import Mathlib.Logic.Basic

set_option autoImplicit false

/-! # What stands before a use

A variable is used where it is an argument of a call or a test. Such a site has clauses before it,
in its own sequence and in the sequences around it; the branches of a group do not stand before each
other (`sites`). A site is dominated if its variable is a seed or if one of the clauses before it
introduces the variable (`Declares`).

The check also takes a constant for an introduction, where a call has it as its result. A clause
that introduces a name only in this sense feigns it (`Feigns`), and what the check counts as
introduced is what is declared or feigned (`introduces_iff`). The check is therefore sound for
clauses without such calls; for others it is sound if it makes up for every feigned site, by a
report of the variable at another one.
-/

namespace ConditionQuery.Clause

/-! ## Sites -/

structure Site where
  name : String
  before : List Clause

def argumentSites (before : List Clause) (arguments : List Term) : List Site :=
  (Term.names arguments).map fun name => ⟨name, before⟩

mutual

/-- The uses of variables in a clause that stands after the clauses in `before`. -/
def sites (before : List Clause) : Clause → List Site
  | .pattern _ _ _ => []
  | .anyOf branches => sitesAny before branches
  | .noneOf clauses => sitesAll before clauses
  | .bind _ arguments _ => argumentSites before arguments
  | .test _ arguments => argumentSites before arguments

/-- The uses in a sequence of clauses, each of which stands before the next ones. -/
def sitesAll (before : List Clause) : List Clause → List Site
  | [] => []
  | c :: rest => sites before c ++ sitesAll (before ++ [c]) rest

/-- The uses in alternatives, which do not stand before each other. -/
def sitesAny (before : List Clause) : List Clause → List Site
  | [] => []
  | c :: rest => sites before c ++ sitesAny before rest

end

theorem mem_argumentSites {before : List Clause} {arguments : List Term} {s : Site} :
    s ∈ argumentSites before arguments ↔ .var s.name ∈ arguments ∧ s.before = before := by
  rw [argumentSites, List.mem_map]
  constructor
  · rintro ⟨name, hname, rfl⟩
    exact ⟨Term.mem_names.mp hname, rfl⟩
  · rintro ⟨hname, rfl⟩
    exact ⟨s.name, Term.mem_names.mpr hname, rfl⟩

theorem mem_sitesAny {before branches : List Clause} {s : Site} :
    s ∈ sitesAny before branches ↔ ∃ c ∈ branches, s ∈ sites before c := by
  induction branches with
  | nil => simp [sitesAny]
  | cons c rest ih => simp [sitesAny, ih]

/-! ## Real and feigned introductions -/

/-- A clause introduces a variable: the variable is an argument of a pattern or the result of a
call, or every branch of a group of alternatives, which has branches, introduces it. -/
inductive Declares (name : String) : Clause → Prop
  | pattern {e a v : Term} (h : .var name ∈ [e, a, v]) : Declares name (.pattern e a v)
  | bind {function : String} {arguments : List Term} :
      Declares name (.bind function arguments (.var name))
  | anyOf {branches : List Clause} (hne : branches ≠ [])
      (h : ∀ c ∈ branches, Declares name c) : Declares name (.anyOf branches)

/-- A clause seems to introduce a variable: a constant with the same text is the result of a call.
In a group of alternatives one branch seems to introduce it, and so does every branch that does not
introduce it. -/
inductive Feigns (name : String) : Clause → Prop
  | bind {function : String} {arguments : List Term} :
      Feigns name (.bind function arguments (.const name))
  | anyOf {branches : List Clause} {c : Clause} (hc : c ∈ branches) (h : Feigns name c)
      (hrest : ∀ d ∈ branches, ¬ Declares name d → Feigns name d) :
      Feigns name (.anyOf branches)

/-- The check counts what is introduced and what is feigned. -/
theorem introduces_iff {name : String} {c : Clause} :
    introduces name c = true ↔ Declares name c ∨ Feigns name c := by
  induction c with
  | pattern e a v =>
      rw [introduces, List.contains_iff_mem, Term.mem_names]
      constructor
      · intro h
        exact Or.inl (.pattern h)
      · rintro (hreal | hfeigned)
        · cases hreal with
          | pattern h => exact h
        · cases hfeigned
  | anyOf branches ih =>
      rw [introduces, eachIntroduces_eq_all, Bool.and_eq_true, Bool.not_eq_true',
        List.isEmpty_eq_false_iff, List.all_eq_true]
      constructor
      · rintro ⟨hne, hall⟩
        by_cases hreal : ∀ c ∈ branches, Declares name c
        · exact Or.inl (.anyOf hne hreal)
        · -- one branch is not real, so it is feigned
          have hfeigned : ∀ d ∈ branches, ¬ Declares name d → Feigns name d :=
            fun d hd hnot => ((ih d hd).mp (hall d hd)).resolve_left hnot
          simp only [not_forall] at hreal
          obtain ⟨c, hc, hnot⟩ := hreal
          exact Or.inr (.anyOf hc (hfeigned c hc hnot) hfeigned)
      · rintro (hreal | hfeigned)
        · cases hreal with
          | anyOf hne hall => exact ⟨hne, fun c hc => (ih c hc).mpr (Or.inl (hall c hc))⟩
        · cases hfeigned with
          | anyOf hc _ hrest =>
              refine ⟨List.ne_nil_of_mem hc, fun d hd => (ih d hd).mpr ?_⟩
              by_cases hreal : Declares name d
              · exact Or.inl hreal
              · exact Or.inr (hrest d hd hreal)
  | noneOf clauses =>
      refine iff_of_false (by simp [introduces]) ?_
      rintro (hreal | hfeigned)
      · cases hreal
      · cases hfeigned
  | bind function arguments result =>
      rw [introduces, beq_iff_eq]
      constructor
      · rintro rfl
        cases result with
        | var n => exact Or.inl .bind
        | const text => exact Or.inr .bind
      · rintro (hreal | hfeigned)
        · cases hreal
          rfl
        · cases hfeigned
          rfl
  | test predicate arguments =>
      refine iff_of_false (by simp [introduces]) ?_
      rintro (hreal | hfeigned)
      · cases hreal
      · cases hfeigned

/-- Where a name is feigned, some call has a constant as its result. -/
theorem Feigns.exists_call {name : String} {c : Clause} (h : Feigns name c) :
    ∃ function arguments, Clause.bind function arguments (.const name) ∈ calls c := by
  induction h with
  | bind => exact ⟨_, _, List.mem_singleton_self _⟩
  | anyOf hc _ _ ih =>
      obtain ⟨function, arguments, hcall⟩ := ih
      exact ⟨function, arguments, mem_callsAll.mpr ⟨_, hc, hcall⟩⟩

/-! ## What the check reports -/

namespace Site

/-- The variable of a site is a seed, or a clause before the site introduces it. -/
def IsDominated (seeds : List String) (s : Site) : Prop :=
  s.name ∈ seeds ∨ ∃ c ∈ s.before, Declares s.name c

def IsFeigned (s : Site) : Prop :=
  ∃ c ∈ s.before, Feigns s.name c

/-- The check reports a site if it counts the variable as introduced neither by the seeds nor before
the site. -/
def isReported (seeds : List String) (s : Site) : Bool :=
  !seeds.contains s.name && !someIntroduces s.name s.before

theorem isReported_eq_false_iff {seeds : List String} {s : Site} :
    s.isReported seeds = false ↔ s.IsDominated seeds ∨ s.IsFeigned := by
  rw [isReported, Bool.and_eq_false_iff, Bool.not_eq_false', Bool.not_eq_false',
    List.contains_iff_mem, someIntroduces, List.any_eq_true, IsDominated, IsFeigned, or_assoc,
    ← exists_or]
  simp only [introduces_iff, and_or_left]

end Site

def reports (seeds : List String) (ss : List Site) : List String :=
  (ss.filter (Site.isReported seeds)).map Site.name

theorem reports_append (seeds : List String) (ss ts : List Site) :
    reports seeds (ss ++ ts) = reports seeds ss ++ reports seeds ts := by
  rw [reports, List.filter_append, List.map_append, reports, reports]

/-- The names that are bound when a clause is checked: the seeds, and what the clauses before it
introduce. -/
def Reaches (seeds : List String) (before : List Clause) (bound : List String) : Prop :=
  ∀ name, name ∈ bound ↔ name ∈ seeds ∨ someIntroduces name before = true

variable {seeds bound : List String} {before : List Clause}

/-- The step to the next clause of a sequence. -/
theorem Reaches.next (h : Reaches seeds before bound) (c : Clause) :
    Reaches seeds (before ++ [c]) (check bound c).bound := by
  intro name
  rw [(check_law c).mem_bound, h, someIntroduces_append, someIntroduces_singleton, Bool.or_eq_true,
    or_assoc]

theorem Reaches.unboundIn_eq (h : Reaches seeds before bound) (arguments : List Term) :
    Term.unboundIn arguments bound = reports seeds (argumentSites before arguments) := by
  have hreported : ∀ name, (!bound.contains name) = Site.isReported seeds ⟨name, before⟩ := by
    intro name
    rw [Site.isReported, ← Bool.not_or, Bool.not_inj_iff, Bool.eq_iff_iff, Bool.or_eq_true,
      List.contains_iff_mem, List.contains_iff_mem, h]
  rw [Term.unboundIn, reports, argumentSites, List.filter_map, List.map_map, List.map_id'']
  · exact List.filter_congr fun name _ => hreported name
  · intro name
    rfl

/-- The check of a sequence reports the sites of the sequence, if that holds for each clause. -/
theorem Reaches.checkAll_unbound {cs : List Clause} (h : Reaches seeds before bound)
    (hcs : ∀ c ∈ cs, ∀ {bound before}, Reaches seeds before bound →
      (check bound c).unbound = reports seeds (sites before c)) :
    (checkAll bound cs).unbound = reports seeds (sitesAll before cs) := by
  induction cs generalizing bound before with
  | nil => rfl
  | cons c cs ih =>
      have hfirst : (check bound c).unbound = reports seeds (sites before c) := hcs c (by simp) h
      -- the rest is checked after this clause too
      have hrest : (checkAll (check bound c).bound cs).unbound
          = reports seeds (sitesAll (before ++ [c]) cs) :=
        ih (h.next c) fun d hd => hcs d (by simp [hd])
      rw [checkAll, sitesAll, reports_append, ← hfirst, ← hrest]

/-- The check of a clause reports the sites of the clause. -/
theorem Reaches.check_unbound {c : Clause} (h : Reaches seeds before bound) :
    (check bound c).unbound = reports seeds (sites before c) := by
  induction c generalizing bound before with
  | pattern => rfl
  | anyOf branches ih =>
      rw [check, checkBranches_eq_map, sites]
      show (branches.map (check bound)).flatMap Scope.unbound
        = reports seeds (sitesAny before branches)
      -- every branch is checked after the same clauses
      induction branches with
      | nil => rfl
      | cons c rest ihrest =>
          rw [List.map_cons, List.flatMap_cons, sitesAny, reports_append, ih c (by simp) h,
            ihrest fun d hd => ih d (by simp [hd])]
  | noneOf clauses ih => exact h.checkAll_unbound fun c hc => ih c hc
  | bind function arguments result => exact h.unboundIn_eq arguments
  | test predicate arguments => exact h.unboundIn_eq arguments

/-- The check reports sites, in their order. -/
theorem unboundVariables_eq_reports (cs : List Clause) (seeds : List String) :
    unboundVariables cs seeds = reports seeds (sitesAll [] cs) := by
  have hstart : Reaches seeds [] seeds := fun name => by simp [someIntroduces]
  exact hstart.checkAll_unbound fun c _ => Reaches.check_unbound

/-! ## Soundness -/

/-- The calls before a site in a sequence stand before the sequence or in it. -/
theorem mem_calls_of_sitesAll {before cs : List Clause} {s : Site} {call : Clause}
    (hcs : ∀ c ∈ cs, ∀ {before}, s ∈ sites before c → call ∈ callsAll s.before →
      call ∈ callsAll before ∨ call ∈ calls c)
    (hs : s ∈ sitesAll before cs) (hcall : call ∈ callsAll s.before) :
    call ∈ callsAll before ∨ call ∈ callsAll cs := by
  induction cs generalizing before with
  | nil => exact absurd hs List.not_mem_nil
  | cons c cs ih =>
      rw [sitesAll, List.mem_append] at hs
      rw [callsAll, List.mem_append]
      rcases hs with hs | hs
      · rcases hcs c (by simp) hs hcall with hbefore | hc
        · exact Or.inl hbefore
        · exact Or.inr (Or.inl hc)
      · -- for the rest of the sequence the first clause stands before
        have hrest := ih (fun d hd => hcs d (by simp [hd])) hs
        rcases hrest with hbefore | hcs
        · obtain ⟨d, hd, hmem⟩ := mem_callsAll.mp hbefore
          rcases List.mem_append.mp hd with hd | hd
          · exact Or.inl (mem_callsAll.mpr ⟨d, hd, hmem⟩)
          · rw [List.mem_singleton.mp hd] at hmem
            exact Or.inr (Or.inl hmem)
        · exact Or.inr (Or.inr hcs)

/-- The calls before a site of a clause stand before the clause or in it. -/
theorem mem_calls_of_sites {before : List Clause} {c : Clause} {s : Site} {call : Clause}
    (hs : s ∈ sites before c) (hcall : call ∈ callsAll s.before) :
    call ∈ callsAll before ∨ call ∈ calls c := by
  induction c generalizing before with
  | pattern => exact absurd hs List.not_mem_nil
  | anyOf branches ih =>
      obtain ⟨c, hc, hs⟩ := mem_sitesAny.mp hs
      rcases ih c hc hs with hbefore | hbranch
      · exact Or.inl hbefore
      · exact Or.inr (mem_callsAll.mpr ⟨c, hc, hbranch⟩)
  | noneOf clauses ih => exact mem_calls_of_sitesAll (fun c hc _ hs _ => ih c hc hs) hs hcall
  | bind function arguments result =>
      obtain ⟨-, hbefore⟩ := mem_argumentSites.mp hs
      exact Or.inl (hbefore ▸ hcall)
  | test predicate arguments =>
      obtain ⟨-, hbefore⟩ := mem_argumentSites.mp hs
      exact Or.inl (hbefore ▸ hcall)

/-- A feigned variable is the text of the result of some call. -/
theorem Site.IsFeigned.exists_call {cs : List Clause} {s : Site} (h : s.IsFeigned)
    (hs : s ∈ sitesAll [] cs) :
    ∃ function arguments, Clause.bind function arguments (.const s.name) ∈ callsAll cs := by
  obtain ⟨c, hc, hfeigns⟩ := h
  obtain ⟨function, arguments, hcall⟩ := hfeigns.exists_call
  have hbefore := mem_callsAll.mpr ⟨c, hc, hcall⟩
  rcases mem_calls_of_sitesAll (fun _ _ _ => mem_calls_of_sites) hs hbefore with hnil | hcs
  · exact absurd hnil List.not_mem_nil
  · exact ⟨function, arguments, hcs⟩

/-- A site that is not reported is dominated or feigned. -/
theorem isDominated_or_isFeigned {cs : List Clause} {seeds : List String} {s : Site}
    (hs : s ∈ sitesAll [] cs) (hname : s.name ∉ unboundVariables cs seeds) :
    s.IsDominated seeds ∨ s.IsFeigned := by
  rw [← Site.isReported_eq_false_iff, Bool.eq_false_iff]
  intro hreported
  refine hname ?_
  rw [unboundVariables_eq_reports, reports]
  exact List.mem_map_of_mem (List.mem_filter.mpr ⟨hs, hreported⟩)

/-- The check is sound: a variable that is not reported is dominated wherever it is used. -/
def ChecksSoundly (cs : List Clause) (seeds : List String) : Prop :=
  ∀ s ∈ sitesAll [] cs, s.name ∉ unboundVariables cs seeds → s.IsDominated seeds

/-- **The soundness of the check.** The check reports the uses of variables, in their order, that
are neither dominated nor feigned. So it is sound exactly if every feigned variable is dominated
where it is used, or else reported for another use; and it is sound for clauses that have no call
with a constant as its result. -/
theorem checksSoundly_iff (cs : List Clause) (seeds : List String) :
    unboundVariables cs seeds = ((sitesAll [] cs).filter (Site.isReported seeds)).map Site.name ∧
    (∀ s : Site, s.isReported seeds = true ↔ ¬ s.IsDominated seeds ∧ ¬ s.IsFeigned) ∧
    (ChecksSoundly cs seeds ↔ ∀ s ∈ sitesAll [] cs, s.IsFeigned →
      s.IsDominated seeds ∨ s.name ∈ unboundVariables cs seeds) ∧
    ((∀ function arguments text, Clause.bind function arguments (.const text) ∉ callsAll cs) →
      ChecksSoundly cs seeds) := by
  refine ⟨unboundVariables_eq_reports cs seeds, fun s => ?_, ⟨?_, ?_⟩, ?_⟩
  · rw [← not_or, ← Site.isReported_eq_false_iff, Bool.not_eq_false]
  · intro hsound s hs _
    by_cases hname : s.name ∈ unboundVariables cs seeds
    · exact Or.inr hname
    · exact Or.inl (hsound s hs hname)
  · intro hfeigned s hs hname
    rcases isDominated_or_isFeigned hs hname with hdominated | h
    · exact hdominated
    · exact (hfeigned s hs h).resolve_right hname
  · intro hcalls s hs hname
    rcases isDominated_or_isFeigned hs hname with hdominated | h
    · exact hdominated
    · obtain ⟨function, arguments, hcall⟩ := h.exists_call hs
      exact absurd hcall (hcalls function arguments s.name)

/-- Clauses with a feigned variable can be read, and the check is not sound for them: a constant `x`
is the result of the call, and the test uses a variable of this name, which nothing introduces. -/
theorem not_checksSoundly_constantResult :
    let cs : List Clause := [.bind "count" [.var "A"] (.const "x"), .test "even?" [.var "x"]]
    listOfJson? (.array (toJsons cs)) = some cs ∧ ¬ ChecksSoundly cs ["A"] := by
  refine ⟨rfl, fun hsound => ?_⟩
  have hdeclares : ¬ Declares "x" (.bind "count" [.var "A"] (.const "x")) := nofun
  have hsite : (⟨"x", [.bind "count" [.var "A"] (.const "x")]⟩ : Site) ∈
      sitesAll [] [.bind "count" [.var "A"] (.const "x"), .test "even?" [.var "x"]] := by
    simp [sitesAll, sites, argumentSites, Term.names, Term.name?]
  have hunbound : "x" ∉
      unboundVariables [.bind "count" [.var "A"] (.const "x"), .test "even?" [.var "x"]] ["A"] := by
    decide
  rcases hsound _ hsite hunbound with hseed | ⟨c, hc, hreal⟩
  · exact absurd hseed (by decide)
  · rw [List.mem_singleton.mp hc] at hreal
    exact hdeclares hreal

end ConditionQuery.Clause
