import ConditionQuery.Clause.Binding

set_option autoImplicit false

/-! # Laws of the binding check

Which names a clause introduces does not depend on what is bound before it (`introduces`), and
a name that is bound before the clauses only hides reports of that name. Both are said at once
by `CheckLaw`, which every clause and every sequence of clauses satisfies; the check of a
sequence is then put together from the checks of its parts (`unboundVariables_append`). A
sequence with nothing unbound under no seeds is closed: it stays so under all seeds, and closed
sequences can be joined and negated. What introduces a name is a single clause, the first one
that does (`introducer?`).
-/

namespace ConditionQuery

/-- The names among terms are those of the variables among them. -/
theorem Term.mem_names {ts : List Term} {name : String} :
    name ∈ Term.names ts ↔ Term.var name ∈ ts := by
  rw [names, List.mem_filterMap]
  constructor
  · rintro ⟨t, ht, hname⟩
    cases t with
    | var n =>
        rw [name?, Option.some.injEq] at hname
        rwa [← hname]
    | const text => exact absurd hname (by simp [name?])
  · intro h
    exact ⟨.var name, h, rfl⟩

namespace Clause

/-! ## What clauses introduce -/

mutual

/-- A clause introduces a name: a pattern that mentions it, a call whose result it is, and
alternatives, at least one, if each of them introduces it. -/
def introduces (name : String) : Clause → Bool
  | .pattern e a v => (Term.names [e, a, v]).contains name
  | .anyOf branches => !branches.isEmpty && eachIntroduces name branches
  | .noneOf _ => false
  | .bind _ _ result => result.text == name
  | .test _ _ => false

def eachIntroduces (name : String) : List Clause → Bool
  | [] => true
  | c :: rest => introduces name c && eachIntroduces name rest

end

def someIntroduces (name : String) (cs : List Clause) : Bool :=
  cs.any (introduces name)

theorem someIntroduces_singleton (name : String) (c : Clause) :
    someIntroduces name [c] = introduces name c := by
  rw [someIntroduces, List.any_cons, List.any_nil, Bool.or_false]

theorem someIntroduces_append (name : String) (xs ys : List Clause) :
    someIntroduces name (xs ++ ys) = (someIntroduces name xs || someIntroduces name ys) :=
  List.any_append

theorem eachIntroduces_eq_all (name : String) (cs : List Clause) :
    eachIntroduces name cs = cs.all (introduces name) := by
  induction cs with
  | nil => rfl
  | cons c cs ih => rw [eachIntroduces, ih, List.all_cons]

/-- A triple introduces the variables that it relates. -/
theorem introduces_triple {name : String} {e v : Term} {attr : String} :
    introduces name (.triple e attr v) = true ↔ e = .var name ∨ v = .var name := by
  rw [triple, introduces, List.contains_iff_mem, Term.mem_names]
  simp [Term.keyword, eq_comm]

/-! ## The law of the check -/

/-- The check `scope` of some clauses that introduce the names in `intro`: afterwards a name is
bound if it was bound before or is introduced, and the reports are those made under no seeds,
without the names that were bound before. -/
structure CheckLaw (scope : List String → Scope) (intro : String → Bool) : Prop where
  mem_bound : ∀ bound name,
    name ∈ (scope bound).bound ↔ name ∈ bound ∨ intro name = true
  unbound_eq : ∀ bound,
    (scope bound).unbound = (scope []).unbound.filter fun name => !bound.contains name

theorem checkBranches_eq_map (bound : List String) (cs : List Clause) :
    checkBranches bound cs = cs.map (check bound) := by
  induction cs with
  | nil => rfl
  | cons c cs ih => rw [checkBranches, ih, List.map_cons]

/-- A name is bound by all scopes if there is a scope and each binds it. -/
theorem mem_boundByAll {name : String} {scopes : List Scope} :
    name ∈ boundByAll scopes ↔ scopes ≠ [] ∧ ∀ s ∈ scopes, name ∈ s.bound := by
  cases scopes with
  | nil => simp [boundByAll]
  | cons s rest => simp [boundByAll]

/-- Arguments report the variables among them that are not bound. -/
theorem unboundIn_eq_filter (ts : List Term) (bound : List String) :
    Term.unboundIn ts bound = (Term.unboundIn ts []).filter fun name => !bound.contains name := by
  simp [Term.unboundIn]

/-- One clause after another. -/
theorem CheckLaw.seq {first last : List String → Scope} {i j : String → Bool}
    (hf : CheckLaw first i) (hl : CheckLaw last j) :
    CheckLaw
      (fun bound => ⟨(last (first bound).bound).bound,
        (first bound).unbound ++ (last (first bound).bound).unbound⟩)
      (fun name => i name || j name) := by
  constructor
  · intro bound name
    simp only [hl.mem_bound, hf.mem_bound, Bool.or_eq_true, or_assoc]
  · intro bound
    -- the second clause reports what neither the seeds nor the first clause bind
    have hlast : ∀ b, (last (first b).bound).unbound = (last []).unbound.filter fun name =>
        !b.contains name && !i name := by
      intro b
      rw [hl.unbound_eq]
      congr 1
      funext name
      rw [Bool.eq_iff_iff]
      simp [hf.mem_bound]
    simp only [hlast, hf.unbound_eq bound, List.filter_append, List.filter_filter]
    congr 2

theorem checkAll_law {cs : List Clause}
    (h : ∀ c ∈ cs, CheckLaw (fun bound => check bound c) (fun name => introduces name c)) :
    CheckLaw (fun bound => checkAll bound cs) (fun name => someIntroduces name cs) := by
  induction cs with
  | nil => exact ⟨by simp [checkAll, someIntroduces], by simp [checkAll]⟩
  | cons c cs ih =>
      have hfirst := h c (by simp)
      have hrest := ih fun d hd => h d (by simp [hd])
      simpa only [checkAll, someIntroduces, List.any_cons] using hfirst.seq hrest

/-- Every clause satisfies the law. -/
theorem check_law (c : Clause) :
    CheckLaw (fun bound => check bound c) (fun name => introduces name c) := by
  induction c with
  | pattern e a v => exact ⟨by simp [check, introduces], by simp [check]⟩
  | anyOf branches ih =>
      constructor
      · intro bound name
        simp only [check, checkBranches_eq_map, List.mem_append, mem_boundByAll, introduces,
          eachIntroduces_eq_all, Bool.and_eq_true, Bool.not_eq_true', List.isEmpty_eq_false_iff,
          List.all_eq_true, List.mem_map, ne_eq, List.map_eq_nil_iff, forall_exists_index, and_imp,
          forall_apply_eq_imp_iff₂]
        constructor
        · rintro (hb | ⟨hne, hall⟩)
          · exact Or.inl hb
          · -- what every branch binds was bound before, or every branch introduces it
            by_cases hb : name ∈ bound
            · exact Or.inl hb
            · refine Or.inr ⟨hne, fun c hc => ?_⟩
              exact (((ih c hc).mem_bound bound name).mp (hall c hc)).resolve_left hb
        · rintro (hb | ⟨hne, hall⟩)
          · exact Or.inl hb
          · refine Or.inr ⟨hne, fun c hc => ?_⟩
            exact ((ih c hc).mem_bound bound name).mpr (Or.inr (hall c hc))
      · intro bound
        simp only [check, checkBranches_eq_map, List.flatMap_map, List.filter_flatMap]
        rw [List.flatMap_def, List.flatMap_def]
        exact congrArg List.flatten (List.map_congr_left fun c hc => (ih c hc).unbound_eq bound)
  | noneOf clauses ih =>
      have hall := checkAll_law ih
      exact ⟨by simp [check, introduces], fun bound => by simpa [check] using hall.unbound_eq bound⟩
  | bind function arguments result =>
      refine ⟨fun bound name => ?_, unboundIn_eq_filter arguments⟩
      simp only [check, introduces, List.mem_append, List.mem_singleton, beq_iff_eq]
      exact or_congr Iff.rfl eq_comm
  | test predicate arguments =>
      exact ⟨by simp [check, introduces], unboundIn_eq_filter arguments⟩

/-- Seeds hide reports of their own names and nothing else. -/
theorem unboundVariables_eq_filter (cs : List Clause) (seeds : List String) :
    unboundVariables cs seeds
      = (unboundVariables cs []).filter fun name => !seeds.contains name :=
  (checkAll_law fun c _ => check_law c).unbound_eq seeds

theorem checkAll_append (bound : List String) (xs ys : List Clause) :
    checkAll bound (xs ++ ys)
      = ⟨(checkAll (checkAll bound xs).bound ys).bound,
        (checkAll bound xs).unbound ++ (checkAll (checkAll bound xs).bound ys).unbound⟩ := by
  induction xs generalizing bound with
  | nil => simp [checkAll]
  | cons c xs ih => simp [checkAll, ih]

/-- The reports of two sequences in a row are those of the first and, without the names that the
first introduces, those of the second. -/
theorem unboundVariables_append (xs ys : List Clause) :
    unboundVariables (xs ++ ys) [] = unboundVariables xs []
      ++ (unboundVariables ys []).filter fun name => !someIntroduces name xs := by
  have hxs := checkAll_law (fun c (_ : c ∈ xs) => check_law c)
  have hys := checkAll_law (fun c (_ : c ∈ ys) => check_law c)
  simp only [unboundVariables, checkAll_append]
  rw [hys.unbound_eq]
  congr 2
  funext name
  rw [Bool.eq_iff_iff]
  simp [hxs.mem_bound]

/-- **The check of a sequence is put together from the checks of its parts.** What a sequence
introduces is told by its clauses alone: after the check the bound names are those that were bound
before and these. The reports of two sequences in a row, under seeds and more seeds, are the reports
of the first without the names of the further seeds, and then the reports of the second without the
names of the further seeds and without those that the first introduces. -/
theorem unboundVariables_compositional (xs ys : List Clause) (seeds more : List String) :
    (∀ name, name ∈ (checkAll seeds xs).bound ↔ name ∈ seeds ∨ someIntroduces name xs = true) ∧
    unboundVariables (xs ++ ys) (seeds ++ more)
      = ((unboundVariables xs seeds).filter fun name => !more.contains name)
        ++ (unboundVariables ys seeds).filter fun name =>
            !more.contains name && !someIntroduces name xs := by
  refine ⟨(checkAll_law fun c (_ : c ∈ xs) => check_law c).mem_bound seeds, ?_⟩
  have hseeds : ∀ name, (!(seeds ++ more).contains name)
      = (!more.contains name && !seeds.contains name) := by
    intro name
    rw [List.contains_append, Bool.not_or, Bool.and_comm]
  calc unboundVariables (xs ++ ys) (seeds ++ more)
      = ((unboundVariables xs []).filter fun name => !(seeds ++ more).contains name)
        ++ ((unboundVariables ys []).filter fun name => !someIntroduces name xs).filter
            fun name => !(seeds ++ more).contains name := by
        rw [unboundVariables_eq_filter, unboundVariables_append, List.filter_append]
    _ = (((unboundVariables xs []).filter fun name => !seeds.contains name).filter
          fun name => !more.contains name)
        ++ ((unboundVariables ys []).filter fun name => !seeds.contains name).filter
            fun name => !more.contains name && !someIntroduces name xs := by
        simp only [List.filter_filter, hseeds]
        congr 2
        funext name
        rw [Bool.and_right_comm]
    _ = ((unboundVariables xs seeds).filter fun name => !more.contains name)
        ++ (unboundVariables ys seeds).filter fun name =>
            !more.contains name && !someIntroduces name xs := by
        rw [← unboundVariables_eq_filter xs seeds, ← unboundVariables_eq_filter ys seeds]

/-! ## Closed sequences -/

/-- Every variable is bound in the sequence itself before it is used. -/
def Closed (cs : List Clause) : Prop :=
  unboundVariables cs [] = []

theorem Closed.nil : Closed [] := rfl

theorem Closed.unboundVariables_eq {cs : List Clause} (h : Closed cs) (seeds : List String) :
    unboundVariables cs seeds = [] := by
  rw [unboundVariables_eq_filter, h, List.filter_nil]

theorem Closed.append {xs ys : List Clause} (hx : Closed xs) (hy : Closed ys) :
    Closed (xs ++ ys) := by
  rw [Closed, unboundVariables_append, hx, hy, List.filter_nil, List.append_nil]

/-- A pattern uses nothing. -/
theorem Closed.pattern (e a v : Term) : Closed [.pattern e a v] := rfl

theorem Closed.triple_cons {cs : List Clause} (h : Closed cs) (e : Term) (attr : String)
    (v : Term) : Closed (.triple e attr v :: cs) :=
  (Closed.pattern e (.keyword attr) v).append h

/-- Clauses may be added if what they use has been introduced. -/
theorem Closed.concat {xs ys : List Clause} (h : Closed xs)
    (hy : ∀ name ∈ unboundVariables ys [], someIntroduces name xs = true) : Closed (xs ++ ys) := by
  rw [Closed, unboundVariables_append, h, List.nil_append, List.filter_eq_nil_iff]
  intro name hname
  simp [hy name hname]

/-- A call uses the variables among its arguments. -/
theorem unboundVariables_bind (function : String) (arguments : List Term) (result : Term) :
    unboundVariables [.bind function arguments result] [] = Term.names arguments := by
  simp [unboundVariables, checkAll, check, Term.unboundIn]

/-- A test uses the variables among its arguments. -/
theorem unboundVariables_test (predicate : String) (arguments : List Term) :
    unboundVariables [.test predicate arguments] [] = Term.names arguments := by
  simp [unboundVariables, checkAll, check, Term.unboundIn]

theorem Closed.noneOf {cs : List Clause} (h : Closed cs) : Closed [.noneOf cs] := by
  have hcs : (checkAll [] cs).unbound = [] := h
  simp [Closed, unboundVariables, checkAll, check, hcs]

/-! ## The clause that introduces a name -/

mutual

def vars : Clause → List String
  | .pattern e a v => Term.names [e, a, v]
  | .anyOf branches => varsAll branches
  | .noneOf clauses => varsAll clauses
  | .bind _ arguments result => Term.names (result :: arguments)
  | .test _ arguments => Term.names arguments

def varsAll : List Clause → List String
  | [] => []
  | c :: rest => vars c ++ varsAll rest

end

mutual

def calls : Clause → List Clause
  | .pattern _ _ _ => []
  | .anyOf branches => callsAll branches
  | .noneOf clauses => callsAll clauses
  | .bind function arguments result => [.bind function arguments result]
  | .test _ _ => []

def callsAll : List Clause → List Clause
  | [] => []
  | c :: rest => calls c ++ callsAll rest

end

mutual

/-- The clause itself, or the clauses of a negated group. -/
def opened : Clause → List Clause
  | .noneOf clauses => openedAll clauses
  | c => [c]

/-- The clauses of a sequence, with those of a negated group in the place of the group. -/
def openedAll : List Clause → List Clause
  | [] => []
  | c :: rest => opened c ++ openedAll rest

end

/-- A clause introduces a name that is one of its variables. The result of a call counts as
introduced even if it is a constant, but it is no variable then. -/
def binds (name : String) (c : Clause) : Bool :=
  introduces name c && (vars c).contains name

/-- The first clause that introduces a variable. Negated groups are looked into: what they
introduce is bound for the rest of the group. -/
def introducer? (name : String) (cs : List Clause) : Option Clause :=
  (openedAll cs).find? (binds name)

/-- Unless the first clause is a negated group, it introduces the name or the rest is searched. -/
theorem introducer?_cons {c : Clause} (hc : opened c = [c]) (name : String) (cs : List Clause) :
    introducer? name (c :: cs)
      = if binds name c = true then some c else introducer? name cs := by
  rw [introducer?, openedAll, hc, List.singleton_append, List.find?_cons]
  cases binds name c <;> rfl

/-- Negating clauses does not change what introduces their names. -/
theorem introducer?_noneOf (name : String) (cs : List Clause) :
    introducer? name [.noneOf cs] = introducer? name cs := by
  have hopened : openedAll [.noneOf cs] = openedAll cs := by simp [openedAll, opened]
  rw [introducer?, hopened, introducer?]

theorem varsAll_append (xs ys : List Clause) :
    varsAll (xs ++ ys) = varsAll xs ++ varsAll ys := by
  induction xs with
  | nil => rfl
  | cons c xs ih => rw [List.cons_append, varsAll, varsAll, ih, List.append_assoc]

theorem openedAll_append (xs ys : List Clause) :
    openedAll (xs ++ ys) = openedAll xs ++ openedAll ys := by
  induction xs with
  | nil => rfl
  | cons c xs ih => rw [List.cons_append, openedAll, openedAll, ih, List.append_assoc]

/-- Of two sequences the first one introduces a name, if it can. -/
theorem introducer?_append (name : String) (xs ys : List Clause) :
    introducer? name (xs ++ ys) = (introducer? name xs).or (introducer? name ys) := by
  rw [introducer?, openedAll_append, List.find?_append, introducer?, introducer?]

theorem mem_varsAll {name : String} {cs : List Clause} :
    name ∈ varsAll cs ↔ ∃ c ∈ cs, name ∈ vars c := by
  induction cs with
  | nil => simp [varsAll]
  | cons c cs ih => simp [varsAll, ih]

theorem mem_callsAll {call : Clause} {cs : List Clause} :
    call ∈ callsAll cs ↔ ∃ c ∈ cs, call ∈ calls c := by
  induction cs with
  | nil => simp [callsAll]
  | cons c cs ih => simp [callsAll, ih]

theorem varsAll_openedAll {cs : List Clause}
    (h : ∀ c ∈ cs, varsAll (opened c) = vars c) :
    varsAll (openedAll cs) = varsAll cs := by
  induction cs with
  | nil => rfl
  | cons c cs ih =>
      rw [openedAll, varsAll_append, h c (by simp), ih fun d hd => h d (by simp [hd]),
        varsAll]

/-- Opening a negated group keeps its variables. -/
theorem varsAll_opened (c : Clause) : varsAll (opened c) = vars c := by
  induction c with
  | noneOf clauses ih => rw [opened, vars, varsAll_openedAll ih]
  | pattern | anyOf | bind | test => simp [opened, varsAll]

/-- What is introduced occurs. -/
theorem mem_varsAll_of_introducer? {name : String} {cs : List Clause} {c : Clause}
    (h : introducer? name cs = some c) : name ∈ varsAll cs := by
  have hmem : c ∈ openedAll cs := List.mem_of_find?_eq_some h
  have hbinds : binds name c = true := List.find?_some h
  rw [binds, Bool.and_eq_true, List.contains_iff_mem] at hbinds
  rw [← varsAll_openedAll fun d _ => varsAll_opened d, mem_varsAll]
  exact ⟨c, hmem, hbinds.2⟩

/-- The variables of a triple are those that it relates. -/
theorem mem_vars_triple {name : String} {e v : Term} {attr : String} :
    name ∈ vars (.triple e attr v) ↔ e = .var name ∨ v = .var name := by
  rw [triple, vars, Term.mem_names]
  simp [Term.keyword, eq_comm]

/-- A triple introduces the variables that it relates. -/
theorem binds_triple {name : String} {e v : Term} {attr : String} :
    binds name (.triple e attr v) = true ↔ e = .var name ∨ v = .var name := by
  rw [binds, Bool.and_eq_true, introduces_triple, List.contains_iff_mem, mem_vars_triple,
    and_self]

/-- A triple before other clauses introduces the names that it relates. -/
theorem introducer?_triple_cons (name : String) (e : Term) (attr : String) (v : Term)
    (cs : List Clause) :
    introducer? name (.triple e attr v :: cs)
      = if e = .var name ∨ v = .var name then some (.triple e attr v)
        else introducer? name cs := by
  rw [introducer?_cons rfl]
  simp only [binds_triple]

end Clause

end ConditionQuery
