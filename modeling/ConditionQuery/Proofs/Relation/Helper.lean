import ConditionQuery.Proofs.Relation.Template

set_option autoImplicit false

/-! # Helper variables

Besides the source and the target an arrangement uses helper variables: one that is named after
a node, and for day notes the variable of the pattern. The name of a helper is the node, a
hyphen and a word without hyphens, so that node and word can be told from the name
(`name_inj`). What a helper stands for is settled by the clause that introduces it, and that is
a function of the node and of the kind of helper (`introducer`).
-/

namespace ConditionQuery

open Clause

/-- The kinds of helpers that are named after a node. -/
inductive Helper where
  | title
  /-- The page that names the node as an attribute. -/
  | attribute
  /-- The text of the node, or its title. -/
  | text
  | creator
  | editor
  | created
  | edited
deriving DecidableEq, Repr

namespace Helper

/-- The word that is added to the node. -/
def word : Helper → String
  | .title => "Title"
  | .attribute => "Attribute"
  | .text => "String"
  | .creator | .editor => "User"
  | .created => "CreateTime"
  | .edited => "EditTime"

def name (k : Helper) (node : String) : String :=
  node ++ "-" ++ k.word

def introducer (k : Helper) (node : String) : Clause :=
  match k with
  | .title => .edge node ":node/title" (k.name node)
  | .attribute => .triple (.var (k.name node)) ":node/title" (.string node)
  | .text =>
    .anyOf [.edge node ":block/string" (k.name node), .edge node ":node/title" (k.name node)]
  | .creator => .edge node ":create/user" (k.name node)
  | .editor => .edge node ":edit/user" (k.name node)
  | .created => .edge node ":create/time" (k.name node)
  | .edited => .edge node ":edit/time" (k.name node)

/-! ## Names -/

/-- The last hyphen of a name tells node and word apart. -/
theorem append_hyphen_inj {node node' word word' : String} (hw : '-' ∉ word.toList)
    (hw' : '-' ∉ word'.toList) (h : node ++ "-" ++ word = node' ++ "-" ++ word') :
    node = node' ∧ word = word' := by
  have hchars : word.toList.reverse ++ '-' :: node.toList.reverse
      = word'.toList.reverse ++ '-' :: node'.toList.reverse := by
    have hrev := congrArg (fun s : String => s.toList.reverse) h
    simpa [String.toList_append] using hrev
  -- read from the end, the first hyphen is the one before the word
  have hsplit : ∀ w n : List Char, '-' ∉ w →
      (w ++ '-' :: n).takeWhile (· ≠ '-') = w ∧ (w ++ '-' :: n).dropWhile (· ≠ '-') = '-' :: n := by
    intro w n hw
    have hall : ∀ c ∈ w, decide (c ≠ '-') = true := by
      intro c hc
      have hne : c ≠ '-' := fun heq => hw (heq ▸ hc)
      simp [hne]
    rw [List.takeWhile_append_of_pos hall, List.dropWhile_append_of_pos hall]
    simp
  obtain ⟨htake, hdrop⟩ := hsplit word.toList.reverse node.toList.reverse (by simpa using hw)
  obtain ⟨htake', hdrop'⟩ := hsplit word'.toList.reverse node'.toList.reverse (by simpa using hw')
  rw [hchars, htake'] at htake
  rw [hchars, hdrop'] at hdrop
  refine ⟨?_, ?_⟩
  · have hnode := (List.cons.inj hdrop).2
    exact String.toList_inj.mp (List.reverse_inj.mp hnode).symm
  · exact String.toList_inj.mp (List.reverse_inj.mp htake).symm

theorem hyphen_not_mem_word (k : Helper) : '-' ∉ k.word.toList := by
  cases k <;> decide

/-- Equal names have equal nodes, and equal kinds unless they stand for users. -/
theorem name_inj {k k' : Helper} {node node' : String} (h : k.name node = k'.name node') :
    node = node' ∧ (k = k' ∨ k = .creator ∧ k' = .editor ∨ k = .editor ∧ k' = .creator) := by
  obtain ⟨hnode, hword⟩ := append_hyphen_inj k.hyphen_not_mem_word k'.hyphen_not_mem_word h
  refine ⟨hnode, ?_⟩
  have key : ∀ k k' : Helper, k.word = k'.word →
      k = k' ∨ k = .creator ∧ k' = .editor ∨ k = .editor ∧ k' = .creator := by
    intro k k'
    cases k <;> cases k' <;> decide
  exact key k k' hword

/-- The variable of the day-note pattern is no helper of a node. -/
theorem name_ne_regexVariable (k : Helper) (node : String) :
    k.name node ≠ DayNote.regexVariable := by
  intro h
  have hregex : DayNote.regexVariable = "date" ++ "-" ++ "regex" := by decide
  rw [hregex] at h
  have hword := (append_hyphen_inj k.hyphen_not_mem_word (by decide) h).2
  revert hword
  cases k <;> decide

theorem title_name (node : String) : Helper.title.name node = node ++ "-Title" := by
  rw [name, String.append_assoc]
  rfl

end Helper

/-! ## Helpers of the arrangements -/

def DayNote.regexIntroducer (pattern : String) : Clause :=
  .bind "re-pattern" [.string pattern] (.var DayNote.regexVariable)

/-- The helper of an arrangement and the node that it is named after. -/
def Builtin.helper? (b : Builtin) (r : Request) : Option (Helper × String) :=
  match b with
  | .hasTitle | .withTextInTitle => some (.title, r.source)
  | .referencesTitle | .isInPageWithTitle => some (.title, r.target)
  | .hasAttribute => some (.attribute, r.target)
  | .withText => some (.text, r.source)
  | .createdBy => some (.creator, r.source)
  | .editedBy => some (.editor, r.source)
  | .createdAfter | .createdBefore => some (.created, r.source)
  | .editedAfter | .editedBefore => some (.edited, r.source)
  | _ => none

/-- Only one relation asks for the user who created the source, and only one for the user who
edited it. -/
theorem Builtin.eq_of_helper?_user {b : Builtin} {r : Request} {node : String} :
    (b.helper? r = some (.creator, node) → b = .createdBy ∧ node = r.source) ∧
    (b.helper? r = some (.editor, node) → b = .editedBy ∧ node = r.source) := by
  cases b <;> simp [helper?, eq_comm]

/-- In the clauses `xs` the variable `name` is the helper `k` of `node`. -/
def IsHelperIn (xs : List Clause) (name : String) (k : Helper) (node : String) : Prop :=
  name = k.name node ∧ introducer? name xs = some (k.introducer node)

/-- In the clauses `xs` the variable `name` is the one of the day-note pattern. -/
def IsRegexIn (xs : List Clause) (name pattern : String) : Prop :=
  name = DayNote.regexVariable ∧ introducer? name xs = some (DayNote.regexIntroducer pattern)

namespace DayNote

theorem eq_of_mem_vars {node pattern name : String}
    (h : name ∈ varsAll (clauses node pattern)) (hnode : name ≠ node) :
    name = Helper.title.name node ∨ name = regexVariable := by
  simp only [clauses, varsAll, List.mem_append, mem_vars_triple, vars, Term.mem_names,
    Term.string, List.mem_cons, List.not_mem_nil, Term.var.injEq, reduceCtorEq, or_false] at h
  rw [Helper.title_name]
  rcases h with (h | h) | h | h | h
  · exact absurd h.symm hnode
  · exact Or.inl h.symm
  · exact Or.inr h
  · exact Or.inr h
  · exact Or.inl h

theorem introducer?_title (node pattern : String) :
    introducer? (Helper.title.name node) (clauses node pattern)
      = some (Helper.title.introducer node) := by
  rw [clauses, introducer?_triple_cons, if_pos (Or.inr (by rw [Helper.title_name])),
    Helper.introducer, Helper.title_name]
  rfl

theorem introducer?_regex {node pattern : String} (hnode : regexVariable ≠ node) :
    introducer? regexVariable (clauses node pattern) = some (regexIntroducer pattern) := by
  -- the clause before the call introduces the title of the node, which has another name
  have htitle : node ++ "-Title" ≠ regexVariable := by
    rw [← Helper.title_name]
    exact Helper.name_ne_regexVariable _ _
  rw [clauses, introducer?_triple_cons, if_neg, introducer?_cons rfl,
    if_pos (by simp [binds, introduces, vars, Term.names, Term.name?, Term.text])]
  · rfl
  · simpa [htitle] using hnode.symm

end DayNote

namespace Template

theorem helper_titled {setting : Setting} {node text name : String}
    (h : name ∈ varsAll (titled setting node text)) (hnode : name ≠ node) :
    IsHelperIn (titled setting node text) name .title node ∨
      IsRegexIn (titled setting node text) name setting.dayNotePattern := by
  unfold titled at h ⊢
  split at h
  · next hdate =>
    -- the title is compared with the day-note pattern
    rw [if_pos hdate]
    rcases DayNote.eq_of_mem_vars h hnode with rfl | rfl
    · exact Or.inl ⟨rfl, DayNote.introducer?_title node setting.dayNotePattern⟩
    · exact Or.inr ⟨rfl, DayNote.introducer?_regex hnode⟩
  · next hdate =>
    -- the title is a constant, and the node the only variable
    simp [varsAll, mem_vars_triple, title, Term.string] at h
    exact absurd h.symm hnode

/-- A triple that introduces a helper as its value, and clauses after it that use this helper
only. -/
theorem helper_edge {source attr name : String} {k : Helper} {cs : List Clause}
    (hk : k.introducer source = .edge source attr (k.name source))
    (hcs : ∀ n ∈ varsAll cs, n = k.name source) (hsource : name ≠ source)
    (h : name ∈ varsAll (.edge source attr (k.name source) :: cs)) :
    IsHelperIn (.edge source attr (k.name source) :: cs) name k source := by
  have hname : name = k.name source := by
    rw [varsAll, List.mem_append, edge, mem_vars_triple] at h
    rcases h with (h | h) | h
    · exact absurd (Term.var.inj h).symm hsource
    · exact (Term.var.inj h).symm
    · exact hcs name h
  refine ⟨hname, ?_⟩
  rw [edge, introducer?_triple_cons, if_pos (Or.inr (by rw [hname])), hk, edge]

/-- An edge of source and target before other clauses has no part in the helpers. -/
theorem helper_edge_cons {near far attr name pattern : String} {k : Helper} {node : String}
    {cs : List Clause} (hnear : name ≠ near) (hfar : name ≠ far)
    (h : IsHelperIn cs name k node ∨ IsRegexIn cs name pattern) :
    IsHelperIn (.edge near attr far :: cs) name k node ∨
      IsRegexIn (.edge near attr far :: cs) name pattern := by
  have hskip : introducer? name (.edge near attr far :: cs) = introducer? name cs := by
    rw [edge, introducer?_triple_cons, if_neg]
    simp [hnear.symm, hfar.symm]
  rw [IsHelperIn, IsRegexIn, hskip]
  exact h

/-- No helper occurs in an edge of source and target. -/
theorem not_mem_vars_edge {near far attr name : String} (hnear : name ≠ near)
    (hfar : name ≠ far) : name ∉ vars (.edge near attr far) := by
  rw [edge, mem_vars_triple]
  simp [hnear.symm, hfar.symm]

theorem helper_attribute {source target name : String} (hsource : name ≠ source)
    (htarget : name ≠ target)
    (h : name ∈ varsAll [.triple (helper target "Attribute") ":node/title" (.string target),
      .triple (.var target) ":block/refs" (helper target "Attribute"),
      .edge target ":block/parents" source]) :
    IsHelperIn [.triple (helper target "Attribute") ":node/title" (.string target),
      .triple (.var target) ":block/refs" (helper target "Attribute"),
      .edge target ":block/parents" source] name .attribute target := by
  have hname : name = Helper.attribute.name target := by
    simp only [varsAll, List.mem_append, edge, mem_vars_triple, helper, Term.string,
      Term.var.injEq, reduceCtorEq, List.not_mem_nil, or_false] at h
    rcases h with h | (h | h) | h | h
    · exact h.symm
    · exact absurd h.symm htarget
    · exact h.symm
    · exact absurd h.symm htarget
    · exact absurd h.symm hsource
  refine ⟨hname, ?_⟩
  rw [introducer?_triple_cons, if_pos (Or.inl (by rw [hname]; rfl))]
  rfl

theorem helper_text {source name s : String} (hsource : name ≠ source)
    (h : name ∈ varsAll [.anyOf [.triple (.var source) ":block/string" (helper source "String"),
        .triple (.var source) ":node/title" (helper source "String")],
      includes (helper source "String") (.string s)]) :
    IsHelperIn [.anyOf [.triple (.var source) ":block/string" (helper source "String"),
        .triple (.var source) ":node/title" (helper source "String")],
      includes (helper source "String") (.string s)] name .text source := by
  have hname : name = Helper.text.name source := by
    simp only [varsAll, vars, includes, List.mem_append, mem_vars_triple, helper,
      Term.mem_names, Term.string, List.mem_cons, Term.var.injEq, reduceCtorEq, List.not_mem_nil,
      or_false] at h
    rcases h with ((h | h) | h | h) | h
    · exact absurd h.symm hsource
    · exact h.symm
    · exact absurd h.symm hsource
    · exact h.symm
    · exact h
  refine ⟨hname, ?_⟩
  have hany : binds name (.anyOf [.triple (.var source) ":block/string" (helper source "String"),
      .triple (.var source) ":node/title" (helper source "String")]) = true := by
    simp [binds, introduces, eachIntroduces, introduces_triple, vars, varsAll,
      mem_vars_triple, hname, Helper.name, Helper.word, helper]
  rw [introducer?_cons rfl, if_pos hany]
  rfl

/-- A triple of the source and a constant has the source as its only variable. -/
theorem not_mem_vars_constant {source attr text name : String} (hsource : name ≠ source) :
    name ∉ vars (.triple (.var source) attr (.const text)) := by
  rw [mem_vars_triple]
  simp [hsource.symm]

/-- A test of one helper has no other variable. -/
theorem eq_of_mem_vars_test {predicate node name : String} {k : Helper}
    {arguments : List Term} (ha : Term.names arguments = [k.name node])
    (h : name ∈ varsAll [.test predicate arguments]) : name = k.name node := by
  simpa [varsAll, vars, ha] using h

/-- The name of a user is a constant. -/
theorem eq_of_mem_vars_user {node attr name s : String} {k : Helper} (hk : k.word = "User")
    (h : name ∈ varsAll [.triple (helper node "User") attr (.string s)]) :
    name = k.name node := by
  have hname : node ++ "-" ++ "User" = name := by
    simpa [varsAll, mem_vars_triple, helper, Term.string] using h
  rw [Helper.name, hk, hname]

end Template

open Template in
/-- A variable of an arrangement that is neither the source nor the target is the helper of the
arrangement or the variable of the day-note pattern. -/
theorem Builtin.isHelperIn_of_mem_vars {b : Builtin} {r : Request} {setting : Setting}
    {xs : List Clause} {name : String} (hgen : b.generate r setting = .ok xs)
    (h : name ∈ varsAll xs) (hsource : name ≠ r.source) (htarget : name ≠ r.target) :
    (∃ k node, b.helper? r = some (k, node) ∧ IsHelperIn xs name k node) ∨
      IsRegexIn xs name setting.dayNotePattern := by
  cases b with
  | self =>
      cases hgen
      rw [varsAll, List.mem_append] at h
      exact absurd h (by simp [not_mem_vars_constant hsource, varsAll, Term.string])
  | hasHeading =>
      cases hgen
      obtain ⟨text, htext⟩ := headingLevel_eq_const r.target
      rw [htext, varsAll, List.mem_append] at h
      exact absurd h (by simp [not_mem_vars_constant hsource, varsAll])
  | references | isReferencedBy | isInPage | hasChild | hasParent | hasAncestor
  | hasDescendant =>
      cases hgen
      simp [varsAll, not_mem_vars_edge, hsource, htarget] at h
  | hasTitle =>
      cases hgen
      rcases helper_titled h hsource with h | h
      · exact Or.inl ⟨.title, r.source, rfl, h⟩
      · exact Or.inr h
  | withTextInTitle =>
      cases hgen
      exact Or.inl ⟨.title, r.source, rfl,
        helper_edge rfl (fun _ => eq_of_mem_vars_test rfl) hsource h⟩
  | hasAttribute =>
      cases hgen
      exact Or.inl ⟨.attribute, r.target, rfl, helper_attribute hsource htarget h⟩
  | withText =>
      cases hgen
      exact Or.inl ⟨.text, r.source, rfl, helper_text hsource h⟩
  | createdBy =>
      cases hgen
      exact Or.inl ⟨.creator, r.source, rfl,
        helper_edge rfl (fun _ => eq_of_mem_vars_user rfl) hsource h⟩
  | editedBy =>
      cases hgen
      exact Or.inl ⟨.editor, r.source, rfl,
        helper_edge rfl (fun _ => eq_of_mem_vars_user rfl) hsource h⟩
  | referencesTitle | isInPageWithTitle =>
      cases hgen
      rw [varsAll, List.mem_append] at h
      have h := h.resolve_left (not_mem_vars_edge hsource htarget)
      rcases helper_edge_cons hsource htarget (helper_titled h htarget) with h | h
      · exact Or.inl ⟨.title, r.target, rfl, h⟩
      · exact Or.inr h
  | createdAfter | createdBefore =>
      obtain ⟨instant, -, rfl⟩ := timedBy_eq_ok hgen
      exact Or.inl ⟨.created, r.source, rfl,
        helper_edge rfl (fun _ => eq_of_mem_vars_test rfl) hsource h⟩
  | editedAfter | editedBefore =>
      obtain ⟨instant, -, rfl⟩ := timedBy_eq_ok hgen
      exact Or.inl ⟨.edited, r.source, rfl,
        helper_edge rfl (fun _ => eq_of_mem_vars_test rfl) hsource h⟩

end ConditionQuery
