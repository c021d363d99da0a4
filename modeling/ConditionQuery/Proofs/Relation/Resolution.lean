import ConditionQuery.Proofs.Pattern.Search
import ConditionQuery.Proofs.Relation.History
import Mathlib.Data.List.Find
import Mathlib.Data.List.Nodup

set_option autoImplicit false

/-! # What a text is taken for

A text is taken for the relation of exactly that name. Any other text is taken for the first name,
in the order of registration, that matches somewhere in it as a pattern (`IsFirstMatch`); names
that are no patterns match nowhere.

In every registry that comes about by registering and removing names, the relation that a text is
taken for depends only on the names and on what stands under them (`WellKept.resolve_eq`). From
there on the laws of the registry for names and handlers suffice.
-/

namespace ConditionQuery.Registry

/-! ## Names that match in a text -/

/-- A name is a pattern, and the pattern, in letters of either case, matches somewhere in a
text. -/
def MatchesIn (name text : String) : Prop :=
  ∃ p, Regex.ofPattern? true name = some p ∧
    ∃ i j, i ≤ text.toList.length ∧ p.Spans text.toList i j

/-- The first of several names that matches in a text. -/
def IsFirstMatch (names : List String) (text name : String) : Prop :=
  ∃ before after, names = before ++ name :: after ∧ MatchesIn name text ∧
    ∀ n ∈ before, ¬ MatchesIn n text

/-- The search for a name, read as a pattern, finds it in a text. -/
def finds (text name : String) : Bool :=
  (Regex.ofPattern? true name).any fun p => p.isFoundIn text

theorem finds_iff {text name : String} : finds text name = true ↔ MatchesIn name text := by
  simp only [finds, MatchesIn, Option.any_eq_true, Regex.isFoundIn_iff]

theorem finds_of_no_pattern {name : String} (h : Regex.ofPattern? true name = none)
    (text : String) : finds text name = false := by
  rw [finds, h, Option.any_none]

theorem find?_finds_eq_some_iff {names : List String} {text name : String} :
    names.find? (finds text) = some name ↔ IsFirstMatch names text name := by
  simp only [List.find?_eq_some_iff_append, IsFirstMatch, Bool.not_eq_true', ← finds_iff,
    Bool.not_eq_true]
  constructor
  · rintro ⟨hname, before, after, hsplit, hbefore⟩
    exact ⟨before, after, hsplit, hname, hbefore⟩
  · rintro ⟨before, after, hsplit, hname, hbefore⟩
    exact ⟨hname, before, after, hsplit, hbefore⟩

theorem find?_finds_eq_none_iff {names : List String} {text : String} :
    names.find? (finds text) = none ↔ ∀ name ∈ names, ¬ MatchesIn name text := by
  simp only [List.find?_eq_none, finds_iff]

/-! ## Well kept registries -/

/-- No name occurs twice, and the entries have the patterns of their own names. -/
structure WellKept (r : Registry) : Prop where
  nodup : r.keys.Nodup
  patterns : PatternsOwn r

variable {r : Registry} {name text : String} {x : Handler}

theorem WellKept.apply (hr : r.WellKept) (c : Change) : (r.apply c).WellKept :=
  ⟨nodup_keys_apply hr.nodup c, hr.patterns.apply c⟩

theorem WellKept.register (hr : r.WellKept) (name : String) (x : Handler) :
    (r.register name x).WellKept :=
  hr.apply (.register name x)

theorem WellKept.unregister (hr : r.WellKept) (name : String) : (r.unregister name).WellKept :=
  hr.apply (.unregister name)

/-- Changes keep every registry well. -/
theorem wellKept_run (start : Start) (changes : List Change) :
    (start.registry.run changes).WellKept :=
  ⟨(start.tracks.run changes).nodup, (start.tracks.run changes).patterns⟩

theorem get?_eq_none_iff : r.get? name = none ↔ name ∉ r.keys := by
  rw [mem_keys_iff, ← Option.isSome_iff_exists, Option.not_isSome_iff_eq_none]

theorem WellKept.get?_key (hr : r.WellKept) {e : Entry} (he : e ∈ r.entries) :
    r.get? e.key = some e.handler := by
  have hsome : (r.find? e.key).isSome := by
    rw [find?, List.find?_isSome]
    exact ⟨e, he, by simp⟩
  obtain ⟨d, hd⟩ := Option.isSome_iff_exists.mp hsome
  have hkey : d.key = e.key := by simpa using List.find?_some hd
  have hmem : d ∈ r.entries := List.mem_of_find?_eq_some hd
  rw [get?, hd, List.inj_on_of_nodup_map hr.nodup hmem he hkey, Option.map_some]

/-! ## Resolution -/

/-- What a text is taken for, told from the names and from what stands under them. -/
theorem WellKept.resolve_eq (hr : r.WellKept) (text : String) :
    r.resolve text = ((r.get? text).map fun x => ⟨text, x, .exact⟩).or
      ((r.keys.find? (finds text)).bind fun name =>
        (r.get? name).map fun x => ⟨name, x, .fuzzy⟩) := by
  unfold resolve
  cases hfind : r.find? text with
  | some e =>
      have hkey : e.key = text := by simpa using List.find?_some hfind
      dsimp only
      rw [get?, hfind, hkey]
      rfl
  | none =>
      -- the first entry whose pattern is found is the entry of the first name that is found
      have hfinds : ∀ e ∈ r.entries, e.isFoundIn text = finds text e.key := by
        intro e he
        rw [Entry.isFoundIn, hr.patterns e he, finds]
      have hkeys : r.keys.find? (finds text)
          = (r.entries.find? fun e => e.isFoundIn text).map Entry.key := by
        rw [keys, List.find?_map]
        congr 1
        exact (List.find?_congr hfinds).symm
      have hnone : r.get? text = none := by rw [get?, hfind, Option.map_none]
      rw [hkeys, hnone, Option.map_none, Option.none_or]
      cases hfirst : r.entries.find? fun e => e.isFoundIn text with
      | none => rfl
      | some e =>
          have hget : r.get? e.key = some e.handler :=
            hr.get?_key (List.mem_of_find?_eq_some hfirst)
          rw [Option.map_some, Option.map_some, Option.bind_some, hget]
          rfl

theorem WellKept.resolve_of_not_mem (hr : r.WellKept) (h : text ∉ r.keys) :
    r.resolve text = (r.keys.find? (finds text)).bind fun name =>
      (r.get? name).map fun x => ⟨name, x, .fuzzy⟩ := by
  rw [hr.resolve_eq, get?_eq_none_iff.mpr h]
  rfl

theorem WellKept.resolve_of_first (hr : r.WellKept) (h : text ∉ r.keys)
    (hfirst : r.keys.find? (finds text) = some name) (hx : r.get? name = some x) :
    r.resolve text = some ⟨name, x, .fuzzy⟩ := by
  rw [hr.resolve_of_not_mem h, hfirst, Option.bind_some, hx]
  rfl

/-- A text that is taken for a relation is its name, or no name and then the relation's is the
first one found in it. -/
theorem WellKept.cases_of_resolve (hr : r.WellKept) {resolved : Resolved}
    (h : r.resolve text = some resolved) :
    r.get? resolved.key = some resolved.handler ∧
      ((resolved.kind = .exact ∧ resolved.key = text) ∨
        (resolved.kind = .fuzzy ∧ text ∉ r.keys ∧
          r.keys.find? (finds text) = some resolved.key)) := by
  by_cases hmem : text ∈ r.keys
  · obtain ⟨x, hx⟩ := mem_keys_iff.mp hmem
    rw [resolve_of_get? hx] at h
    cases h
    exact ⟨hx, Or.inl ⟨rfl, rfl⟩⟩
  · rw [hr.resolve_of_not_mem hmem] at h
    obtain ⟨name, hfirst, hname⟩ := Option.bind_eq_some_iff.mp h
    obtain ⟨x, hx, rfl⟩ := Option.map_eq_some_iff.mp hname
    exact ⟨hx, Or.inr ⟨rfl, hmem, hfirst⟩⟩

theorem WellKept.resolve_eq_none_iff (hr : r.WellKept) :
    r.resolve text = none ↔ text ∉ r.keys ∧ r.keys.find? (finds text) = none := by
  constructor
  · intro h
    have hmem : text ∉ r.keys := by
      intro hmem
      obtain ⟨x, hx⟩ := mem_keys_iff.mp hmem
      rw [resolve_of_get? hx] at h
      cases h
    refine ⟨hmem, Option.eq_none_iff_forall_ne_some.mpr fun name hfirst => ?_⟩
    obtain ⟨x, hx⟩ := mem_keys_iff.mp (List.mem_of_find?_eq_some hfirst)
    rw [hr.resolve_of_first hmem hfirst hx] at h
    cases h
  · rintro ⟨hmem, hfirst⟩
    rw [hr.resolve_of_not_mem hmem, hfirst, Option.bind_none]

/-! ## Resolution and removal -/

/-- A first match that passes a filter is the first match among what passes. -/
theorem find?_filter_of_find? {α : Type} {p q : α → Bool} {items : List α} {a : α}
    (h : items.find? p = some a) (ha : q a = true) : (items.filter q).find? p = some a := by
  rw [List.find?_filter]
  rw [List.find?_eq_some_iff_append] at h ⊢
  obtain ⟨hp, before, after, hsplit, hbefore⟩ := h
  refine ⟨by simp [hp, ha], before, after, hsplit, fun b hb => ?_⟩
  have hb' : p b = false := by simpa using hbefore b hb
  simp [hb']

/-- Where nothing is found, nothing is found among what passes a filter. -/
theorem find?_filter_eq_none {α : Type} {p q : α → Bool} {items : List α}
    (h : items.find? p = none) : (items.filter q).find? p = none := by
  rw [List.find?_eq_none] at h ⊢
  exact fun a ha => h a (List.mem_filter.mp ha).1

theorem not_mem_keys_unregister (h : text ∉ r.keys) (name : String) :
    text ∉ (r.unregister name).keys := by
  rw [keys_unregister]
  exact fun hmem => h (List.mem_filter.mp hmem).1

/-- A text that is taken for another relation is taken for it after the removal of a name. -/
theorem WellKept.resolve_unregister (hr : r.WellKept) {resolved : Resolved}
    (h : r.resolve text = some resolved) (hne : resolved.key ≠ name) :
    (r.unregister name).resolve text = some resolved := by
  obtain ⟨key, handler, kind⟩ := resolved
  obtain ⟨hget, hcases⟩ := hr.cases_of_resolve h
  have hget' : (r.unregister name).get? key = some handler := by
    rw [get?_unregister, if_neg hne]
    exact hget
  rcases hcases with ⟨rfl, rfl⟩ | ⟨rfl, hmem, hfirst⟩
  · exact resolve_of_get? hget'
  · have hmem' := not_mem_keys_unregister hmem name
    have hfirst' : (r.unregister name).keys.find? (finds text) = some key := by
      rw [keys_unregister]
      exact find?_filter_of_find? hfirst (by simpa using hne)
    exact (hr.unregister name).resolve_of_first hmem' hfirst' hget'

/-- A text that is taken for no relation is taken for none after the removal of a name. -/
theorem WellKept.resolve_unregister_eq_none (hr : r.WellKept) (h : r.resolve text = none)
    (name : String) : (r.unregister name).resolve text = none := by
  obtain ⟨hmem, hfirst⟩ := hr.resolve_eq_none_iff.mp h
  refine (hr.unregister name).resolve_eq_none_iff.mpr ⟨not_mem_keys_unregister hmem name, ?_⟩
  rw [keys_unregister]
  exact find?_filter_eq_none hfirst

/-- The relation that a text is taken for is registered. -/
theorem WellKept.key_mem_of_resolve (hr : r.WellKept) {resolved : Resolved}
    (h : r.resolve text = some resolved) : resolved.key ∈ r.keys :=
  mem_keys_iff.mpr ⟨resolved.handler, (hr.cases_of_resolve h).1⟩

/-- Only its own text is taken for a name that is no pattern. -/
theorem WellKept.eq_of_no_pattern (hr : r.WellKept) {resolved : Resolved}
    (hname : Regex.ofPattern? true resolved.key = none) (h : r.resolve text = some resolved) :
    text = resolved.key ∧ resolved.kind = .exact := by
  rcases (hr.cases_of_resolve h).2 with ⟨hkind, hkey⟩ | ⟨-, -, hfirst⟩
  · exact ⟨hkey.symm, hkind⟩
  · have hfinds : finds text resolved.key = true := List.find?_some hfirst
    rw [finds_of_no_pattern hname] at hfinds
    cases hfinds

/-! ## The law of resolution -/

/-- Texts are taken for relations by their exact names, and then by the first name that
matches. -/
structure ResolvesInOrder (r : Registry) : Prop where
  /-- A name is taken for exactly its relation, with what is registered under it. -/
  exact_iff : ∀ text, text ∈ r.keys ↔
    ∃ x, r.get? text = some x ∧ r.resolve text = some ⟨text, x, .exact⟩
  /-- Any other text is taken for the first name that matches in it, -/
  fuzzy_iff : ∀ text, text ∉ r.keys → ∀ name, IsFirstMatch r.keys text name ↔
    ∃ x, r.get? name = some x ∧ r.resolve text = some ⟨name, x, .fuzzy⟩
  /-- and for no relation if there is no such name. -/
  none_iff : ∀ text, r.resolve text = none ↔
    text ∉ r.keys ∧ ∀ name ∈ r.keys, ¬ MatchesIn name text
  /-- Only its own text is taken for a name that is no pattern, -/
  of_no_pattern : ∀ name, Regex.ofPattern? true name = none → ∀ text resolved,
    r.resolve text = some resolved → resolved.key = name → text = name ∧ resolved.kind = .exact
  /-- and for other texts such a name might as well not be there. -/
  unregister_no_pattern : ∀ name, Regex.ofPattern? true name = none → ∀ text, text ≠ name →
    (r.unregister name).resolve text = r.resolve text
  /-- What has just been registered under a name is what the name is taken for. -/
  resolve_register : ∀ name x, (r.register name x).resolve name = some ⟨name, x, .exact⟩
  /-- No text is taken for a name that has just been removed. -/
  unregister_ne : ∀ name text resolved, (r.unregister name).resolve text = some resolved →
    resolved.key ≠ name

theorem mem_keys_iff_exact : text ∈ r.keys ↔
    ∃ x, r.get? text = some x ∧ r.resolve text = some ⟨text, x, .exact⟩ := by
  rw [mem_keys_iff]
  exact exists_congr fun x => (and_iff_left_of_imp resolve_of_get?).symm

theorem WellKept.fuzzy_iff (hr : r.WellKept) (h : text ∉ r.keys) :
    IsFirstMatch r.keys text name ↔
      ∃ x, r.get? name = some x ∧ r.resolve text = some ⟨name, x, .fuzzy⟩ := by
  rw [← find?_finds_eq_some_iff]
  constructor
  · intro hfirst
    obtain ⟨x, hx⟩ := mem_keys_iff.mp (List.mem_of_find?_eq_some hfirst)
    exact ⟨x, hx, hr.resolve_of_first h hfirst hx⟩
  · rintro ⟨x, -, hres⟩
    rcases (hr.cases_of_resolve hres).2 with ⟨hkind, -⟩ | ⟨-, -, hfirst⟩
    · cases hkind
    · exact hfirst

theorem WellKept.unregister_no_pattern (hr : r.WellKept)
    (hname : Regex.ofPattern? true name = none) (hne : text ≠ name) :
    (r.unregister name).resolve text = r.resolve text := by
  cases h : r.resolve text with
  | none => exact hr.resolve_unregister_eq_none h name
  | some resolved =>
      refine hr.resolve_unregister h fun hkey => hne ?_
      rw [← hkey] at hname ⊢
      exact (hr.eq_of_no_pattern hname h).1

theorem WellKept.resolvesInOrder (hr : r.WellKept) : r.ResolvesInOrder where
  exact_iff := fun _ => mem_keys_iff_exact
  fuzzy_iff := fun _ h _ => hr.fuzzy_iff h
  none_iff := fun _ => by rw [hr.resolve_eq_none_iff, find?_finds_eq_none_iff]
  of_no_pattern := by
    rintro _ hname text resolved h rfl
    exact hr.eq_of_no_pattern hname h
  unregister_no_pattern := fun _ hname _ hne => hr.unregister_no_pattern hname hne
  resolve_register := by
    intro name x
    exact resolve_of_get? (by rw [get?_register, if_pos rfl])
  unregister_ne := by
    intro name text resolved h hkey
    have hmem := (hr.unregister name).key_mem_of_resolve h
    rw [keys_unregister, hkey] at hmem
    simp at hmem

/-- **Exact names come first, and then the first match in the order of registration.** This
holds after any changes of the empty registry or of the built-in one. -/
theorem run_resolvesInOrder (start : Start) (changes : List Change) :
    (start.registry.run changes).ResolvesInOrder :=
  (wellKept_run start changes).resolvesInOrder

/-- The first name is no pattern, and the third one would match too. -/
example :
    let registry := Registry.empty.run [.register "has (kid" (.builtin .hasChild),
      .register "kid|child" (.builtin .hasChild), .register "has kid" (.builtin .hasParent)]
    (registry.resolve "Block HAS KID").map (fun resolved => (resolved.key, resolved.kind))
      = some ("kid|child", .fuzzy) := by
  decide +kernel

end ConditionQuery.Registry
