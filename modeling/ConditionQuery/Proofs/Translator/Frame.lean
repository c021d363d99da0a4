import ConditionQuery.Proofs.Relation.Resolution
import ConditionQuery.Translator

set_option autoImplicit false

/-! # What a change of the registry leaves alone

Registering and removing a name are local: they change what texts are taken for only where the
name itself is concerned. A new name can catch only texts that were taken for no relation. A
handler that replaces another one is seen by the texts that were taken for its name, and a removed
name is missed by them alone. What is registered under other names, and the suggestions that go
with it, stay as they are.
-/

namespace ConditionQuery

/-- What a text is taken for once a handler has taken the place of another one under a name. -/
def Resolved.replaced (name : String) (x : Handler) (resolved : Resolved) : Resolved :=
  if resolved.key = name then { resolved with handler := x } else resolved

namespace Registry

variable {r : Registry} {name text : String} {x : Handler} {resolved : Resolved}

/-! ## Registering a new name -/

/-- A new name comes last. -/
theorem keys_register_new (hname : name ∉ r.keys) (x : Handler) :
    (r.register name x).keys = r.keys ++ [name] := by
  rw [keys_register, if_neg hname]

theorem not_mem_keys_register_new (hname : name ∉ r.keys) (hne : text ≠ name)
    (hmem : text ∉ r.keys) : text ∉ (r.register name x).keys := by
  rw [keys_register_new hname, List.mem_append, List.mem_singleton, not_or]
  exact ⟨hmem, hne⟩

/-- A text that is taken for a relation is taken for it after the registration of a new name. -/
theorem WellKept.resolve_register_new (hr : r.WellKept) (hname : name ∉ r.keys)
    (hne : text ≠ name) (h : r.resolve text = some resolved) :
    (r.register name x).resolve text = some resolved := by
  obtain ⟨key, handler, kind⟩ := resolved
  have hkey : key ≠ name := fun heq => hname (heq ▸ hr.key_mem_of_resolve h)
  obtain ⟨hget, hcases⟩ := hr.cases_of_resolve h
  have hget' : (r.register name x).get? key = some handler := by
    rw [get?_register, if_neg hkey]
    exact hget
  rcases hcases with ⟨rfl, rfl⟩ | ⟨rfl, hmem, hfirst⟩
  · exact resolve_of_get? hget'
  · have hfirst' : (r.register name x).keys.find? (finds text) = some key := by
      rw [keys_register_new hname, List.find?_append, hfirst, Option.some_or]
    have hmem' := not_mem_keys_register_new (x := x) hname hne hmem
    exact (hr.register name x).resolve_of_first hmem' hfirst' hget'

/-- A text that is taken for no relation is taken for the new one if its name is found there. -/
theorem WellKept.resolve_register_new_of_none (hr : r.WellKept) (hname : name ∉ r.keys)
    (hne : text ≠ name) (h : r.resolve text = none) :
    (r.register name x).resolve text
      = if finds text name then some ⟨name, x, .fuzzy⟩ else none := by
  obtain ⟨hmem, hfirst⟩ := hr.resolve_eq_none_iff.mp h
  have hmem' := not_mem_keys_register_new (x := x) hname hne hmem
  have hfirst' : (r.register name x).keys.find? (finds text) = [name].find? (finds text) := by
    rw [keys_register_new hname, List.find?_append, hfirst, Option.none_or]
  rw [List.find?_singleton] at hfirst'
  split at hfirst'
  · next hfinds =>
    rw [if_pos hfinds]
    exact (hr.register name x).resolve_of_first hmem' hfirst' (by rw [get?_register, if_pos rfl])
  · next hfinds =>
    rw [if_neg hfinds]
    exact (hr.register name x).resolve_eq_none_iff.mpr ⟨hmem', hfirst'⟩

/-! ## Replacing a handler -/

/-- Every text is taken for the same name in the same way; only what stands under the replaced
name differs. -/
theorem WellKept.resolve_register_known (hr : r.WellKept) (hname : name ∈ r.keys)
    (text : String) (x : Handler) :
    (r.register name x).resolve text = (r.resolve text).map (Resolved.replaced name x) := by
  have hkeys : (r.register name x).keys = r.keys := by rw [keys_register, if_pos hname]
  cases h : r.resolve text with
  | none =>
      rw [Option.map_none, (hr.register name x).resolve_eq_none_iff, hkeys]
      exact hr.resolve_eq_none_iff.mp h
  | some resolved =>
      obtain ⟨key, handler, kind⟩ := resolved
      obtain ⟨hget, hcases⟩ := hr.cases_of_resolve h
      -- what stands under the name now is what the replacement puts there
      obtain ⟨y, hy, hreplaced⟩ : ∃ y, (r.register name x).get? key = some y ∧
          Resolved.replaced name x ⟨key, handler, kind⟩ = ⟨key, y, kind⟩ := by
        rw [get?_register]
        by_cases hkey : key = name
        · exact ⟨x, if_pos hkey, if_pos hkey⟩
        · exact ⟨handler, (if_neg hkey).trans hget, if_neg hkey⟩
      rw [Option.map_some, hreplaced]
      rcases hcases with ⟨rfl, rfl⟩ | ⟨rfl, hmem, hfirst⟩
      · exact resolve_of_get? hy
      · rw [← hkeys] at hmem hfirst
        exact (hr.register name x).resolve_of_first hmem hfirst hy

/-! ## Other names -/

theorem get?_apply_of_ne (r : Registry) {c : Change} (h : name ≠ c.name) :
    (r.apply c).get? name = r.get? name := by
  rw [get?_apply, if_neg (Ne.symm h)]

/-- Suggestions depend on what is registered under the relation's own name. -/
theorem targetOptions_congr {r' : Registry} (h : r'.get? name = r.get? name) (setting : Setting)
    (source : String) :
    Translator.targetOptions ⟨r', setting⟩ source name
      = Translator.targetOptions ⟨r, setting⟩ source name := by
  simp only [Translator.targetOptions, h]

/-! ## The frame -/

/-- A change of the registry is felt only where the changed name is concerned. -/
structure ChangesLocally (r : Registry) : Prop where
  /-- A new name takes no text from another relation; -/
  register_new : ∀ name x, name ∉ r.keys → ∀ text, text ≠ name → ∀ resolved,
    r.resolve text = some resolved → (r.register name x).resolve text = some resolved
  /-- it can only catch texts that were taken for none. -/
  register_new_of_none : ∀ name x, name ∉ r.keys → ∀ text, text ≠ name →
    r.resolve text = none →
      (r.register name x).resolve text = none ∨
        (r.register name x).resolve text = some ⟨name, x, .fuzzy⟩
  /-- A replaced handler is seen by the texts that are taken for its name, and changes nothing
  else. -/
  register_known : ∀ name x, name ∈ r.keys → ∀ text,
    (r.register name x).resolve text = (r.resolve text).map (Resolved.replaced name x)
  /-- A removed name is missed only by the texts that were taken for it. -/
  unregister : ∀ name text resolved, r.resolve text = some resolved → resolved.key ≠ name →
    (r.unregister name).resolve text = some resolved
  /-- What is registered under other names stays, -/
  get?_apply : ∀ (c : Change) name, name ≠ c.name → (r.apply c).get? name = r.get? name
  /-- and so do the suggestions for their targets. -/
  targetOptions_apply : ∀ (c : Change) name, name ≠ c.name → ∀ setting source,
    Translator.targetOptions ⟨r.apply c, setting⟩ source name
      = Translator.targetOptions ⟨r, setting⟩ source name

/-- **Changes are local.** This holds of every registry that comes about by changes of the empty
registry or of the built-in one. -/
theorem run_changesLocally (start : Start) (changes : List Change) :
    (start.registry.run changes).ChangesLocally := by
  have hr : (start.registry.run changes).WellKept := wellKept_run start changes
  constructor
  case register_new => exact fun _ _ hname _ hne _ h => hr.resolve_register_new hname hne h
  case register_new_of_none =>
    intro name x hname text hne h
    rw [hr.resolve_register_new_of_none hname hne h]
    split
    · exact Or.inr rfl
    · exact Or.inl rfl
  case register_known => exact fun _ x hname text => hr.resolve_register_known hname text x
  case unregister => exact fun _ _ _ h hne => hr.resolve_unregister h hne
  case get?_apply => exact fun _ _ hne => get?_apply_of_ne _ hne
  case targetOptions_apply =>
    exact fun _ _ hne setting source => targetOptions_congr (get?_apply_of_ne _ hne) setting source

end Registry

end ConditionQuery
