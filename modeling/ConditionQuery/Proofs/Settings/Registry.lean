import ConditionQuery.Proofs.Relation.Builtins
import ConditionQuery.Settings

set_option autoImplicit false

/-! # The registry of a program

Settings name built-in relations to leave out. The program goes through these names one by one and
removes the relation of exactly this name, if there is one. What is left does not depend on the
order of the names, on repetitions, or on names that no built-in relation has: it is the registry of
the built-in relations without the entries whose names are in the list (`Settings.registry_eq`). A
text that would have been taken for one of these may still be taken for another relation.
-/

namespace ConditionQuery

/-! ## Names of built-in relations -/

namespace Builtin

theorem name_of_ofName? {name : String} {b : Builtin} (h : ofName? name = some b) :
    b.name = name := by
  simpa using List.find?_some h

theorem ofName?_eq_none_iff {name : String} :
    ofName? name = none ↔ ∀ b : Builtin, b.name ≠ name := by
  rw [ofName?, List.find?_eq_none]
  constructor
  · intro h b
    simpa using h b b.mem_all
  · intro h b _
    simpa using h b

/-- No two relations have one name, since each is registered under its own. -/
theorem name_injective : Function.Injective name := by
  intro a b h
  have hget : Registry.builtins.get? b.name = some (.builtin a) := by
    rw [← h, Registry.get?_builtins]
  rw [Registry.get?_builtins, Option.some.injEq] at hget
  exact (Generator.builtin.inj (congrArg Handler.generator hget)).symm

end Builtin

/-! ## Removals -/

namespace Registry

def removals (names : List String) : List Change :=
  names.map .unregister

/-- What is left after removals are the entries with other names, in their order. -/
theorem run_removals (r : Registry) (names : List String) :
    r.run (removals names) = ⟨r.entries.filter fun e => e.key ∉ names⟩ := by
  induction names generalizing r with
  | nil =>
      show r = _
      simp
  | cons name names ih =>
      have hcons : r.run (removals (name :: names))
          = (r.unregister name).run (removals names) := rfl
      rw [hcons, ih, unregister, List.filter_filter]
      congr 2
      funext e
      simp [Bool.and_comm]

variable {r : Registry}

/-- The registry without the relation of a name, if there is one. -/
def leaveOut (r : Registry) (name : String) : Registry :=
  match Builtin.ofName? name with
  | some b => r.unregister b.name
  | none => r

/-- Where all names are names of built-in relations, to leave one out is to remove it. -/
theorem leaveOut_eq (hr : ∀ key ∈ r.keys, ∃ b : Builtin, key = b.name) (name : String) :
    leaveOut r name = r.unregister name := by
  unfold leaveOut
  cases hname : Builtin.ofName? name with
  | some b =>
      show r.unregister b.name = r.unregister name
      rw [Builtin.name_of_ofName? hname]
  | none =>
      have hmem : name ∉ r.keys := by
        intro hmem
        obtain ⟨b, hb⟩ := hr name hmem
        exact Builtin.ofName?_eq_none_iff.mp hname b hb.symm
      exact (unregister_of_not_mem hmem).symm

theorem foldl_leaveOut (hr : ∀ key ∈ r.keys, ∃ b : Builtin, key = b.name) (names : List String) :
    names.foldl leaveOut r = r.run (removals names) := by
  induction names generalizing r with
  | nil => rfl
  | cons name names ih =>
      -- the names that are left are still names of built-in relations
      have hkeys : ∀ key ∈ (r.unregister name).keys, ∃ b : Builtin, key = b.name := by
        intro key hkey
        rw [keys_unregister] at hkey
        exact hr key (List.mem_filter.mp hkey).1
      rw [List.foldl_cons, leaveOut_eq hr, ih hkeys]
      rfl

/-! ## What is left -/

/-- A registry holds the built-in relations, in their order, except those of some names. -/
structure HoldsBuiltinsExcept (r : Registry) (names : List String) : Prop where
  /-- The entries are those of the built-in relations with other names, -/
  entries_eq : r.entries = builtins.entries.filter fun e => e.key ∉ names
  /-- so that the names are theirs, in the order of the relations. -/
  keys_eq : r.keys = (Builtin.all.map Builtin.name).filter (· ∉ names)
  /-- No text is taken for a relation that is left out. -/
  key_not_mem : ∀ text resolved, r.resolve text = some resolved → resolved.key ∉ names
  /-- A name that is not left out is taken for exactly its own relation, -/
  resolve_name : ∀ b : Builtin, b.name ∉ names →
    r.resolve b.name = some ⟨b.name, .builtin b, .exact⟩
  /-- and other texts, names that are left out among them, for the first name left that matches. -/
  resolvesInOrder : r.ResolvesInOrder

end Registry

namespace Settings

variable {s : Settings}

/-- The registry comes about by removals from that of the built-in relations. -/
theorem registry_eq_run (s : Settings) :
    s.registry = Registry.builtins.run (Registry.removals s.disabledRelations) :=
  Registry.foldl_leaveOut (fun _ hkey => Registry.mem_keys_builtins_iff.mp hkey)
    s.disabledRelations

/-- It holds the entries of the built-in relations that are not left out. -/
theorem registry_eq (s : Settings) :
    s.registry = ⟨Registry.builtins.entries.filter fun e => e.key ∉ s.disabledRelations⟩ := by
  rw [registry_eq_run, Registry.run_removals]

theorem wellKept_registry (s : Settings) : s.registry.WellKept := by
  rw [registry_eq_run]
  exact Registry.wellKept_run .builtins _

theorem keys_registry (s : Settings) :
    s.registry.keys = (Builtin.all.map Builtin.name).filter (· ∉ s.disabledRelations) := by
  calc s.registry.keys
      = Registry.builtins.keys.filter (· ∉ s.disabledRelations) := by
        rw [registry_eq, Registry.keys, Registry.keys, List.filter_map]
        rfl
    _ = (Builtin.all.map Builtin.name).filter (· ∉ s.disabledRelations) := by
        rw [Registry.keys_builtins]

theorem get?_registry {b : Builtin} (hb : b.name ∉ s.disabledRelations) :
    s.registry.get? b.name = some (.builtin b) := by
  have hentry : Entry.make b.name (.builtin b) ∈ s.registry.entries := by
    rw [registry_eq, List.mem_filter]
    exact ⟨List.mem_map_of_mem b.mem_all, decide_eq_true hb⟩
  exact s.wellKept_registry.get?_key hentry

/-- If relations are named to leave out, all others are left, in their order. -/
theorem registry_of_named {bs : List Builtin} (h : s.disabledRelations = bs.map Builtin.name) :
    s.registry = ⟨(Builtin.all.filter (· ∉ bs)).map fun b => Entry.make b.name (.builtin b)⟩ := by
  rw [registry_eq, h, Registry.builtins, List.filter_map]
  congr 2
  refine List.filter_congr fun b _ => ?_
  exact decide_eq_decide.mpr (not_congr (List.mem_map_of_injective Builtin.name_injective))

/-- Among the names to leave out only those of built-in relations count. -/
theorem registry_congr {names : List String}
    (h : ∀ b : Builtin, b.name ∈ names ↔ b.name ∈ s.disabledRelations) :
    { s with disabledRelations := names }.registry = s.registry := by
  rw [registry_eq, registry_eq]
  congr 1
  refine List.filter_congr fun e he => ?_
  obtain ⟨b, -, rfl⟩ := List.mem_map.mp he
  exact decide_eq_decide.mpr (not_congr (h b))

theorem registry_holdsBuiltinsExcept (s : Settings) :
    s.registry.HoldsBuiltinsExcept s.disabledRelations where
  entries_eq := by rw [registry_eq]
  keys_eq := s.keys_registry
  key_not_mem := by
    intro text resolved h
    have hmem := s.wellKept_registry.key_mem_of_resolve h
    rw [keys_registry, List.mem_filter] at hmem
    exact of_decide_eq_true hmem.2
  resolve_name := fun _ hb => Registry.resolve_of_get? (get?_registry hb)
  resolvesInOrder := s.wellKept_registry.resolvesInOrder

/-- **Settings leave out exactly the built-in relations they name.** The registry of a program holds
the built-in relations, in their order, except those whose names stand in the list as they are.
Lists in which the same built-in relations are named, in any order and any number of times and
among any other names, give the same program. -/
theorem translator_registry (s : Settings) (services : Services) :
    (s.translator services).registry.HoldsBuiltinsExcept s.disabledRelations ∧
    ∀ names : List String, (∀ b : Builtin, b.name ∈ names ↔ b.name ∈ s.disabledRelations) →
      { s with disabledRelations := names }.translator services = s.translator services := by
  refine ⟨s.registry_holdsBuiltinsExcept, fun names h => ?_⟩
  show Translator.mk { s with disabledRelations := names }.registry _ = Translator.mk s.registry _
  rw [registry_congr h]

/-- A name that is left out may stand for another relation then, and names in other letters count
for nothing. -/
example :
    ((Settings.mk "" none ["references title", "Self", "?"]).registry.resolve
      "references title").map (fun x => (x.key, x.kind)) = some ("references", .fuzzy) := by
  decide +kernel

end Settings

end ConditionQuery
