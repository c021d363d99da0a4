import ConditionQuery.Json.Basic
import Mathlib.Data.List.Forall2
import Mathlib.Logic.Relation

set_option autoImplicit false

/-! # Rearranged values

Readers look the fields of an object up by name. What they read should therefore not depend on the
order of the fields, nor on fields that the shape of the object does not use. `Edit` is one such
change of a value, in any object at any depth, and `Edits` is any number of them. Which names a
shape uses is told from the fields by a parameter.

To show that a reader does not see edits it is enough to look at one array and at one object
(`Edit.rel`).
-/

namespace ConditionQuery.Json

variable {fields fields' : List (String × Json)} {uses : List (String × Json) → List String}
  {j j' : Json}

/-- One change of an object in a value: its fields, which have distinct names, come in another
order, or it gets a field with a new name that its shape does not use. -/
inductive Edit (uses : List (String × Json) → List String) : Json → Json → Prop where
  | permute {fields fields' : List (String × Json)} (hnames : (fields.map Prod.fst).Nodup)
      (hperm : fields.Perm fields') : Edit uses (.object fields) (.object fields')
  | add {fields : List (String × Json)} {name : String} (value : Json)
      (hnew : name ∉ fields.map Prod.fst) (hunused : name ∉ uses fields) :
      Edit uses (.object fields) (.object ((name, value) :: fields))
  | inItem {before after : List Json} {j j' : Json} (h : Edit uses j j') :
      Edit uses (.array (before ++ j :: after)) (.array (before ++ j' :: after))
  | inField {before after : List (String × Json)} {name : String} {j j' : Json}
      (h : Edit uses j j') :
      Edit uses (.object (before ++ (name, j) :: after)) (.object (before ++ (name, j') :: after))

def Edits (uses : List (String × Json) → List String) : Json → Json → Prop :=
  Relation.ReflTransGen (Edit uses)

/-! ## Fields by name -/

theorem lookup_cons_ne {name other : String} (h : other ≠ name) (value : Json) :
    ((name, value) :: fields).lookup other = fields.lookup other := by
  rw [List.lookup_cons, beq_false_of_ne h]

theorem lookup_eq_some_iff_mem (h : (fields.map Prod.fst).Nodup) {name : String} {value : Json} :
    fields.lookup name = some value ↔ (name, value) ∈ fields := by
  induction fields with
  | nil => simp
  | cons f rest ih =>
      obtain ⟨n, v⟩ := f
      rw [List.map_cons, List.nodup_cons] at h
      rw [List.mem_cons, Prod.mk.injEq]
      by_cases hn : name = n
      · subst hn
        -- no other field has this name
        have hrest : (name, value) ∉ rest := by
          intro hmem
          have hname : name ∈ rest.map Prod.fst := List.mem_map_of_mem (f := Prod.fst) hmem
          exact h.1 hname
        simp [hrest, eq_comm]
      · rw [lookup_cons_ne hn, ih h.2]
        simp [hn]

/-- Among fields with distinct names the order does not matter. -/
theorem lookup_perm (h : (fields.map Prod.fst).Nodup) (hperm : fields.Perm fields')
    (name : String) : fields.lookup name = fields'.lookup name := by
  have h' : (fields'.map Prod.fst).Nodup := (hperm.map Prod.fst).nodup_iff.mp h
  refine Option.ext fun value => ?_
  rw [lookup_eq_some_iff_mem h, lookup_eq_some_iff_mem h', hperm.mem_iff]

/-- The fields that are left once those with some names have been dropped. -/
theorem lookup_filter (names : List String) (fields : List (String × Json)) (name : String) :
    (fields.filter fun f => f.1 ∉ names).lookup name
      = if name ∈ names then none else fields.lookup name := by
  induction fields with
  | nil => simp
  | cons f rest ih =>
      obtain ⟨n, v⟩ := f
      by_cases hdropped : n ∈ names
      · rw [List.filter_cons_of_neg (by simpa using hdropped), ih]
        by_cases hname : name ∈ names
        · rw [if_pos hname, if_pos hname]
        · have hne : name ≠ n := fun heq => hname (heq ▸ hdropped)
          rw [if_neg hname, if_neg hname, lookup_cons_ne hne]
      · rw [List.filter_cons_of_pos (by simpa using hdropped)]
        by_cases hn : name = n
        · subst hn
          rw [if_neg hdropped, List.lookup_cons_self, List.lookup_cons_self]
        · rw [lookup_cons_ne hn, ih, lookup_cons_ne hn]

variable {S : Json → Json → Prop}

/-- Fields with the same names and related values have related values under every name. -/
theorem rel_lookup
    (h : List.Forall₂ (fun f f' : String × Json => f.1 = f'.1 ∧ S f.2 f'.2) fields fields')
    (name : String) : Option.Rel S (fields.lookup name) (fields'.lookup name) := by
  induction h with
  | nil => exact .none
  | @cons f f' rest rest' hf _ ih =>
      rw [List.lookup_cons, List.lookup_cons, ← hf.1]
      split
      · exact .some hf.2
      · exact ih

theorem forall₂_zip {items items' : List Json} (h : List.Forall₂ S items items')
    (names : List String) :
    List.Forall₂ (fun f f' : String × Json => f.1 = f'.1 ∧ S f.2 f'.2) (names.zip items)
      (names.zip items') := by
  induction h generalizing names with
  | nil => simp
  | cons hj _ ih =>
      cases names with
      | nil => exact .nil
      | cons n names => exact .cons ⟨rfl, hj⟩ (ih names)

/-- A record that is written as an array of related values has related fields. -/
theorem rel_field?_record {items items' : List Json} (h : List.Forall₂ S items items')
    (names : List String) (name : String) :
    Option.Rel S ((record names (.array items)).field? name)
      ((record names (.array items')).field? name) := by
  rw [record, record, ← h.length_eq]
  split
  · exact rel_lookup (forall₂_zip h names) name
  · exact .none

/-- Readers that agree on related values agree on related fields. -/
theorem rel_bind {α : Type} {o o' : Option Json} {read read' : Json → Option α}
    (h : Option.Rel S o o') (hread : ∀ j j', S j j' → read' j' = read j) :
    o'.bind read' = o.bind read := by
  cases h with
  | none => rfl
  | some hS => exact hread _ _ hS

theorem rel_fieldD? {α : Type} {name : String} {fallback : α} {read : Json → Option α}
    (h : Option.Rel S (j.field? name) (j'.field? name))
    (hread : ∀ i i', S i i' → read i' = read i) :
    j'.fieldD? name fallback read = j.fieldD? name fallback read := by
  rw [fieldD?, fieldD?]
  generalize j.field? name = o at h ⊢
  generalize j'.field? name = o' at h ⊢
  cases h with
  | none => rfl
  | some hS => exact hread _ _ hS

theorem mapM_eq_of_forall₂ {α : Type} {items items' : List Json} {read : Json → Option α}
    (h : List.Forall₂ S items items') (hread : ∀ j j', S j j' → read j' = read j) :
    items'.mapM read = items.mapM read := by
  induction h with
  | nil => rfl
  | cons hj _ ih => rw [List.mapM_cons, List.mapM_cons, hread _ _ hj, ih]

/-! ## Edits and readers -/

/-- A relation between values passes from the items of an array to the array, and to an object
from the fields that its shape uses. -/
structure Passes (uses : List (String × Json) → List String) (S : Json → Json → Prop) :
    Prop where
  refl : ∀ j, S j j
  array : ∀ items items', List.Forall₂ S items items' → S (.array items) (.array items')
  object : ∀ fields fields',
    (∀ name ∈ uses fields, Option.Rel S (fields.lookup name) (fields'.lookup name)) →
      S (.object fields) (.object fields')

/-- Such a relation holds between a value and the edited one. -/
theorem Edit.rel (hS : Passes uses S) (h : Edit uses j j') : S j j' := by
  have hrefl : ∀ o : Option Json, Option.Rel S o o := by
    intro o
    cases o with
    | none => exact .none
    | some j => exact .some (hS.refl j)
  induction h with
  | @permute fields fields' hnames hperm =>
      refine hS.object fields fields' fun name _ => ?_
      rw [lookup_perm hnames hperm]
      exact hrefl _
  | @add fields name value hnew hunused =>
      refine hS.object fields _ fun other hused => ?_
      have hne : other ≠ name := fun heq => hunused (heq ▸ hused)
      rw [lookup_cons_ne hne]
      exact hrefl _
  | inItem _ ih =>
      refine hS.array _ _ (List.rel_append ?_ (.cons ih ?_))
      · exact List.forall₂_same.mpr fun j _ => hS.refl j
      · exact List.forall₂_same.mpr fun j _ => hS.refl j
  | inField _ ih =>
      refine hS.object _ _ fun name _ => rel_lookup ?_ name
      refine List.rel_append ?_ (.cons ⟨rfl, ih⟩ ?_)
      · exact List.forall₂_same.mpr fun f _ => ⟨rfl, hS.refl f.2⟩
      · exact List.forall₂_same.mpr fun f _ => ⟨rfl, hS.refl f.2⟩

/-- A reader that does not see one edit does not see any number of them. -/
theorem Edits.read_eq {α : Type} {read : Json → Option α}
    (hread : ∀ j j', Edit uses j j' → read j' = read j) (h : Edits uses j j') :
    read j' = read j := by
  induction h with
  | refl => rfl
  | tail _ hedit ih => rw [hread _ _ hedit, ih]

/-! ## Dropped fields -/

def without (names : List String) : Json → Json
  | .object fields => .object (fields.filter fun f => f.1 ∉ names)
  | j => j

theorem without_nil (j : Json) : j.without [] = j := by
  cases j <;> simp [without]

theorem field?_without (names : List String) (name : String) (fields : List (String × Json)) :
    ((Json.object fields).without names).field? name
      = if name ∈ names then none else (Json.object fields).field? name :=
  lookup_filter names fields name

end ConditionQuery.Json
