import ConditionQuery.Relation.Registry

set_option autoImplicit false

/-! # Laws of the registry

What registering and removing a name do to the names, to what is registered under a name and to
the entries. All other facts about registries follow from these laws, without a look at how the
entries are kept.
-/

namespace ConditionQuery.Registry

variable {r : Registry} {name other : String} {x : Handler}

/-! ## Entries -/

/-- An entry after a handler has been put there is an old one, an old one with the handler, or a
new one. -/
theorem mem_put {entries : List Entry} {e : Entry} (h : e ∈ put name x entries) :
    e ∈ entries ∨ (∃ d ∈ entries, e = { d with handler := x }) ∨ e = Entry.make name x := by
  induction entries with
  | nil => exact Or.inr (Or.inr (List.mem_singleton.mp h))
  | cons d rest ih =>
      rw [put] at h
      split at h
      · rcases List.mem_cons.mp h with rfl | h
        · exact Or.inr (Or.inl ⟨d, List.mem_cons_self .., rfl⟩)
        · exact Or.inl (List.mem_cons_of_mem _ h)
      · rcases List.mem_cons.mp h with rfl | h
        · exact Or.inl (List.mem_cons_self ..)
        · rcases ih h with h | ⟨d', hd', rfl⟩ | rfl
          · exact Or.inl (List.mem_cons_of_mem _ h)
          · exact Or.inr (Or.inl ⟨d', List.mem_cons_of_mem _ hd', rfl⟩)
          · exact Or.inr (Or.inr rfl)

theorem put_of_not_mem {entries : List Entry} (h : name ∉ entries.map Entry.key) :
    put name x entries = entries ++ [Entry.make name x] := by
  induction entries with
  | nil => rfl
  | cons d rest ih =>
      rw [List.map_cons, List.mem_cons, not_or] at h
      rw [put, if_neg (Ne.symm h.1), ih h.2, List.cons_append]

theorem map_key_put_of_mem {entries : List Entry} (h : name ∈ entries.map Entry.key) :
    (put name x entries).map Entry.key = entries.map Entry.key := by
  induction entries with
  | nil => exact absurd h List.not_mem_nil
  | cons d rest ih =>
      rw [put]
      split
      · rfl
      · next hne =>
        rw [List.map_cons, List.mem_cons] at h
        rw [List.map_cons, List.map_cons, ih (h.resolve_left fun heq => hne heq.symm)]

/-! ## Names -/

theorem keys_register (r : Registry) (name : String) (x : Handler) :
    (r.register name x).keys = if name ∈ r.keys then r.keys else r.keys ++ [name] := by
  split
  · next hmem => exact map_key_put_of_mem hmem
  · next hmem =>
    rw [keys, register, put_of_not_mem hmem, List.map_append]
    rfl

theorem keys_unregister (r : Registry) (name : String) :
    (r.unregister name).keys = r.keys.filter (· ≠ name) := by
  rw [keys, unregister, keys, List.filter_map]
  rfl

theorem contains_iff : r.contains name = true ↔ name ∈ r.keys := by
  simp [contains, keys]

theorem size_eq_length_keys : r.size = r.keys.length := by
  rw [size, keys, List.length_map]

theorem isEmpty_iff : r.isEmpty = true ↔ r.keys = [] := by
  rw [isEmpty, keys, List.isEmpty_iff, List.map_eq_nil_iff]

/-! ## Handlers -/

/-- A name is there if something is registered under it. -/
theorem mem_keys_iff : name ∈ r.keys ↔ ∃ x, r.get? name = some x := by
  rw [← contains_iff, contains, get?, find?, ← Option.isSome_iff_exists, Option.isSome_map,
    List.find?_isSome, List.any_eq_true]

/-- A name with something under it is resolved exactly. -/
theorem resolve_of_get? (h : r.get? name = some x) :
    r.resolve name = some ⟨name, x, .exact⟩ := by
  obtain ⟨e, he, rfl⟩ := Option.map_eq_some_iff.mp h
  have hkey : e.key = name := by simpa using List.find?_some he
  simp only [resolve, he, hkey]

theorem get?_register (r : Registry) (name : String) (x : Handler) (other : String) :
    (r.register name x).get? other = if other = name then some x else r.get? other := by
  obtain ⟨entries⟩ := r
  simp only [get?, find?, register]
  induction entries with
  | nil =>
      by_cases hother : other = name
      · simp [put, Entry.make, hother]
      · simp [put, Entry.make, hother, Ne.symm hother]
  | cons d rest ih =>
      rw [put]
      by_cases hd : d.key = name
      · rw [if_pos hd]
        by_cases hother : other = name
        · simp [hother, hd]
        · have hne : d.key ≠ other := fun heq => hother (heq.symm.trans hd)
          simp [hother, hne]
      · rw [if_neg hd, List.find?_cons, List.find?_cons]
        by_cases heq : d.key = other
        · have hother : other ≠ name := fun h => hd (heq.trans h)
          simp [heq, hother]
        · simpa [heq] using ih

theorem get?_unregister (r : Registry) (name other : String) :
    (r.unregister name).get? other = if other = name then none else r.get? other := by
  simp only [get?, find?, unregister, List.find?_filter]
  split
  · next hother =>
    have hnone : ∀ e ∈ r.entries,
        ¬ (decide (decide (e.key ≠ name) = true ∧ decide (e.key = other) = true) = true) := by
      intro e _
      simp [hother]
    rw [List.find?_eq_none.mpr hnone]
    rfl
  · next hother =>
    congr 2
    funext e
    by_cases he : e.key = other
    · simp [he, hother]
    · simp [he]

/-! ## Removal -/

/-- Removing a name removes something if the name is there. -/
theorem removes_iff : r.removes name = true ↔ name ∈ r.keys := by
  rw [removes, bne_iff_ne, size_eq_length_keys, size_eq_length_keys, keys_unregister, ne_eq,
    List.length_filter_eq_length_iff]
  simp

theorem unregister_of_not_mem (h : name ∉ r.keys) : r.unregister name = r := by
  have hall : ∀ e ∈ r.entries, decide (e.key ≠ name) = true := by
    intro e he
    have hne : e.key ≠ name := fun heq => h (heq ▸ List.mem_map_of_mem he)
    simpa using hne
  rw [unregister, List.filter_eq_self.mpr hall]

/-- If no name occurs twice, removing a name removes a single entry. -/
theorem entries_unregister (hr : r.keys.Nodup) {before after : List Entry} {e : Entry}
    (h : r.entries = before ++ e :: after) : (r.unregister e.key).entries = before ++ after := by
  rw [keys, h, List.map_append, List.map_cons, List.perm_middle.nodup_iff,
    List.nodup_cons, List.mem_append, not_or] at hr
  obtain ⟨⟨hbefore, hafter⟩, -⟩ := hr
  have hkeep : ∀ entries : List Entry, e.key ∉ entries.map Entry.key →
      entries.filter (fun d => d.key ≠ e.key) = entries := by
    intro entries hentries
    exact congrArg Registry.entries (unregister_of_not_mem (r := ⟨entries⟩) hentries)
  rw [unregister, h, List.filter_append, List.filter_cons_of_neg (by simp), hkeep before hbefore,
    hkeep after hafter]

end ConditionQuery.Registry
