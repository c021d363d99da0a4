import ConditionQuery.Proofs.Relation.Resolution
import Mathlib.Data.List.Sort

set_option autoImplicit false

/-! # Labels

The names that are offered to users are the registered ones without that of the identity relation.
They are sorted by their number of characters, the longest first, and the sort is stable: names of
one length stay in the order in which they were registered. A label that is typed is taken for
exactly its relation, also where it matches in others as a pattern.
-/

namespace ConditionQuery.Registry

/-! ## Sorting by size -/

section Sorting

variable {α : Type} (size : α → Nat) (items : List α)

theorem size_trans (a b c : α) (hab : decide (size b ≤ size a) = true)
    (hbc : decide (size c ≤ size b) = true) : decide (size c ≤ size a) = true := by
  rw [decide_eq_true_eq] at hab hbc ⊢
  omega

theorem size_total (a b : α) : (decide (size b ≤ size a) || decide (size a ≤ size b)) = true := by
  rw [Bool.or_eq_true, decide_eq_true_eq, decide_eq_true_eq]
  omega

/-- Sorting by size puts no item before a larger one. -/
theorem pairwise_mergeSort_size :
    (items.mergeSort fun a b => size b ≤ size a).Pairwise fun a b => size b ≤ size a := by
  have hsorted := List.pairwise_mergeSort (size_trans size) (size_total size) items
  exact hsorted.imp of_decide_eq_true

/-- Sorting by size leaves the items of one size as they stand. -/
theorem filter_mergeSort_size (n : Nat) :
    (items.mergeSort fun a b => size b ≤ size a).filter (fun a => size a = n)
      = items.filter fun a => size a = n := by
  have hsize : ∀ a ∈ items.filter fun a => size a = n, size a = n := by
    intro a ha
    simpa using (List.mem_filter.mp ha).2
  -- the items of one size are sorted already, so that they pass into the sorted list as they are
  have hequal : (items.filter fun a => size a = n).Pairwise
      fun a b => decide (size b ≤ size a) = true := by
    rw [List.pairwise_iff_forall_sublist]
    intro a b hab
    have ha : size a = n := hsize a (hab.subset (by simp))
    have hb : size b = n := hsize b (hab.subset (by simp))
    rw [decide_eq_true_eq, ha, hb]
  have hsub := (List.sublist_mergeSort (size_trans size) (size_total size) hequal
    List.filter_sublist).filter fun a => decide (size a = n)
  rw [List.filter_filter] at hsub
  simp only [Bool.and_self] at hsub
  have hperm := (List.mergeSort_perm items fun a b => decide (size b ≤ size a)).filter
    fun a => decide (size a = n)
  exact (hsub.eq_of_length hperm.length_eq.symm).symm

/-- What holds of every two items in their order still holds, after sorting by size, of those of
one size. -/
theorem pairwise_mergeSort_of_size_eq {R : α → α → Prop} (h : items.Pairwise R) :
    (items.mergeSort fun a b => size b ≤ size a).Pairwise
      fun a b => size a = size b → R a b := by
  rw [List.pairwise_iff_forall_sublist]
  intro a b hab hsize
  -- two items of one size stand in the list of all items of this size
  have hpair := hab.filter fun c => decide (size c = size b)
  rw [filter_mergeSort_size] at hpair
  simp only [List.filter_cons, hsize, decide_true, if_true, List.filter_nil] at hpair
  exact List.pairwise_iff_forall_sublist.mp h (hpair.trans List.filter_sublist)

end Sorting

/-! ## The listing -/

/-- The listed labels of a registry with a history of changes. -/
structure ListsLabels (r : Registry) (history : List Change) : Prop where
  /-- The labels are the names except that of the identity relation, -/
  perm : r.labels.Perm (r.keys.filter (· ≠ "self"))
  /-- each of them once. -/
  nodup : r.labels.Nodup
  /-- No label stands before one that has more characters. -/
  pairwise_length : r.labels.Pairwise fun a b => b.length ≤ a.length
  /-- The labels with one number of characters are listed like the names, -/
  filter_length : ∀ n, r.labels.filter (fun name => name.length = n)
    = (r.keys.filter (· ≠ "self")).filter fun name => name.length = n
  /-- which is in the order in which they were registered. -/
  pairwise_beganAt : r.labels.Pairwise fun a b => a.length = b.length →
    ∀ i j, BeganAt history a i → BeganAt history b j → i < j
  /-- A label is taken for exactly its relation. -/
  resolve : ∀ name ∈ r.labels, ∃ x, r.get? name = some x ∧
    r.resolve name = some ⟨name, x, .exact⟩

variable {r : Registry} {history : List Change}

theorem labels_perm (r : Registry) : r.labels.Perm (r.keys.filter (· ≠ "self")) :=
  List.mergeSort_perm _ _

theorem Tracks.listsLabels (hr : Tracks history r) : ListsLabels r history where
  perm := labels_perm r
  nodup := (labels_perm r).nodup_iff.mpr (hr.nodup.filter _)
  pairwise_length := pairwise_mergeSort_size String.length _
  filter_length := filter_mergeSort_size String.length _
  pairwise_beganAt := pairwise_mergeSort_of_size_eq String.length _ (hr.ordered.filter _)
  resolve := by
    intro name hname
    have hmem : name ∈ r.keys := (List.mem_filter.mp ((labels_perm r).mem_iff.mp hname)).1
    exact mem_keys_iff_exact.mp hmem

/-- **Labels are the visible names in a stable sort.** After any changes of the empty registry or of
the built-in one, the labels are the names except that of the identity relation, the longest first
and names of one length in the order of their registration, and each is taken for its own
relation. -/
theorem run_listsLabels (start : Start) (changes : List Change) :
    ListsLabels (start.registry.run changes) (start.seeds ++ changes) :=
  (start.tracks.run changes).listsLabels

end ConditionQuery.Registry
