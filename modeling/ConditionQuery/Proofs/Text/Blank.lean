import ConditionQuery.Text.Blank
import Mathlib.Data.List.TakeWhile

set_option autoImplicit false

/-! # Blanks

A text that neither starts nor ends with a blank has none to remove (`trim_eq_self`), and blanks
that are put around a text are removed again with its own (`trim_padded`); nothing else is removed
(`exists_padding`), and what is left has no blanks at its ends (`isBlank_head?_trim`,
`isBlank_getLast?_trim`). The class of blanks is finite, so what holds of each of its characters
holds of every blank (`forall_isBlank`).
-/

namespace ConditionQuery.Text

/-! ## The class of blanks -/

def blanks : List Nat :=
  [0x09, 0x0A, 0x0B, 0x0C, 0x0D, 0x20, 0x85, 0xA0, 0x1680, 0x2000, 0x2001, 0x2002, 0x2003, 0x2004,
    0x2005, 0x2006, 0x2007, 0x2008, 0x2009, 0x200A, 0x2028, 0x2029, 0x202F, 0x205F, 0x3000]

theorem toNat_mem_blanks {c : Char} (h : isBlank c = true) : c.toNat ∈ blanks := by
  simp only [isBlank, Bool.or_eq_true, Bool.and_eq_true, decide_eq_true_eq, beq_iff_eq] at h
  simp only [blanks, List.mem_cons, List.not_mem_nil]
  omega

/-- What holds of the characters of the class holds of every blank. -/
theorem forall_isBlank {p : Char → Prop} (h : ∀ n ∈ blanks, p (Char.ofNat n)) {c : Char}
    (hc : isBlank c = true) : p c := by
  rw [← Char.ofNat_toNat c]
  exact h c.toNat (toNat_mem_blanks hc)

/-! ## The ends of a text -/

theorem trimLeft_eq_self {s : List Char} (hfirst : ∀ c ∈ s.head?, isBlank c = false) :
    trimLeft s = s := by
  cases s with
  | nil => rfl
  | cons c s =>
      have hc : isBlank c = false := hfirst c rfl
      rw [trimLeft, List.dropWhile_cons_of_neg (by simp [hc])]

/-- A text that neither starts nor ends with a blank has no blanks at its ends. -/
theorem trim_eq_self {s : List Char} (hfirst : ∀ c ∈ s.head?, isBlank c = false)
    (hlast : ∀ c ∈ s.getLast?, isBlank c = false) : trim s = s := by
  have hreverse : trimLeft s.reverse = s.reverse :=
    trimLeft_eq_self (by rwa [List.head?_reverse])
  rw [trim, trimLeft_eq_self hfirst, trimRight, ← trimLeft, hreverse, List.reverse_reverse]

/-- A text without blanks has none at its ends. -/
theorem trim_eq_self_of_forall {s : List Char} (h : ∀ c ∈ s, (!isBlank c) = true) :
    trim s = s := by
  have hnot : ∀ c ∈ s, isBlank c = false := fun c hc => (Bool.not_eq_true' _).mp (h c hc)
  exact trim_eq_self (fun c hc => hnot c (List.mem_of_mem_head? hc))
    fun c hc => hnot c (List.mem_of_getLast? hc)

theorem trimLeft_append {before : List Char} (hbefore : ∀ c ∈ before, isBlank c = true)
    (s : List Char) : trimLeft (before ++ s) = trimLeft s :=
  List.dropWhile_append_of_pos hbefore

theorem trimRight_append {after : List Char} (hafter : ∀ c ∈ after, isBlank c = true)
    (s : List Char) : trimRight (s ++ after) = trimRight s := by
  have hreverse : ∀ c ∈ after.reverse, isBlank c = true :=
    fun c hc => hafter c (List.mem_reverse.mp hc)
  rw [trimRight, List.reverse_append, List.dropWhile_append_of_pos hreverse, trimRight]

/-- Blanks around a text are removed with those that it has at its ends. -/
theorem trim_padded {before after : List Char} (hbefore : ∀ c ∈ before, isBlank c = true)
    (hafter : ∀ c ∈ after, isBlank c = true) (s : List Char) :
    trim (before ++ s ++ after) = trim s := by
  rw [trim, List.append_assoc, trimLeft_append hbefore]
  by_cases hs : trimLeft s = []
  · -- the text has only blanks, and so has everything together
    have hblank : ∀ c ∈ s, isBlank c = true := List.dropWhile_eq_nil_iff.mp hs
    have hnil : trimLeft (s ++ after) = [] := by
      rw [trimLeft_append hblank]
      exact List.dropWhile_eq_nil_iff.mpr hafter
    rw [trim, hs, hnil]
  · have hsplit : trimLeft (s ++ after) = trimLeft s ++ after := by
      rw [trimLeft, List.dropWhile_append, ← trimLeft, List.isEmpty_eq_false_iff.mpr hs]
      rfl
    rw [hsplit, trimRight_append hafter, trim]

/-- What a text loses at its start are blanks. -/
theorem exists_padding_left (s : List Char) :
    ∃ before, s = before ++ trimLeft s ∧ ∀ c ∈ before, isBlank c = true :=
  ⟨s.takeWhile isBlank, List.takeWhile_append_dropWhile.symm,
    fun _ hc => List.mem_takeWhile_imp hc⟩

/-- What a text loses at its end are blanks. -/
theorem exists_padding_right (s : List Char) :
    ∃ after, s = trimRight s ++ after ∧ ∀ c ∈ after, isBlank c = true := by
  obtain ⟨after, hs, hafter⟩ := exists_padding_left s.reverse
  refine ⟨after.reverse, ?_, fun c hc => hafter c (List.mem_reverse.mp hc)⟩
  rw [trimRight, ← trimLeft, ← List.reverse_append, ← hs, List.reverse_reverse]

/-- What a text loses at its ends are blanks. -/
theorem exists_padding (s : List Char) : ∃ before after, s = before ++ trim s ++ after ∧
    (∀ c ∈ before, isBlank c = true) ∧ ∀ c ∈ after, isBlank c = true := by
  obtain ⟨before, hs, hbefore⟩ := exists_padding_left s
  obtain ⟨after, hrest, hafter⟩ := exists_padding_right (trimLeft s)
  refine ⟨before, after, ?_, hbefore, hafter⟩
  rw [List.append_assoc, trim, ← hrest]
  exact hs

/-! ## What is left of a text -/

/-- No blank is left at the start of a text, -/
theorem isBlank_head?_trimLeft (s : List Char) :
    ∀ c ∈ (trimLeft s).head?, isBlank c = false := by
  intro c hc
  have hfirst := List.head?_dropWhile_not isBlank s
  rw [← trimLeft, Option.mem_def.mp hc] at hfirst
  exact hfirst

/-- nor if its end is cut as well, -/
theorem isBlank_head?_trim (s : List Char) : ∀ c ∈ (trim s).head?, isBlank c = false := by
  intro c hc
  obtain ⟨after, hsplit, -⟩ := exists_padding_right (trimLeft s)
  refine isBlank_head?_trimLeft s c ?_
  rw [hsplit, ← trim, List.head?_append, Option.mem_def.mp hc]
  rfl

/-- and none is left at its end. -/
theorem isBlank_getLast?_trim (s : List Char) : ∀ c ∈ (trim s).getLast?, isBlank c = false := by
  intro c hc
  rw [trim, trimRight, List.getLast?_reverse] at hc
  exact isBlank_head?_trimLeft (trimLeft s).reverse c hc

end ConditionQuery.Text
