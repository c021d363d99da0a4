import ConditionQuery.Text.Decimal
import Mathlib.Algebra.GroupWithZero.Nat

set_option autoImplicit false

/-! # Reading decimal numerals

A numeral of ASCII digits has the value that it was written for, with any number of zeros before it
(`extend_numeral`). It is read as a signed word of 64 bits exactly if the value fits one
(`readInt64?_numeral`).
-/

namespace ConditionQuery.Text.Decimal

/-! ## Digits -/

/-- The digits of ASCII are the ten characters from zero on. -/
theorem exists_of_isDigit {c : Char} (h : isDigit c = true) :
    ∃ d : Fin 10, c = Char.ofNat (48 + d) := by
  simp only [isDigit, Bool.and_eq_true, decide_eq_true_eq] at h
  have hlow : 48 ≤ c.toNat := h.1
  have hhigh : c.toNat ≤ 57 := h.2
  refine ⟨⟨c.toNat - 48, by omega⟩, ?_⟩
  rw [Nat.add_sub_cancel' hlow, Char.ofNat_toNat]

/-- What holds of the ten digits holds of every ASCII digit. -/
theorem forall_isDigit {p : Char → Prop} (h : ∀ d : Fin 10, p (Char.ofNat (48 + d))) {c : Char}
    (hc : isDigit c = true) : p c := by
  obtain ⟨d, rfl⟩ := exists_of_isDigit hc
  exact h d

theorem isAnyDigit_of_isDigit {c : Char} (h : isDigit c = true) : isAnyDigit c = true :=
  forall_isDigit (p := fun c => isAnyDigit c = true) (by decide) h

/-- The digit of a number below ten has its value, and it is a digit of ASCII. -/
theorem digitChar_spec {d : Nat} (h : d < 10) :
    d.digitChar.toNat - '0'.toNat = d ∧ isDigit d.digitChar = true := by
  have key : ∀ d : Fin 10,
      d.val.digitChar.toNat - '0'.toNat = d.val ∧ isDigit d.val.digitChar = true := by decide
  exact key ⟨d, h⟩

/-! ## Numerals -/

/-- A numeral of a number, with zeros before it. -/
def numeral (zeros n : Nat) : List Char :=
  List.replicate zeros '0' ++ writeNat n

theorem extend_append (high : Nat) (s t : List Char) :
    extend high (s ++ t) = extend (extend high s) t :=
  List.foldl_append

theorem extend_zeros (zeros : Nat) : extend 0 (List.replicate zeros '0') = 0 := by
  induction zeros with
  | zero => rfl
  | succ zeros ih => exact ih

theorem extend_writeNat (n : Nat) : extend 0 (writeNat n) = n := by
  induction n using Nat.strongRecOn with
  | ind n ih =>
      rw [writeNat, Nat.toDigits_eq_if (by decide)]
      by_cases hn : n < 10
      · rw [if_pos hn, extend, List.foldl_cons, List.foldl_nil, (digitChar_spec hn).1]
        omega
      · -- the last digit is read after the number that the digits before it make
        have hlt : n % 10 < 10 := Nat.mod_lt n (by decide)
        have hdiv : n / 10 < n := by omega
        rw [if_neg hn, extend_append, ← writeNat, ih (n / 10) hdiv, extend, List.foldl_cons,
          List.foldl_nil, (digitChar_spec hlt).1]
        omega

/-- A numeral has the value that it was written for. -/
theorem extend_numeral (zeros n : Nat) : extend 0 (numeral zeros n) = n := by
  rw [numeral, extend_append, extend_zeros, extend_writeNat]

theorem isDigit_of_mem_writeNat {n : Nat} {c : Char} (h : c ∈ writeNat n) : isDigit c = true := by
  induction n using Nat.strongRecOn with
  | ind n ih =>
      rw [writeNat, Nat.toDigits_eq_if (by decide)] at h
      by_cases hn : n < 10
      · rw [if_pos hn, List.mem_singleton] at h
        rw [h]
        exact (digitChar_spec hn).2
      · rw [if_neg hn, List.mem_append, List.mem_singleton] at h
        rcases h with h | rfl
        · exact ih (n / 10) (by omega) h
        · exact (digitChar_spec (Nat.mod_lt n (by decide))).2

theorem isDigit_of_mem_numeral {zeros n : Nat} {c : Char} (h : c ∈ numeral zeros n) :
    isDigit c = true := by
  rw [numeral, List.mem_append, List.mem_replicate] at h
  rcases h with ⟨-, rfl⟩ | h
  · decide
  · exact isDigit_of_mem_writeNat h

theorem numeral_ne_nil (zeros n : Nat) : numeral zeros n ≠ [] := by
  simp [numeral, writeNat, Nat.toDigits_ne_nil]

/-- A numeral starts with a digit. -/
theorem exists_numeral_eq_cons (zeros n : Nat) :
    ∃ d ds, numeral zeros n = d :: ds ∧ isDigit d = true := by
  obtain ⟨d, ds, hds⟩ := List.exists_cons_of_ne_nil (numeral_ne_nil zeros n)
  exact ⟨d, ds, hds, isDigit_of_mem_numeral (by rw [hds]; exact List.mem_cons_self)⟩

/-- The numeral of a number with `width` digits. -/
def padded (width n : Nat) : List Char :=
  numeral (width - (writeNat n).length) n

theorem length_padded {width n : Nat} (hwidth : 0 < width) (hn : n < 10 ^ width) :
    (padded width n).length = width := by
  have hlength : (writeNat n).length ≤ width :=
    (Nat.length_toDigits_le_iff (by decide) hwidth).mpr hn
  rw [padded, numeral, List.length_append, List.length_replicate]
  exact Nat.sub_add_cancel hlength

/-- A row of digits has no sign. -/
theorem readSigned?_of_digits {s : List Char} (hs : ∀ c ∈ s, isDigit c = true) :
    readSigned? s = (read? s).map fun n : Nat => (n : Int) := by
  unfold readSigned?
  split
  · exact absurd (hs '-' (by simp)) (by decide)
  · exact absurd (hs '+' (by simp)) (by decide)
  · cases read? s <;> rfl

theorem read?_numeral (zeros n : Nat) : read? (numeral zeros n) = some n := by
  have hall : (numeral zeros n).all isDigit = true :=
    List.all_eq_true.mpr fun c => isDigit_of_mem_numeral
  rw [read?, hall, List.isEmpty_eq_false_iff.mpr (numeral_ne_nil zeros n), extend_numeral]
  rfl

/-- A numeral is read as a word of 64 bits if its value fits one, however many zeros it has. -/
theorem readInt64?_numeral (zeros n : Nat) :
    readInt64? (numeral zeros n) = if n < 2 ^ 63 then some (n : Int) else none := by
  rw [readInt64?, readSigned?_of_digits fun c => isDigit_of_mem_numeral, read?_numeral,
    Option.map_some, Option.filter]
  have hfits : fitsInt64 n = true ↔ n < 2 ^ 63 := by
    simp only [fitsInt64, Bool.and_eq_true, decide_eq_true_eq]
    omega
  simp only [hfits]

end ConditionQuery.Text.Decimal
