import ConditionQuery.Proofs.Text.Decimal
import Mathlib.Data.List.Basic
import Mathlib.Data.List.Induction
import Mathlib.Data.Nat.Digits.Defs

set_option autoImplicit false

/-! # Numerals and what they denote

A numeral is a row of ASCII digits, with or without a sign before it; it denotes an integer by the
places of its digits (`Denotes`). What is read off a text is the integer that the text denotes, if
there is one and it is in range (`readInt64?_eq_some_iff`).

Signs and leading zeros give an integer many numerals. Exactly one of them has no plus sign and no
zero that could be left out (`IsCanonical`), and this is the numeral that is written for the integer
(`isCanonical_iff`).
-/

namespace ConditionQuery.Text.Decimal

/-! ## Rows of digits -/

/-- A row of ASCII digits, with at least one of them. -/
structure IsDigits (s : List Char) : Prop where
  ne_nil : s ≠ []
  inRange : ∀ c ∈ s, '0' ≤ c ∧ c ≤ '9'

def digitValue (c : Char) : Nat :=
  c.toNat - '0'.toNat

/-- The value of a row of digits to the base ten; the last digit counts ones. -/
def value (s : List Char) : Nat :=
  Nat.ofDigits 10 (s.reverse.map digitValue)

variable {s : List Char} {i : Int}

theorem IsDigits.isDigit (h : IsDigits s) {c : Char} (hc : c ∈ s) : isDigit c = true := by
  obtain ⟨hlow, hhigh⟩ := h.inRange c hc
  simp [Decimal.isDigit, hlow, hhigh]

theorem isDigits_iff : IsDigits s ↔ s ≠ [] ∧ ∀ c ∈ s, isDigit c = true := by
  constructor
  · exact fun h => ⟨h.ne_nil, fun c hc => h.isDigit hc⟩
  · rintro ⟨hne, hall⟩
    refine ⟨hne, fun c hc => ?_⟩
    simpa [isDigit] using hall c hc

theorem extend_eq_value (s : List Char) : extend 0 s = value s := by
  rw [value, Nat.ofDigits_eq_foldr, List.foldr_map, List.foldr_reverse, extend]
  congr 1
  funext n c
  exact Nat.add_comm _ _

theorem value_concat (s : List Char) (c : Char) :
    value (s ++ [c]) = 10 * value s + digitValue c := by
  rw [← extend_eq_value, ← extend_eq_value, extend_append]
  rfl

/-- A number is read off a text exactly if the text is a row of digits with this value. -/
theorem read?_eq_some_iff {n : Nat} : read? s = some n ↔ IsDigits s ∧ n = value s := by
  have hcond : (s.isEmpty || !s.all isDigit) = true ↔ ¬ IsDigits s := by
    rw [isDigits_iff, Bool.or_eq_true, List.isEmpty_iff, Bool.not_eq_true', ← Bool.not_eq_true,
      List.all_eq_true]
    tauto
  rw [read?, extend_eq_value]
  by_cases hs : IsDigits s
  · rw [if_neg fun h => hcond.mp h hs, Option.some.injEq]
    exact ⟨fun h => ⟨hs, h.symm⟩, fun h => h.2.symm⟩
  · rw [if_pos (hcond.mpr hs)]
    exact ⟨fun h => (Option.some_ne_none n h.symm).elim, fun h => (hs h.1).elim⟩

/-! ## Signed numerals -/

/-- A numeral, and the integer that it denotes. -/
inductive Denotes : List Char → Int → Prop
  | unsigned {s : List Char} (h : IsDigits s) : Denotes s (value s)
  | plus {s : List Char} (h : IsDigits s) : Denotes ('+' :: s) (value s)
  | minus {s : List Char} (h : IsDigits s) : Denotes ('-' :: s) (-(value s : Int))

theorem readSigned?_plus (s : List Char) :
    readSigned? ('+' :: s) = (read? s).map fun n : Nat => (n : Int) := by
  rw [readSigned?]
  cases read? s <;> rfl

theorem readSigned?_minus (s : List Char) :
    readSigned? ('-' :: s) = (read? s).map fun n : Nat => -(n : Int) := by
  rw [readSigned?]
  cases read? s <;> rfl

/-- A text without a sign is read as digits. -/
theorem readSigned?_of_ne (hplus : s.head? ≠ some '+') (hminus : s.head? ≠ some '-') :
    readSigned? s = (read? s).map fun n : Nat => (n : Int) := by
  unfold readSigned?
  split
  · exact absurd rfl hminus
  · exact absurd rfl hplus
  · cases read? s <;> rfl

/-- An integer is read off a text exactly if the text denotes it. -/
theorem readSigned?_eq_some_iff : readSigned? s = some i ↔ Denotes s i := by
  constructor
  · intro h
    by_cases hminus : s.head? = some '-'
    · obtain ⟨t, rfl⟩ := List.head?_eq_some_iff.mp hminus
      rw [readSigned?_minus] at h
      obtain ⟨n, hn, rfl⟩ := Option.map_eq_some_iff.mp h
      obtain ⟨ht, rfl⟩ := read?_eq_some_iff.mp hn
      exact .minus ht
    · by_cases hplus : s.head? = some '+'
      · obtain ⟨t, rfl⟩ := List.head?_eq_some_iff.mp hplus
        rw [readSigned?_plus] at h
        obtain ⟨n, hn, rfl⟩ := Option.map_eq_some_iff.mp h
        obtain ⟨ht, rfl⟩ := read?_eq_some_iff.mp hn
        exact .plus ht
      · rw [readSigned?_of_ne hplus hminus] at h
        obtain ⟨n, hn, rfl⟩ := Option.map_eq_some_iff.mp h
        obtain ⟨hs, rfl⟩ := read?_eq_some_iff.mp hn
        exact .unsigned hs
  · intro h
    cases h with
    | unsigned hs =>
        rw [readSigned?_of_digits fun c hc => hs.isDigit hc, read?_eq_some_iff.mpr ⟨hs, rfl⟩,
          Option.map_some]
    | plus hs => rw [readSigned?_plus, read?_eq_some_iff.mpr ⟨hs, rfl⟩, Option.map_some]
    | minus hs => rw [readSigned?_minus, read?_eq_some_iff.mpr ⟨hs, rfl⟩, Option.map_some]

/-- A text denotes at most one integer. -/
theorem Denotes.unique {j : Int} (hi : Denotes s i) (hj : Denotes s j) : i = j := by
  rw [← readSigned?_eq_some_iff] at hi hj
  exact Option.some.inj (hi.symm.trans hj)

/-- An integer is read off a text exactly if the text denotes it and it fits in 64 bits. -/
theorem readInt64?_eq_some_iff :
    readInt64? s = some i ↔ Denotes s i ∧ -2 ^ 63 ≤ i ∧ i ≤ 2 ^ 63 - 1 := by
  have hfits : fitsInt64 i = true ↔ -2 ^ 63 ≤ i ∧ i ≤ 2 ^ 63 - 1 := by
    simp only [fitsInt64, Bool.and_eq_true, decide_eq_true_eq]
    omega
  rw [readInt64?, Option.filter_eq_some_iff, readSigned?_eq_some_iff, hfits]

/-! ## Canonical numerals -/

/-- A numeral without a plus sign and without zeros that could be left out, and the integer that it
denotes. -/
inductive IsCanonical : List Char → Int → Prop
  | zero : IsCanonical ['0'] 0
  | positive {c : Char} {s : List Char} (h : IsDigits (c :: s)) (hc : c ≠ '0') :
      IsCanonical (c :: s) (value (c :: s))
  | negative {c : Char} {s : List Char} (h : IsDigits (c :: s)) (hc : c ≠ '0') :
      IsCanonical ('-' :: c :: s) (-(value (c :: s) : Int))

theorem IsCanonical.denotes (h : IsCanonical s i) : Denotes s i := by
  cases h with
  | zero => exact .unsigned ⟨by decide, by simp⟩
  | positive h _ => exact .unsigned h
  | negative h _ => exact .minus h

theorem isDigits_writeNat (n : Nat) : IsDigits (writeNat n) :=
  isDigits_iff.mpr ⟨Nat.toDigits_ne_nil, fun _ => isDigit_of_mem_writeNat⟩

theorem value_writeNat (n : Nat) : value (writeNat n) = n := by
  rw [← extend_eq_value, extend_writeNat]

/-- A digit is written for its value. -/
theorem digitChar_digitValue {c : Char} (h : isDigit c = true) :
    digitValue c < 10 ∧ (digitValue c).digitChar = c :=
  forall_isDigit (p := fun c => digitValue c < 10 ∧ (digitValue c).digitChar = c) (by decide) h

/-- The numeral of a number in which more digits follow the first ones. -/
theorem writeNat_concat {n d : Nat} (hn : n ≠ 0) (hd : d < 10) :
    writeNat (10 * n + d) = writeNat n ++ [d.digitChar] := by
  have hlt : ¬ 10 * n + d < 10 := by omega
  have hdiv : (10 * n + d) / 10 = n := by omega
  have hmod : (10 * n + d) % 10 = d := by omega
  rw [writeNat, Nat.toDigits_eq_if (by decide), if_neg hlt, hdiv, hmod, writeNat]

/-- A row of digits that does not start with a zero is the one that is written for its value. -/
theorem writeNat_value (hs : IsDigits s) (hzero : s.head? ≠ some '0') : writeNat (value s) = s := by
  induction s using List.reverseRecOn with
  | nil => exact absurd rfl hs.ne_nil
  | append_singleton s c ih =>
      obtain ⟨hlt, hchar⟩ := digitChar_digitValue (hs.isDigit (c := c) (by simp))
      rw [value_concat]
      by_cases hnil : s = []
      · subst hnil
        have hone : 10 * value [] + digitValue c = digitValue c := Nat.zero_add _
        rw [hone, writeNat, Nat.toDigits_eq_if (by decide), if_pos hlt, hchar, List.nil_append]
      · have hs' : IsDigits s := ⟨hnil, fun d hd => hs.inRange d (by simp [hd])⟩
        have hzero' : s.head? ≠ some '0' := by rwa [List.head?_append_of_ne_nil s hnil] at hzero
        have hwrite : writeNat (value s) = s := ih hs' hzero'
        -- the first digits would be a zero if their value were
        have hne : value s ≠ 0 := by
          intro h
          rw [h] at hwrite
          exact hzero' (by rw [← hwrite]; rfl)
        rw [writeNat_concat hne hlt, hwrite, hchar]

/-- The numeral of a number other than zero does not start with a zero. -/
theorem exists_writeNat_eq_cons {n : Nat} (hn : n ≠ 0) :
    ∃ c s, writeNat n = c :: s ∧ c ≠ '0' := by
  induction n using Nat.strongRecOn with
  | ind n ih =>
      by_cases hlt : n < 10
      · have hdigit : ∀ d : Fin 10, d.val ≠ 0 → d.val.digitChar ≠ '0' := by decide
        refine ⟨n.digitChar, [], ?_, hdigit ⟨n, hlt⟩ hn⟩
        rw [writeNat, Nat.toDigits_eq_if (by decide), if_pos hlt]
      · have hdiv : n / 10 ≠ 0 := by omega
        obtain ⟨c, s, hs, hc⟩ := ih (n / 10) (by omega) hdiv
        refine ⟨c, s ++ [(n % 10).digitChar], ?_, hc⟩
        rw [← List.cons_append, ← hs, ← writeNat_concat hdiv (by omega), Nat.div_add_mod]

theorem isCanonical_write (i : Int) : IsCanonical (write i) i := by
  have hvalue : ∀ {n : Nat} {c : Char} {s : List Char}, writeNat n = c :: s →
      IsDigits (c :: s) ∧ value (c :: s) = n := by
    intro n c s hs
    rw [← hs]
    exact ⟨isDigits_writeNat n, value_writeNat n⟩
  cases i with
  | ofNat n =>
      cases n with
      | zero => exact .zero
      | succ n =>
          obtain ⟨c, s, hs, hc⟩ := exists_writeNat_eq_cons (Nat.succ_ne_zero n)
          obtain ⟨hdigits, hn⟩ := hvalue hs
          have h := IsCanonical.positive hdigits hc
          rw [hn] at h
          rw [write, hs]
          exact h
  | negSucc n =>
      obtain ⟨c, s, hs, hc⟩ := exists_writeNat_eq_cons (Nat.succ_ne_zero n)
      obtain ⟨hdigits, hn⟩ := hvalue hs
      have h := IsCanonical.negative hdigits hc
      rw [hn] at h
      rw [write, hs]
      exact h

/-- The written numeral of an integer is its only canonical one. -/
theorem isCanonical_iff : IsCanonical s i ↔ s = write i := by
  constructor
  · intro h
    cases h with
    | zero => rfl
    | @positive c s h hc =>
        show c :: s = writeNat (value (c :: s))
        rw [writeNat_value h (by simpa using hc)]
    | @negative c s h hc =>
        have hwrite : writeNat (value (c :: s)) = c :: s := writeNat_value h (by simpa using hc)
        -- the value is not zero, as only a zero is written for zero
        obtain ⟨n, hn⟩ : ∃ n, value (c :: s) = n + 1 := by
          refine Nat.exists_eq_succ_of_ne_zero fun hzero => ?_
          rw [hzero] at hwrite
          exact hc (List.cons.inj hwrite).1.symm
        rw [hn] at hwrite ⊢
        show '-' :: c :: s = '-' :: writeNat (n + 1)
        rw [hwrite]
  · rintro rfl
    exact isCanonical_write i

theorem denotes_write (i : Int) : Denotes (write i) i :=
  (isCanonical_write i).denotes

theorem write_inj {j : Int} (h : write i = write j) : i = j := by
  have hi := denotes_write i
  rw [h] at hi
  exact hi.unique (denotes_write j)

end ConditionQuery.Text.Decimal
