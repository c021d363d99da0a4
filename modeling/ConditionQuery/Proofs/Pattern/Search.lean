import ConditionQuery.Pattern.Regex
import Mathlib.Data.Nat.Bitwise
import Mathlib.Logic.Function.Iterate

set_option autoImplicit false

/-! # What a search finds

An expression matches what stands between two positions of a text (`Spans`); this is said by
recursion on the expression alone, one clause for each constructor, without sets of positions.
The search moves sets of positions instead. Every step of it is the image of the set under a
relation between positions (`Moves`), and this passes through every constructor. So the search
finds an expression in a text if and only if the expression matches somewhere in it
(`isFoundIn_iff`).
-/

namespace ConditionQuery

/-! ## Matches -/

/-- A relation leads from a position to another in `n` steps. -/
def InRow (R : Nat → Nat → Prop) : Nat → Nat → Nat → Prop
  | 0, i, j => j = i
  | n + 1, i, j => ∃ k, R i k ∧ InRow R n k j

def leftOf (text : List Char) : Nat → Option Char
  | 0 => none
  | i + 1 => text[i]?

/-- An expression matches what stands in a text between two positions. A limit of a repetition
that is below the least number counts as the least number. -/
def Regex.Spans (text : List Char) : Regex → Nat → Nat → Prop
  | .empty, i, j => j = i
  | .one c, i, j => j = i + 1 ∧ ∃ x, text[i]? = some x ∧ c.contains x = true
  | .look l, i, j => j = i ∧ l.holds (leftOf text i) text[i]? = true
  | .seq a b, i, j => ∃ k, a.Spans text i k ∧ b.Spans text k j
  | .alt a b, i, j => a.Spans text i j ∨ b.Spans text i j
  | .times r least most, i, j =>
    ∃ n, least ≤ n ∧ (∀ m, most = some m → n ≤ max least m) ∧ InRow (r.Spans text) n i j

/-! ## Steps in a row -/

variable {R : Nat → Nat → Prop} {i j : Nat}

theorem inRow_add (R : Nat → Nat → Prop) (m n i j : Nat) :
    InRow R (m + n) i j ↔ ∃ k, InRow R m i k ∧ InRow R n k j := by
  induction m generalizing i with
  | zero => simp [InRow]
  | succ m ih =>
      rw [Nat.succ_add]
      simp only [InRow, ih]
      constructor
      · rintro ⟨k, hk, l, hl, hj⟩
        exact ⟨l, ⟨k, hk, hl⟩, hj⟩
      · rintro ⟨l, ⟨k, hk, hl⟩, hj⟩
        exact ⟨k, hk, l, hl, hj⟩

/-- `n` steps, each of which may stay where it is, are at most `n` steps. -/
theorem inRow_orStay (n i j : Nat) :
    InRow (fun i j => j = i ∨ R i j) n i j ↔ ∃ m ≤ n, InRow R m i j := by
  induction n generalizing i with
  | zero => simp [InRow]
  | succ n ih =>
      simp only [InRow, ih]
      constructor
      · rintro ⟨k, rfl | hk, m, hm, hj⟩
        -- a step that stays is not counted
        · exact ⟨m, Nat.le_succ_of_le hm, hj⟩
        · exact ⟨m + 1, Nat.succ_le_succ hm, k, hk, hj⟩
      · rintro ⟨m, hm, hj⟩
        cases m with
        | zero => exact ⟨i, Or.inl rfl, 0, Nat.zero_le n, hj⟩
        | succ m =>
            obtain ⟨k, hk, hj⟩ := hj
            exact ⟨k, Or.inr hk, m, Nat.le_of_succ_le_succ hm, hj⟩

def Forward (R : Nat → Nat → Prop) : Prop :=
  ∀ i j, R i j → i ≤ j

theorem Forward.inRow (hR : Forward R) (n : Nat) : Forward (InRow R n) := by
  induction n with
  | zero => exact fun i j hj => Nat.le_of_eq hj.symm
  | succ n ih =>
      rintro i j ⟨k, hk, hj⟩
      exact Nat.le_trans (hR i k hk) (ih k j hj)

/-- Steps that stay where they are can be left out, and so no more steps are needed than there
are positions to pass. -/
theorem Forward.exists_short (hR : Forward R) {n : Nat} (h : InRow R n i j) :
    ∃ m ≤ j - i, InRow R m i j := by
  induction n generalizing i with
  | zero => exact ⟨0, Nat.zero_le _, h⟩
  | succ n ih =>
      obtain ⟨k, hk, hj⟩ := h
      obtain ⟨m, hm, hrow⟩ := ih hj
      have hik : i ≤ k := hR i k hk
      have hkj : k ≤ j := hR.inRow n k j hj
      -- the first step is needed only if it moves forward, and then less is left to pass
      rcases Nat.eq_or_lt_of_le hik with rfl | hlt
      · exact ⟨m, hm, hrow⟩
      · exact ⟨m + 1, by omega, k, hk, hrow⟩

namespace Regex

variable {text : List Char}

theorem forward_spans (text : List Char) (r : Regex) : Forward (r.Spans text) := by
  induction r with
  | empty => exact fun i j hj => Nat.le_of_eq hj.symm
  | one c =>
      rintro i j ⟨rfl, -⟩
      exact Nat.le_succ i
  | look l =>
      rintro i j ⟨rfl, -⟩
      exact Nat.le_refl _
  | seq a b iha ihb =>
      rintro i j ⟨k, hk, hj⟩
      exact Nat.le_trans (iha i k hk) (ihb k j hj)
  | alt a b iha ihb =>
      rintro i j (h | h)
      · exact iha i j h
      · exact ihb i j h
  | times r least most ih =>
      rintro i j ⟨n, -, -, hn⟩
      exact ih.inRow n i j hn

end Regex

/-! ## Sets of positions -/

namespace Positions

def Within (size : Nat) (s : Positions) : Prop :=
  ∀ i, s.testBit i = true → i ≤ size

/-- A step takes every set of positions up to `size` to the positions to which a relation leads
from the members, and the relation leads no further than `size`. -/
structure Moves (size : Nat) (step : Positions → Positions) (R : Nat → Nat → Prop) : Prop where
  testBit_iff : ∀ s, Within size s → ∀ j, (step s).testBit j = true ↔
    ∃ i, s.testBit i = true ∧ R i j
  le_size : ∀ i j, i ≤ size → R i j → j ≤ size

variable {size : Nat} {step next : Positions → Positions} {S : Nat → Nat → Prop}

theorem Moves.within (h : Moves size step R) {s : Positions} (hs : Within size s) :
    Within size (step s) := by
  intro j hj
  obtain ⟨i, hi, hij⟩ := (h.testBit_iff s hs j).mp hj
  exact h.le_size i j (hs i hi) hij

theorem Moves.congr (h : Moves size step R) (hR : ∀ i j, i ≤ size → (R i j ↔ S i j)) :
    Moves size step S where
  testBit_iff := by
    intro s hs j
    rw [h.testBit_iff s hs]
    exact exists_congr fun i => and_congr_right fun hi => hR i j (hs i hi)
  le_size := fun i j hi hj => h.le_size i j hi ((hR i j hi).mpr hj)

theorem moves_id (size : Nat) : Moves size id fun i j => j = i where
  testBit_iff := by simp
  le_size := by
    rintro i j hi rfl
    exact hi

/-- One step after another. -/
theorem Moves.comp (h : Moves size step R) (hnext : Moves size next S) :
    Moves size (next ∘ step) fun i j => ∃ k, R i k ∧ S k j where
  testBit_iff := by
    intro s hs j
    rw [Function.comp_apply, hnext.testBit_iff (step s) (h.within hs)]
    constructor
    · rintro ⟨k, hk, hj⟩
      obtain ⟨i, hi, hik⟩ := (h.testBit_iff s hs k).mp hk
      exact ⟨i, hi, k, hik, hj⟩
    · rintro ⟨i, hi, k, hik, hj⟩
      exact ⟨k, (h.testBit_iff s hs k).mpr ⟨i, hi, hik⟩, hj⟩
  le_size := by
    rintro i j hi ⟨k, hik, hkj⟩
    exact hnext.le_size k j (h.le_size i k hi hik) hkj

/-- Either of two steps. -/
theorem Moves.or (h : Moves size step R) (hnext : Moves size next S) :
    Moves size (fun s => step s ||| next s) fun i j => R i j ∨ S i j where
  testBit_iff := by
    intro s hs j
    rw [Nat.testBit_or, Bool.or_eq_true, h.testBit_iff s hs, hnext.testBit_iff s hs, ← exists_or]
    exact exists_congr fun i => and_or_left.symm
  le_size := by
    rintro i j hi (hj | hj)
    · exact h.le_size i j hi hj
    · exact hnext.le_size i j hi hj

theorem Moves.iterate (h : Moves size step R) (n : Nat) : Moves size step^[n] (InRow R n) := by
  induction n with
  | zero => exact moves_id size
  | succ n ih => exact h.comp ih

/-- Rounds stop early only at a set that they leave as it is. -/
theorem iterate_eq (step : Positions → Positions) (n : Nat) (s : Positions) :
    iterate step n s = step^[n] s := by
  induction n generalizing s with
  | zero => rfl
  | succ n ih =>
      rw [iterate]
      split
      · next hfixed => exact (Function.iterate_fixed hfixed (n + 1)).symm
      · exact ih (step s)

theorem reach_eq (step : Positions → Positions) (n : Nat) (s : Positions) :
    reach step n s = (fun s => s ||| step s)^[n] s := by
  rw [← iterate_eq]
  induction n generalizing s with
  | zero => rfl
  | succ n ih => simp only [reach, iterate, ih]

theorem Moves.reach (h : Moves size step R) (n : Nat) :
    Moves size (reach step n) fun i j => ∃ m ≤ n, InRow R m i j := by
  rw [funext (reach_eq step n)]
  exact (((moves_id size).or h).iterate n).congr fun i j _ => inRow_orStay n i j

/-! ## The leaves of an expression -/

theorem testBit_before (p : Char → Bool) (text : List Char) (i : Nat) :
    (before p text).testBit i = text[i]?.any p := by
  induction text generalizing i with
  | nil => simp [before]
  | cons c rest ih =>
      rw [before, ← Nat.bit_val]
      cases i with
      | zero => rw [Nat.testBit_bit_zero]; rfl
      | succ i => rw [Nat.testBit_bit_succ, ih, List.getElem?_cons_succ]

theorem testBit_between (p : Option Char → Option Char → Bool) (left : Option Char)
    (text : List Char) (i : Nat) : (between p left text).testBit i =
      (decide (i ≤ text.length) && p (if i = 0 then left else text[i - 1]?) text[i]?) := by
  induction text generalizing left i with
  | nil =>
      rw [between, ← Nat.zero_add (p left none).toNat, ← Nat.mul_zero 2, ← Nat.bit_val]
      cases i with
      | zero => rw [Nat.testBit_bit_zero]; simp
      | succ i => rw [Nat.testBit_bit_succ]; simp
  | cons c rest ih =>
      rw [between, ← Nat.bit_val]
      cases i with
      | zero => rw [Nat.testBit_bit_zero]; simp
      | succ i =>
          rw [Nat.testBit_bit_succ, ih]
          cases i with
          | zero => simp
          | succ i => simp

theorem testBit_all (text : List Char) (i : Nat) :
    (all text).testBit i = decide (i ≤ text.length) := by
  induction text generalizing i with
  | nil => cases i <;> simp [all, Nat.testBit_succ]
  | cons c rest ih =>
      have hbit : all (c :: rest) = Nat.bit true (all rest) := (Nat.bit_val true _).symm
      rw [hbit]
      cases i with
      | zero => rw [Nat.testBit_bit_zero]; simp
      | succ i => rw [Nat.testBit_bit_succ, ih]; simp

end Positions

/-! ## The search -/

namespace Regex

open Positions

theorem moves_one (text : List Char) (c : CharClass) :
    Moves text.length (ends text (.one c)) ((Regex.one c).Spans text) where
  testBit_iff := by
    intro s _ j
    simp only [ends, Nat.testBit_shiftLeft, Nat.testBit_and, testBit_before, Spans,
      Bool.and_eq_true, decide_eq_true_eq, Option.any_eq_true]
    constructor
    · rintro ⟨hj, hs, x, hx, hc⟩
      exact ⟨j - 1, hs, by omega, x, hx, hc⟩
    · rintro ⟨i, hs, rfl, x, hx, hc⟩
      exact ⟨by omega, by simpa using hs, x, by simpa using hx, hc⟩
  le_size := by
    rintro i j - ⟨rfl, x, hx, -⟩
    exact (List.getElem?_eq_some_iff.mp hx).1

theorem moves_look (text : List Char) (l : Look) :
    Moves text.length (ends text (.look l)) ((Regex.look l).Spans text) where
  testBit_iff := by
    intro s hs j
    have hleft : (if j = 0 then none else text[j - 1]?) = leftOf text j := by
      cases j <;> rfl
    simp only [ends, Nat.testBit_and, testBit_between, Spans, Bool.and_eq_true,
      decide_eq_true_eq, hleft]
    constructor
    · rintro ⟨hj, -, hl⟩
      exact ⟨j, hj, rfl, hl⟩
    · rintro ⟨i, hi, rfl, hl⟩
      exact ⟨hi, hs j hi, hl⟩
  le_size := by
    rintro i j hi ⟨rfl, -⟩
    exact hi

/-- As many rounds as the text has characters reach what any number of rounds does. -/
theorem moves_times {text : List Char} {r : Regex}
    (h : Moves text.length (ends text r) (r.Spans text)) (least : Nat) (most : Option Nat) :
    Moves text.length (ends text (.times r least most))
      ((Regex.times r least most).Spans text) := by
  have hrounds := (h.iterate least).comp (h.reach (most.elim text.length (· - least)))
  rw [← funext (iterate_eq (ends text r) least)] at hrounds
  refine hrounds.congr fun i j hi => ?_
  constructor
  · rintro ⟨k, hk, m, hm, hj⟩
    refine ⟨least + m, Nat.le_add_right _ _, fun top htop => ?_, (inRow_add ..).mpr ⟨k, hk, hj⟩⟩
    rw [htop, Option.elim_some] at hm
    omega
  · rintro ⟨n, hleast, hmost, hn⟩
    obtain ⟨extra, rfl⟩ := Nat.exists_eq_add_of_le hleast
    obtain ⟨k, hk, hj⟩ := (inRow_add ..).mp hn
    refine ⟨k, hk, ?_⟩
    cases most with
    | some top =>
        have htop : least + extra ≤ max least top := hmost top rfl
        refine ⟨extra, ?_, hj⟩
        rw [Option.elim_some]
        omega
    | none =>
        -- the steps that move forward are enough, and they stay in the text
        obtain ⟨m, hm, hrow⟩ := (forward_spans text r).exists_short hj
        have hjlen : j ≤ text.length := (h.iterate (least + extra)).le_size i j hi hn
        refine ⟨m, ?_, hrow⟩
        rw [Option.elim_none]
        omega

/-- The ends that the search reaches are the ends of matches. -/
theorem moves_ends (text : List Char) (r : Regex) :
    Moves text.length (ends text r) (r.Spans text) := by
  induction r with
  | empty => exact moves_id text.length
  | one c => exact moves_one text c
  | look l => exact moves_look text l
  | seq a b iha ihb => exact iha.comp ihb
  | alt a b iha ihb => exact iha.or ihb
  | times r least most ih => exact moves_times ih least most

/-- **The search is complete and correct.** An expression is found in a text if and only if it
matches what stands between two positions of the text. -/
theorem isFoundIn_iff (r : Regex) (text : String) :
    r.isFoundIn text = true ↔ ∃ i j, i ≤ text.toList.length ∧ r.Spans text.toList i j := by
  have hall : Within text.toList.length (Positions.all text.toList) := by
    intro i hi
    simpa [testBit_all] using hi
  have hmem : ∀ j, (ends text.toList r (Positions.all text.toList)).testBit j = true ↔
      ∃ i, i ≤ text.toList.length ∧ r.Spans text.toList i j := by
    intro j
    rw [(moves_ends text.toList r).testBit_iff _ hall]
    simp only [testBit_all, decide_eq_true_eq]
  rw [isFoundIn, bne_iff_ne]
  constructor
  · intro hne
    obtain ⟨j, hj⟩ := Nat.exists_testBit_of_ne_zero hne
    obtain ⟨i, hi, hspans⟩ := (hmem j).mp hj
    exact ⟨i, j, hi, hspans⟩
  · rintro ⟨i, j, hi, hspans⟩ hzero
    have hj := (hmem j).mpr ⟨i, hi, hspans⟩
    rw [hzero, Nat.zero_testBit] at hj
    cases hj

end Regex

end ConditionQuery
