import ConditionQuery.Calendar.Notation
import ConditionQuery.Proofs.Text.Decimal

set_option autoImplicit false

/-! # Letter case

Texts that differ in the case of ASCII letters only are equal in lower case. Lowering the case of a
character does not change the classes that scanners ask for (`isBlank_toLower` and those after it),
so a text is cut at the same places in lower case (`takeWhile_lower`, `dropWhile_lower`,
`trim_lower`).
-/

namespace ConditionQuery.Text

def lower (s : List Char) : List Char :=
  s.map Char.toLower

/-! ## Characters -/

/-- Lowering the case changes the upper-case letters of ASCII, which are the 26 characters from `A`
on, and no other character. -/
theorem forall_toLower {p : Char → Char → Prop} (hsame : ∀ c : Char, c.toLower = c → p c c)
    (hupper : ∀ i : Fin 26, p (Char.ofNat (65 + i)) (Char.ofNat (65 + i)).toLower) (c : Char) :
    p c c.toLower := by
  by_cases hc : 65 ≤ c.toNat ∧ c.toNat ≤ 90
  · have hi := hupper ⟨c.toNat - 65, by omega⟩
    rwa [Nat.add_sub_cancel' hc.1, Char.ofNat_toNat] at hi
  · have hlower : c.toLower = c := dif_neg hc
    rw [hlower]
    exact hsame c hlower

theorem isBlank_toLower (c : Char) : isBlank c.toLower = isBlank c :=
  forall_toLower (p := fun c d => isBlank d = isBlank c) (fun _ _ => rfl) (by decide) c

theorem isDigit_toLower (c : Char) : Decimal.isDigit c.toLower = Decimal.isDigit c :=
  forall_toLower (p := fun c d => Decimal.isDigit d = Decimal.isDigit c) (fun _ _ => rfl)
    (by decide) c

theorem isAnyDigit_toLower (c : Char) : Decimal.isAnyDigit c.toLower = Decimal.isAnyDigit c :=
  forall_toLower (p := fun c d => Decimal.isAnyDigit d = Decimal.isAnyDigit c) (fun _ _ => rfl)
    (by decide) c

theorem letter_toLower (c : Char) : Words.letter c.toLower = Words.letter c :=
  forall_toLower (p := fun c d => Words.letter d = Words.letter c) (fun _ _ => rfl) (by decide) c

theorem isLetter_toLower (c : Char) : Notation.isLetter c.toLower = Notation.isLetter c := by
  rw [Notation.isLetter, letter_toLower, Notation.isLetter]

theorem toLower_toLower (c : Char) : c.toLower.toLower = c.toLower :=
  forall_toLower (p := fun _ d => d.toLower = d) (fun _ h => h) (by decide) c

/-- A digit has no case. -/
theorem toLower_of_isAnyDigit {c : Char} (h : Decimal.isAnyDigit c = true) : c.toLower = c := by
  revert h
  exact forall_toLower (p := fun c d => Decimal.isAnyDigit c = true → d = c) (fun _ _ _ => rfl)
    (by decide) c

/-- A character that is no letter of ASCII is told from others in any case. -/
theorem toLower_eq_iff {c : Char} (hc : c.isAlpha = false) (d : Char) :
    d.toLower = c ↔ d = c := by
  have hletter : ∀ i : Fin 26, (Char.ofNat (65 + i)).isAlpha = true ∧
      (Char.ofNat (65 + i)).toLower.isAlpha = true := by decide
  refine forall_toLower (p := fun d e => e = c ↔ d = c) (fun _ _ => Iff.rfl) (fun i => ?_) d
  constructor
  · rintro rfl
    exact absurd (hletter i).2 (by simp [hc])
  · rintro rfl
    exact absurd (hletter i).1 (by simp [hc])

/-! ## Texts -/

theorem lower_append (s t : List Char) : lower (s ++ t) = lower s ++ lower t :=
  List.map_append

theorem lower_lower (s : List Char) : lower (lower s) = lower s := by
  have hcomp : Char.toLower ∘ Char.toLower = Char.toLower := funext toLower_toLower
  rw [lower, lower, List.map_map, hcomp]

theorem takeWhile_lower {p : Char → Bool} (hp : ∀ c : Char, p c.toLower = p c) (s : List Char) :
    (lower s).takeWhile p = lower (s.takeWhile p) := by
  have hcomp : p ∘ Char.toLower = p := funext hp
  rw [lower, List.takeWhile_map, hcomp, lower]

theorem dropWhile_lower {p : Char → Bool} (hp : ∀ c : Char, p c.toLower = p c) (s : List Char) :
    (lower s).dropWhile p = lower (s.dropWhile p) := by
  have hcomp : p ∘ Char.toLower = p := funext hp
  rw [lower, List.dropWhile_map, hcomp, lower]

theorem lower_eq_self {s : List Char} (h : ∀ c ∈ s, Decimal.isAnyDigit c = true) : lower s = s := by
  rw [lower, List.map_congr_left fun c hc => toLower_of_isAnyDigit (h c hc), List.map_id']

theorem all_isDigit_lower (s : List Char) :
    (lower s).all Decimal.isDigit = s.all Decimal.isDigit := by
  have hcomp : Decimal.isDigit ∘ Char.toLower = Decimal.isDigit := funext isDigit_toLower
  rw [lower, List.all_map, hcomp]

theorem lower_eq_self_of_isDigit {s : List Char} (h : ∀ c ∈ s, Decimal.isDigit c = true) :
    lower s = s :=
  lower_eq_self fun c hc => Decimal.isAnyDigit_of_isDigit (h c hc)

theorem trimLeft_lower (s : List Char) : trimLeft (lower s) = lower (trimLeft s) :=
  dropWhile_lower isBlank_toLower s

theorem trimRight_lower (s : List Char) : trimRight (lower s) = lower (trimRight s) := by
  rw [trimRight, lower, ← List.map_reverse, ← lower, dropWhile_lower isBlank_toLower, lower,
    ← List.map_reverse, trimRight, lower]

theorem trim_lower (s : List Char) : trim (lower s) = lower (trim s) := by
  rw [trim, trimLeft_lower, trimRight_lower, trim]

end ConditionQuery.Text
