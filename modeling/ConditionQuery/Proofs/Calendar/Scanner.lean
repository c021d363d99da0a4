import ConditionQuery.Calendar.Reading
import ConditionQuery.Proofs.Text.Blank
import Mathlib.Data.List.Basic
import Mathlib.Data.List.TakeWhile

set_option autoImplicit false

/-! # Scanners of dates

The scanners that the readers of dates are made of, by what they take from the start of a text. A
scanner that succeeds leaves an end of the text, and it takes characters of a few classes only
(`Takes`). Over a whole reader these classes add up to the characters that a text in its form can
have.
-/

namespace ConditionQuery

open Text

/-- From the start of the text `s` only characters of the class `p` are taken, and `rest` is
left. -/
def Takes (p : Char → Bool) (s rest : List Char) : Prop :=
  ∃ taken : List Char, s = taken ++ rest ∧ ∀ c ∈ taken, p c = true

namespace Takes

variable {p q : Char → Bool} {s t rest : List Char}

theorem refl (p : Char → Bool) (s : List Char) : Takes p s s :=
  ⟨[], rfl, fun _ hc => absurd hc List.not_mem_nil⟩

theorem trans (hst : Takes p s t) (ht : Takes p t rest) : Takes p s rest := by
  obtain ⟨first, rfl, hfirst⟩ := hst
  obtain ⟨last, rfl, hlast⟩ := ht
  refine ⟨first ++ last, (List.append_assoc first last rest).symm, fun c hc => ?_⟩
  rcases List.mem_append.mp hc with hc | hc
  · exact hfirst c hc
  · exact hlast c hc

theorem mono (hpq : ∀ c, p c = true → q c = true) (h : Takes p s rest) : Takes q s rest := by
  obtain ⟨taken, rfl, htaken⟩ := h
  exact ⟨taken, rfl, fun c hc => hpq c (htaken c hc)⟩

theorem mem (h : Takes p s rest) {c : Char} (hc : c ∈ rest) : c ∈ s := by
  obtain ⟨taken, rfl, -⟩ := h
  exact List.mem_append_right taken hc

/-- A character outside of the class is not taken. -/
theorem ne (h : Takes p s rest) {c : Char} (hc : p c = false) : Takes (fun d => d != c) s rest := by
  refine h.mono fun d hd => ?_
  rw [bne_iff_ne]
  rintro rfl
  rw [hc] at hd
  cases hd

/-- What is taken up to the end is all of the text. -/
theorem all (h : Takes p s []) {c : Char} (hc : c ∈ s) : p c = true := by
  obtain ⟨taken, rfl, htaken⟩ := h
  rw [List.append_nil] at hc
  exact htaken c hc

theorem not_mem (h : Takes p s []) {c : Char} (hc : p c = false) : c ∉ s := by
  intro hmem
  have hpc := h.all hmem
  simp [hc] at hpc

/-- The end of a text is the end of what is left of it. -/
theorem getLast?_eq (h : Takes p s rest) (hrest : rest ≠ []) : s.getLast? = rest.getLast? := by
  obtain ⟨taken, rfl, -⟩ := h
  exact List.getLast?_append_of_ne_nil taken hrest

end Takes

/-- Characters of a class up to the first other one. -/
theorem takes_dropWhile (p : Char → Bool) (s : List Char) : Takes p s (s.dropWhile p) :=
  ⟨s.takeWhile p, List.takeWhile_append_dropWhile.symm, fun _ hc => List.mem_takeWhile_imp hc⟩

theorem takes_cons {p : Char → Bool} {c : Char} (hc : p c = true) (s : List Char) :
    Takes p (c :: s) s :=
  ⟨[c], rfl, fun d hd => by rwa [List.mem_singleton.mp hd]⟩

/-! ## Classes of characters -/

/-- A letter of ASCII in lower case. Words are given in these letters. -/
def Words.isLower (l : Char) : Bool :=
  'a' ≤ l && l ≤ 'z'

namespace Notation

/-- The letters of words are those of ASCII, the long s and the Kelvin sign. -/
theorem forall_isLetter {p : Char → Prop} (hupper : ∀ i : Fin 26, p (Char.ofNat (65 + i)))
    (hlower : ∀ i : Fin 26, p (Char.ofNat (97 + i))) (hs : p (Char.ofNat 0x17F))
    (hk : p (Char.ofNat 0x212A)) {c : Char} (h : isLetter c = true) : p c := by
  unfold isLetter Words.letter at h
  split at h
  · next hc => rwa [hc]
  · split at h
    · next hc => rwa [hc]
    · by_cases hc : 65 ≤ c.toNat ∧ c.toNat ≤ 90
      · have hi := hupper ⟨c.toNat - 65, by omega⟩
        rwa [Nat.add_sub_cancel' hc.1, Char.ofNat_toNat] at hi
      · have htoLower : c.toLower = c := dif_neg hc
        rw [htoLower, Bool.and_eq_true, decide_eq_true_eq, decide_eq_true_eq] at h
        have hlow : 97 ≤ c.toNat := h.1
        have hhigh : c.toNat ≤ 122 := h.2
        have hi := hlower ⟨c.toNat - 97, by omega⟩
        rwa [Nat.add_sub_cancel' hlow, Char.ofNat_toNat] at hi

theorem isBlank_of_isLetter {c : Char} (h : isLetter c = true) : isBlank c = false :=
  forall_isLetter (p := fun c => isBlank c = false) (by decide) (by decide) (by decide)
    (by decide) h

theorem isAnyDigit_of_isLetter {c : Char} (h : isLetter c = true) :
    Decimal.isAnyDigit c = false :=
  forall_isLetter (p := fun c => Decimal.isAnyDigit c = false) (by decide) (by decide) (by decide)
    (by decide) h

theorem isLetter_of_toLower {c : Char} (h : Words.isLower c.toLower = true) :
    isLetter c = true := by
  unfold isLetter Words.letter
  split
  · decide
  · split
    · decide
    · exact h

theorem isAnyDigit_of_isBlank {c : Char} (h : isBlank c = true) : Decimal.isAnyDigit c = false :=
  forall_isBlank (p := fun c => Decimal.isAnyDigit c = false) (by decide) h

theorem isLetter_of_isBlank {c : Char} (h : isBlank c = true) : isLetter c = false :=
  forall_isBlank (p := fun c => isLetter c = false) (by decide) h

end Notation

/-! ## Words -/

namespace Words

variable {s rest : List Char}

theorem takes_word? {w : List Char} (hw : w.all isLower = true)
    (h : word? w s = some rest) : Takes Notation.isLetter s rest := by
  induction w generalizing s with
  | nil =>
      cases h
      exact .refl _ _
  | cons l w ih =>
      cases s with
      | nil => cases h
      | cons c s =>
          rw [word?] at h
          split at h
          · next hl =>
            rw [List.all_cons, Bool.and_eq_true] at hw
            have hc : Notation.isLetter c = true := by
              rw [Notation.isLetter, hl]
              exact hw.1
            exact (takes_cons hc s).trans (ih hw.2 h)
          · cases h

/-- A word starts with a letter. -/
theorem exists_letter_of_word? {l : Char} {w : List Char} (hl : isLower l = true)
    (h : word? (l :: w) s = some rest) : ∃ c t, s = c :: t ∧ Notation.isLetter c = true := by
  cases s with
  | nil => cases h
  | cons c t =>
      rw [word?] at h
      split at h
      · next hc => exact ⟨c, t, rfl, by rwa [isLower, ← hc] at hl⟩
      · cases h

theorem takes_anyWord? {α : Type} {words : List (List Char × α)} {a : α}
    (hwords : ∀ w ∈ words, w.1.all isLower = true)
    (h : anyWord? words s = some (a, rest)) : Takes Notation.isLetter s rest := by
  obtain ⟨⟨w, b⟩, hw, hfound⟩ := List.exists_of_findSome?_eq_some h
  obtain ⟨t, ht, heq⟩ := Option.map_eq_some_iff.mp hfound
  cases heq
  exact takes_word? (hwords _ hw) ht

theorem takes_optionalWord {w : List Char} (hw : w.all isLower = true)
    (s : List Char) : Takes Notation.isLetter s (optionalWord w s) := by
  rw [optionalWord]
  cases h : word? w s with
  | none => exact .refl _ _
  | some rest => exact takes_word? hw h

theorem takes_blanks? (h : blanks? s = some rest) :
    Takes isBlank s rest ∧ ∃ c ∈ s, isBlank c = true := by
  cases s with
  | nil => cases h
  | cons c s =>
      rw [blanks?] at h
      split at h
      · next hc =>
        cases h
        exact ⟨(takes_cons hc s).trans (takes_dropWhile _ _), c, List.mem_cons_self, hc⟩
      · cases h

/-- The digits that are taken are the start of the text. -/
theorem eq_append_of_digits? {ds : List Char} (h : digits? s = some (ds, rest)) :
    s = ds ++ rest ∧ ds ≠ [] ∧ ∀ c ∈ ds, Decimal.isAnyDigit c = true := by
  rw [digits?] at h
  split at h
  · cases h
  · next hne =>
    cases h
    rw [List.isEmpty_iff] at hne
    exact ⟨List.takeWhile_append_dropWhile.symm, hne, fun _ hc => List.mem_takeWhile_imp hc⟩

theorem takes_digits? {ds : List Char} (h : digits? s = some (ds, rest)) :
    Takes Decimal.isAnyDigit s rest := by
  obtain ⟨hs, -, hds⟩ := eq_append_of_digits? h
  exact ⟨ds, hs, hds⟩

theorem eq_nil_of_atEnd? {α : Type} {a b : α} (h : atEnd? a s = some b) : a = b ∧ s = [] := by
  rw [atEnd?] at h
  split at h
  · next hs => exact ⟨Option.some.inj h, List.isEmpty_iff.mp hs⟩
  · cases h

end Words

theorem DateUnit.takes_take? {s rest : List Char} {u : DateUnit} (h : take? s = some (u, rest)) :
    Takes Notation.isLetter s rest := by
  obtain ⟨⟨v, t⟩, hname, heq⟩ := Option.map_eq_some_iff.mp h
  cases heq
  have hnames : ∀ w ∈ names, w.1.all Words.isLower = true := by decide
  exact (Words.takes_anyWord? hnames hname).trans (Words.takes_optionalWord (by decide) t)

/-! ## Numbers and marks -/

namespace Notation

variable {s rest : List Char}

theorem takes_fixed? {n value : Nat} (h : fixed? n s = some (value, rest)) :
    Takes Decimal.isDigit s rest := by
  rw [fixed?] at h
  split at h
  · next hds =>
    cases h
    rw [Bool.and_eq_true, List.all_eq_true] at hds
    exact ⟨s.take n, (List.take_append_drop n s).symm, hds.2⟩
  · cases h

theorem eq_cons_of_char? {c : Char} (h : char? c s = some rest) : s = c :: rest := by
  cases s with
  | nil => cases h
  | cons d s =>
      rw [char?] at h
      split at h
      · next hc =>
        cases h
        rw [hc]
      · cases h

theorem takes_char? {p : Char → Bool} {c : Char} (hc : p c = true) (h : char? c s = some rest) :
    Takes p s rest := by
  rw [eq_cons_of_char? h]
  exact takes_cons hc rest

theorem takes_optionalChar {p : Char → Bool} {c : Char} (hc : p c = true) (s : List Char) :
    Takes p s ((char? c s).getD s) := by
  cases h : char? c s with
  | none => exact .refl _ _
  | some rest => exact takes_char? hc h

theorem takes_upTo? {most value : Nat} (h : upTo? most s = some (value, rest)) :
    Takes Decimal.isDigit s rest := by
  rw [upTo?] at h
  split at h
  · cases h
  · cases h
    have hprefix : (s.take most).takeWhile Decimal.isDigit <+: s :=
      (List.takeWhile_prefix _).trans (List.take_prefix most s)
    exact ⟨(s.take most).takeWhile Decimal.isDigit, (List.prefix_iff_eq_append.mp hprefix).symm,
      fun _ hc => List.mem_takeWhile_imp hc⟩

def isPartChar (c : Char) : Bool :=
  Decimal.isDigit c || isBlank c

theorem takes_part? {value : Nat} (h : part? s = some (value, rest)) :
    Takes isPartChar s rest := by
  have hblanks : Takes isPartChar s (trimLeft s) :=
    (takes_dropWhile isBlank s).mono fun c hc => by simp [isPartChar, hc]
  have hdigits : Takes isPartChar (trimLeft s) rest :=
    (takes_upTo? h).mono fun c hc => by simp [isPartChar, hc]
  exact hblanks.trans hdigits

/-! ## Years -/

/-- Takes a year from the start of a text that does not start with a blank. -/
def signed? : List Char → Option (Int × List Char)
  | '-' :: s => (upTo? s.length s).map fun (n, s) => (-(n : Int), s)
  | '+' :: s => (upTo? s.length s).map fun (n, s) => ((n : Int), s)
  | s => (upTo? 4 s).map fun (n, s) => ((n : Int), s)

theorem year?_eq (s : List Char) : year? s = signed? (trimLeft s) := rfl

theorem signed?_of_ne {c : Char} (hminus : c ≠ '-') (hplus : c ≠ '+') (s : List Char) :
    signed? (c :: s) = (upTo? 4 (c :: s)).map fun (n, s) => ((n : Int), s) := by
  unfold signed?
  split
  · next h => exact absurd (List.cons.inj h).1 hminus
  · next h => exact absurd (List.cons.inj h).1 hplus
  · rfl

def isYearChar (c : Char) : Bool :=
  isPartChar c || c == '-' || c == '+'

theorem isYearChar_of_isPartChar (c : Char) (h : isPartChar c = true) : isYearChar c = true := by
  simp [isYearChar, h]

theorem isYearChar_of_isDigit {c : Char} (h : Decimal.isDigit c = true) : isYearChar c = true := by
  simp [isYearChar, isPartChar, h]

theorem takes_signed? {year : Int} (h : signed? s = some (year, rest)) :
    Takes isYearChar s rest := by
  have hupTo : ∀ {most : Nat} {f : Nat → Int} {t : List Char},
      ((upTo? most t).map fun (n, t) => (f n, t)) = some (year, rest) →
      Takes isYearChar t rest := by
    intro most f t ht
    obtain ⟨⟨n, r⟩, hr, heq⟩ := Option.map_eq_some_iff.mp ht
    cases heq
    exact (takes_upTo? hr).mono fun _ => isYearChar_of_isDigit
  unfold signed? at h
  split at h
  · exact (takes_cons (by decide) _).trans (hupTo (f := fun n => -(n : Int)) h)
  · exact (takes_cons (by decide) _).trans (hupTo (f := fun n => (n : Int)) h)
  · exact hupTo (f := fun n => (n : Int)) h

theorem takes_year? {year : Int} (h : year? s = some (year, rest)) : Takes isYearChar s rest := by
  have hblanks : Takes isYearChar s (trimLeft s) :=
    (takes_dropWhile isBlank s).mono fun c hc => by simp [isYearChar, isPartChar, hc]
  exact hblanks.trans (takes_signed? h)

/-! ## Times -/

theorem timeMark?_cons (c : Char) (s : List Char) :
    timeMark? (c :: s) = if c = 'T' ∨ c = 't' ∨ c = ' ' then some s else none := by
  unfold timeMark?
  split <;> simp_all

theorem fraction?_of_ne {c : Char} (hc : c ≠ '.') (s : List Char) :
    fraction? (c :: s) = some (0, c :: s) := by
  unfold fraction?
  split
  · next h => exact absurd (List.cons.inj h).1 hc
  · rfl

def sign? (c : Char) : Option Int :=
  if c = '+' then some 1 else if c = '-' || c = Char.ofNat 0x2212 then some (-1) else none

def span? (sign : Int) (s : List Char) : Option (Int × List Char) :=
  (fixed? 2 s).bind fun (h, s) =>
    (char? ':' s).bind fun s =>
      (fixed? 2 s).bind fun (m, s) =>
        if h < 24 ∧ m < 60 then some (sign * (3600 * h + 60 * m : Nat), s) else none

theorem offset?_cons (c : Char) (s : List Char) :
    offset? (c :: s) = if c = 'Z' ∨ c = 'z' then some (0, s)
      else (sign? c).bind fun sign => span? sign s := by
  unfold offset? sign?
  split
  · next h => simp [(List.cons.inj h).1, (List.cons.inj h).2]
  · next h => simp [(List.cons.inj h).1, (List.cons.inj h).2]
  · next hZ hz h =>
    obtain ⟨rfl, rfl⟩ := List.cons.inj h
    have hzulu : ¬ (c = 'Z' ∨ c = 'z') := fun hc => hc.elim hZ hz
    rw [if_neg hzulu]
    by_cases hplus : c = '+'
    · rw [if_pos hplus, if_pos hplus]
      rfl
    · rw [if_neg hplus, if_neg hplus]
      split <;> rfl
  · next h => cases h

/-- Any character but the one between the numbers of a date. -/
def isTimeChar (c : Char) : Bool :=
  c != '/'

theorem takes_time_fixed? {n value : Nat} (h : fixed? n s = some (value, rest)) :
    Takes isTimeChar s rest :=
  (takes_fixed? h).ne (by decide)

theorem takes_timeMark? (h : timeMark? s = some rest) : Takes isTimeChar s rest := by
  cases s with
  | nil => cases h
  | cons c s =>
      rw [timeMark?_cons] at h
      split at h
      · next hc =>
        cases h
        refine takes_cons ?_ _
        rcases hc with rfl | rfl | rfl <;> decide
      · cases h

theorem takes_fraction? {nanos : Nat} (h : fraction? s = some (nanos, rest)) :
    Takes isTimeChar s rest := by
  cases s with
  | nil =>
      cases h
      exact .refl _ _
  | cons c s =>
      by_cases hc : c = '.'
      · subst hc
        rw [fraction?] at h
        split at h
        · cases h
        · cases h
          have hdigits := takes_dropWhile Decimal.isDigit s
          exact (takes_cons (by decide) s).trans (hdigits.ne (by decide))
      · rw [fraction?_of_ne hc] at h
        cases h
        exact .refl _ _

theorem takes_offset? {offset : Int} (h : offset? s = some (offset, rest)) :
    Takes isTimeChar s rest := by
  cases s with
  | nil => cases h
  | cons c s =>
      rw [offset?_cons] at h
      split at h
      · next hc =>
        cases h
        refine takes_cons ?_ _
        rcases hc with rfl | rfl <;> decide
      · obtain ⟨sign, hsign, hspan⟩ := Option.bind_eq_some_iff.mp h
        have hc : isTimeChar c = true := by
          rw [isTimeChar, bne_iff_ne]
          rintro rfl
          cases hsign
        simp only [span?, Option.bind_eq_some_iff] at hspan
        obtain ⟨⟨h, s1⟩, hh, s2, hcolon, ⟨m, s3⟩, hm, hend⟩ := hspan
        dsimp only at hcolon hm hend
        split at hend
        · cases hend
          exact (takes_cons hc s).trans <| (takes_time_fixed? hh).trans <|
            (takes_char? (by decide) hcolon).trans (takes_time_fixed? hm)
        · cases hend

theorem takes_timeOfDay? {time : Nat × Nat} (h : timeOfDay? s = some (time, rest)) :
    Takes isTimeChar s rest ∧ ':' ∈ s := by
  simp only [timeOfDay?, Option.bind_eq_bind, Option.bind_eq_some_iff] at h
  obtain ⟨⟨h, s1⟩, hh, s2, hcolon, ⟨m, s3⟩, hm, s4, hcolon', ⟨sec, s5⟩, hsec, ⟨nanos, s6⟩,
    hnanos, hend⟩ := h
  dsimp only at hcolon hm hcolon' hsec hnanos hend
  have hrest : s6 = rest := by
    split at hend
    · split at hend
      · cases hend
        rfl
      · cases hend
        rfl
    · cases hend
  subst hrest
  have hmem : ':' ∈ s1 := by
    rw [eq_cons_of_char? hcolon]
    exact List.mem_cons_self
  refine ⟨?_, (takes_time_fixed? hh).mem hmem⟩
  exact (takes_time_fixed? hh).trans <| (takes_char? (by decide) hcolon).trans <|
    (takes_time_fixed? hm).trans <| (takes_char? (by decide) hcolon').trans <|
    (takes_time_fixed? hsec).trans (takes_fraction? hnanos)

/-! ## Titles -/

theorem Title.ofText?_eq (s : List Char) : ofText? s =
    if (s.takeWhile isLetter).isEmpty then none
    else (Words.blanks? (s.dropWhile isLetter)).bind fun r =>
      (Words.digits? r).bind fun (day, r) =>
        if 2 < day.length then none
        else
          let r := optionalOrdinal r
          (Words.blanks? ((char? ',' r).getD r)).bind fun r =>
            (Words.digits? r).bind fun (year, r) =>
              if year.length ≠ 4 then none
              else Words.atEnd? ⟨s.takeWhile isLetter, day, year⟩ r := rfl

theorem takes_optionalOrdinal (s : List Char) : Takes isLetter s (optionalOrdinal s) := by
  unfold optionalOrdinal
  split
  · next h => exact Words.takes_anyWord? (by decide) h
  · exact .refl _ _

end Notation

end ConditionQuery
