import ConditionQuery.Calendar.Instant
import Mathlib.Algebra.BigOperators.Group.List.Basic
import Mathlib.Algebra.GroupWithZero.Nat
import Mathlib.Logic.Function.Iterate
import Mathlib.Tactic.ByContra

set_option autoImplicit false

/-! # Laws of the calendar

The days of the calendar form one row: each is followed by the next day of its month, by the first
day of the next month, or by New Year's Day (`Date.next`). The numbers of days count along this row
(`toDays_next`), and every number belongs to exactly one day (`ofDays_toDays`, `toDays_ofDays`).
Adding days is therefore nothing but going along the row (`InCalendar.addDays?_eq`), over any
distance. Adding months goes along the row of months and keeps the day of the month as far as the
month has it (`IsMonthsAfter.addMonths?_eq`).
-/

namespace ConditionQuery.Date

/-! ## The row of days -/

/-- The date is a day of the calendar, in any year. -/
structure InCalendar (d : Date) : Prop where
  one_le : 1 ≤ d.day
  day_le : d.day ≤ daysInMonth d.year d.month

def InRange (d : Date) : Prop :=
  firstYear ≤ d.year ∧ d.year ≤ lastYear

instance (d : Date) : Decidable d.InRange :=
  inferInstanceAs (Decidable (_ ∧ _))

def next (d : Date) : Date :=
  if d.day < daysInMonth d.year d.month then ⟨d.year, d.month, d.day + 1⟩
  else if d.month < 12 then ⟨d.year, d.month + 1, 1⟩
  else ⟨d.year + 1, 1, 1⟩

def yearLength (year : Int) : Nat :=
  if isLeapYear year then 366 else 365

theorem isLeapYear_iff {year : Int} :
    isLeapYear year = true ↔ year % 4 = 0 ∧ (year % 100 ≠ 0 ∨ year % 400 = 0) := by
  simp [isLeapYear]

theorem sum_monthLengths (year : Int) : (monthLengths year).sum = yearLength year := by
  unfold monthLengths yearLength
  split <;> rfl

theorem length_monthLengths (year : Int) : (monthLengths year).length = 12 := rfl

/-- A month of the year by its place among the lengths of months. -/
theorem daysInMonth_succ {year : Int} {i : Nat} (hi : i < (monthLengths year).length) :
    daysInMonth year (i + 1) = (monthLengths year)[i] := by
  rw [daysInMonth, List.getElem?_eq_getElem hi, Option.getD_some]

/-- Every month has a first day. -/
theorem one_le_daysInMonth (year : Int) {month : Nat} (h1 : 1 ≤ month) (h12 : month ≤ 12) :
    1 ≤ daysInMonth year month := by
  obtain ⟨i, rfl⟩ : ∃ i, month = i + 1 := ⟨month - 1, by omega⟩
  have hi : i < (monthLengths year).length := by
    rw [length_monthLengths]
    omega
  rw [daysInMonth_succ hi]
  have hall : ∀ l ∈ monthLengths year, 1 ≤ l := by
    unfold monthLengths
    split <;> decide
  exact hall _ (List.getElem_mem hi)

/-- A day of the calendar lies in one of the twelve months. -/
theorem InCalendar.month_mem {d : Date} (h : d.InCalendar) : 1 ≤ d.month ∧ d.month ≤ 12 := by
  have hpos : 1 ≤ daysInMonth d.year d.month := Nat.le_trans h.one_le h.day_le
  unfold daysInMonth at hpos
  split at hpos
  · omega
  · next m hmonth =>
    have hm : m < (monthLengths d.year).length := by
      by_contra hm
      rw [List.getElem?_eq_none (Nat.not_lt.mp hm), Option.getD_none] at hpos
      omega
    rw [length_monthLengths] at hm
    omega

theorem inCalendar_next (d : Date) : d.next.InCalendar := by
  unfold next
  split
  · next hday => exact ⟨by simp, hday⟩
  · split
    · next hmonth => exact ⟨Nat.le_refl 1, one_le_daysInMonth _ (by simp) hmonth⟩
    · exact ⟨Nat.le_refl 1, one_le_daysInMonth _ (by simp) (by simp)⟩

/-! ## Years -/

theorem daysBeforeYear_eq (year : Int) : daysBeforeYear year
    = 365 * (year - 1) + (year - 1) / 4 - (year - 1) / 100 + (year - 1) / 400 := rfl

/-- One year after the other. -/
theorem daysBeforeYear_succ (year : Int) :
    daysBeforeYear (year + 1) = daysBeforeYear year + yearLength year := by
  rw [daysBeforeYear_eq, daysBeforeYear_eq, yearLength]
  split
  · next h =>
    rw [isLeapYear_iff] at h
    omega
  · next h =>
    rw [isLeapYear_iff] at h
    omega

theorem daysBeforeYear_mono {y z : Int} (h : y ≤ z) : daysBeforeYear y ≤ daysBeforeYear z := by
  rw [daysBeforeYear_eq, daysBeforeYear_eq]
  omega

/-- The years before a year, counted by centuries of four, centuries, fours and single years. -/
theorem daysBeforeYear_parts {era century quad year : Int} (hcentury : 0 ≤ century ∧ century ≤ 3)
    (hquad : 0 ≤ quad ∧ quad ≤ 24) (hyear : 0 ≤ year ∧ year ≤ 3) :
    daysBeforeYear (400 * era + 100 * century + 4 * quad + year + 1)
      = 146097 * era + 36524 * century + 1461 * quad + 365 * year := by
  rw [daysBeforeYear_eq]
  have hfour : (400 * era + 100 * century + 4 * quad + year + 1 - 1) / 4
      = 100 * era + 25 * century + quad := by omega
  have hhundred : (400 * era + 100 * century + 4 * quad + year + 1 - 1) / 100
      = 4 * era + century := by omega
  have hera : (400 * era + 100 * century + 4 * quad + year + 1 - 1) / 400 = era := by omega
  rw [hfour, hhundred, hera]
  omega

/-- The last year of four is a leap year, except at the end of a century that is not the last of
four. -/
theorem isLeapYear_parts {era century quad year : Int} (hcentury : 0 ≤ century ∧ century ≤ 3)
    (hquad : 0 ≤ quad ∧ quad ≤ 24) (hyear : 0 ≤ year ∧ year ≤ 3) :
    isLeapYear (400 * era + 100 * century + 4 * quad + year + 1) = true
      ↔ year = 3 ∧ (quad ≠ 24 ∨ century = 3) := by
  rw [isLeapYear_iff]
  omega

/-- A number of days leads to a year and a day of this year, from which it is counted again. -/
theorem yearAndDay_spec (n : Int) :
    n = daysBeforeYear (yearAndDay n).1 + (yearAndDay n).2 ∧
      (yearAndDay n).2 < yearLength (yearAndDay n).1 := by
  rw [yearAndDay]
  dsimp only
  generalize hera : n / 146097 = era
  generalize hinEra : n % 146097 = inEra
  generalize hcentury : min (inEra / 36524) 3 = century
  generalize hinCentury : inEra - 36524 * century = inCentury
  generalize hquad : inCentury / 1461 = quad
  generalize hinQuad : inCentury % 1461 = inQuad
  generalize hyear : min (inQuad / 365) 3 = year
  -- the last century of four has one day more than the others, and so has the last year of four
  have hc : 0 ≤ century ∧ century ≤ 3 := by omega
  have hc' : 0 ≤ inCentury ∧ inCentury ≤ 36524 ∧ (century ≠ 3 → inCentury < 36524) := by omega
  have hq : 0 ≤ quad ∧ quad ≤ 24 := by omega
  have hq' : 0 ≤ inQuad ∧ inQuad < 1461 ∧ (quad = 24 → century ≠ 3 → inQuad < 1460) := by omega
  have hy : 0 ≤ year ∧ year ≤ 3 := by omega
  have hy' : 0 ≤ inQuad - 365 * year ∧ inQuad - 365 * year ≤ 365 ∧
      (year ≠ 3 → inQuad - 365 * year < 365) := by omega
  rw [daysBeforeYear_parts hc hq hy, yearLength]
  constructor
  · omega
  · split
    · omega
    · next hleap =>
      rw [isLeapYear_parts hc hq hy] at hleap
      omega

/-- Only one year and one day of it are counted to a number of days. -/
theorem daysBeforeYear_unique {y z : Int} {r s : Nat} (hr : r < yearLength y)
    (hs : s < yearLength z) (h : daysBeforeYear y + r = daysBeforeYear z + s) : y = z ∧ r = s := by
  have hy := daysBeforeYear_succ y
  have hz := daysBeforeYear_succ z
  rcases Int.lt_trichotomy y z with hlt | rfl | hlt
  · have hmono := daysBeforeYear_mono (Int.add_one_le_of_lt hlt)
    omega
  · exact ⟨rfl, by omega⟩
  · have hmono := daysBeforeYear_mono (Int.add_one_le_of_lt hlt)
    omega

theorem yearAndDay_eq {year : Int} {r : Nat} (hr : r < yearLength year) :
    yearAndDay (daysBeforeYear year + r) = (year, r) := by
  obtain ⟨hsum, hlt⟩ := yearAndDay_spec (daysBeforeYear year + r)
  obtain ⟨hyear, hday⟩ := daysBeforeYear_unique hr hlt hsum
  exact Prod.ext hyear.symm hday.symm

/-! ## Months -/

theorem daysBeforeMonth_eq (d : Date) :
    d.daysBeforeMonth = ((monthLengths d.year).take (d.month - 1)).sum := by
  rw [daysBeforeMonth, List.sum_eq_foldl]

/-- Of rows of days with given lengths, a day of one of the rows is found by the number of days
before it. -/
theorem monthAndDay_eq {lengths : List Nat} {i r : Nat} (hi : i < lengths.length)
    (hr : r < lengths[i]) (month : Nat) :
    monthAndDay month lengths ((lengths.take i).sum + r) = (month + i, r + 1) := by
  induction lengths generalizing i month with
  | nil => exact absurd hi (Nat.not_lt_zero i)
  | cons length rest ih =>
      cases i with
      | zero =>
          have hlt : r < length := hr
          simp [monthAndDay, hlt]
      | succ i =>
          have hi' : i < rest.length := Nat.lt_of_succ_lt_succ hi
          have hrest := ih hi' hr (month + 1)
          rw [List.take_succ_cons, List.sum_cons, monthAndDay, if_neg (by omega)]
          have hsub : length + (rest.take i).sum + r - length = (rest.take i).sum + r := by omega
          rw [hsub, hrest]
          exact Prod.ext (by dsimp only; omega) rfl

/-- Every day of all the rows is a day of one of them. -/
theorem exists_row {lengths : List Nat} {n : Nat} (hn : n < lengths.sum) :
    ∃ (i r : Nat) (hi : i < lengths.length), r < lengths[i] ∧ n = (lengths.take i).sum + r := by
  induction lengths generalizing n with
  | nil => exact absurd hn (Nat.not_lt_zero n)
  | cons length rest ih =>
      by_cases h : n < length
      · exact ⟨0, n, by simp, h, by simp⟩
      · rw [List.sum_cons] at hn
        obtain ⟨i, r, hi, hr, hsum⟩ := ih (n := n - length) (by omega)
        refine ⟨i + 1, r, by simpa using hi, hr, ?_⟩
        rw [List.take_succ_cons, List.sum_cons]
        omega

/-- The days before the end of a row are no more than those of all rows. -/
theorem sum_take_add_lt {lengths : List Nat} {i r : Nat} (hi : i < lengths.length)
    (hr : r < lengths[i]) : (lengths.take i).sum + r < lengths.sum := by
  have hsplit : lengths.sum = (lengths.take i).sum + (lengths.drop i).sum := by
    rw [← List.sum_append, List.take_append_drop]
  rw [hsplit, List.drop_eq_getElem_cons hi, List.sum_cons]
  omega

/-! ## Numbers of days -/

/-- A day of the calendar by its place in a month and the month's in the year. -/
theorem InCalendar.exists_place {d : Date} (h : d.InCalendar) :
    ∃ (i r : Nat) (hi : i < (monthLengths d.year).length), r < (monthLengths d.year)[i] ∧
      d = ⟨d.year, i + 1, r + 1⟩ := by
  obtain ⟨h1, h12⟩ := h.month_mem
  obtain ⟨year, month, day⟩ := d
  obtain ⟨i, rfl⟩ : ∃ i, month = i + 1 := ⟨month - 1, by simpa using (Nat.sub_add_cancel h1).symm⟩
  obtain ⟨r, rfl⟩ : ∃ r, day = r + 1 := ⟨day - 1, (Nat.sub_add_cancel h.one_le).symm⟩
  have hi : i < (monthLengths year).length := h12
  have hday := h.day_le
  rw [daysInMonth_succ hi] at hday
  exact ⟨i, r, hi, hday, rfl⟩

/-- The number of days of a day by its place. -/
theorem toDays_place (year : Int) (i r : Nat) : toDays ⟨year, i + 1, r + 1⟩ + epoch
    = daysBeforeYear year + (((monthLengths year).take i).sum + r : Nat) := by
  rw [toDays, daysBeforeMonth_eq]
  simp only [Nat.add_sub_cancel]
  omega

theorem ofDays_place {year : Int} {i r : Nat} (hi : i < (monthLengths year).length)
    (hr : r < (monthLengths year)[i]) :
    ofDays (toDays ⟨year, i + 1, r + 1⟩) = ⟨year, i + 1, r + 1⟩ := by
  have hlt : ((monthLengths year).take i).sum + r < yearLength year := by
    rw [← sum_monthLengths]
    exact sum_take_add_lt hi hr
  rw [ofDays, toDays_place, yearAndDay_eq hlt]
  simp only [monthAndDay_eq hi hr, Nat.add_comm 1 i]

/-- Every day of the calendar is the day of its number. -/
theorem InCalendar.ofDays_toDays {d : Date} (h : d.InCalendar) : ofDays d.toDays = d := by
  obtain ⟨i, r, hi, hr, hd⟩ := h.exists_place
  rw [hd]
  exact ofDays_place hi hr

/-- Every number of days is the number of a day of the calendar. -/
theorem exists_toDays_eq (n : Int) : ∃ d : Date, d.InCalendar ∧ d.toDays = n := by
  obtain ⟨hsum, hlt⟩ := yearAndDay_spec (n + epoch)
  generalize (yearAndDay (n + epoch)).1 = year at hsum hlt
  generalize (yearAndDay (n + epoch)).2 = day at hsum hlt
  rw [← sum_monthLengths] at hlt
  obtain ⟨i, r, hi, hr, rfl⟩ := exists_row hlt
  refine ⟨⟨year, i + 1, r + 1⟩, ⟨by simp, ?_⟩, ?_⟩
  · rw [daysInMonth_succ hi]
    exact hr
  · have hplace := toDays_place year i r
    omega

theorem toDays_ofDays (n : Int) : (ofDays n).toDays = n := by
  obtain ⟨d, hd, rfl⟩ := exists_toDays_eq n
  rw [hd.ofDays_toDays]

theorem inCalendar_ofDays (n : Int) : (ofDays n).InCalendar := by
  obtain ⟨d, hd, rfl⟩ := exists_toDays_eq n
  rwa [hd.ofDays_toDays]

/-- Days with one number are one day. -/
theorem InCalendar.eq_of_toDays_eq {d e : Date} (hd : d.InCalendar) (he : e.InCalendar)
    (h : d.toDays = e.toDays) : d = e := by
  rw [← hd.ofDays_toDays, h, he.ofDays_toDays]

/-- The next day has the next number. -/
theorem InCalendar.toDays_next {d : Date} (h : d.InCalendar) : d.next.toDays = d.toDays + 1 := by
  obtain ⟨i, r, hi, hr, hd⟩ := h.exists_place
  have hplace := toDays_place d.year i r
  rw [hd]
  unfold next
  dsimp only
  rw [daysInMonth_succ hi]
  split
  · next hday =>
    have hnext := toDays_place d.year i (r + 1)
    omega
  · next hday =>
    split
    · next hmonth =>
      -- the first day of the next month follows the last day of this one
      have hnext := toDays_place d.year (i + 1) 0
      rw [List.sum_take_succ _ i hi, Nat.zero_add] at hnext
      omega
    · next hmonth =>
      -- the first day of the next year follows the last day of the last month
      have hnext := toDays_place (d.year + 1) 0 0
      have hyear := daysBeforeYear_succ d.year
      have hlast : ((monthLengths d.year).take (i + 1)).sum = (monthLengths d.year).sum := by
        rw [List.take_of_length_le (by rw [length_monthLengths]; omega)]
      rw [List.sum_take_succ _ i hi, sum_monthLengths] at hlast
      rw [List.take_zero, List.sum_nil, Nat.zero_add] at hnext
      omega

/-! ## Adding days -/

/-- The date `e` is `n` days after `d`, or before it if `n` is negative: going on from day to day
leads from one to the other. -/
def IsDaysAfter (e d : Date) (n : Int) : Prop :=
  e.InCalendar ∧ next^[n.toNat] d = next^[(-n).toNat] e

theorem InCalendar.iterate_next {d : Date} (h : d.InCalendar) (n : Nat) :
    (next^[n] d).InCalendar ∧ (next^[n] d).toDays = d.toDays + n := by
  induction n with
  | zero => exact ⟨h, by simp⟩
  | succ n ih =>
      rw [Function.iterate_succ_apply']
      refine ⟨inCalendar_next _, ?_⟩
      rw [ih.1.toDays_next, ih.2]
      omega

/-- Distances in days are differences of numbers of days. -/
theorem InCalendar.isDaysAfter_iff {e d : Date} (hd : d.InCalendar) {n : Int} :
    e.IsDaysAfter d n ↔ e.InCalendar ∧ e.toDays = d.toDays + n := by
  refine and_congr_right fun he => ?_
  obtain ⟨hin, hdays⟩ := hd.iterate_next n.toNat
  obtain ⟨hin', hdays'⟩ := he.iterate_next (-n).toNat
  constructor
  · intro h
    rw [h, hdays'] at hdays
    omega
  · intro h
    exact hin.eq_of_toDays_eq hin' (by omega)

theorem InCalendar.exists_isDaysAfter {d : Date} (hd : d.InCalendar) (n : Int) :
    ∃ e : Date, e.IsDaysAfter d n := by
  obtain ⟨e, he, hdays⟩ := exists_toDays_eq (d.toDays + n)
  exact ⟨e, hd.isDaysAfter_iff.mpr ⟨he, hdays⟩⟩

theorem InCalendar.isDaysAfter_unique {d e e' : Date} (hd : d.InCalendar) {n : Int}
    (h : e.IsDaysAfter d n) (h' : e'.IsDaysAfter d n) : e = e' := by
  rw [hd.isDaysAfter_iff] at h h'
  exact h.1.eq_of_toDays_eq h'.1 (h.2.trans h'.2.symm)

/-- Adding days leads to the date at this distance, unless it is out of range. -/
theorem InCalendar.addDays?_eq {d e : Date} (hd : d.InCalendar) {n : Int} (h : e.IsDaysAfter d n) :
    d.addDays? n = inRange? e := by
  rw [hd.isDaysAfter_iff] at h
  rw [addDays?, ← h.2, h.1.ofDays_toDays]

/-! ## Adding months -/

/-- The date `e` is `n` months after `d`, or before it if `n` is negative: the months are counted on
from year to year, and the day of the month is the same, or the last one if the month has fewer
days. -/
structure IsMonthsAfter (e d : Date) (n : Int) : Prop where
  one_le : 1 ≤ e.month
  le_twelve : e.month ≤ 12
  index : 12 * e.year + e.month = 12 * d.year + d.month + n
  day : e.day = min d.day (daysInMonth e.year e.month)

theorem exists_isMonthsAfter (d : Date) (n : Int) : ∃ e : Date, e.IsMonthsAfter d n := by
  let index : Int := d.monthIndex + n
  have hindex : index = 12 * d.year + (d.month - 1) + n := rfl
  refine ⟨⟨index / 12, (index % 12).toNat + 1,
    min d.day (daysInMonth (index / 12) ((index % 12).toNat + 1))⟩, ?_, ?_, ?_, rfl⟩
  · exact Nat.le_add_left 1 _
  · show (index % 12).toNat + 1 ≤ 12
    omega
  · show 12 * (index / 12) + (((index % 12).toNat + 1 : Nat) : Int) = _
    omega

theorem IsMonthsAfter.unique {d e e' : Date} {n : Int} (h : e.IsMonthsAfter d n)
    (h' : e'.IsMonthsAfter d n) : e = e' := by
  obtain ⟨year, month, day⟩ := e
  obtain ⟨year', month', day'⟩ := e'
  obtain ⟨h1, h12, hindex, hday⟩ := h
  obtain ⟨h1', h12', hindex', hday'⟩ := h'
  dsimp only at *
  obtain rfl : month = month' := by omega
  obtain rfl : year = year' := by omega
  rw [hday, hday']

/-- Adding months leads to the date at this distance, unless it is out of range. -/
theorem IsMonthsAfter.addMonths?_eq {d e : Date} {n : Int} (h : e.IsMonthsAfter d n) :
    d.addMonths? n = inRange? e := by
  obtain ⟨year, month, day⟩ := e
  obtain ⟨h1, h12, hindex, hday⟩ := h
  dsimp only at *
  have hsum : d.monthIndex + n = 12 * year + (month - 1) := by
    rw [monthIndex]
    omega
  have hyear : (d.monthIndex + n) / 12 = year := by omega
  have hmonth : ((d.monthIndex + n) % 12).toNat + 1 = month := by omega
  simp only [addMonths?, hyear, hmonth, hday]

/-! ## The range of dates -/

theorem inRange?_eq (d : Date) : inRange? d = if d.InRange then some d else none := rfl

/-- The numbers of days of the dates in the range. -/
theorem InCalendar.toDays_bounds {d : Date} (h : d.InCalendar) (hrange : d.InRange) :
    -10 ^ 9 < d.toDays ∧ d.toDays < 10 ^ 9 := by
  obtain ⟨i, r, hi, hr, hd⟩ := h.exists_place
  have hplace := toDays_place d.year i r
  rw [← hd] at hplace
  have hlt : ((monthLengths d.year).take i).sum + r < yearLength d.year := by
    rw [← sum_monthLengths]
    exact sum_take_add_lt hi hr
  have hyear : yearLength d.year ≤ 366 := by
    unfold yearLength
    split <;> omega
  have hfirst : daysBeforeYear firstYear ≤ daysBeforeYear d.year := daysBeforeYear_mono hrange.1
  have hlast : daysBeforeYear d.year ≤ daysBeforeYear lastYear := daysBeforeYear_mono hrange.2
  have hfirst' : daysBeforeYear firstYear = -95746130 := by decide
  have hlast' : daysBeforeYear lastYear = 95745034 := by decide
  have hepoch : epoch = 719162 := rfl
  omega

/-! ## The parts of a date -/

variable {year month day : Nat}

/-- Every day of the calendar is found by its parts in the years of four digits. -/
theorem ofParts?_of_inCalendar (hyear : year < 10000) (h : InCalendar ⟨year, month, day⟩) :
    ofParts? year month day = some ⟨year, month, day⟩ := by
  have hfirst : firstYear ≤ year := by
    rw [firstYear]
    omega
  have hlast : (year : Int) ≤ lastYear := by
    rw [lastYear]
    omega
  have hone : 1 ≤ day := h.one_le
  have hday : day ≤ daysInMonth year month := h.day_le
  rw [ofParts?, if_pos (by simp [isValid, hfirst, hlast, hone, hday])]

theorem ofParts?_of_not_inCalendar (h : ¬ InCalendar ⟨year, month, day⟩) :
    ofParts? year month day = none := by
  rw [ofParts?, if_neg]
  intro hvalid
  simp only [isValid, Bool.and_eq_true, decide_eq_true_eq] at hvalid
  exact h ⟨hvalid.1.2, hvalid.2⟩

/-- The number of a day is its distance from 1 January 1970. -/
theorem InCalendar.isDaysAfter_epoch {d : Date} (h : d.InCalendar) :
    d.IsDaysAfter ⟨1970, 1, 1⟩ d.toDays := by
  have hepoch : InCalendar ⟨1970, 1, 1⟩ := ⟨by decide, by decide⟩
  have hzero : toDays ⟨1970, 1, 1⟩ = 0 := by decide
  rw [hepoch.isDaysAfter_iff, hzero, Int.zero_add]
  exact ⟨h, rfl⟩

end ConditionQuery.Date
