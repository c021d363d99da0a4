import ConditionQuery.Proofs.Calendar.Date
import ConditionQuery.Proofs.Text.Blank
import ConditionQuery.Proofs.Text.Decimal
import ConditionQuery.Services.Basic

set_option autoImplicit false

/-! # Distances between dates in words

A phrase such as `3 weeks ago` or `in 3 weeks` is read as the date at this distance from the
reference by the laws of the calendar (`DateUnit.IsAfter`, over `Proofs/Calendar/Date.lean`). There
is exactly one such date, and it is the answer if it lies in the range of dates.

The number of units may be of any size and have any number of zeros before it. A number that does
not fit a word of 64 bits is refused before any arithmetic is done with it. This loses no date: two
dates in range are never so far apart (`DateUnit.IsAfter.lt_of_inRange`).
-/

namespace ConditionQuery

open Text

theorem Text.isBlank_of_isDigit {c : Char} (h : Decimal.isDigit c = true) : isBlank c = false :=
  Decimal.forall_isDigit (p := fun c => isBlank c = false) (by decide) h

/-- A run of characters of a class ends where another character follows. -/
theorem Text.span_append {p : Char → Bool} {run s : List Char} (hrun : ∀ c ∈ run, p c = true)
    (hs : ∀ c ∈ s.head?, p c = false) :
    (run ++ s).takeWhile p = run ∧ (run ++ s).dropWhile p = s := by
  have hspan : s.takeWhile p = [] ∧ s.dropWhile p = s := by
    cases s with
    | nil => exact ⟨rfl, rfl⟩
    | cons c s =>
        have hc : ¬ p c = true := by simp [hs c rfl]
        exact ⟨List.takeWhile_cons_of_neg hc, List.dropWhile_cons_of_neg hc⟩
  rw [List.takeWhile_append_of_pos hrun, List.dropWhile_append_of_pos hrun, hspan.1, hspan.2,
    List.append_nil]
  exact ⟨rfl, rfl⟩

namespace Words

/-- Digits are taken up to the first character of another kind. -/
theorem digits?_append {ds s : List Char} (hne : ds ≠ [])
    (hds : ∀ c ∈ ds, Decimal.isAnyDigit c = true)
    (hs : ∀ c ∈ s.head?, Decimal.isAnyDigit c = false) : digits? (ds ++ s) = some (ds, s) := by
  obtain ⟨htake, hdrop⟩ := span_append hds hs
  rw [digits?, htake, hdrop, List.isEmpty_eq_false_iff.mpr hne]
  rfl

/-- A numeral is taken up to the blank after it. -/
theorem digits?_numeral (zeros n : Nat) (s : List Char) :
    digits? (Decimal.numeral zeros n ++ ' ' :: s) = some (Decimal.numeral zeros n, ' ' :: s) :=
  digits?_append (Decimal.numeral_ne_nil zeros n)
    (fun _ hc => Decimal.isAnyDigit_of_isDigit (Decimal.isDigit_of_mem_numeral hc))
    (by rintro c ⟨⟩; decide)

/-- The blank before a numeral ends where its digits start. -/
theorem blanks?_numeral (zeros n : Nat) (s : List Char) :
    blanks? (' ' :: (Decimal.numeral zeros n ++ s)) = some (Decimal.numeral zeros n ++ s) := by
  obtain ⟨d, ds, hds, hd⟩ := Decimal.exists_numeral_eq_cons zeros n
  rw [blanks?, if_pos (by decide), hds,
    trimLeft_eq_self (by rintro c ⟨⟩; exact isBlank_of_isDigit hd)]

end Words

/-! ## The form of a distance -/

def DateUnit.word : DateUnit → List Char
  | .day => "day".toList
  | .week => "week".toList
  | .month => "month".toList
  | .year => "year".toList

/-- The name of a unit, in the plural or not. -/
def DateUnit.written (u : DateUnit) (plural : Bool) : List Char :=
  u.word ++ if plural then ['s'] else []

/-- How a distance is written: a numeral, which is a number with zeros before it, and a unit, in the
plural or not; before them stands `in`, or after them `ago`. -/
def Distance.written (ahead : Bool) (zeros n : Nat) (u : DateUnit) (plural : Bool) : List Char :=
  if ahead then "in ".toList ++ (Decimal.numeral zeros n ++ ' ' :: u.written plural)
  else Decimal.numeral zeros n ++ ' ' :: (u.written plural ++ " ago".toList)

/-- A distance as a number, negative into the past. -/
def Distance.signed (ahead : Bool) (n : Nat) : Int :=
  if ahead then n else -n

def DateUnit.IsAfter (u : DateUnit) (e d : Date) (n : Int) : Prop :=
  match u with
  | .day => e.IsDaysAfter d n
  | .week => e.IsDaysAfter d (7 * n)
  | .month => e.IsMonthsAfter d n
  | .year => e.IsMonthsAfter d (12 * n)

/-! ## Dates at a distance -/

namespace DateUnit

variable {u : DateUnit} {d e e' : Date} {n : Int}

theorem exists_isAfter (u : DateUnit) (hd : d.InCalendar) (n : Int) : ∃ e, u.IsAfter e d n := by
  cases u with
  | day => exact hd.exists_isDaysAfter n
  | week => exact hd.exists_isDaysAfter (7 * n)
  | month => exact Date.exists_isMonthsAfter d n
  | year => exact Date.exists_isMonthsAfter d (12 * n)

theorem IsAfter.unique (hd : d.InCalendar) (h : u.IsAfter e d n) (h' : u.IsAfter e' d n) :
    e = e' := by
  cases u with
  | day => exact hd.isDaysAfter_unique h h'
  | week => exact hd.isDaysAfter_unique h h'
  | month => exact Date.IsMonthsAfter.unique h h'
  | year => exact Date.IsMonthsAfter.unique h h'

theorem IsAfter.inCalendar (hd : d.InCalendar) (h : u.IsAfter e d n) : e.InCalendar := by
  have hmonths : ∀ m : Int, e.IsMonthsAfter d m → e.InCalendar := by
    intro m hm
    have hlength := Date.one_le_daysInMonth e.year hm.one_le hm.le_twelve
    have hone := hd.one_le
    have hday := hm.day
    exact ⟨by omega, by omega⟩
  cases u with
  | day => exact h.1
  | week => exact h.1
  | month => exact hmonths n h
  | year => exact hmonths (12 * n) h

/-- The code finds the date at a distance, if it is in range. -/
theorem IsAfter.shift?_eq (hd : d.InCalendar) (h : u.IsAfter e d n) :
    u.shift? d n = Date.inRange? e := by
  cases u with
  | day => exact hd.addDays?_eq h
  | week => exact hd.addDays?_eq h
  | month => exact Date.IsMonthsAfter.addMonths?_eq h
  | year => exact Date.IsMonthsAfter.addMonths?_eq h

/-- No distance between dates in range has a number that does not fit a word. -/
theorem IsAfter.lt_of_inRange (hd : d.InCalendar) (h : u.IsAfter e d n) (hdr : d.InRange)
    (her : e.InRange) : -2 ^ 63 < n ∧ n < 2 ^ 63 := by
  have hdays : ∀ m : Int, e.IsDaysAfter d m → -2 * 10 ^ 9 < m ∧ m < 2 * 10 ^ 9 := by
    intro m hm
    rw [hd.isDaysAfter_iff] at hm
    have hdb := hd.toDays_bounds hdr
    have heb := hm.1.toDays_bounds her
    omega
  have hmonths : ∀ m : Int, e.IsMonthsAfter d m → -2 * 10 ^ 9 < m ∧ m < 2 * 10 ^ 9 := by
    intro m hm
    have hmonth := hd.month_mem
    obtain ⟨h1, h12, hindex, -⟩ := hm
    have hdlow : -262143 ≤ d.year := hdr.1
    have hdhigh : d.year ≤ 262142 := hdr.2
    have helow : -262143 ≤ e.year := her.1
    have hehigh : e.year ≤ 262142 := her.2
    omega
  cases u with
  | day =>
      have hn := hdays n h
      omega
  | week =>
      have hn := hdays (7 * n) h
      omega
  | month =>
      have hn := hmonths n h
      omega
  | year =>
      have hn := hmonths (12 * n) h
      omega

end DateUnit

/-! ## Reading a distance -/

namespace Distance

/-- A distance into the past is read to the end. -/
theorem ago?_written (zeros n : Nat) (u : DateUnit) (plural : Bool) :
    ago? (Decimal.numeral zeros n ++ ' ' :: (u.written plural ++ " ago".toList))
      = some ⟨Decimal.numeral zeros n, u⟩ := by
  rw [ago?, Words.digits?_numeral]
  cases u <;> cases plural <;> rfl

/-- A distance into the future is read to the end. -/
theorem ahead?_written (zeros n : Nat) (u : DateUnit) (plural : Bool) :
    ahead? ("in ".toList ++ (Decimal.numeral zeros n ++ ' ' :: u.written plural))
      = some ⟨Decimal.numeral zeros n, u⟩ := by
  have hword : Words.word? "in".toList
      ("in ".toList ++ (Decimal.numeral zeros n ++ ' ' :: u.written plural))
      = some (' ' :: (Decimal.numeral zeros n ++ ' ' :: u.written plural)) := rfl
  rw [ahead?, hword, Option.bind_eq_bind, Option.bind_some, Words.blanks?_numeral,
    Option.bind_eq_bind, Option.bind_some, Words.digits?_numeral]
  cases u <;> cases plural <;> rfl

/-- A distance into the future is none into the past. -/
theorem ago?_ahead (s : List Char) : ago? ("in ".toList ++ s) = none := rfl

end Distance

/-! ## Reading a date -/

/-- A text that starts with the first letter of no keyword is no keyword. -/
theorem DateKeyword.ofText?_cons {c : Char} (hn : c.toLower ≠ 'n') (ht : c.toLower ≠ 't')
    (hy : c.toLower ≠ 'y') (s : List Char) : ofText? (c :: s) = none := by
  have hne : ∀ {l : Char} (w : List Char), c.toLower ≠ l → (c :: s).map Char.toLower ≠ l :: w := by
    intro l w hl h
    exact hl (List.cons.inj h).1
  have hnow : (c :: s).map Char.toLower ≠ "now".toList := hne _ hn
  have htoday : (c :: s).map Char.toLower ≠ "today".toList := hne _ ht
  have hyesterday : (c :: s).map Char.toLower ≠ "yesterday".toList := hne _ hy
  have htomorrow : (c :: s).map Char.toLower ≠ "tomorrow".toList := hne _ ht
  unfold ofText?
  dsimp only
  rw [if_neg hnow, if_neg htoday, if_neg hyesterday, if_neg htomorrow]

namespace Distance

/-- A distance starts with a digit or with `i`, and it ends with the last letter of a unit or of
`ago`. -/
theorem trim_written (ahead : Bool) (zeros n : Nat) (u : DateUnit) (plural : Bool) :
    trim (written ahead zeros n u plural) = written ahead zeros n u plural := by
  refine trim_eq_self ?_ ?_
  · cases ahead with
    | false =>
        obtain ⟨d, ds, hds, hd⟩ := Decimal.exists_numeral_eq_cons zeros n
        rw [written, hds]
        rintro c ⟨⟩
        exact isBlank_of_isDigit hd
    | true =>
        rintro c ⟨⟩
        decide
  · cases ahead with
    | false =>
        rw [written, if_neg (by decide), List.getLast?_append_of_ne_nil _ (List.cons_ne_nil _ _)]
        cases u <;> cases plural <;> rintro c ⟨⟩ <;> decide
    | true =>
        rw [written, if_pos rfl, ← List.append_assoc,
          List.getLast?_append_of_ne_nil _ (List.cons_ne_nil _ _)]
        cases u <;> cases plural <;> rintro c ⟨⟩ <;> decide

theorem ofTrimmed_written (now : Instant) (ahead : Bool) (zeros n : Nat) (u : DateUnit)
    (plural : Bool) : DateReading.ofTrimmed now (written ahead zeros n u plural)
      = DateReading.ofDistance now (if ahead then 1 else -1) ⟨Decimal.numeral zeros n, u⟩ := by
  cases ahead with
  | false =>
      have hkeyword : DateKeyword.ofText? (written false zeros n u plural) = none := by
        obtain ⟨d, ds, hds, hd⟩ := Decimal.exists_numeral_eq_cons zeros n
        have hlower : d.toLower ≠ 'n' ∧ d.toLower ≠ 't' ∧ d.toLower ≠ 'y' :=
          Decimal.forall_isDigit
            (p := fun c => c.toLower ≠ 'n' ∧ c.toLower ≠ 't' ∧ c.toLower ≠ 'y') (by decide) hd
        rw [written, hds]
        exact DateKeyword.ofText?_cons hlower.1 hlower.2.1 hlower.2.2 _
      have hago : ago? (written false zeros n u plural) = some ⟨Decimal.numeral zeros n, u⟩ :=
        ago?_written zeros n u plural
      rw [DateReading.ofTrimmed, hkeyword, hago]
      rfl
  | true =>
      have hkeyword : DateKeyword.ofText? (written true zeros n u plural) = none :=
        DateKeyword.ofText?_cons (by decide) (by decide) (by decide) _
      have hago : ago? (written true zeros n u plural) = none := ago?_ahead _
      have hahead : ahead? (written true zeros n u plural) = some ⟨Decimal.numeral zeros n, u⟩ :=
        ahead?_written zeros n u plural
      rw [DateReading.ofTrimmed, hkeyword, hago, hahead]
      rfl

/-- Why a distance that leads out of the range of dates is refused. -/
def refusal (n : Int) : DateProblem :=
  if -2 ^ 63 < n ∧ n < 2 ^ 63 then .dateOutOfRange else .amountOutOfRange

end Distance

/-- The text is read as the date `e`, which is the one date at the distance of `n` units from the
reference: the answer is the first moment of `e`, or a refusal if `e` is out of range. -/
structure Services.ReadsDistance (now : Instant) (text : String) (u : DateUnit) (n : Int)
    (e : Date) : Prop where
  isAfter : u.IsAfter e now.date n
  unique : ∀ e', u.IsAfter e' now.date n → e' = e
  date_midnight : (Instant.midnight e).date = e
  readDateFrom : Services.readDateFrom now text =
    if e.InRange then .ok (.midnight e)
    else .error (.unreadableDate text (Distance.refusal n).message)

theorem Instant.inCalendar_date (t : Instant) : t.date.InCalendar :=
  Date.inCalendar_ofDays _

theorem Instant.date_midnight {d : Date} (hd : d.InCalendar) : (midnight d).date = d := by
  have hdays : (midnight d).seconds / secondsPerDay = d.toDays :=
    Int.mul_ediv_cancel _ (by decide)
  rw [Instant.date, hdays, hd.ofDays_toDays]

namespace DateReading

variable {u : DateUnit} {d e : Date} {n : Int}

/-- A distance in range of a word is refused only if it leads out of the range of dates. -/
theorem shift_eq (hd : d.InCalendar) (h : u.IsAfter e d n) (hn : -2 ^ 63 < n ∧ n < 2 ^ 63) :
    shift d n u = if e.InRange then .ok (.midnight e) else .error (Distance.refusal n) := by
  rw [shift, h.shift?_eq hd, Date.inRange?_eq, Distance.refusal, if_pos hn]
  by_cases he : e.InRange
  · rw [if_pos he, if_pos he]
  · rw [if_neg he, if_neg he]

/-- A number that does not fit a word leads out of the range of dates. -/
theorem ofDistance_eq {now : Instant} (hnow : now.date.InRange) {ahead : Bool} {n : Nat}
    (h : u.IsAfter e now.date (Distance.signed ahead n)) (zeros : Nat) :
    ofDistance now (if ahead then 1 else -1) ⟨Decimal.numeral zeros n, u⟩
      = if e.InRange then .ok (.midnight e)
        else .error (Distance.refusal (Distance.signed ahead n)) := by
  have hsigned : (if ahead then 1 else -1) * (n : Int) = Distance.signed ahead n := by
    cases ahead <;> simp [Distance.signed]
  have hfits :
      -2 ^ 63 < Distance.signed ahead n ∧ Distance.signed ahead n < 2 ^ 63 ↔ n < 2 ^ 63 := by
    cases ahead with
    | false =>
        have hpast : Distance.signed false n = -n := rfl
        omega
    | true =>
        have hfuture : Distance.signed true n = n := rfl
        omega
  rw [ofDistance, Distance.number?, Decimal.readInt64?_numeral]
  by_cases hn : n < 2 ^ 63
  · rw [if_pos hn]
    dsimp only
    rw [hsigned, shift_eq now.inCalendar_date h (hfits.mpr hn)]
  · have he : ¬ e.InRange := fun he =>
      hn (hfits.mp (h.lt_of_inRange now.inCalendar_date hnow he))
    rw [if_neg hn, if_neg he, Distance.refusal, if_neg (mt hfits.mp hn)]

end DateReading

namespace Services

variable {now : Instant} {text : String} {u : DateUnit} {n : Int} {e : Date}

/-- What a text stands for as an instant decides its reading. -/
theorem ReadsDistance.of_ofText (h : u.IsAfter e now.date n)
    (htext : Instant.ofText now text =
      if e.InRange then .ok (.midnight e) else .error (Distance.refusal n)) :
    ReadsDistance now text u n e where
  isAfter := h
  unique := fun e' h' => h'.unique now.inCalendar_date h
  date_midnight := Instant.date_midnight (h.inCalendar now.inCalendar_date)
  readDateFrom := by
    rw [Services.readDateFrom, htext]
    split <;> rfl

/-- A number and a unit are read as the date at this distance, and the keywords for the days around
the reference as the distances that they stand for. -/
theorem readDateFrom_distance (now : Instant) (hnow : now.date.InRange) :
    (∀ (ahead : Bool) (zeros n : Nat) (u : DateUnit) (plural : Bool),
      ∃ e, ReadsDistance now (String.ofList (Distance.written ahead zeros n u plural)) u
        (Distance.signed ahead n) e) ∧
    (∃ e, ReadsDistance now "yesterday" .day (-1) e) ∧
    (∃ e, ReadsDistance now "tomorrow" .day 1 e) ∧
    ∃ e, ReadsDistance now "today" .day 0 e := by
  have hcalendar : now.date.InCalendar := now.inCalendar_date
  refine ⟨?_, ?_, ?_, ?_⟩
  · intro ahead zeros n u plural
    obtain ⟨e, h⟩ := u.exists_isAfter hcalendar (Distance.signed ahead n)
    refine ⟨e, .of_ofText h ?_⟩
    rw [Instant.ofText, trimmed, String.toList_ofList, Distance.trim_written,
      Distance.ofTrimmed_written, DateReading.ofDistance_eq hnow h]
  · obtain ⟨e, h⟩ := DateUnit.exists_isAfter .day hcalendar (-1)
    exact ⟨e, .of_ofText h (DateReading.shift_eq hcalendar h (by decide))⟩
  · obtain ⟨e, h⟩ := DateUnit.exists_isAfter .day hcalendar 1
    exact ⟨e, .of_ofText h (DateReading.shift_eq hcalendar h (by decide))⟩
  · have h : DateUnit.day.IsAfter now.date now.date 0 := ⟨hcalendar, rfl⟩
    refine ⟨now.date, .of_ofText h ?_⟩
    rw [if_pos hnow]
    rfl

/-- A month before the last day of March lies the last day of February, and a number of days that
fits no word leads to no date. -/
theorem readDateFrom_distance_clamped :
    (Instant.midnight ⟨2024, 3, 31⟩).date.InRange ∧
    Services.readDateFrom (.midnight ⟨2024, 3, 31⟩) "001 month ago"
      = .ok (.midnight ⟨2024, 2, 29⟩) ∧
    Services.readDateFrom (.midnight ⟨2024, 3, 31⟩) "in 9223372036854775808 days"
      = .error (.unreadableDate "in 9223372036854775808 days" "amount out of range") := by
  have hnow : (Instant.midnight ⟨2024, 3, 31⟩).date.InRange := by decide
  obtain ⟨e, hmonth⟩ := (readDateFrom_distance _ hnow).1 false 2 1 .month false
  obtain ⟨f, hdays⟩ :=
    (readDateFrom_distance _ hnow).1 true 0 9223372036854775808 .day true
  have he : e = ⟨2024, 2, 29⟩ :=
    (hmonth.unique _ ⟨by decide, by decide, by decide, by decide⟩).symm
  have hf : ¬ f.InRange := fun hf =>
    absurd (hdays.isAfter.lt_of_inRange (Instant.inCalendar_date _) hnow hf).2 (by decide)
  refine ⟨hnow, ?_, ?_⟩
  · rw [he] at hmonth
    exact hmonth.readDateFrom
  · have hread := hdays.readDateFrom
    rw [if_neg hf] at hread
    exact hread

end Services

end ConditionQuery
