import ConditionQuery.Proofs.Calendar.Distance
import ConditionQuery.Proofs.Calendar.Form
import ConditionQuery.Proofs.Calendar.Spelling

set_option autoImplicit false

/-! # Dates written by themselves

A date of the calendar can be written in numbers in two orders, as the timestamp of its first
moment, and as a title in many spellings (`Notation.Written`). A text is built here from its parts,
and it is read by following the scanners over them: a number of fixed width is taken up to its last
digit (`fixed?_padded`, `upTo?_padded`), a gap up to the first character that is no blank
(`IsGap.blanks?_append`), and what is left of a title after its day is found in lower case
(`optionalOrdinal_append`). The marks of a text keep the other forms away from it
(`DateForm.ofMarks`).

All ways to write a date therefore lead to one reading, and all of them are refused for a day that
the month does not have (`Services.readDateFrom_notations`).
-/

namespace ConditionQuery

open Text

namespace Notation

/-! ## How a date is written -/

/-- A date in numbers with the year first. -/
def dashed (year month day : Nat) : List Char :=
  Decimal.padded 4 year ++ '-' :: (Decimal.padded 2 month ++ '-' :: Decimal.padded 2 day)

/-- A date in numbers with the month first. -/
def slashed (year month day : Nat) : List Char :=
  Decimal.padded 2 month ++ '/' :: (Decimal.padded 2 day ++ '/' :: Decimal.padded 4 year)

structure Clock where
  hour : Fin 24
  minute : Fin 60
  second : Fin 60

def Clock.seconds (t : Clock) : Nat :=
  3600 * t.hour + 60 * t.minute + t.second

def Clock.written (t : Clock) : List Char :=
  Decimal.padded 2 t.hour ++ ':' :: (Decimal.padded 2 t.minute ++ ':' :: Decimal.padded 2 t.second)

def Clock.midnight : Clock :=
  ⟨0, 0, 0⟩

/-- A distance from universal time: none, or hours and minutes ahead of it or behind it. -/
inductive Zone where
  | universal
  | apart (ahead : Bool) (hour : Fin 24) (minute : Fin 60)

/-- A distance from universal time in seconds, negative behind it. -/
def Zone.seconds : Zone → Int
  | universal => 0
  | apart ahead hour minute => (if ahead then 1 else -1) * (3600 * hour + 60 * minute : Nat)

def Zone.written : Zone → List Char
  | universal => ['Z']
  | apart ahead hour minute => (if ahead then '+' else '-') ::
      (Decimal.padded 2 hour ++ ':' :: Decimal.padded 2 minute)

def timestamp (year month day : Nat) (t : Clock) (z : Zone) : List Char :=
  dashed year month day ++ 'T' :: (t.written ++ z.written)

/-- The word is the name of a month, in full or cut to three letters, in any case. -/
def IsMonthName (month : Nat) (name : List Char) : Prop :=
  ∃ i : Fin monthNames.length, month = i + 1 ∧
    (lower name = monthNames[i].toList ∨ lower name = monthNames[i].toList.take 3)

/-- The text is made of blanks, and of at least one. -/
def IsGap (s : List Char) : Prop :=
  s ≠ [] ∧ ∀ c ∈ s, isBlank c = true

/-- The endings of ordinal numbers, and no ending. -/
def endings : List (List Char) :=
  [[], "st".toList, "nd".toList, "rd".toList, "th".toList]

/-- A title in one of its spellings: the name of the month, the number of the day with or without a
zero, an ending and a comma, and gaps before the numbers. -/
structure Title.Spelling (month day : Nat) where
  name : List Char
  gap : List Char
  digits : List Char
  ending : List Char
  comma : List Char
  gap' : List Char
  isMonthName : IsMonthName month name
  isGap : IsGap gap
  isDay : digits = Decimal.writeNat day ∨ digits = Decimal.padded 2 day
  isEnding : lower ending ∈ endings
  isComma : comma = [] ∨ comma = [',']
  isGap' : IsGap gap'

def Title.Spelling.text {month day : Nat} (t : Spelling month day) (year : Nat) : List Char :=
  t.name ++ (t.gap ++ (t.digits ++ (t.ending ++ (t.comma ++ (t.gap' ++ Decimal.padded 4 year)))))

/-- The ways to write a date by itself. -/
inductive Written (year month day : Nat) : List Char → Prop where
  | yearFirst : Written year month day (dashed year month day)
  | monthFirst : Written year month day (slashed year month day)
  | timestamp : Written year month day (timestamp year month day .midnight .universal)
  | title (t : Title.Spelling month day) : Written year month day (t.text year)

/-! ## Reading numbers -/

@[simp] theorem char?_cons (c : Char) (s : List Char) : char? c (c :: s) = some s := by
  rw [char?, if_pos rfl]

section

variable {width n : Nat}

theorem fixed?_padded (hwidth : 0 < width) (hn : n < 10 ^ width) (s : List Char) :
    fixed? width (Decimal.padded width n ++ s) = some (n, s) := by
  have hlength := Decimal.length_padded hwidth hn
  have hdigits : (Decimal.padded width n).all Decimal.isDigit = true :=
    List.all_eq_true.mpr fun c => Decimal.isDigit_of_mem_numeral
  have hvalue : Decimal.extend 0 (Decimal.padded width n) = n := Decimal.extend_numeral _ n
  rw [fixed?, List.take_left' hlength, List.drop_left' hlength, hlength, hdigits, hvalue]
  simp

theorem upTo?_padded (hwidth : 0 < width) (hn : n < 10 ^ width) (s : List Char) :
    upTo? width (Decimal.padded width n ++ s) = some (n, s) := by
  have hlength := Decimal.length_padded hwidth hn
  have hdigits : (Decimal.padded width n).takeWhile Decimal.isDigit = Decimal.padded width n :=
    List.takeWhile_eq_self_iff.mpr fun c => Decimal.isDigit_of_mem_numeral
  have hvalue : Decimal.extend 0 (Decimal.padded width n) = n := Decimal.extend_numeral _ n
  have hne : (Decimal.padded width n).isEmpty = false :=
    List.isEmpty_eq_false_iff.mpr (Decimal.numeral_ne_nil _ n)
  simp only [upTo?, List.take_left' hlength, hdigits, hne, hvalue, List.drop_left' rfl]
  rfl

theorem trimLeft_padded (width n : Nat) (s : List Char) :
    trimLeft (Decimal.padded width n ++ s) = Decimal.padded width n ++ s := by
  obtain ⟨d, ds, hds, hd⟩ := Decimal.exists_numeral_eq_cons (width - (Decimal.writeNat n).length) n
  rw [Decimal.padded, hds]
  exact trimLeft_eq_self (by rintro c ⟨⟩; exact isBlank_of_isDigit hd)

theorem part?_padded (hn : n < 100) (s : List Char) :
    part? (Decimal.padded 2 n ++ s) = some (n, s) := by
  rw [part?, trimLeft_padded, upTo?_padded (by decide) hn]

theorem year?_padded (hn : n < 10000) (s : List Char) :
    year? (Decimal.padded 4 n ++ s) = some ((n : Int), s) := by
  have hread : upTo? 4 (Decimal.padded 4 n ++ s) = some (n, s) := upTo?_padded (by decide) hn s
  rw [year?_eq, trimLeft_padded]
  obtain ⟨d, ds, hds, hd⟩ := Decimal.exists_numeral_eq_cons (4 - (Decimal.writeNat n).length) n
  rw [Decimal.padded, hds, List.cons_append] at hread ⊢
  have hsign : d ≠ '-' ∧ d ≠ '+' :=
    Decimal.forall_isDigit (p := fun c => c ≠ '-' ∧ c ≠ '+') (by decide) hd
  rw [signed?_of_ne hsign.1 hsign.2, hread, Option.map_some]

end

/-! ## Reading dates in numbers -/

section

variable {year month day : Nat}

/-- The end of a text is the end of the last number in it. -/
theorem part?_padded_end (hday : day < 100) : part? (Decimal.padded 2 day) = some (day, []) := by
  have hread := part?_padded hday []
  rwa [List.append_nil] at hread

theorem year?_padded_end (hyear : year < 10000) :
    year? (Decimal.padded 4 year) = some ((year : Int), []) := by
  have hread := year?_padded hyear []
  rwa [List.append_nil] at hread

theorem yearFirst?_dashed (hyear : year < 10000) (hmonth : month < 100) (hday : day < 100) :
    yearFirst? (dashed year month day) = Date.ofParts? year month day := by
  simp only [yearFirst?, dashed, year?_padded hyear, part?_padded hmonth, part?_padded_end hday,
    char?_cons, Option.bind_eq_bind, Option.bind_some]
  cases Date.ofParts? year month day <;> rfl

theorem monthFirst?_slashed (hyear : year < 10000) (hmonth : month < 100) (hday : day < 100) :
    monthFirst? (slashed year month day) = Date.ofParts? year month day := by
  simp only [monthFirst?, slashed, part?_padded hmonth, part?_padded hday, year?_padded_end hyear,
    char?_cons, Option.bind_eq_bind, Option.bind_some]
  cases Date.ofParts? year month day <;> rfl

theorem timeOfDay?_written (t : Clock) {s : List Char} (hs : '.' ∉ s.head?) :
    timeOfDay? (t.written ++ s) = some ((t.seconds, 0), s) := by
  have hhour : t.hour.val < 10 ^ 2 := by omega
  have hminute : t.minute.val < 10 ^ 2 := by omega
  have hsecond : t.second.val < 10 ^ 2 := by omega
  have hfraction : fraction? s = some (0, s) := by
    cases s with
    | nil => rfl
    | cons c s => exact fraction?_of_ne (by rintro rfl; exact hs rfl) s
  simp only [timeOfDay?, Clock.written, List.append_assoc, List.cons_append,
    fixed?_padded (by decide : 0 < 2) hhour, fixed?_padded (by decide : 0 < 2) hminute,
    fixed?_padded (by decide : 0 < 2) hsecond, char?_cons, hfraction, Option.bind_eq_bind,
    Option.bind_some]
  rw [if_pos ⟨t.hour.isLt, t.minute.isLt, by omega⟩, if_neg (by omega)]
  rfl

theorem offset?_written (z : Zone) : offset? z.written = some (z.seconds, []) := by
  cases z with
  | universal => rfl
  | apart ahead hour minute =>
      have hhour : hour.val < 10 ^ 2 := by omega
      have hminute : minute.val < 10 ^ 2 := by omega
      have hend := fixed?_padded (by decide : 0 < 2) hminute []
      rw [List.append_nil] at hend
      have hspan : ∀ sign : Int,
          span? sign (Decimal.padded 2 hour ++ ':' :: Decimal.padded 2 minute)
            = some (sign * (3600 * hour + 60 * minute : Nat), []) := by
        intro sign
        simp only [span?, fixed?_padded (by decide : 0 < 2) hhour, hend, char?_cons,
          Option.bind_some]
        rw [if_pos ⟨hour.isLt, minute.isLt⟩]
      rw [Zone.written, offset?_cons]
      cases ahead with
      | false => exact hspan (-1)
      | true => exact hspan 1

theorem timestamp?_timestamp (hyear : year < 10000) (hmonth : month < 100) (hday : day < 100)
    (t : Clock) (z : Zone) : timestamp? (timestamp year month day t z)
      = (Date.ofParts? year month day).map fun d =>
        ⟨d.toDays * Instant.secondsPerDay + t.seconds - z.seconds, 0⟩ := by
  have hzone : '.' ∉ z.written.head? := by
    cases z with
    | universal => decide
    | apart ahead hour minute => cases ahead <;> rintro ⟨⟩
  have hmark : ∀ s, timeMark? ('T' :: s) = some s := fun _ => rfl
  simp only [timestamp?, timestamp, dashed, List.append_assoc, List.cons_append,
    fixed?_padded (by decide : 0 < 4) hyear, fixed?_padded (by decide : 0 < 2) hmonth,
    fixed?_padded (by decide : 0 < 2) hday, char?_cons, hmark, timeOfDay?_written t hzone,
    offset?_written, Option.bind_eq_bind, Option.bind_some]
  cases Date.ofParts? year month day <;> rfl

end

/-! ## Reading titles -/

section

variable {month : Nat} {name gap ending comma s : List Char}

/-- A name of a month has its number, and it is made of letters. -/
theorem IsMonthName.spec (h : IsMonthName month name) :
    monthNumber? name = some month ∧ name ≠ [] ∧ ∀ c ∈ name, isLetter c = true := by
  have hnames : ∀ i : Fin monthNames.length,
      ∀ word ∈ [monthNames[i].toList, monthNames[i].toList.take 3],
        monthNumber? word = some (i.val + 1) ∧ word ≠ [] ∧ word.all isLetter = true := by decide
  obtain ⟨i, rfl, hname⟩ := h
  obtain ⟨hnumber, hne, hletters⟩ := hnames i (lower name) (by simpa using hname)
  refine ⟨by rwa [monthNumber?_lower] at hnumber, by simpa [lower] using hne, fun c hc => ?_⟩
  rw [← isLetter_toLower]
  exact List.all_eq_true.mp hletters c.toLower (List.mem_map_of_mem hc)

/-- A gap ends where something else starts. -/
theorem IsGap.blanks?_append (h : IsGap gap) (hs : ∀ c ∈ s.head?, isBlank c = false) :
    Words.blanks? (gap ++ s) = some s := by
  obtain ⟨hne, hblank⟩ := h
  cases gap with
  | nil => exact absurd rfl hne
  | cons c gap =>
      have hrest : trimLeft (gap ++ s) = s := by
        rw [trimLeft_append fun d hd => hblank d (List.mem_cons_of_mem c hd), trimLeft_eq_self hs]
      rw [List.cons_append, Words.blanks?, if_pos (hblank c List.mem_cons_self), hrest]

theorem IsGap.isBlank_head? (h : IsGap gap) (s : List Char) :
    ∀ c ∈ (gap ++ s).head?, isBlank c = true := by
  intro c hc
  rw [List.head?_append_of_ne_nil gap h.1] at hc
  exact h.2 c (List.mem_of_mem_head? hc)

/-- No ending is found where no letter follows. -/
theorem optionalOrdinal_of_isLetter (hs : ∀ c ∈ s.head?, isLetter c = false) :
    optionalOrdinal s = s := by
  cases s with
  | nil => rfl
  | cons c s =>
      have hc : isLetter c = false := hs c rfl
      have hne : ∀ l : Char, Words.isLower l = true → Words.letter c ≠ l := by
        rintro l hl rfl
        rw [Words.isLower, ← isLetter, hc] at hl
        cases hl
      have hword : Words.anyWord? ordinals (c :: s) = none := by
        simp [Words.anyWord?, ordinals, Words.word?, hne 's' (by decide), hne 'n' (by decide),
          hne 'r' (by decide), hne 't' (by decide)]
      rw [optionalOrdinal, hword]

/-- An ending in any case is taken, and nothing else. -/
theorem optionalOrdinal_append (hending : lower ending ∈ endings)
    (hs : ∀ c ∈ s.head?, isLetter c = false) : optionalOrdinal (ending ++ s) = s := by
  have hlower : optionalOrdinal (lower ending ++ lower s) = lower s := by
    have hs' : optionalOrdinal (lower s) = lower s := by
      rw [optionalOrdinal_lower, optionalOrdinal_of_isLetter hs]
    simp only [endings, List.mem_cons, List.not_mem_nil, or_false] at hending
    rcases hending with h | h | h | h | h <;> rw [h]
    · exact hs'
    · rfl
    · rfl
    · rfl
    · rfl
  -- what is left of the text in its own case is an end of it and has the length of `s`
  rw [← lower_append, optionalOrdinal_lower] at hlower
  obtain ⟨taken, htaken, -⟩ := takes_optionalOrdinal (ending ++ s)
  have hlength : s.length = (optionalOrdinal (ending ++ s)).length := by
    simpa [lower] using (congrArg List.length hlower).symm
  exact (List.append_inj_right' htaken hlength).symm

/-- The digits of a day end where an ending or something else starts. -/
theorem isAnyDigit_head?_ending (hending : lower ending ∈ endings)
    (hs : ∀ c ∈ s.head?, Decimal.isAnyDigit c = false) :
    ∀ c ∈ (ending ++ s).head?, Decimal.isAnyDigit c = false := by
  have hall : ∀ w ∈ endings, (w.head?.all fun l => !Decimal.isAnyDigit l) = true := by decide
  cases ending with
  | nil => exact hs
  | cons c ending =>
      rintro _ ⟨⟩
      rw [← isAnyDigit_toLower]
      simpa [lower] using hall _ hending

/-- After the day and its ending follows a comma or a blank. -/
theorem head?_comma (hcomma : comma = [] ∨ comma = [',']) (hgap : IsGap gap) (s : List Char) :
    ∀ c ∈ (comma ++ (gap ++ s)).head?, Decimal.isAnyDigit c = false ∧ isLetter c = false := by
  rcases hcomma with rfl | rfl
  · intro c hc
    have hblank := hgap.isBlank_head? s c hc
    exact ⟨isAnyDigit_of_isBlank hblank, isLetter_of_isBlank hblank⟩
  · rintro c ⟨⟩
    decide

theorem optionalComma_append (hcomma : comma = [] ∨ comma = [',']) (hgap : IsGap gap)
    (s : List Char) : (char? ',' (comma ++ (gap ++ s))).getD (comma ++ (gap ++ s)) = gap ++ s := by
  rcases hcomma with rfl | rfl
  · have hnone : char? ',' (gap ++ s) = none := by
      cases h : char? ',' (gap ++ s) with
      | none => rfl
      | some rest =>
          have hblank := hgap.isBlank_head? s ',' (by rw [eq_cons_of_char? h]; rfl)
          exact absurd hblank (by decide)
    rw [List.nil_append, hnone, Option.getD_none]
  · rfl

end

namespace Title.Spelling

variable {year month day : Nat}

/-- The number of the day is a numeral of one or two digits. -/
theorem exists_numeral (t : Spelling month day) (hday : day < 100) :
    ∃ zeros, t.digits = Decimal.numeral zeros day ∧ t.digits.length ≤ 2 := by
  rcases t.isDay with hdigits | hdigits
  · refine ⟨0, hdigits, ?_⟩
    rw [hdigits]
    exact (Nat.length_toDigits_le_iff (by decide) (by decide)).mpr hday
  · refine ⟨2 - (Decimal.writeNat day).length, hdigits, ?_⟩
    rw [hdigits]
    exact Nat.le_of_eq (Decimal.length_padded (by decide) hday)

/-- A title is read by its parts. -/
theorem ofText?_text (t : Spelling month day) (hday : day < 100) (hyear : year < 10000) :
    ofText? (t.text year) = some ⟨t.name, t.digits, Decimal.padded 4 year⟩ := by
  obtain ⟨-, hname, hletters⟩ := t.isMonthName.spec
  obtain ⟨zeros, hdigits, hlength⟩ := t.exists_numeral hday
  have hyears : (Decimal.padded 4 year).length = 4 := Decimal.length_padded (by decide) hyear
  have hne : t.digits ≠ [] := by
    rw [hdigits]
    exact Decimal.numeral_ne_nil zeros day
  have hall : ∀ c ∈ t.digits, Decimal.isDigit c = true := by
    rw [hdigits]
    exact fun c => Decimal.isDigit_of_mem_numeral
  have hall' : ∀ c ∈ Decimal.padded 4 year, Decimal.isDigit c = true :=
    fun c => Decimal.isDigit_of_mem_numeral
  -- the digits of both numbers start where the blanks end
  have hblank : ∀ s, ∀ c ∈ (t.digits ++ s).head?, isBlank c = false := by
    intro s c hc
    rw [List.head?_append_of_ne_nil t.digits hne] at hc
    exact isBlank_of_isDigit (hall c (List.mem_of_mem_head? hc))
  have hblank' : ∀ c ∈ (Decimal.padded 4 year).head?, isBlank c = false := fun c hc =>
    isBlank_of_isDigit (hall' c (List.mem_of_mem_head? hc))
  have htail := head?_comma t.isComma t.isGap' (Decimal.padded 4 year)
  obtain ⟨htake, hdrop⟩ := span_append hletters fun c hc => isLetter_of_isBlank <|
    t.isGap.isBlank_head? (t.digits ++ (t.ending ++ (t.comma ++ (t.gap' ++
      Decimal.padded 4 year)))) c hc
  have hread := Words.digits?_append hne (fun c hc => Decimal.isAnyDigit_of_isDigit (hall c hc))
    (isAnyDigit_head?_ending t.isEnding fun c hc => (htail c hc).1)
  have hread' := Words.digits?_append (s := []) (List.ne_nil_of_length_eq_add_one hyears)
    (fun c hc => Decimal.isAnyDigit_of_isDigit (hall' c hc)) (by rintro c ⟨⟩)
  have hending := optionalOrdinal_append t.isEnding fun c hc => (htail c hc).2
  rw [List.append_nil] at hread'
  rw [text, ofText?_eq, htake, hdrop, List.isEmpty_eq_false_iff.mpr hname,
    t.isGap.blanks?_append (hblank _)]
  simp only [Bool.false_eq_true, if_false, Option.bind_some, hread, hending,
    optionalComma_append t.isComma t.isGap', t.isGap'.blanks?_append hblank', hread']
  rw [if_neg (by omega), if_neg (by simp [hyears])]
  rfl

/-- The parts of a title have the numbers that they were written for. -/
theorem ofTitle_eq (t : Spelling month day) (hday : day < 100) (year : Nat) :
    DateReading.ofTitle ⟨t.name, t.digits, Decimal.padded 4 year⟩
      = ((Date.ofParts? year month day).map fun d => .ok (.midnight d)).getD
        (.error .dayOutOfRange) := by
  obtain ⟨hmonth, -⟩ := t.isMonthName.spec
  obtain ⟨zeros, hdigits, -⟩ := t.exists_numeral hday
  have hyear : Decimal.read? (Decimal.padded 4 year) = some year := Decimal.read?_numeral _ year
  rw [DateReading.ofTitle, hmonth, hdigits, Decimal.read?_numeral, hyear]
  dsimp only
  cases Date.ofParts? year month day <;> rfl

/-- A title starts with a letter and ends with a digit. -/
theorem trim_text (t : Spelling month day) (year : Nat) : trim (t.text year) = t.text year := by
  obtain ⟨-, hname, hletters⟩ := t.isMonthName.spec
  have hyear : Decimal.padded 4 year ≠ [] := Decimal.numeral_ne_nil _ year
  rw [text]
  refine trim_eq_self ?_ ?_
  · intro c hc
    rw [List.head?_append_of_ne_nil t.name hname] at hc
    exact isBlank_of_isLetter (hletters c (List.mem_of_mem_head? hc))
  · intro c hc
    simp only [← List.append_assoc] at hc
    rw [List.getLast?_append_of_ne_nil _ hyear] at hc
    exact isBlank_of_isDigit (Decimal.isDigit_of_mem_numeral (List.mem_of_getLast? hc))

end Title.Spelling

/-! ## Reading what was written -/

section

variable {p : Char → Bool} {year month day : Nat}

theorem forall_padded (hdigit : ∀ c, Decimal.isDigit c = true → p c = true) (width n : Nat) :
    ∀ c ∈ Decimal.padded width n, p c = true :=
  fun c hc => hdigit c (Decimal.isDigit_of_mem_numeral hc)

/-- What holds of all digits and of the hyphen holds of all characters of a date with hyphens. -/
theorem forall_dashed (hdigit : ∀ c, Decimal.isDigit c = true → p c = true)
    (hhyphen : p '-' = true) : ∀ c ∈ dashed year month day, p c = true := by
  have hnumber := forall_padded hdigit
  simp only [dashed, List.forall_mem_append, List.forall_mem_cons]
  exact ⟨hnumber 4 year, hhyphen, hnumber 2 month, hhyphen, hnumber 2 day⟩

theorem forall_slashed (hdigit : ∀ c, Decimal.isDigit c = true → p c = true)
    (hslash : p '/' = true) : ∀ c ∈ slashed year month day, p c = true := by
  have hnumber := forall_padded hdigit
  simp only [slashed, List.forall_mem_append, List.forall_mem_cons]
  exact ⟨hnumber 2 month, hslash, hnumber 2 day, hslash, hnumber 4 year⟩

theorem forall_timestamp (hdigit : ∀ c, Decimal.isDigit c = true → p c = true)
    (hmarks : ['-', 'T', ':', 'Z', '+'].all p = true) (t : Clock) (z : Zone) :
    ∀ c ∈ timestamp year month day t z, p c = true := by
  have hnumber := forall_padded hdigit
  simp only [List.all_cons, List.all_nil, Bool.and_true, Bool.and_eq_true] at hmarks
  obtain ⟨hhyphen, hmark, hcolon, huniversal, hplus⟩ := hmarks
  have hzone : ∀ c ∈ z.written, p c = true := by
    cases z with
    | universal =>
        intro c hc
        rwa [List.mem_singleton.mp hc]
    | apart ahead hour minute =>
        simp only [Zone.written, List.forall_mem_append, List.forall_mem_cons]
        refine ⟨?_, hnumber 2 hour, hcolon, hnumber 2 minute⟩
        cases ahead with
        | false => exact hhyphen
        | true => exact hplus
  simp only [timestamp, Clock.written, List.forall_mem_append, List.forall_mem_cons]
  exact ⟨forall_dashed hdigit hhyphen, hmark,
    ⟨hnumber 2 t.hour, hcolon, hnumber 2 t.minute, hcolon, hnumber 2 t.second⟩, hzone⟩

theorem ofMarks_dashed : DateForm.ofMarks (dashed year month day) = .yearFirst := by
  have hne : ∀ c ∈ dashed year month day, (c != '/' && c != ':') = true :=
    forall_dashed (fun _ => Decimal.forall_isDigit (p := fun c => (c != '/' && c != ':') = true)
      (by decide)) (by decide)
  have hslash : '/' ∉ dashed year month day := fun h => absurd (hne _ h) (by decide)
  have hcolon : ':' ∉ dashed year month day := fun h => absurd (hne _ h) (by decide)
  rw [DateForm.ofMarks, if_neg hslash, if_neg hcolon, if_pos (by simp [dashed])]

theorem ofMarks_slashed : DateForm.ofMarks (slashed year month day) = .monthFirst := by
  rw [DateForm.ofMarks, if_pos (by simp [slashed])]

theorem ofMarks_timestamp (t : Clock) (z : Zone) :
    DateForm.ofMarks (timestamp year month day t z) = .timestamp := by
  have hne : ∀ c ∈ timestamp year month day t z, (c != '/') = true :=
    forall_timestamp (fun _ => Decimal.forall_isDigit (p := fun c => (c != '/') = true)
      (by decide)) (by decide) t z
  have hslash : '/' ∉ timestamp year month day t z := fun h => absurd (hne _ h) (by decide)
  have hcolon : ':' ∈ timestamp year month day t z := by simp [timestamp, Clock.written]
  rw [DateForm.ofMarks, if_neg hslash, if_pos hcolon]

/-! ## Blanks at the ends of what is written -/

theorem not_isBlank_of_isDigit (c : Char) (h : Decimal.isDigit c = true) :
    (!isBlank c) = true := by
  rw [isBlank_of_isDigit h, Bool.not_false]

theorem trim_timestamp (t : Clock) (z : Zone) :
    trim (timestamp year month day t z) = timestamp year month day t z :=
  trim_eq_self_of_forall (forall_timestamp not_isBlank_of_isDigit (by decide) t z)

end

namespace Written

variable {year month day : Nat} {s : List Char}

/-- A date is written without blanks around it. -/
theorem trim_eq (h : Written year month day s) : trim s = s := by
  cases h with
  | yearFirst =>
      exact trim_eq_self_of_forall (forall_dashed not_isBlank_of_isDigit (by decide))
  | monthFirst =>
      exact trim_eq_self_of_forall (forall_slashed not_isBlank_of_isDigit (by decide))
  | timestamp => exact trim_timestamp .midnight .universal
  | title t => exact t.trim_text year

/-- Whatever the way is in which a date is written, it is read as the start of the date with its
parts. -/
theorem ofTrimmed_eq (h : Written year month day s) (hyear : year < 10000) (hmonth : month < 100)
    (hday : day < 100) (now : Instant) : ∃ p : DateProblem, DateReading.ofTrimmed now s
      = ((Date.ofParts? year month day).map fun d => .ok (.midnight d)).getD (.error p) := by
  rw [DateForm.ofTrimmed_eq_ofMarks]
  cases h with
  | yearFirst =>
      refine ⟨.unrecognized, ?_⟩
      rw [ofMarks_dashed, DateForm.read?, yearFirst?_dashed hyear hmonth hday]
  | monthFirst =>
      refine ⟨.unrecognized, ?_⟩
      rw [ofMarks_slashed, DateForm.read?, monthFirst?_slashed hyear hmonth hday]
  | timestamp =>
      refine ⟨.unrecognized, ?_⟩
      rw [ofMarks_timestamp, DateForm.read?, timestamp?_timestamp hyear hmonth hday]
      cases Date.ofParts? year month day with
      | none => rfl
      | some d => simp [Instant.midnight, Clock.seconds, Clock.midnight, Zone.seconds]
  | title t =>
      refine ⟨.dayOutOfRange, ?_⟩
      have hread := t.ofText?_text hday hyear
      rw [DateForm.ofMarks_title hread, DateForm.read?, hread, Option.map_some, Option.getD_some,
        t.ofTitle_eq hday]

end Written

end Notation

/-! ## Instants by their notations -/

namespace Instant

/-- The point in time is the first moment of a date, counted in days of 86400 seconds since the
start of 1970. -/
def IsMidnightOf (t : Instant) (d : Date) : Prop :=
  ∃ n : Int, d.IsDaysAfter ⟨1970, 1, 1⟩ n ∧ t = ⟨86400 * n, 0⟩

theorem isMidnightOf_midnight {d : Date} (h : d.InCalendar) : (midnight d).IsMidnightOf d := by
  have hseconds : (midnight d).seconds = 86400 * d.toDays := Int.mul_comm d.toDays 86400
  exact ⟨d.toDays, h.isDaysAfter_epoch, by rw [← hseconds]; rfl⟩

/-- The point in time a number of seconds later, or earlier if the number is negative. -/
def later (t : Instant) (n : Int) : Instant :=
  ⟨t.seconds + n, t.nanos⟩

end Instant

section

variable {year month day : Nat}

/-- A timestamp of a day of the calendar stands for the start of the day plus its time of day minus
its distance from universal time. -/
theorem DateReading.ofTrimmed_timestamp (hyear : year < 10000) (hmonth : month < 100)
    (hday : day < 100) (h : Date.InCalendar ⟨year, month, day⟩) (t : Notation.Clock)
    (z : Notation.Zone) (now : Instant) :
    ofTrimmed now (Notation.timestamp year month day t z)
      = .ok ((Instant.midnight ⟨year, month, day⟩).later (t.seconds - z.seconds)) := by
  let d : Date := ⟨year, month, day⟩
  calc ofTrimmed now (Notation.timestamp year month day t z)
      = ((Notation.timestamp? (Notation.timestamp year month day t z)).map .ok).getD
          (.error .unrecognized) := by
        rw [DateForm.ofTrimmed_eq_ofMarks, Notation.ofMarks_timestamp]
        rfl
    _ = .ok ⟨d.toDays * Instant.secondsPerDay + t.seconds - z.seconds, 0⟩ := by
        rw [Notation.timestamp?_timestamp hyear hmonth hday, Date.ofParts?_of_inCalendar hyear h]
        rfl
    _ = .ok ((Instant.midnight d).later (t.seconds - z.seconds)) := by
        rw [Instant.later, Instant.midnight, Int.add_sub_assoc]

end

namespace Services

variable {year month day : Nat}

/-- A text without blanks around it is read as it is. -/
theorem readDateFrom_of_trim_eq {text : String} (htrim : trim text.toList = text.toList)
    (now : Instant) : readDateFrom now text
      = (DateReading.ofTrimmed now text.toList).mapError fun p =>
          .unreadableDate text p.message := by
  rw [readDateFrom, Instant.ofText, trimmed, htrim]

/-- All ways to write a date by itself are read as the start of the date, whatever the reference. A
timestamp is read as the start of its date plus its time of day minus its distance from universal
time. A day that does not exist is refused however it is written. -/
theorem readDateFrom_notations (hyear : year < 10000) (hmonth : month < 100) (hday : day < 100) :
    (Date.InCalendar ⟨year, month, day⟩ →
      ∃ midnight : Instant, midnight.IsMidnightOf ⟨year, month, day⟩ ∧
        ∀ now : Instant,
          (∀ text : String, Notation.Written year month day text.toList →
            readDateFrom now text = .ok midnight) ∧
          ∀ (t : Notation.Clock) (z : Notation.Zone),
            readDateFrom now (String.ofList (Notation.timestamp year month day t z))
              = .ok (midnight.later (t.seconds - z.seconds))) ∧
    (¬ Date.InCalendar ⟨year, month, day⟩ →
      ∀ (now : Instant) (text : String), Notation.Written year month day text.toList →
        ∃ p : DateProblem, readDateFrom now text = .error (.unreadableDate text p.message)) := by
  constructor
  · intro h
    refine ⟨.midnight ⟨year, month, day⟩, Instant.isMidnightOf_midnight h, fun now => ⟨?_, ?_⟩⟩
    · intro text hwritten
      obtain ⟨p, hread⟩ := hwritten.ofTrimmed_eq hyear hmonth hday now
      rw [readDateFrom_of_trim_eq hwritten.trim_eq, hread, Date.ofParts?_of_inCalendar hyear h]
      rfl
    · intro t z
      rw [readDateFrom_of_trim_eq (by rw [String.toList_ofList, Notation.trim_timestamp]),
        String.toList_ofList, DateReading.ofTrimmed_timestamp hyear hmonth hday h]
      rfl
  · intro h now text hwritten
    obtain ⟨p, hread⟩ := hwritten.ofTrimmed_eq hyear hmonth hday now
    refine ⟨p, ?_⟩
    rw [readDateFrom_of_trim_eq hwritten.trim_eq, hread, Date.ofParts?_of_not_inCalendar h]
    rfl

/-- The last day of February has a name in a leap year only. -/
theorem readDateFrom_notations_leapDay :
    (∃ midnight : Instant, midnight.IsMidnightOf ⟨2024, 2, 29⟩ ∧
      readDateFrom ⟨0, 0⟩ "fEB \u3000 29TH 2024" = .ok midnight ∧
      readDateFrom ⟨0, 0⟩ "2024-02-29T23:59:59-23:59" = .ok (midnight.later 172739)) ∧
    ∃ p : DateProblem, readDateFrom ⟨0, 0⟩ "02/29/2023"
      = .error (.unreadableDate "02/29/2023" p.message) := by
  let title : Notation.Title.Spelling 2 29 :=
    ⟨"fEB".toList, " \u3000 ".toList, "29".toList, "TH".toList, [], " ".toList,
      ⟨⟨1, by decide⟩, rfl, .inr (by decide)⟩, ⟨by decide, List.all_eq_true.mp (by decide)⟩,
      .inl (by decide), by decide, .inl rfl, ⟨by decide, List.all_eq_true.mp (by decide)⟩⟩
  have hleap : Date.InCalendar ⟨2024, 2, 29⟩ := ⟨by decide, by decide⟩
  have hcommon : ¬ Date.InCalendar ⟨2023, 2, 29⟩ := fun h => absurd h.day_le (by decide)
  obtain ⟨midnight, hmidnight, hread⟩ :=
    (readDateFrom_notations (by decide) (by decide) (by decide)).1 hleap
  exact ⟨⟨midnight, hmidnight, (hread ⟨0, 0⟩).1 _ (.title title),
    (hread ⟨0, 0⟩).2 ⟨23, 59, 59⟩ (.apart false 23 59)⟩,
    (readDateFrom_notations (by decide) (by decide) (by decide)).2 hcommon ⟨0, 0⟩ _ .monthFirst⟩

end Services

end ConditionQuery
