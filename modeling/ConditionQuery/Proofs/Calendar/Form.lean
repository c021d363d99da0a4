import ConditionQuery.Proofs.Calendar.Scanner
import ConditionQuery.Proofs.Text.Decimal
import ConditionQuery.Services.Basic

set_option autoImplicit false

/-! # The forms of a date

A text that stands for an instant is in one of seven forms (`DateForm`), which are tried in a fixed
order. No text is in two of them, and a look at its marks tells which one it can be in (`ofMarks`):
a slash, a colon or a hyphen stands in the three forms in numbers only, and a text of words is told
by its blanks, its first and its last character. The characters that a text in a form can have come
from the scanners of its reader, added up (`Takes`). The order of trying does therefore not matter
(`readFirst_perm`), and a form whose reading is a problem does not keep a text from another one.
-/

namespace ConditionQuery

open Text

/-- The forms of a text that stands for an instant, in the order in which they are tried. -/
inductive DateForm where
  | keyword
  | ago
  | ahead
  | timestamp
  | yearFirst
  | monthFirst
  | title
deriving DecidableEq, Repr

namespace DateForm

def all : List DateForm :=
  [.keyword, .ago, .ahead, .timestamp, .yearFirst, .monthFirst, .title]

/-- The reading of a text that is in a form; the reading may be a problem. -/
def read? (now : Instant) (s : List Char) : DateForm → Option (Except DateProblem Instant)
  | .keyword => (DateKeyword.ofText? s).map (DateReading.ofKeyword now)
  | .ago => (Distance.ago? s).map (DateReading.ofDistance now (-1))
  | .ahead => (Distance.ahead? s).map (DateReading.ofDistance now 1)
  | .timestamp => (Notation.timestamp? s).map .ok
  | .yearFirst => (Notation.yearFirst? s).map fun d => .ok (.midnight d)
  | .monthFirst => (Notation.monthFirst? s).map fun d => .ok (.midnight d)
  | .title => (Notation.Title.ofText? s).map DateReading.ofTitle

/-- The reading of a text if the given forms are tried one after the other and the first that the
text is in decides. -/
def readFirst (now : Instant) (forms : List DateForm) (s : List Char) :
    Except DateProblem Instant :=
  (forms.findSome? (read? now s)).getD (.error .unrecognized)

theorem ofTrimmed_eq (now : Instant) (s : List Char) :
    DateReading.ofTrimmed now s = readFirst now all s := by
  unfold DateReading.ofTrimmed DateReading.ofNotation readFirst all
  simp only [List.findSome?_cons, List.findSome?_nil, read?]
  cases DateKeyword.ofText? s with
  | some k => rfl
  | none =>
  cases Distance.ago? s with
  | some p => rfl
  | none =>
  cases Distance.ahead? s with
  | some p => rfl
  | none =>
  cases Notation.timestamp? s with
  | some t => rfl
  | none =>
  cases Notation.yearFirst? s with
  | some d => rfl
  | none =>
  cases Notation.monthFirst? s with
  | some d => rfl
  | none =>
  cases Notation.Title.ofText? s with
  | some t => rfl
  | none => rfl

/-! ## What tells the forms apart -/

/-- A digit of any script, a blank, a letter or the comma. -/
def isWordChar (c : Char) : Bool :=
  Decimal.isAnyDigit c || isBlank c || Notation.isLetter c || c == ','

/-- The form that a text of words can be in: a single word is a keyword, a title ends with a digit,
and a distance that starts with one lies in the past. -/
def ofWords (s : List Char) : DateForm :=
  if s.all fun c => !isBlank c then .keyword
  else if s.getLast?.any Decimal.isAnyDigit then .title
  else if s.head?.any Decimal.isAnyDigit then .ago
  else .ahead

/-- The form that a text can be in, by the marks in it. -/
def ofMarks (s : List Char) : DateForm :=
  if '/' ∈ s then .monthFirst
  else if ':' ∈ s then .timestamp
  else if '-' ∈ s then .yearFirst
  else ofWords s

theorem ofMarks_words {s : List Char} (h : Takes isWordChar s []) : ofMarks s = ofWords s := by
  rw [ofMarks, if_neg (h.not_mem (by decide)), if_neg (h.not_mem (by decide)),
    if_neg (h.not_mem (by decide))]

theorem isWordChar_of_isAnyDigit (c : Char) (h : Decimal.isAnyDigit c = true) :
    isWordChar c = true := by
  simp [isWordChar, h]

theorem isWordChar_of_isBlank (c : Char) (h : isBlank c = true) : isWordChar c = true := by
  simp [isWordChar, h]

theorem isWordChar_of_isLetter (c : Char) (h : Notation.isLetter c = true) :
    isWordChar c = true := by
  simp [isWordChar, h]

/-- A text ends as what is left of it, if that is taken up to the end. -/
theorem exists_getLast? {p q : Char → Bool} {s t : List Char} (hs : Takes q s t)
    (ht : Takes p t []) (hne : t ≠ []) : ∃ c, s.getLast? = some c ∧ p c = true := by
  refine ⟨t.getLast hne, ?_, ht.all (List.getLast_mem hne)⟩
  rw [hs.getLast?_eq hne, List.getLast?_eq_getLast_of_ne_nil hne]

/-- Only a text without blanks is a single word. -/
theorem ofWords_of_isBlank {s : List Char} (h : ∃ c ∈ s, isBlank c = true) : ofWords s =
    if s.getLast?.any Decimal.isAnyDigit then .title
    else if s.head?.any Decimal.isAnyDigit then .ago else .ahead := by
  obtain ⟨c, hc, hblank⟩ := h
  rw [ofWords, if_neg]
  intro hall
  have hnone := List.all_eq_true.mp hall c hc
  simp [hblank] at hnone

variable {s : List Char}

/-- Keywords are made of letters. -/
theorem isLetter_of_keyword {k : DateKeyword} (h : DateKeyword.ofText? s = some k) :
    ∀ c ∈ s, Notation.isLetter c = true := by
  have hword : ∀ w : List Char, w.all Words.isLower = true →
      s.map Char.toLower = w → ∀ c ∈ s, Notation.isLetter c = true := by
    rintro w hw rfl c hc
    exact Notation.isLetter_of_toLower (List.all_eq_true.mp hw c.toLower (List.mem_map_of_mem hc))
  unfold DateKeyword.ofText? at h
  dsimp only at h
  split at h
  · next hw => exact hword _ (by decide) hw
  · split at h
    · next hw => exact hword _ (by decide) hw
    · split at h
      · next hw => exact hword _ (by decide) hw
      · split at h
        · next hw => exact hword _ (by decide) hw
        · cases h

theorem ofMarks_keyword {k : DateKeyword} (h : DateKeyword.ofText? s = some k) :
    ofMarks s = .keyword := by
  have hletters := isLetter_of_keyword h
  have hwords : Takes isWordChar s [] :=
    ⟨s, (List.append_nil s).symm, fun c hc => isWordChar_of_isLetter c (hletters c hc)⟩
  rw [ofMarks_words hwords, ofWords, if_pos]
  rw [List.all_eq_true]
  intro c hc
  rw [Notation.isBlank_of_isLetter (hletters c hc)]
  rfl

theorem ofMarks_ago {p : Distance} (h : Distance.ago? s = some p) : ofMarks s = .ago := by
  simp only [Distance.ago?, Option.bind_eq_bind, Option.bind_eq_some_iff] at h
  obtain ⟨⟨amount, s1⟩, hamount, s2, hblanks, ⟨unit, s3⟩, hunit, s4, hblanks', s5, hago, hend⟩ := h
  dsimp only at hblanks hunit hend
  obtain ⟨-, rfl⟩ := Words.eq_nil_of_atEnd? hend
  have hdigits : Takes isWordChar s s1 :=
    (Words.takes_digits? hamount).mono isWordChar_of_isAnyDigit
  have hunits : Takes isWordChar s1 s4 :=
    ((Words.takes_blanks? hblanks).1.mono isWordChar_of_isBlank).trans <|
    ((DateUnit.takes_take? hunit).mono isWordChar_of_isLetter).trans <|
    (Words.takes_blanks? hblanks').1.mono isWordChar_of_isBlank
  have hword : Takes Notation.isLetter s4 [] := Words.takes_word? (by decide) hago
  have hne : s4 ≠ [] := by
    rintro rfl
    cases hago
  obtain ⟨c, hc, hblank⟩ := (Words.takes_blanks? hblanks).2
  rw [ofMarks_words ((hdigits.trans hunits).trans (hword.mono isWordChar_of_isLetter)),
    ofWords_of_isBlank ⟨c, hdigits.mem hc, hblank⟩]
  -- the text starts with the number and ends with a word
  obtain ⟨last, hlast, hletter⟩ := exists_getLast? (hdigits.trans hunits) hword hne
  obtain ⟨rfl, hamount, hall⟩ := Words.eq_append_of_digits? hamount
  obtain ⟨d, ds, rfl⟩ := List.exists_cons_of_ne_nil hamount
  have hd := hall d List.mem_cons_self
  rw [hlast]
  simp [Notation.isAnyDigit_of_isLetter hletter, hd]

theorem ofMarks_ahead {p : Distance} (h : Distance.ahead? s = some p) : ofMarks s = .ahead := by
  simp only [Distance.ahead?, Option.bind_eq_bind, Option.bind_eq_some_iff] at h
  obtain ⟨s1, hin, s2, hblanks, ⟨amount, s3⟩, hamount, s4, hblanks', ⟨unit, s5⟩, hunit, hend⟩ := h
  dsimp only at hblanks' hend
  obtain ⟨-, rfl⟩ := Words.eq_nil_of_atEnd? hend
  have hword : Takes isWordChar s s1 :=
    (Words.takes_word? (by decide) hin).mono isWordChar_of_isLetter
  have hdigits : Takes isWordChar s1 s4 :=
    ((Words.takes_blanks? hblanks).1.mono isWordChar_of_isBlank).trans <|
    ((Words.takes_digits? hamount).mono isWordChar_of_isAnyDigit).trans <|
    (Words.takes_blanks? hblanks').1.mono isWordChar_of_isBlank
  have hunits : Takes Notation.isLetter s4 [] := DateUnit.takes_take? hunit
  have hne : s4 ≠ [] := by
    rintro rfl
    cases hunit
  obtain ⟨c, hc, hblank⟩ := (Words.takes_blanks? hblanks).2
  rw [ofMarks_words ((hword.trans hdigits).trans (hunits.mono isWordChar_of_isLetter)),
    ofWords_of_isBlank ⟨c, hword.mem hc, hblank⟩]
  -- the text starts and ends with a word
  obtain ⟨last, hlast, hletter⟩ := exists_getLast? (hword.trans hdigits) hunits hne
  obtain ⟨d, t, rfl, hd⟩ := Words.exists_letter_of_word? (by decide) hin
  rw [hlast]
  simp [Notation.isAnyDigit_of_isLetter hletter, Notation.isAnyDigit_of_isLetter hd]

theorem ofMarks_title {t : Notation.Title} (h : Notation.Title.ofText? s = some t) :
    ofMarks s = .title := by
  rw [Notation.Title.ofText?_eq] at h
  split at h
  · cases h
  · simp only [Option.bind_eq_some_iff] at h
    obtain ⟨s1, hblanks, ⟨day, s2⟩, hday, h⟩ := h
    dsimp only at h
    split at h
    · cases h
    · simp only [Option.bind_eq_some_iff] at h
      obtain ⟨s3, hblanks', ⟨year, s4⟩, hyear, h⟩ := h
      dsimp only at h
      split at h
      · cases h
      · obtain ⟨-, rfl⟩ := Words.eq_nil_of_atEnd? h
        have hmonth : Takes isWordChar s (s.dropWhile Notation.isLetter) :=
          (takes_dropWhile Notation.isLetter s).mono isWordChar_of_isLetter
        have hdays : Takes isWordChar (s.dropWhile Notation.isLetter) s2 :=
          ((Words.takes_blanks? hblanks).1.mono isWordChar_of_isBlank).trans <|
          (Words.takes_digits? hday).mono isWordChar_of_isAnyDigit
        have hordinal : Takes isWordChar s2 s3 :=
          ((Notation.takes_optionalOrdinal s2).mono isWordChar_of_isLetter).trans <|
          (Notation.takes_optionalChar (by decide) _).trans <|
          (Words.takes_blanks? hblanks').1.mono isWordChar_of_isBlank
        have hyears : Takes Decimal.isAnyDigit s3 [] := Words.takes_digits? hyear
        have hne : s3 ≠ [] := by
          rintro rfl
          cases hyear
        obtain ⟨c, hc, hblank⟩ := (Words.takes_blanks? hblanks).2
        have hbefore : Takes isWordChar s s3 := (hmonth.trans hdays).trans hordinal
        rw [ofMarks_words (hbefore.trans (hyears.mono isWordChar_of_isAnyDigit)),
          ofWords_of_isBlank ⟨c, hmonth.mem hc, hblank⟩]
        obtain ⟨last, hlast, hdigit⟩ := exists_getLast? hbefore hyears hne
        rw [hlast]
        simp [hdigit]

theorem ofMarks_timestamp {t : Instant} (h : Notation.timestamp? s = some t) :
    ofMarks s = .timestamp := by
  simp only [Notation.timestamp?, Option.bind_eq_bind, Option.bind_eq_some_iff] at h
  obtain ⟨⟨year, s1⟩, hyear, s2, hhyphen, ⟨month, s3⟩, hmonth, s4, hhyphen', ⟨day, s5⟩, hday, s6,
    hmark, ⟨⟨seconds, nanos⟩, s7⟩, htime, ⟨offset, s8⟩, hoffset, d, -, hend⟩ := h
  dsimp only at hhyphen hmonth hhyphen' hday hmark htime hoffset hend
  obtain ⟨-, rfl⟩ := Words.eq_nil_of_atEnd? hend
  have hdate : Takes Notation.isTimeChar s s6 :=
    (Notation.takes_time_fixed? hyear).trans <| (Notation.takes_char? (by decide) hhyphen).trans <|
    (Notation.takes_time_fixed? hmonth).trans <|
    (Notation.takes_char? (by decide) hhyphen').trans <|
    (Notation.takes_time_fixed? hday).trans (Notation.takes_timeMark? hmark)
  obtain ⟨htimes, hcolon⟩ := Notation.takes_timeOfDay? htime
  have hall : Takes Notation.isTimeChar s [] :=
    hdate.trans (htimes.trans (Notation.takes_offset? hoffset))
  rw [ofMarks, if_neg (hall.not_mem (by decide)), if_pos (hdate.mem hcolon)]

theorem ofMarks_yearFirst {d : Date} (h : Notation.yearFirst? s = some d) :
    ofMarks s = .yearFirst := by
  simp only [Notation.yearFirst?, Option.bind_eq_bind, Option.bind_eq_some_iff] at h
  obtain ⟨⟨year, s1⟩, hyear, s2, hhyphen, ⟨month, s3⟩, hmonth, s4, hhyphen', ⟨day, s5⟩, hday, e,
    -, hend⟩ := h
  dsimp only at hhyphen hmonth hhyphen' hday hend
  obtain ⟨-, rfl⟩ := Words.eq_nil_of_atEnd? hend
  have hyears : Takes Notation.isYearChar s s1 := Notation.takes_year? hyear
  have hparts : Takes Notation.isYearChar s1 [] :=
    (Notation.takes_char? (by decide) hhyphen).trans <|
    ((Notation.takes_part? hmonth).mono Notation.isYearChar_of_isPartChar).trans <|
    (Notation.takes_char? (by decide) hhyphen').trans <|
    (Notation.takes_part? hday).mono Notation.isYearChar_of_isPartChar
  have hall : Takes Notation.isYearChar s [] := hyears.trans hparts
  have hmem : '-' ∈ s := hyears.mem (by
    rw [Notation.eq_cons_of_char? hhyphen]
    exact List.mem_cons_self)
  rw [ofMarks, if_neg (hall.not_mem (by decide)), if_neg (hall.not_mem (by decide)), if_pos hmem]

theorem ofMarks_monthFirst {d : Date} (h : Notation.monthFirst? s = some d) :
    ofMarks s = .monthFirst := by
  simp only [Notation.monthFirst?, Option.bind_eq_bind, Option.bind_eq_some_iff] at h
  obtain ⟨⟨month, s1⟩, hmonth, s2, hslash, -⟩ := h
  dsimp only at hslash
  have hmem : '/' ∈ s := (Notation.takes_part? hmonth).mem (by
    rw [Notation.eq_cons_of_char? hslash]
    exact List.mem_cons_self)
  rw [ofMarks, if_pos hmem]

/-- A text is in no other form than the one that its marks tell. -/
theorem eq_ofMarks_of_read? {now : Instant} {f : DateForm} {o : Except DateProblem Instant}
    (h : f.read? now s = some o) : f = ofMarks s := by
  cases f with
  | keyword =>
      obtain ⟨k, hk, -⟩ := Option.map_eq_some_iff.mp h
      exact (ofMarks_keyword hk).symm
  | ago =>
      obtain ⟨p, hp, -⟩ := Option.map_eq_some_iff.mp h
      exact (ofMarks_ago hp).symm
  | ahead =>
      obtain ⟨p, hp, -⟩ := Option.map_eq_some_iff.mp h
      exact (ofMarks_ahead hp).symm
  | timestamp =>
      obtain ⟨t, ht, -⟩ := Option.map_eq_some_iff.mp h
      exact (ofMarks_timestamp ht).symm
  | yearFirst =>
      obtain ⟨d, hd, -⟩ := Option.map_eq_some_iff.mp h
      exact (ofMarks_yearFirst hd).symm
  | monthFirst =>
      obtain ⟨d, hd, -⟩ := Option.map_eq_some_iff.mp h
      exact (ofMarks_monthFirst hd).symm
  | title =>
      obtain ⟨t, ht, -⟩ := Option.map_eq_some_iff.mp h
      exact (ofMarks_title ht).symm

/-! ## The order of trying -/

variable {now : Instant} {f g : DateForm} {o : Except DateProblem Instant} {forms : List DateForm}

/-- The forms other than the one that a text is in refuse it. -/
theorem read?_eq_none (h : f.read? now s = some o) (hg : g ≠ f) : g.read? now s = none := by
  cases hread : g.read? now s with
  | none => rfl
  | some o' =>
      exact absurd ((eq_ofMarks_of_read? hread).trans (eq_ofMarks_of_read? h).symm) hg

/-- The form that a text is in decides wherever it is tried. -/
theorem readFirst_eq (h : f.read? now s = some o) (hf : f ∈ forms) :
    readFirst now forms s = o := by
  have hfirst : forms.findSome? (read? now s) = some o := by
    induction forms with
    | nil => exact absurd hf List.not_mem_nil
    | cons g forms ih =>
        rw [List.findSome?_cons]
        by_cases hg : g = f
        · rw [hg, h]
        · rw [read?_eq_none h hg]
          exact ih ((List.mem_cons.mp hf).resolve_left (Ne.symm hg))
  rw [readFirst, hfirst, Option.getD_some]

theorem mem_all (f : DateForm) : f ∈ all := by
  cases f <;> decide

/-- Only the form that the marks of a text tell has a say, whatever others are tried before it. -/
theorem readFirst_eq_ofMarks (hmarks : ofMarks s ∈ forms) (now : Instant) :
    readFirst now forms s = ((ofMarks s).read? now s).getD (.error .unrecognized) := by
  cases h : (ofMarks s).read? now s with
  | some o => exact readFirst_eq h hmarks
  | none =>
      have hnone : ∀ f ∈ forms, f.read? now s = none := by
        intro f _
        cases hf : f.read? now s with
        | none => rfl
        | some o =>
            rw [eq_ofMarks_of_read? hf, h] at hf
            cases hf
      rw [readFirst, List.findSome?_eq_none_iff.mpr hnone]

theorem ofTrimmed_eq_ofMarks (now : Instant) (s : List Char) :
    DateReading.ofTrimmed now s = ((ofMarks s).read? now s).getD (.error .unrecognized) := by
  rw [ofTrimmed_eq, readFirst_eq_ofMarks (mem_all _)]

/-- A text is read alike whatever the order is in which all forms are tried. -/
theorem readFirst_perm (hforms : forms.Perm all) (now : Instant) (s : List Char) :
    readFirst now forms s = DateReading.ofTrimmed now s := by
  rw [ofTrimmed_eq_ofMarks, readFirst_eq_ofMarks (hforms.mem_iff.mpr (mem_all _))]

end DateForm

namespace Services

/-- Dates read by trying the given forms one after the other. -/
def readDateTrying (forms : List DateForm) (now : Instant) (text : String) :
    Except ServiceError Instant :=
  (DateForm.readFirst now forms (trimmed text)).mapError fun p => .unreadableDate text p.message

/-- At most one form takes a text, so the order of trying does not matter, and what the form of a
text makes of it, a problem too, is the answer while every other form refuses the text. -/
theorem readDateFrom_anyOrder (now : Instant) (text : String) :
    (∀ f g : DateForm, (f.read? now (trimmed text)).isSome → (g.read? now (trimmed text)).isSome →
      f = g) ∧
    (∀ forms : List DateForm, forms.Perm DateForm.all →
      readDateTrying forms now text = readDateFrom now text) ∧
    ∀ (f : DateForm) (o : Except DateProblem Instant), f.read? now (trimmed text) = some o →
      readDateFrom now text = o.mapError (fun p => .unreadableDate text p.message) ∧
        ∀ g : DateForm, g ≠ f → g.read? now (trimmed text) = none := by
  refine ⟨?_, ?_, ?_⟩
  · intro f g hf hg
    obtain ⟨o, ho⟩ := Option.isSome_iff_exists.mp hf
    obtain ⟨o', ho'⟩ := Option.isSome_iff_exists.mp hg
    rw [DateForm.eq_ofMarks_of_read? ho, DateForm.eq_ofMarks_of_read? ho']
  · intro forms hforms
    rw [readDateTrying, DateForm.readFirst_perm hforms]
    rfl
  · intro f o h
    refine ⟨?_, fun g hg => DateForm.read?_eq_none h hg⟩
    rw [readDateFrom, Instant.ofText, DateForm.ofTrimmed_eq,
      DateForm.readFirst_eq h (DateForm.mem_all f)]

/-- A number that fits no word is a problem of its distance, and no title is missed by it. -/
theorem readDateFrom_anyOrder_problem :
    readDateTrying DateForm.all.reverse (.midnight ⟨2024, 3, 31⟩)
        "in 9223372036854775808 days"
      = .error (.unreadableDate "in 9223372036854775808 days" "amount out of range") ∧
    DateForm.title.read? (.midnight ⟨2024, 3, 31⟩) (trimmed "in 9223372036854775808 days")
      = none := by
  let now : Instant := .midnight ⟨2024, 3, 31⟩
  have hread : DateForm.ahead.read? now (trimmed "in 9223372036854775808 days")
      = some (.error .amountOutOfRange) := rfl
  obtain ⟨-, horder, honly⟩ := readDateFrom_anyOrder now "in 9223372036854775808 days"
  obtain ⟨hproblem, hnone⟩ := honly .ahead _ hread
  exact ⟨(horder _ (List.reverse_perm _)).trans hproblem, hnone .title (by decide)⟩

end Services
end ConditionQuery
