import ConditionQuery.Proofs.Calendar.Scanner
import ConditionQuery.Proofs.Text.Blank
import ConditionQuery.Proofs.Text.Case
import ConditionQuery.Services.Basic
import Mathlib.Logic.Relation

set_option autoImplicit false

/-! # The spelling of dates

Lowering the case of a text does not change what a scanner finds in it: the scanner takes the same
number of characters and leaves the rest in lower case (`LowersBy`). The readers are scanners one
after the other, so they follow by `LowersBy.bind`, and a text and its lower case stand for the same
instant (`DateReading.ofTrimmed_lower`). Texts that differ in letter case and in the blanks around
them are therefore read alike (`Services.readDateFrom_respelled`).
-/

namespace ConditionQuery

open Text

section

variable {β γ : Type}

/-- A scanner finds the same in a text in lower case, up to a change of what it returns. -/
def LowersBy (g : β → β) (f : List Char → Option β) : Prop :=
  ∀ s, f (lower s) = (f s).map g

/-- What follows a scanner may look at what it returns. -/
theorem LowersBy.bind {f : List Char → Option β} {g : β → β} {k k' : β → Option γ} {h : γ → γ}
    (hf : LowersBy g f) (hk : ∀ b, k' (g b) = (k b).map h) (s : List Char) :
    (f (lower s)).bind k' = ((f s).bind k).map h := by
  rw [hf s]
  cases f s with
  | none => rfl
  | some b => exact hk b

end

namespace Words

theorem word?_lower (w : List Char) : LowersBy lower (word? w) := by
  intro s
  induction w generalizing s with
  | nil => rfl
  | cons l w ih =>
      cases s with
      | nil => rfl
      | cons c s =>
          show word? (l :: w) (c.toLower :: lower s) = _
          rw [word?, word?, letter_toLower, ih]
          split <;> rfl

theorem anyWord?_lower {α : Type} (words : List (List Char × α)) :
    LowersBy (Prod.map id lower) (anyWord? words) := by
  intro s
  induction words with
  | nil => rfl
  | cons first words ih =>
      have hfirst := word?_lower first.1 s
      simp only [anyWord?, List.findSome?_cons, hfirst] at ih ⊢
      cases word? first.1 s with
      | none => exact ih
      | some rest => rfl

theorem optionalWord_lower (w s : List Char) :
    optionalWord w (lower s) = lower (optionalWord w s) := by
  rw [optionalWord, word?_lower, optionalWord]
  cases word? w s <;> rfl

theorem blanks?_lower : LowersBy lower blanks? := by
  intro s
  cases s with
  | nil => rfl
  | cons c s =>
      show blanks? (c.toLower :: lower s) = _
      rw [blanks?, blanks?, isBlank_toLower, trimLeft_lower]
      split <;> rfl

theorem digits?_lower : LowersBy (Prod.map id lower) digits? := by
  intro s
  have hds : lower (s.takeWhile Decimal.isAnyDigit) = s.takeWhile Decimal.isAnyDigit :=
    lower_eq_self fun c hc => List.mem_takeWhile_imp hc
  simp only [digits?, takeWhile_lower isAnyDigit_toLower, dropWhile_lower isAnyDigit_toLower, hds]
  split <;> rfl

theorem atEnd?_lower {α : Type} (a : α) : LowersBy id (atEnd? a) := by
  intro s
  cases s <;> rfl

end Words

theorem DateKeyword.ofText?_lower : LowersBy id ofText? := by
  intro s
  have hlower : (lower s).map Char.toLower = s.map Char.toLower := lower_lower s
  simp only [ofText?, hlower, Option.map_id]
  rfl

theorem DateUnit.take?_lower : LowersBy (Prod.map id lower) take? := by
  intro s
  rw [take?, Words.anyWord?_lower, take?]
  cases Words.anyWord? names s with
  | none => rfl
  | some p => exact congrArg (fun rest => some (p.1, rest)) (Words.optionalWord_lower ['s'] p.2)

namespace Distance

theorem ago?_lower : LowersBy id ago? := by
  intro s
  refine Words.digits?_lower.bind (fun (amount, s) => ?_) s
  refine Words.blanks?_lower.bind (fun s => ?_) s
  refine DateUnit.take?_lower.bind (fun (unit, s) => ?_) s
  refine Words.blanks?_lower.bind (fun s => ?_) s
  refine (Words.word?_lower "ago".toList).bind (fun s => ?_) s
  exact Words.atEnd?_lower _ s

theorem ahead?_lower : LowersBy id ahead? := by
  intro s
  refine (Words.word?_lower "in".toList).bind (fun s => ?_) s
  refine Words.blanks?_lower.bind (fun s => ?_) s
  refine Words.digits?_lower.bind (fun (amount, s) => ?_) s
  refine Words.blanks?_lower.bind (fun s => ?_) s
  refine DateUnit.take?_lower.bind (fun (unit, s) => ?_) s
  exact Words.atEnd?_lower _ s

end Distance

namespace Notation

theorem fixed?_lower (n : Nat) : LowersBy (Prod.map id lower) (fixed? n) := by
  intro s
  have htake : (lower s).take n = lower (s.take n) := List.map_take.symm
  have hdrop : (lower s).drop n = lower (s.drop n) := List.map_drop.symm
  have hlength : (lower (s.take n)).length = (s.take n).length := List.length_map _
  rw [fixed?, fixed?, htake, hdrop, hlength, all_isDigit_lower]
  split
  · next h =>
    rw [Bool.and_eq_true, List.all_eq_true] at h
    rw [lower_eq_self_of_isDigit h.2]
    rfl
  · rfl

theorem char?_lower {c : Char} (hc : c.isAlpha = false) : LowersBy lower (char? c) := by
  intro s
  cases s with
  | nil => rfl
  | cons d s =>
      show char? c (d.toLower :: lower s) = _
      have hd : c = d.toLower ↔ c = d := by
        rw [eq_comm, toLower_eq_iff hc, eq_comm]
      simp only [char?, hd]
      split <;> rfl

theorem timeMark?_lower : LowersBy lower timeMark? := by
  intro s
  cases s with
  | nil => rfl
  | cons c s =>
      have hmark : c.toLower = 'T' ∨ c.toLower = 't' ∨ c.toLower = ' ' ↔
          c = 'T' ∨ c = 't' ∨ c = ' ' :=
        forall_toLower (p := fun c d => d = 'T' ∨ d = 't' ∨ d = ' ' ↔ c = 'T' ∨ c = 't' ∨ c = ' ')
          (fun _ _ => Iff.rfl) (by decide) c
      show timeMark? (c.toLower :: lower s) = _
      rw [timeMark?_cons, timeMark?_cons]
      simp only [hmark]
      split <;> rfl

theorem fraction?_lower : LowersBy (Prod.map id lower) fraction? := by
  intro s
  cases s with
  | nil => rfl
  | cons c s =>
      by_cases hc : c = '.'
      · subst hc
        have hds : lower (s.takeWhile Decimal.isDigit) = s.takeWhile Decimal.isDigit :=
          lower_eq_self_of_isDigit fun c hc => List.mem_takeWhile_imp hc
        show fraction? ('.' :: lower s) = _
        simp only [fraction?, takeWhile_lower isDigit_toLower, dropWhile_lower isDigit_toLower, hds]
        split <;> rfl
      · have hlower : c.toLower ≠ '.' := mt (toLower_eq_iff (by decide) c).mp hc
        show fraction? (c.toLower :: lower s) = _
        rw [fraction?_of_ne hc, fraction?_of_ne hlower]
        rfl

theorem span?_lower (sign : Int) : LowersBy (Prod.map id lower) (span? sign) := by
  intro s
  refine (fixed?_lower 2).bind (fun (h, s) => ?_) s
  refine (char?_lower (by decide)).bind (fun s => ?_) s
  refine (fixed?_lower 2).bind (fun (m, s) => ?_) s
  dsimp only [Prod.map, id]
  split <;> rfl

theorem offset?_lower : LowersBy (Prod.map id lower) offset? := by
  intro s
  cases s with
  | nil => rfl
  | cons c s =>
      have hzulu : c.toLower = 'Z' ∨ c.toLower = 'z' ↔ c = 'Z' ∨ c = 'z' :=
        forall_toLower (p := fun c d => d = 'Z' ∨ d = 'z' ↔ c = 'Z' ∨ c = 'z')
          (fun _ _ => Iff.rfl) (by decide) c
      have hsign : sign? c.toLower = sign? c :=
        forall_toLower (p := fun c d => sign? d = sign? c) (fun _ _ => rfl) (by decide) c
      show offset? (c.toLower :: lower s) = _
      rw [offset?_cons, offset?_cons, hsign]
      simp only [hzulu]
      split
      · rfl
      · cases sign? c with
        | none => rfl
        | some sign => exact span?_lower sign s

theorem timeOfDay?_lower : LowersBy (Prod.map id lower) timeOfDay? := by
  intro s
  refine (fixed?_lower 2).bind (fun (h, s) => ?_) s
  refine (char?_lower (by decide)).bind (fun s => ?_) s
  refine (fixed?_lower 2).bind (fun (m, s) => ?_) s
  refine (char?_lower (by decide)).bind (fun s => ?_) s
  refine (fixed?_lower 2).bind (fun (sec, s) => ?_) s
  refine fraction?_lower.bind (fun (nanos, s) => ?_) s
  dsimp only [Prod.map, id]
  split
  · split <;> rfl
  · rfl

theorem timestamp?_lower : LowersBy id timestamp? := by
  intro s
  refine (fixed?_lower 4).bind (fun (year, s) => ?_) s
  refine (char?_lower (by decide)).bind (fun s => ?_) s
  refine (fixed?_lower 2).bind (fun (month, s) => ?_) s
  refine (char?_lower (by decide)).bind (fun s => ?_) s
  refine (fixed?_lower 2).bind (fun (day, s) => ?_) s
  refine timeMark?_lower.bind (fun s => ?_) s
  refine timeOfDay?_lower.bind (fun ((seconds, nanos), s) => ?_) s
  refine offset?_lower.bind (fun (offset, s) => ?_) s
  dsimp only [Prod.map, id]
  cases Date.ofParts? year month day with
  | none => rfl
  | some date => exact Words.atEnd?_lower _ s

theorem upTo?_lower (most : Nat) : LowersBy (Prod.map id lower) (upTo? most) := by
  intro s
  have htake : (lower s).take most = lower (s.take most) := List.map_take.symm
  have hds : lower ((s.take most).takeWhile Decimal.isDigit)
      = (s.take most).takeWhile Decimal.isDigit :=
    lower_eq_self_of_isDigit fun c hc => List.mem_takeWhile_imp hc
  simp only [upTo?, htake, takeWhile_lower isDigit_toLower, hds]
  split
  · rfl
  · exact congrArg (fun rest => some (_, rest)) List.map_drop.symm

theorem part?_lower : LowersBy (Prod.map id lower) part? := by
  intro s
  rw [part?, trimLeft_lower, upTo?_lower, part?]

theorem upTo?_map_lower (most : Nat) (f : Nat → Int) (s : List Char) :
    ((upTo? most (lower s)).map fun (n, s) => (f n, s))
      = ((upTo? most s).map fun (n, s) => (f n, s)).map (Prod.map id lower) := by
  rw [upTo?_lower]
  cases upTo? most s <;> rfl

theorem signed?_lower : LowersBy (Prod.map id lower) signed? := by
  intro s
  cases s with
  | nil => rfl
  | cons c s =>
      have hlength : (lower s).length = s.length := List.length_map _
      by_cases hminus : c = '-'
      · subst hminus
        show signed? ('-' :: lower s) = _
        rw [signed?, signed?, hlength]
        exact upTo?_map_lower _ (fun n => -(n : Int)) s
      · by_cases hplus : c = '+'
        · subst hplus
          show signed? ('+' :: lower s) = _
          rw [signed?, signed?, hlength]
          exact upTo?_map_lower _ (fun n => (n : Int)) s
        · have hminus' : c.toLower ≠ '-' := mt (toLower_eq_iff (by decide) c).mp hminus
          have hplus' : c.toLower ≠ '+' := mt (toLower_eq_iff (by decide) c).mp hplus
          show signed? (c.toLower :: lower s) = _
          rw [signed?_of_ne hminus hplus, signed?_of_ne hminus' hplus']
          exact upTo?_map_lower _ (fun n => (n : Int)) (c :: s)

theorem year?_lower : LowersBy (Prod.map id lower) year? := by
  intro s
  rw [year?_eq, trimLeft_lower, signed?_lower, year?_eq]

theorem yearFirst?_lower : LowersBy id yearFirst? := by
  intro s
  refine year?_lower.bind (fun (year, s) => ?_) s
  refine (char?_lower (by decide)).bind (fun s => ?_) s
  refine part?_lower.bind (fun (month, s) => ?_) s
  refine (char?_lower (by decide)).bind (fun s => ?_) s
  refine part?_lower.bind (fun (day, s) => ?_) s
  dsimp only [Prod.map, id]
  cases Date.ofParts? year month day with
  | none => rfl
  | some date => exact Words.atEnd?_lower _ s

theorem monthFirst?_lower : LowersBy id monthFirst? := by
  intro s
  refine part?_lower.bind (fun (month, s) => ?_) s
  refine (char?_lower (by decide)).bind (fun s => ?_) s
  refine part?_lower.bind (fun (day, s) => ?_) s
  refine (char?_lower (by decide)).bind (fun s => ?_) s
  refine year?_lower.bind (fun (year, s) => ?_) s
  dsimp only [Prod.map, id]
  cases Date.ofParts? year month day with
  | none => rfl
  | some date => exact Words.atEnd?_lower _ s

theorem optionalOrdinal_lower (s : List Char) :
    optionalOrdinal (lower s) = lower (optionalOrdinal s) := by
  rw [optionalOrdinal, Words.anyWord?_lower, optionalOrdinal]
  cases Words.anyWord? ordinals s <;> rfl

theorem optionalComma_lower (s : List Char) :
    (char? ',' (lower s)).getD (lower s) = lower ((char? ',' s).getD s) := by
  rw [char?_lower (by decide)]
  cases char? ',' s <;> rfl

theorem Title.ofText?_lower :
    LowersBy (fun t => { t with month := lower t.month }) Title.ofText? := by
  intro s
  rw [ofText?_eq, ofText?_eq, takeWhile_lower isLetter_toLower, dropWhile_lower isLetter_toLower]
  have hempty : (lower (s.takeWhile isLetter)).isEmpty = (s.takeWhile isLetter).isEmpty := by
    cases s.takeWhile isLetter <;> rfl
  rw [hempty]
  split
  · rfl
  · refine Words.blanks?_lower.bind (fun r => ?_) _
    refine Words.digits?_lower.bind (fun (day, r) => ?_) r
    dsimp only [Prod.map, id]
    split
    · rfl
    · rw [optionalOrdinal_lower, optionalComma_lower]
      refine Words.blanks?_lower.bind (fun r => ?_) _
      refine Words.digits?_lower.bind (fun (year, r) => ?_) r
      dsimp only [Prod.map, id]
      split
      · rfl
      · cases r <;> rfl

theorem monthNumber?_lower (name : List Char) :
    monthNumber? (lower name) = monthNumber? name := by
  have hlower : (lower name).map Char.toLower = name.map Char.toLower := lower_lower name
  rw [monthNumber?, hlower, monthNumber?]

end Notation

/-! ## Readings in lower case -/

namespace DateReading

theorem ofTitle_lower (t : Notation.Title) :
    (ofTitle { t with month := lower t.month }).toOption = (ofTitle t).toOption := by
  unfold ofTitle
  rw [Notation.monthNumber?_lower]
  cases Notation.monthNumber? t.month <;> rfl

theorem ofNotation_lower (s : List Char) :
    (ofNotation (lower s)).toOption = (ofNotation s).toOption := by
  unfold ofNotation
  simp only [Notation.timestamp?_lower s, Notation.yearFirst?_lower s, Notation.monthFirst?_lower s,
    Notation.Title.ofText?_lower s, Option.map_id_fun, id]
  cases Notation.timestamp? s with
  | some t => rfl
  | none =>
  cases (Notation.yearFirst? s).or (Notation.monthFirst? s) with
  | some d => rfl
  | none =>
  cases Notation.Title.ofText? s with
  | some t => exact ofTitle_lower t
  | none => rfl

/-- A text and the same in lower case stand for the same instant, if any. -/
theorem ofTrimmed_lower (now : Instant) (s : List Char) :
    (ofTrimmed now (lower s)).toOption = (ofTrimmed now s).toOption := by
  unfold ofTrimmed
  simp only [DateKeyword.ofText?_lower s, Distance.ago?_lower s, Distance.ahead?_lower s,
    Option.map_id_fun, id]
  cases DateKeyword.ofText? s with
  | some k => rfl
  | none =>
  cases Distance.ago? s with
  | some p => rfl
  | none =>
  cases Distance.ahead? s with
  | some p => rfl
  | none => exact ofNotation_lower s

end DateReading

/-! ## Other spellings of a text -/

/-- One change of the spelling of a text: letters of ASCII change their case, or blanks are put
around the text or removed from its ends. -/
inductive Respelling : List Char → List Char → Prop where
  | recase {s t : List Char} (h : s.map Char.toLower = t.map Char.toLower) : Respelling s t
  | pad {before after : List Char} (s : List Char) (hbefore : ∀ c ∈ before, isBlank c = true)
      (hafter : ∀ c ∈ after, isBlank c = true) : Respelling s (before ++ s ++ after)
  | unpad {before after : List Char} (s : List Char) (hbefore : ∀ c ∈ before, isBlank c = true)
      (hafter : ∀ c ∈ after, isBlank c = true) : Respelling (before ++ s ++ after) s

/-- Any number of changes of the spelling. -/
def Respelled : List Char → List Char → Prop :=
  Relation.ReflTransGen Respelling

/-- A change of the spelling keeps the text between its blanks in lower case. -/
theorem Respelling.lower_trim_eq {s t : List Char} (h : Respelling s t) :
    lower (trim s) = lower (trim t) := by
  cases h with
  | recase h =>
      have hlower : lower s = lower t := h
      rw [← trim_lower, hlower, trim_lower]
  | pad s hbefore hafter => rw [trim_padded hbefore hafter]
  | unpad s hbefore hafter => rw [trim_padded hbefore hafter]

theorem Respelled.lower_trim_eq {s t : List Char} (h : Respelled s t) :
    lower (trim s) = lower (trim t) := by
  induction h with
  | refl => rfl
  | tail _ hstep ih => exact ih.trans hstep.lower_trim_eq

namespace Services

theorem readDateFrom_eq_ok_iff {now t : Instant} {text : String} :
    readDateFrom now text = .ok t ↔
      (DateReading.ofTrimmed now (trimmed text)).toOption = some t := by
  unfold readDateFrom Instant.ofText
  cases DateReading.ofTrimmed now (trimmed text) with
  | ok t' =>
      exact ⟨fun h => congrArg Except.toOption h, fun h => congrArg Except.ok (Option.some.inj h)⟩
  | error p =>
      constructor
      · intro h
        cases h
      · intro h
        cases h

/-- A text and another spelling of it are read as the same instant or are both refused, and a
refusal names the text as it was given. -/
theorem readDateFrom_respelled (now : Instant) (text : String) :
    (∀ text' : String, Respelled text.toList text'.toList →
      ∀ t, readDateFrom now text = .ok t ↔ readDateFrom now text' = .ok t) ∧
    ∀ e, readDateFrom now text = .error e →
      ∃ p : DateProblem, e = .unreadableDate text p.message := by
  constructor
  · intro text' h t
    rw [readDateFrom_eq_ok_iff, readDateFrom_eq_ok_iff, trimmed, trimmed,
      ← DateReading.ofTrimmed_lower, h.lower_trim_eq, DateReading.ofTrimmed_lower]
  · intro e h
    unfold readDateFrom at h
    cases hread : Instant.ofText now text with
    | ok t => simp [hread, Except.mapError] at h
    | error p =>
        rw [hread] at h
        cases h
        exact ⟨p, rfl⟩

/-- A title in capitals, with blanks of several kinds around it. -/
theorem readDateFrom_respelled_capitals :
    Respelled "february 29th, 2024".toList "\n FEBRUARY 29TH, 2024\u3000".toList ∧
    Services.readDateFrom (.midnight ⟨2024, 3, 31⟩) "\n FEBRUARY 29TH, 2024\u3000"
      = .ok (.midnight ⟨2024, 2, 29⟩) := by
  have hcase : Respelling "february 29th, 2024".toList "FEBRUARY 29TH, 2024".toList :=
    .recase (by decide)
  have hbefore : ∀ c ∈ "\n ".toList, isBlank c = true := List.all_eq_true.mp (by decide)
  have hafter : ∀ c ∈ "\u3000".toList, isBlank c = true := List.all_eq_true.mp (by decide)
  have hpad : Respelling "FEBRUARY 29TH, 2024".toList "\n FEBRUARY 29TH, 2024\u3000".toList :=
    .pad _ hbefore hafter
  have h : Respelled "february 29th, 2024".toList "\n FEBRUARY 29TH, 2024\u3000".toList :=
    .tail (.single hcase) hpad
  have hread : readDateFrom (.midnight ⟨2024, 3, 31⟩) "february 29th, 2024"
      = .ok (.midnight ⟨2024, 2, 29⟩) := rfl
  exact ⟨h, ((readDateFrom_respelled _ _).1 _ h _).mp hread⟩

end Services

end ConditionQuery
