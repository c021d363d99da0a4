import ConditionQuery.Clause.Datalog
import ConditionQuery.Text.Blank

set_option autoImplicit false

/-! # Nested forms

The text of a query is a sequence of forms: atoms, and sequences of forms between round or
square brackets. An atom is a row of characters without blanks, brackets and quotes, or a
string literal with its quotes. The reader goes through a text once, character by character;
its state holds the atom that has been begun and the brackets that are open.

A text is said to read as a row of forms (`ReadsAs`) if it does so wherever it stands between
delimiters. Such texts can be put side by side with a space between them and can be put in
brackets, which is all that the text of a clause is built with.
-/

namespace ConditionQuery

/-- The characters that end an atom: blanks, quotes and brackets. -/
def isDelimiter (c : Char) : Bool :=
  Text.isBlank c || c == '"' || c == '[' || c == ']' || c == '(' || c == ')'

/-- A word: at least one character, and no delimiter. -/
structure IsWord (w : List Char) : Prop where
  ne_nil : w ≠ []
  plain : ∀ c ∈ w, isDelimiter c = false

theorem isWord_iff {w : List Char} :
    IsWord w ↔ w ≠ [] ∧ (w.all fun c => !isDelimiter c) = true := by
  rw [List.all_eq_true]
  simp only [Bool.not_eq_true']
  exact ⟨fun h => ⟨h.ne_nil, h.plain⟩, fun h => ⟨h.1, h.2⟩⟩

instance (w : List Char) : Decidable (IsWord w) :=
  decidable_of_iff _ isWord_iff.symm

inductive Form where
  /-- A word or a string literal, as written. -/
  | atom (text : List Char)
  | round (forms : List Form)
  | square (forms : List Form)

namespace Form

/-! ## The reader -/

/-- Where in an atom the reader is. -/
inductive Mode where
  | plain
  | quoted
  | escaped
deriving DecidableEq, Repr

structure Reader where
  mode : Mode
  /-- The characters of the atom that has been begun, the latest first. -/
  pending : List Char
  /-- The forms since the innermost open bracket, the latest first. -/
  level : List Form
  /-- The open brackets, the innermost first: whether they are square, and the forms that
  stand before them in theirs. -/
  outer : List (Bool × List Form)

namespace Reader

/-- The reader between two forms. -/
def between (level : List Form) (outer : List (Bool × List Form)) : Reader :=
  ⟨.plain, [], level, outer⟩

/-- Ends the atom that has been begun, if there is one. -/
def flush (r : Reader) : Reader :=
  if r.pending.isEmpty then r
  else { r with pending := [], level := .atom r.pending.reverse :: r.level }

def opened (square : Bool) (r : Reader) : Reader :=
  { r with level := [], outer := (square, r.level) :: r.outer }

/-- Closes the innermost bracket, if it is of the given kind. -/
def closed? (square : Bool) (r : Reader) : Option Reader :=
  match r.outer with
  | [] => none
  | (kind, before) :: outer =>
    if kind = square then
      let group := if square then Form.square r.level.reverse else Form.round r.level.reverse
      some { r with level := group :: before, outer := outer }
    else none

def step (r : Reader) (c : Char) : Option Reader :=
  match r.mode with
  | .escaped => some { r with mode := .quoted, pending := c :: r.pending }
  | .quoted =>
    if c = '\\' then some { r with mode := .escaped, pending := c :: r.pending }
    else if c = '"' then some { r with mode := .plain, pending := c :: r.pending }.flush
    else some { r with pending := c :: r.pending }
  | .plain =>
    if Text.isBlank c then some r.flush
    else if c = '"' then some { r.flush with mode := .quoted, pending := [c] }
    else if c = '[' then some (r.flush.opened true)
    else if c = '(' then some (r.flush.opened false)
    else if c = ']' then r.flush.closed? true
    else if c = ')' then r.flush.closed? false
    else some { r with pending := c :: r.pending }

def run (r : Reader) (s : List Char) : Option Reader :=
  s.foldlM step r

/-- The forms that have been read, if no literal and no bracket is open. -/
def forms? (r : Reader) : Option (List Form) :=
  if r.mode = .plain ∧ r.outer = [] then some r.flush.level.reverse else none

@[simp] theorem run_nil (r : Reader) : r.run [] = some r := rfl

theorem run_cons (r : Reader) (c : Char) (s : List Char) :
    r.run (c :: s) = (r.step c).bind fun r' => r'.run s := rfl

theorem run_append (r : Reader) (s t : List Char) :
    r.run (s ++ t) = (r.run s).bind fun r' => r'.run t :=
  List.foldlM_append

/-- A character that is no delimiter goes to the atom that has been begun. -/
theorem step_of_not_delimiter {c : Char} (h : isDelimiter c = false) (pending : List Char)
    (level : List Form) (outer : List (Bool × List Form)) :
    step ⟨.plain, pending, level, outer⟩ c = some ⟨.plain, c :: pending, level, outer⟩ := by
  simp only [isDelimiter, Bool.or_eq_false_iff, beq_eq_false_iff_ne] at h
  obtain ⟨⟨⟨⟨⟨hb, hq⟩, h1⟩, h2⟩, h3⟩, h4⟩ := h
  simp [step, hb, hq, h1, h2, h3, h4]

/-- A row of such characters does, too. -/
theorem run_word (w : List Char) (h : ∀ c ∈ w, isDelimiter c = false) (pending : List Char)
    (level : List Form) (outer : List (Bool × List Form)) :
    run ⟨.plain, pending, level, outer⟩ w
      = some ⟨.plain, w.reverse ++ pending, level, outer⟩ := by
  induction w generalizing pending with
  | nil => rfl
  | cons c w ih =>
      rw [run_cons, step_of_not_delimiter (h c (by simp)), Option.bind_some,
        ih (fun d hd => h d (by simp [hd]))]
      simp

/-- The escaped form of a character keeps the reader between the quotes. -/
theorem run_escapeChar (c : Char) (pending : List Char) (level : List Form)
    (outer : List (Bool × List Form)) :
    run ⟨.quoted, pending, level, outer⟩ (Text.Literal.escapeChar c)
      = some ⟨.quoted, (Text.Literal.escapeChar c).reverse ++ pending, level, outer⟩ := by
  unfold Text.Literal.escapeChar
  by_cases hb : c = '\\'
  · simp [hb, run_cons, step]
  · by_cases hq : c = '"'
    · simp [hq, run_cons, step]
    · rw [if_neg hb, if_neg hq]
      -- the remaining escapes are a backslash and a letter, any other character stands alone
      split
      · simp [run_cons, step]
      · split
        · simp [run_cons, step]
        · split
          · simp [run_cons, step]
          · simp [run_cons, step, hb, hq]

/-- No text can end the literal that it is escaped in. -/
theorem run_escape (s pending : List Char) (level : List Form)
    (outer : List (Bool × List Form)) :
    run ⟨.quoted, pending, level, outer⟩ (Text.Literal.escape s)
      = some ⟨.quoted, (Text.Literal.escape s).reverse ++ pending, level, outer⟩ := by
  induction s generalizing pending with
  | nil => rfl
  | cons c s ih =>
      have hcons : Text.Literal.escape (c :: s)
          = Text.Literal.escapeChar c ++ Text.Literal.escape s := List.flatMap_cons
      rw [hcons, run_append, run_escapeChar, Option.bind_some, ih, List.reverse_append,
        List.append_assoc]

end Reader

def ofText? (s : List Char) : Option (List Form) :=
  (Reader.run (Reader.between [] []) s).bind Reader.forms?

/-! ## Texts that read as given forms -/

/-- Between delimiters the text `s` reads as the forms `fs`: the reader adds them to the forms
before them, except that the last one may still be open to more characters. -/
def ReadsAs (s : List Char) (fs : List Form) : Prop :=
  ∀ (level : List Form) (outer : List (Bool × List Form)), ∃ r : Reader,
    Reader.run (Reader.between level outer) s = some r ∧ r.mode = .plain ∧
    r.flush = Reader.between (fs.reverse ++ level) outer

theorem readsAs_nil : ReadsAs [] [] := by
  intro level outer
  exact ⟨Reader.between level outer, rfl, rfl, rfl⟩

/-- A word reads as itself. -/
theorem readsAs_word {w : List Char} (h : IsWord w) : ReadsAs w [.atom w] := by
  intro level outer
  refine ⟨⟨.plain, w.reverse ++ [], level, outer⟩, Reader.run_word w h.plain [] level outer, rfl,
    ?_⟩
  simp [Reader.flush, Reader.between, h.ne_nil]

/-- A string literal reads as itself, whatever text is written in it. -/
theorem readsAs_literal (s : List Char) :
    ReadsAs (Text.Literal.encode s) [.atom (Text.Literal.encode s)] := by
  intro level outer
  refine ⟨Reader.between (.atom (Text.Literal.encode s) :: level) outer, ?_, rfl, rfl⟩
  have hopen : (Reader.between level outer).step '"' = some ⟨.quoted, ['"'], level, outer⟩ := rfl
  rw [Text.Literal.encode, List.cons_append, Reader.run_cons, hopen, Option.bind_some,
    Reader.run_append, Reader.run_escape, Option.bind_some, Reader.run_cons]
  simp [Reader.step, Reader.flush, Reader.between]

/-- Two texts with a space between them read as the forms of both. -/
theorem ReadsAs.spaced {s t : List Char} {fs gs : List Form} (hs : ReadsAs s fs)
    (ht : ReadsAs t gs) : ReadsAs (s ++ ' ' :: t) (fs ++ gs) := by
  intro level outer
  obtain ⟨r, hrun, hmode, hflush⟩ := hs level outer
  obtain ⟨r', hrun', hmode', hflush'⟩ := ht (fs.reverse ++ level) outer
  -- the space ends the atom that the first text may have left open
  have hspace : r.step ' ' = some (Reader.between (fs.reverse ++ level) outer) := by
    rw [← hflush]
    simp [Reader.step, hmode, Text.isBlank]
  refine ⟨r', ?_, hmode', ?_⟩
  · rw [Reader.run_append, hrun, Option.bind_some, Reader.run_cons, hspace, Option.bind_some,
      hrun']
  · rw [hflush', List.reverse_append, List.append_assoc]

/-- A text between brackets of one kind reads as one form, if the characters around it open and
close brackets of this kind. -/
theorem ReadsAs.bracketed {s : List Char} {fs : List Form} (hs : ReadsAs s fs) (square : Bool)
    {left right : Char}
    (hleft : ∀ level outer, (Reader.between level outer).step left
      = some (Reader.between [] ((square, level) :: outer)))
    (hright : ∀ r : Reader, r.mode = .plain → r.step right = r.flush.closed? square) :
    ReadsAs (left :: s ++ [right]) [if square then .square fs else .round fs] := by
  intro level outer
  obtain ⟨r, hrun, hmode, hflush⟩ := hs [] ((square, level) :: outer)
  refine ⟨Reader.between ((if square then .square fs else .round fs) :: level) outer, ?_, rfl, rfl⟩
  rw [List.cons_append, Reader.run_cons, hleft, Option.bind_some, Reader.run_append, hrun,
    Option.bind_some, Reader.run_cons, hright r hmode, hflush]
  simp [Reader.closed?, Reader.between]

/-- A text between square brackets reads as one form. -/
theorem ReadsAs.square {s : List Char} {fs : List Form} (hs : ReadsAs s fs) :
    ReadsAs ('[' :: s ++ [']']) [.square fs] :=
  hs.bracketed true (fun _ _ => rfl) fun r hmode => by simp [Reader.step, hmode, Text.isBlank]

/-- A text between round brackets reads as one form. -/
theorem ReadsAs.round {s : List Char} {fs : List Form} (hs : ReadsAs s fs) :
    ReadsAs ('(' :: s ++ [')']) [.round fs] :=
  hs.bracketed false (fun _ _ => rfl) fun r hmode => by simp [Reader.step, hmode, Text.isBlank]

/-- Texts with spaces between neighbours read as the forms of all. -/
theorem readsAs_spaced {α : Type} (text : α → List Char) (form : α → Form) (xs : List α)
    (h : ∀ x ∈ xs, ReadsAs (text x) [form x]) :
    ReadsAs (ConditionQuery.spaced (xs.map text)) (xs.map form) := by
  induction xs with
  | nil => exact readsAs_nil
  | cons x xs ih =>
      have hx := h x (by simp)
      have hxs := ih fun y hy => h y (by simp [hy])
      cases xs with
      | nil => exact hx
      | cons y ys => exact hx.spaced hxs

/-- A text that reads as given forms has these forms. -/
theorem ReadsAs.ofText?_eq {s : List Char} {fs : List Form} (hs : ReadsAs s fs) :
    ofText? s = some fs := by
  obtain ⟨r, hrun, hmode, hflush⟩ := hs [] []
  -- an atom that is still open at the end opens no bracket
  have houter : r.outer = [] := by
    have h : r.flush.outer = r.outer := by
      unfold Reader.flush
      split <;> rfl
    rw [← h, hflush, Reader.between]
  rw [ofText?, hrun, Option.bind_some, Reader.forms?, if_pos ⟨hmode, houter⟩, hflush]
  simp [Reader.between]

end Form

end ConditionQuery
