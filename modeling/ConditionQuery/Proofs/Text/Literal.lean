import ConditionQuery.Text.Literal
import Mathlib.Data.List.Basic

set_option autoImplicit false

/-! # Reading string literals

Characters are replaced by their codes all at once, or one after the other in passes over the whole
text. The two are the same if no pass finds its character in a code that an earlier pass has written
(`runAll_eq_flatMap`). Every code of a literal holds a backslash, so the pass for backslashes has to
be the first one; in this order five passes make the text between the quotes
(`runAll_replacements`).

A literal is read from left to right: a backslash and the character after it stand for one
character, and the first quote that is not such a character ends the literal. No code starts with a
quote, so that what is read is the text that was written, and what follows the literal is left as it
is (`read?_escape`).
-/

namespace ConditionQuery.Text.Literal

/-! ## Passes -/

/-- A character and the code that takes its place. -/
structure Replacement where
  char : Char
  code : List Char

namespace Replacement

def run (p : Replacement) (s : List Char) : List Char :=
  s.flatMap fun c => if c = p.char then p.code else [c]

/-- Passes one after the other, each over the text that the one before it has left. -/
def runAll (ps : List Replacement) (s : List Char) : List Char :=
  ps.foldl (fun t p => p.run t) s

/-- What takes the place of a character if all replacements are made at once. -/
def atOnce : List Replacement → Char → List Char
  | [], c => [c]
  | p :: ps, c => if c = p.char then p.code else atOnce ps c

variable {ps : List Replacement}

theorem atOnce_of_forall_ne {c : Char} (h : ∀ p ∈ ps, c ≠ p.char) : atOnce ps c = [c] := by
  induction ps with
  | nil => rfl
  | cons p ps ih =>
      rw [atOnce, if_neg (h p (by simp)), ih fun q hq => h q (by simp [hq])]

/-- A text without the characters that are replaced stays as it is. -/
theorem flatMap_atOnce_eq_self {s : List Char} (h : ∀ p ∈ ps, p.char ∉ s) :
    s.flatMap (atOnce ps) = s := by
  induction s with
  | nil => rfl
  | cons c s ih =>
      have hc : ∀ p ∈ ps, c ≠ p.char := by
        rintro p hp rfl
        exact h p hp (by simp)
      rw [List.flatMap_cons, atOnce_of_forall_ne hc, List.singleton_append,
        ih fun p hp hmem => h p hp (by simp [hmem])]

/-- Passes do what one substitution does, if no later pass finds its character in the code that an
earlier one has written. -/
theorem runAll_eq_flatMap (h : ps.Pairwise fun p q => q.char ∉ p.code) (s : List Char) :
    runAll ps s = s.flatMap (atOnce ps) := by
  induction ps generalizing s with
  | nil =>
      show s = s.flatMap fun c => [c]
      simp
  | cons p ps ih =>
      obtain ⟨hcode, hps⟩ := List.pairwise_cons.mp h
      have hrun : runAll (p :: ps) s = runAll ps (p.run s) := rfl
      rw [hrun, ih hps, run, List.flatMap_assoc]
      refine List.flatMap_congr fun c _ => ?_
      by_cases hc : c = p.char
      · -- the later passes go over the code of the first one and change nothing
        rw [if_pos hc, atOnce, if_pos hc, flatMap_atOnce_eq_self hcode]
      · rw [if_neg hc, atOnce, if_neg hc, List.flatMap_singleton]

end Replacement

/-- The replacements in a literal, in the order of their passes. -/
def replacements : List Replacement :=
  [⟨'\\', ['\\', '\\']⟩, ⟨'"', ['\\', '"']⟩, ⟨'\n', ['\\', 'n']⟩, ⟨'\r', ['\\', 'r']⟩,
    ⟨'\t', ['\\', 't']⟩]

theorem atOnce_replacements : Replacement.atOnce replacements = escapeChar := rfl

/-- The five passes make the text between the quotes. -/
theorem runAll_replacements (s : List Char) : Replacement.runAll replacements s = escape s := by
  have hpairs : replacements.Pairwise fun p q => q.char ∉ p.code := by
    simp [replacements]
  rw [Replacement.runAll_eq_flatMap hpairs, atOnce_replacements, escape]

/-! ## The reader -/

def unescape? (c : Char) : Option Char :=
  if c = '\\' then some '\\'
  else if c = '"' then some '"'
  else if c = 'n' then some '\n'
  else if c = 'r' then some '\r'
  else if c = 't' then some '\t'
  else none

/-- Reads the rest of a literal, from behind a backslash if `escaped` is true: the text that it
stands for, and what follows. The first quote that is not behind a backslash ends the literal. -/
def readFrom (escaped : Bool) : List Char → Option (List Char × List Char)
  | [] => none
  | c :: t =>
    if escaped then
      (unescape? c).bind fun d => (readFrom false t).map fun (s, rest) => (d :: s, rest)
    else if c = '"' then some ([], t)
    else if c = '\\' then readFrom true t
    else (readFrom false t).map fun (s, rest) => (c :: s, rest)

/-- Reads a literal after its opening quote: the text that it stands for, and what follows. -/
def read? (t : List Char) : Option (List Char × List Char) :=
  readFrom false t

/-- A code is a backslash and a character that stands for the one it was made from, or it is this
character itself, which is then none of those that are replaced. -/
theorem escapeChar_cases (c : Char) :
    (∃ d, escapeChar c = ['\\', d] ∧ unescape? d = some c ∧ d ∈ ['\\', '"', 'n', 'r', 't']) ∨
      (escapeChar c = [c] ∧ c ∉ ['\\', '"', '\n', '\r', '\t']) := by
  by_cases hmem : c ∈ ['\\', '"', '\n', '\r', '\t']
  · left
    simp only [List.mem_cons, List.not_mem_nil, or_false] at hmem
    rcases hmem with rfl | rfl | rfl | rfl | rfl
    · exact ⟨'\\', rfl, rfl, by decide⟩
    · exact ⟨'"', rfl, rfl, by decide⟩
    · exact ⟨'n', rfl, rfl, by decide⟩
    · exact ⟨'r', rfl, rfl, by decide⟩
    · exact ⟨'t', rfl, rfl, by decide⟩
  · right
    refine ⟨?_, hmem⟩
    simp only [List.mem_cons, List.not_mem_nil, or_false, not_or] at hmem
    obtain ⟨hb, hq, hn, hr, ht⟩ := hmem
    rw [escapeChar, if_neg hb, if_neg hq, if_neg hn, if_neg hr, if_neg ht]

/-- The code of a character is read as the character. -/
theorem read?_escapeChar (c : Char) (t : List Char) :
    read? (escapeChar c ++ t) = (read? t).map fun (s, rest) => (c :: s, rest) := by
  rcases escapeChar_cases c with ⟨d, hcode, hd, -⟩ | ⟨hcode, hc⟩
  · have hslash : read? ('\\' :: d :: t) = readFrom true (d :: t) := rfl
    rw [hcode, List.cons_append, List.singleton_append, hslash, readFrom, if_pos rfl, hd,
      Option.bind_some, read?]
  · have hquote : c ≠ '"' := fun h => hc (by simp [h])
    have hslash : c ≠ '\\' := fun h => hc (by simp [h])
    rw [hcode, List.singleton_append, read?, readFrom, if_neg (by decide), if_neg hquote,
      if_neg hslash, read?]

/-- The reader finds the text of a literal and stops at the quote that closes it. -/
theorem read?_escape (s rest : List Char) : read? (escape s ++ '"' :: rest) = some (s, rest) := by
  induction s with
  | nil => rfl
  | cons c s ih =>
      have hcons : escape (c :: s) = escapeChar c ++ escape s := List.flatMap_cons
      rw [hcons, List.append_assoc, read?_escapeChar, ih, Option.map_some]

/-- Literals of different texts differ. -/
theorem encode_inj {s t : List Char} (h : encode s = encode t) : s = t := by
  have hbody : escape s ++ ['"'] = escape t ++ ['"'] := (List.cons.inj h).2
  have hread : some (s, ([] : List Char)) = some (t, []) := by
    rw [← read?_escape s, hbody, read?_escape t]
  exact (Prod.mk.inj (Option.some.inj hread)).1

/-- The characters that would end a line or leave a gap in it. -/
def isRaw (c : Char) : Bool :=
  c = '\n' || c = '\r' || c = '\t'

theorem isRaw_of_mem_escapeChar {c d : Char} (h : d ∈ escapeChar c) : isRaw d = false := by
  rcases escapeChar_cases c with ⟨e, hcode, -, he⟩ | ⟨hcode, hc⟩
  · have hall : ∀ d ∈ ['\\', '"', 'n', 'r', 't'], isRaw d = false := by simp [isRaw]
    rw [hcode, List.mem_cons, List.mem_singleton] at h
    rcases h with rfl | rfl
    · decide
    · exact hall d he
  · rw [hcode, List.mem_singleton] at h
    subst h
    simp only [List.mem_cons, List.not_mem_nil, or_false, not_or] at hc
    simp [isRaw, hc]

/-- A literal stays on its line and holds no tab. -/
theorem isRaw_of_mem_encode {s : List Char} {d : Char} (h : d ∈ encode s) : isRaw d = false := by
  rw [encode, List.mem_append, List.mem_cons, List.mem_singleton] at h
  rcases h with (rfl | h) | rfl
  · decide
  · obtain ⟨c, -, hc⟩ := List.mem_flatMap.mp h
    exact isRaw_of_mem_escapeChar hc
  · decide

end ConditionQuery.Text.Literal
