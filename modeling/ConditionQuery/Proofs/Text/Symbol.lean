import ConditionQuery.Text.Symbol

set_option autoImplicit false

/-! # Reading variable symbols

The code of a name is read from left to right. A character other than the underscore stands
for itself, a doubled underscore stands for one, and `_u` opens an escape that lasts to the
next underscore: hexadecimal digits never contain one, so the end of an escape cannot be
missed (`decodeFrom_escape`). No code of a character starts another one (`encodeChar_append_inj`).
What the reader returns for a symbol is the name it was made from (`ofSymbol?_ofName`), and a
symbol holds letters, digits, hyphens and underscores only (`isSymbolChar_of_mem_encode`), so
that it ends at the first character of any other kind.
-/

namespace ConditionQuery.Text

/-! ## Hexadecimal numerals -/

namespace Hexadecimal

/-- The digit of a number below sixteen is read as the number, and it is a letter or a decimal
digit. -/
theorem digit?_digitChar {d : Nat} (h : d < 16) :
    digit? d.digitChar = some d ∧ d.digitChar.isAlphanum = true := by
  have key : ∀ d : Fin 16,
      digit? d.val.digitChar = some d.val ∧ d.val.digitChar.isAlphanum = true := by decide
  exact key ⟨d, h⟩

theorem digit?_underscore : digit? '_' = none := by decide

theorem extend?_append (s t : List Char) (high : Nat) :
    extend? high (s ++ t) = (extend? high s).bind fun n => extend? n t := by
  induction s generalizing high with
  | nil => rfl
  | cons c s ih =>
      rw [List.cons_append, extend?, extend?]
      cases hd : digit? c with
      | none => rfl
      | some d => simp only [Option.bind_some, ih]

/-- Reading a written number gives the number. -/
theorem extend?_write (n : Nat) : extend? 0 (write n) = some n := by
  induction n using Nat.strongRecOn with
  | ind n ih =>
      rw [write, Nat.toDigits_eq_if (by decide)]
      by_cases hn : n < 16
      · rw [if_pos hn, extend?, (digit?_digitChar hn).1]
        simp [extend?]
      · -- the last digit is read after the number that the digits before it make
        have hlt : n % 16 < 16 := Nat.mod_lt n (by decide)
        have hdiv : n / 16 < n := by omega
        rw [if_neg hn, extend?_append, ← write, ih (n / 16) hdiv]
        simp only [Option.bind_some, extend?, (digit?_digitChar hlt).1]
        congr 1
        omega

/-- A written number consists of letters and decimal digits. -/
theorem isAlphanum_of_mem_write {n : Nat} {c : Char} (hc : c ∈ write n) :
    c.isAlphanum = true := by
  induction n using Nat.strongRecOn with
  | ind n ih =>
      rw [write, Nat.toDigits_eq_if (by decide)] at hc
      by_cases hn : n < 16
      · rw [if_pos hn, List.mem_singleton] at hc
        rw [hc]
        exact (digit?_digitChar hn).2
      · rw [if_neg hn, List.mem_append, List.mem_singleton] at hc
        rcases hc with hc | hc
        · exact ih (n / 16) (by omega) hc
        · rw [hc]
          exact (digit?_digitChar (Nat.mod_lt n (by decide))).2

/-- The code point of a character leads back to it. -/
theorem character?_toNat (c : Char) : character? c.toNat = some c := by
  have hv : c.toNat.isValidChar := c.valid
  rw [character?, if_pos hv, Char.ofNat_toNat]

theorem toNat_ofNat {n : Nat} (h : n.isValidChar) : (Char.ofNat n).toNat = n := by
  rw [Char.ofNat, dif_pos h]
  rfl

end Hexadecimal

/-! ## Symbols -/

namespace Symbol

/-- Reads the rest of a code, from the middle of an escape whose digits so far make `n` if the
first argument is `some n`, and from between two characters of the name otherwise. -/
def decodeFrom : Option Nat → List Char → Option (List Char)
  | none, [] => some []
  | some _, [] => none
  | some n, c :: s =>
    if c = '_' then
      (Hexadecimal.character? n).bind fun d => (decodeFrom none s).map fun name => d :: name
    else (Hexadecimal.digit? c).bind fun d => decodeFrom (some (16 * n + d)) s
  | none, '_' :: '_' :: s => (decodeFrom none s).map fun name => '_' :: name
  | none, '_' :: 'u' :: s => decodeFrom (some 0) s
  | none, c :: s => if c = '_' then none else (decodeFrom none s).map fun name => c :: name

def decode? (code : List Char) : Option (List Char) :=
  if code = ['_'] then some []
  else if code.isEmpty then none
  else decodeFrom none code

def ofSymbol? : List Char → Option String
  | '?' :: code => (decode? code).map String.ofList
  | _ => none

/-- The characters that symbols are made of after their question mark. -/
def isSymbolChar (c : Char) : Bool :=
  c.isAlphanum || c == '-' || c == '_'

/-- An escape is read digit by digit up to the underscore that closes it. -/
theorem decodeFrom_escape (ds s : List Char) (high n : Nat)
    (h : Hexadecimal.extend? high ds = some n) :
    decodeFrom (some high) (ds ++ '_' :: s)
      = (Hexadecimal.character? n).bind fun c => (decodeFrom none s).map fun name => c :: name := by
  induction ds generalizing high with
  | nil =>
      have hn : high = n := by simpa [Hexadecimal.extend?] using h
      rw [hn, List.nil_append, decodeFrom, if_pos rfl]
  | cons d ds ih =>
      rw [Hexadecimal.extend?] at h
      cases hd : Hexadecimal.digit? d with
      | none => simp [hd] at h
      | some k =>
          have hne : d ≠ '_' := by
            rintro rfl
            rw [Hexadecimal.digit?_underscore] at hd
            exact absurd hd (by simp)
          rw [hd, Option.bind_some] at h
          rw [List.cons_append, decodeFrom, if_neg hne, hd, Option.bind_some]
          exact ih (16 * high + k) h

/-- The code of one character is read as that character. -/
theorem decodeFrom_encodeChar (c : Char) (s : List Char) :
    decodeFrom none (encodeChar c ++ s) = (decodeFrom none s).map fun name => c :: name := by
  unfold encodeChar
  by_cases hsafe : isSafe c = true
  · -- a safe character stands for itself
    have hc : c ≠ '_' := by
      rintro rfl
      exact absurd hsafe (by decide)
    rw [if_pos hsafe, List.singleton_append, decodeFrom.eq_def]
    simp [hc]
  · rw [if_neg hsafe]
    by_cases hu : c = '_'
    · subst hu
      rw [if_pos rfl]
      simp [decodeFrom]
    · -- any other character is an escape
      rw [if_neg hu]
      show decodeFrom none ('_' :: 'u' :: (Hexadecimal.write c.toNat ++ ['_'] ++ s)) = _
      rw [List.append_assoc, List.singleton_append, decodeFrom,
        decodeFrom_escape _ s 0 c.toNat (Hexadecimal.extend?_write c.toNat),
        Hexadecimal.character?_toNat, Option.bind_some]

theorem decodeFrom_flatMap (name : List Char) :
    decodeFrom none (name.flatMap encodeChar) = some name := by
  induction name with
  | nil => rfl
  | cons c name ih => rw [List.flatMap_cons, decodeFrom_encodeChar, ih, Option.map_some]

/-- No character has an empty code, and no code of a character, alone or with more after it,
is the code of the empty name. -/
theorem encodeChar_ne (c : Char) : encodeChar c ≠ [] ∧ ∀ s, encodeChar c ++ s ≠ ['_'] := by
  unfold encodeChar
  by_cases hsafe : isSafe c = true
  · refine ⟨by simp [hsafe], fun s h => ?_⟩
    rw [if_pos hsafe, List.singleton_append, List.cons.injEq] at h
    rw [h.1] at hsafe
    exact absurd hsafe (by decide)
  · rw [if_neg hsafe]
    by_cases hu : c = '_'
    · simp [hu]
    · simp [hu]

/-- The code of a name is read as the name. -/
theorem decode?_encode (name : List Char) : decode? (encode name) = some name := by
  cases name with
  | nil => rfl
  | cons c name =>
      obtain ⟨hnil, hunderscore⟩ := encodeChar_ne c
      have hcode : encode (c :: name) = encodeChar c ++ name.flatMap encodeChar := rfl
      rw [decode?, hcode, if_neg (hunderscore _), if_neg (by simp [hnil]), ← List.flatMap_cons,
        decodeFrom_flatMap]

/-- The codes of names are put together as the names are, as long as none of them is empty. -/
theorem encode_append {m n : List Char} (hm : m ≠ []) (hn : n ≠ []) :
    encode (m ++ n) = encode m ++ encode n := by
  have hcode : ∀ {name : List Char}, name ≠ [] → encode name = name.flatMap encodeChar := by
    intro name h
    rw [encode, List.isEmpty_eq_false_iff.mpr h]
    rfl
  rw [hcode hm, hcode hn, hcode (List.append_ne_nil_of_left_ne_nil hm n), List.flatMap_append]

/-- The code of the empty name is the code of no other name. -/
theorem encode_eq_underscore_iff {name : List Char} : encode name = ['_'] ↔ name = [] := by
  constructor
  · intro h
    have hread : some name = some [] := by
      rw [← decode?_encode name, h]
      rfl
    exact Option.some.inj hread
  · rintro rfl
    rfl

theorem encode_ne_nil (name : List Char) : encode name ≠ [] := by
  intro h
  have hread := decode?_encode name
  rw [h] at hread
  exact absurd hread (by simp [decode?])

/-- The codes of characters are a prefix code: in a text that starts with one it is clear which one
it is and where it ends, whatever follows. -/
theorem encodeChar_append_inj {c d : Char} {s t : List Char}
    (h : encodeChar c ++ s = encodeChar d ++ t) : c = d ∧ s = t := by
  -- a code that starts with another one is read as the character of that one
  have hstart : ∀ {c d : Char} {u : List Char}, encodeChar d = encodeChar c ++ u → c = d := by
    intro c d u hd
    have hread : decodeFrom none (encodeChar c ++ u) = some [d] := by
      rw [← hd, ← List.flatMap_singleton encodeChar d]
      exact decodeFrom_flatMap [d]
    rw [decodeFrom_encodeChar] at hread
    obtain ⟨name, -, hname⟩ := Option.map_eq_some_iff.mp hread
    exact (List.cons.inj hname).1
  have hcd : c = d := by
    rcases List.append_eq_append_iff.mp h with ⟨u, hd, -⟩ | ⟨u, hc, -⟩
    · exact hstart hd
    · exact (hstart hc).symm
  subst hcd
  exact ⟨rfl, List.append_cancel_left h⟩

/-- The symbol of a name is read as the name. -/
theorem ofSymbol?_ofName (name : String) : ofSymbol? (ofName name) = some name := by
  rw [ofName, ofSymbol?, decode?_encode, Option.map_some, String.ofList_toList]

theorem isSymbolChar_of_mem_encodeChar {c d : Char} (h : d ∈ encodeChar c) :
    isSymbolChar d = true := by
  unfold encodeChar at h
  by_cases hsafe : isSafe c = true
  · rw [if_pos hsafe, List.mem_singleton] at h
    rw [isSafe, Bool.or_eq_true] at hsafe
    rw [h, isSymbolChar, Bool.or_eq_true, Bool.or_eq_true]
    exact Or.inl hsafe
  · rw [if_neg hsafe] at h
    by_cases hu : c = '_'
    · have hd : d = '_' := by simpa [hu] using h
      rw [hd]
      decide
    · rw [if_neg hu] at h
      simp only [List.cons_append, List.mem_cons, List.mem_append, List.not_mem_nil, or_false] at h
      rcases h with rfl | rfl | h | rfl
      · decide
      · decide
      · simp [isSymbolChar, Hexadecimal.isAlphanum_of_mem_write h]
      · decide

/-- A code consists of letters, digits, hyphens and underscores. -/
theorem isSymbolChar_of_mem_encode {name : List Char} {d : Char} (h : d ∈ encode name) :
    isSymbolChar d = true := by
  cases name with
  | nil =>
      have hd : d = '_' := by simpa [encode] using h
      rw [hd]
      decide
  | cons c name =>
      have hcode : encode (c :: name) = (c :: name).flatMap encodeChar := rfl
      rw [hcode, List.mem_flatMap] at h
      obtain ⟨e, -, he⟩ := h
      exact isSymbolChar_of_mem_encodeChar he

end Symbol

end ConditionQuery.Text
