set_option autoImplicit false

/-! # Hexadecimal numerals

Reading and writing numbers to the base sixteen. Letters of either case are read; lower-case
letters are written.
-/

namespace ConditionQuery.Text.Hexadecimal

def digit? (c : Char) : Option Nat :=
  if '0' ≤ c ∧ c ≤ '9' then some (c.toNat - '0'.toNat)
  else if 'a' ≤ c ∧ c ≤ 'f' then some (c.toNat - 'a'.toNat + 10)
  else if 'A' ≤ c ∧ c ≤ 'F' then some (c.toNat - 'A'.toNat + 10)
  else none

def extend? (high : Nat) : List Char → Option Nat
  | [] => some high
  | c :: rest => (digit? c).bind fun d => extend? (16 * high + d) rest

def read? (s : List Char) : Option Nat :=
  if s.isEmpty then none else extend? 0 s

def write (n : Nat) : List Char :=
  Nat.toDigits 16 n

/-- The character with a given code point, if there is one. -/
def character? (n : Nat) : Option Char :=
  if n.isValidChar then some (Char.ofNat n) else none

end ConditionQuery.Text.Hexadecimal
