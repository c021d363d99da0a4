import ConditionQuery.Text.Hexadecimal

set_option autoImplicit false

/-! # UTF-8

Reading bytes as text. Bytes that do not belong to the encoding of a character are kept as
they are, so that a diagnostic can show them; a text that is wanted as a whole is there only
if no byte is stray.
-/

namespace ConditionQuery.Text.Utf8

/-- A piece of a row of bytes: a character, or a byte that belongs to none. -/
inductive Piece where
  | char (c : Char)
  | stray (b : UInt8)
deriving DecidableEq, Repr

/-- The low six bits of a continuation byte. -/
def continuation? (b : UInt8) : Option Nat :=
  if 0x80 ≤ b && b < 0xC0 then some (b.toNat - 0x80) else none

/-- The character with code point `n`, if the code point is at least `least` and so needs as
many bytes as it was written with. -/
def shortest? (least n : Nat) : Option Char :=
  if least ≤ n then Hexadecimal.character? n else none

/-- The character that two bytes encode. -/
def two? (a b : UInt8) : Option Char :=
  if 0xC0 ≤ a && a < 0xE0 then
    (continuation? b).bind fun y => shortest? 0x80 ((a.toNat - 0xC0) * 64 + y)
  else none

def three? (a b c : UInt8) : Option Char :=
  if 0xE0 ≤ a && a < 0xF0 then
    (continuation? b).bind fun y => (continuation? c).bind fun z =>
      shortest? 0x800 ((a.toNat - 0xE0) * 4096 + y * 64 + z)
  else none

def four? (a b c d : UInt8) : Option Char :=
  if 0xF0 ≤ a && a < 0xF8 then
    (continuation? b).bind fun x => (continuation? c).bind fun y => (continuation? d).bind fun z =>
      shortest? 0x10000 ((a.toNat - 0xF0) * 262144 + x * 4096 + y * 64 + z)
  else none

/-- The first character of a row of bytes and the number of bytes after its first one. -/
def first? (a : UInt8) (rest : List UInt8) : Option (Char × Nat) :=
  if a < 0x80 then some (Char.ofNat a.toNat, 0)
  else match rest with
    | b :: c :: d :: _ =>
      ((two? a b).map fun x => (x, 1)).or
        (((three? a b c).map fun x => (x, 2)).or ((four? a b c d).map fun x => (x, 3)))
    | [b, c] => ((two? a b).map fun x => (x, 1)).or ((three? a b c).map fun x => (x, 2))
    | [b] => (two? a b).map fun x => (x, 1)
    | [] => none

/-- The pieces of a row of bytes, after `skip` bytes that belong to the character before. -/
def piecesAfter : Nat → List UInt8 → List Piece
  | _, [] => []
  | skip + 1, _ :: rest => piecesAfter skip rest
  | 0, a :: rest =>
    match first? a rest with
    | some (c, n) => .char c :: piecesAfter n rest
    | none => .stray a :: piecesAfter 0 rest

def pieces (bytes : List UInt8) : List Piece :=
  piecesAfter 0 bytes

def Piece.char? : Piece → Option Char
  | .char c => some c
  | .stray _ => none

/-- The text that a row of bytes encodes, if no byte is stray. -/
def read? (bytes : List UInt8) : Option String :=
  ((pieces bytes).mapM Piece.char?).map String.ofList

end ConditionQuery.Text.Utf8
