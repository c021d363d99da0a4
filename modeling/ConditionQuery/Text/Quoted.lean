import ConditionQuery.Text.Utf8
import ConditionQuery.Unicode.Property

set_option autoImplicit false

/-! # Quoted text in diagnostics

A diagnostic shows a text between double quotes, with everything that would be invisible or
misleading written as an escape: quotes and backslashes, control characters, characters that
have no shape of their own, marks that would merge with the character before them, and bytes
that are not text.
-/

namespace ConditionQuery.Text.Quoted

/-- A character that a diagnostic shows as it is. -/
def isPlain (c : Char) : Bool :=
  Unicode.CharSet.contains Unicode.Property.printable c
    && !Unicode.CharSet.contains Unicode.Property.graphemeExtend c

def escapeChar (c : Char) : List Char :=
  if c = Char.ofNat 0 then ['\\', '0']
  else if c = '\t' then ['\\', 't']
  else if c = '\r' then ['\\', 'r']
  else if c = '\n' then ['\\', 'n']
  else if c = '"' || c = '\\' then ['\\', c]
  else if isPlain c then [c]
  else '\\' :: 'u' :: '\x7b' :: Hexadecimal.write c.toNat ++ ['\x7d']

def ofText (s : String) : List Char :=
  '"' :: s.toList.flatMap escapeChar ++ ['"']

/-- The shown form of a piece of bytes. Single quotes are escaped too, and a stray byte is
shown by its two hexadecimal digits in upper case. -/
def escapePiece : Utf8.Piece → List Char
  | .char c => if c = '\'' then ['\\', '\''] else escapeChar c
  | .stray b => '\\' :: 'x' :: (Hexadecimal.write b.toNat).map Char.toUpper

/-- The shown form of bytes that need not be text. -/
def ofBytes (bytes : List UInt8) : List Char :=
  '"' :: (Utf8.pieces bytes).flatMap escapePiece ++ ['"']

end ConditionQuery.Text.Quoted
