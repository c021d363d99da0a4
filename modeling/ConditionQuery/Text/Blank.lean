set_option autoImplicit false

/-! # Blank characters

The characters that separate words, and the removal of them from both ends of a text. The
class is the white space of the Unicode standard, wider than the blanks of ASCII: it holds
no-break spaces, the typographic spaces and the line and paragraph separators, and it does
not hold the zero-width space.
-/

namespace ConditionQuery.Text

/-- White space in the sense of the Unicode standard. -/
def isBlank (c : Char) : Bool :=
  let n := c.toNat
  (9 ≤ n && n ≤ 13) || n == 0x20 || n == 0x85 || n == 0xA0 || n == 0x1680
    || (0x2000 ≤ n && n ≤ 0x200A) || n == 0x2028 || n == 0x2029 || n == 0x202F
    || n == 0x205F || n == 0x3000

def trimLeft (s : List Char) : List Char :=
  s.dropWhile isBlank

def trimRight (s : List Char) : List Char :=
  (s.reverse.dropWhile isBlank).reverse

/-- The text without the blanks at its ends. -/
def trim (s : List Char) : List Char :=
  trimRight (trimLeft s)

def trimmed (s : String) : List Char :=
  trim s.toList

end ConditionQuery.Text
