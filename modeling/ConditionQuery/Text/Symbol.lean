import ConditionQuery.Text.Hexadecimal

set_option autoImplicit false

/-! # Variable symbols

A logic variable may have any text as its name, while the symbol that stands for it in a
query may hold only letters, digits, hyphens and underscores. The code of a name passes the
safe characters through, doubles the underscore and writes any other character as its code
point in hexadecimal between `_u` and `_`. The empty name has the code `_`, which no other
name has.
-/

namespace ConditionQuery.Text.Symbol

/-- The characters that stand for themselves in a symbol. -/
def isSafe (c : Char) : Bool :=
  c.isAlphanum || c == '-'

def encodeChar (c : Char) : List Char :=
  if isSafe c then [c]
  else if c = '_' then ['_', '_']
  else '_' :: 'u' :: Hexadecimal.write c.toNat ++ ['_']

def encode (name : List Char) : List Char :=
  if name.isEmpty then ['_'] else name.flatMap encodeChar

/-- The symbol of a variable: a question mark and the code of its name. -/
def ofName (name : String) : List Char :=
  '?' :: encode name.toList

end ConditionQuery.Text.Symbol
