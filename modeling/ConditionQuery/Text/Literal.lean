set_option autoImplicit false

/-! # String literals

A text between double quotes. Inside the quotes a backslash, a double quote, a line feed, a
carriage return and a tab are written as a backslash and one more character, so that a
literal stays on one line and ends at its first quote that no backslash precedes.
-/

namespace ConditionQuery.Text.Literal

def escapeChar (c : Char) : List Char :=
  if c = '\\' then ['\\', '\\']
  else if c = '"' then ['\\', '"']
  else if c = '\n' then ['\\', 'n']
  else if c = '\r' then ['\\', 'r']
  else if c = '\t' then ['\\', 't']
  else [c]

/-- The text between the quotes of a literal. -/
def escape (s : List Char) : List Char :=
  s.flatMap escapeChar

def encode (s : List Char) : List Char :=
  '"' :: escape s ++ ['"']

end ConditionQuery.Text.Literal
