import ConditionQuery.Text.Quoted

set_option autoImplicit false

/-! # Environments

The variables with which a program is started. Their values are bytes, which need not be
text. No value holds the null character, and a program that tries to set one ends on the spot.
-/

namespace ConditionQuery

/-- The end of a program that tried to give a variable a value with a null character. -/
structure Crash where
  name : String
  value : String
deriving DecidableEq, Repr

/-- What the program says of it, after the place in its text where it ended. -/
def Crash.message (c : Crash) : String :=
  let quoted (s : String) : String := String.ofList (Text.Quoted.ofBytes s.toUTF8.toList)
  "failed to set environment variable `" ++ quoted c.name ++ "` to `" ++ quoted c.value
    ++ "`: file name contained an unexpected NUL byte"

structure Environment where
  /-- The names and values; the first value of a name counts. -/
  bindings : List (String × List UInt8)

namespace Environment

def empty : Environment :=
  ⟨[]⟩

def get? (e : Environment) (name : String) : Option (List UInt8) :=
  e.bindings.lookup name

/-- The value of a variable that is text. -/
def text? (e : Environment) (name : String) : Option String :=
  (e.get? name).bind Text.Utf8.read?

/-- Gives a variable a value unless its value is text already. -/
def setDefault (e : Environment) (name value : String) : Except Crash Environment :=
  if (e.text? name).isSome then .ok e
  else if value.toList.contains '\x00' then .error ⟨name, value⟩
  else .ok ⟨(name, value.toUTF8.toList) :: e.bindings⟩

end Environment

end ConditionQuery
