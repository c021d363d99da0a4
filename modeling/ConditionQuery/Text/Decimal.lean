set_option autoImplicit false

/-! # Decimal numerals

Reading and writing whole numbers to the base ten with the digits of ASCII, and the decimal
digits of all scripts, which count as digits wherever a phrase asks for one but have no
value here.
-/

namespace ConditionQuery.Text.Decimal

/-- The digits from zero to nine of ASCII. -/
def isDigit (c : Char) : Bool :=
  '0' ≤ c && c ≤ '9'

/-- The zeros of the scripts that have decimal digits. In each of them the digits from one
to nine follow the zero. -/
def zeros : List Nat :=
  [0x30, 0x660, 0x6F0, 0x7C0, 0x966, 0x9E6, 0xA66, 0xAE6, 0xB66, 0xBE6, 0xC66, 0xCE6, 0xD66,
   0xDE6, 0xE50, 0xED0, 0xF20, 0x1040, 0x1090, 0x17E0, 0x1810, 0x1946, 0x19D0, 0x1A80, 0x1A90,
   0x1B50, 0x1BB0, 0x1C40, 0x1C50, 0xA620, 0xA8D0, 0xA900, 0xA9D0, 0xA9F0, 0xAA50, 0xABF0,
   0xFF10, 0x104A0, 0x10D30, 0x10D40, 0x11066, 0x110F0, 0x11136, 0x111D0, 0x112F0, 0x11450,
   0x114D0, 0x11650, 0x116C0, 0x116D0, 0x116DA, 0x11730, 0x118E0, 0x11950, 0x11BF0, 0x11C50,
   0x11D50, 0x11DA0, 0x11F50, 0x16130, 0x16A60, 0x16AC0, 0x16B50, 0x16D70, 0x1CCF0, 0x1D7CE,
   0x1D7D8, 0x1D7E2, 0x1D7EC, 0x1D7F6, 0x1E140, 0x1E2F0, 0x1E4F0, 0x1E5F1, 0x1E950, 0x1FBF0]

def isAnyDigit (c : Char) : Bool :=
  zeros.any fun z => z ≤ c.toNat && c.toNat ≤ z + 9

/-- The value of a row of ASCII digits that follows a number `high`. -/
def extend (high : Nat) (s : List Char) : Nat :=
  s.foldl (fun n c => 10 * n + (c.toNat - '0'.toNat)) high

/-- The value of a non-empty row of ASCII digits, of any length and with any number of
leading zeros. -/
def read? (s : List Char) : Option Nat :=
  if s.isEmpty || !s.all isDigit then none else some (extend 0 s)

def readSigned? : List Char → Option Int
  | '-' :: s => (read? s).map fun n => -(n : Int)
  | '+' :: s => (read? s).map fun n => (n : Int)
  | s => (read? s).map fun n => (n : Int)

def fitsInt64 (i : Int) : Bool :=
  -0x8000000000000000 ≤ i && i < 0x8000000000000000

/-- The value of a numeral with an optional sign, if it fits a signed word of 64 bits. -/
def readInt64? (s : List Char) : Option Int :=
  (readSigned? s).filter fitsInt64

def writeNat (n : Nat) : List Char :=
  Nat.toDigits 10 n

/-- The shortest numeral of an integer, with a sign only if it is negative. -/
def write : Int → List Char
  | .ofNat n => writeNat n
  | .negSucc n => '-' :: writeNat (n + 1)

end ConditionQuery.Text.Decimal
