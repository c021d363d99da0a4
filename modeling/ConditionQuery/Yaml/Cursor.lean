import ConditionQuery.Text.Hexadecimal

set_option autoImplicit false

/-! # Places in a YAML text

The rest of a text that is being read, together with the place where it starts, and the
character classes on which the notation rests. Blanks are the space and the tab; a line ends
at a carriage return, a line feed, both together, or one of the line ends of Unicode.
-/

namespace ConditionQuery.Yaml

structure Cursor where
  rest : List Char
  index : Nat
  line : Nat
  /-- The number of characters before on this line. -/
  column : Nat

/-- A space or a tab. -/
def isBlank (c : Char) : Bool :=
  c == ' ' || c == '\t'

def isBreak (c : Char) : Bool :=
  c == '\r' || c == '\n' || c.toNat == 0x85 || c.toNat == 0x2028 || c.toNat == 0x2029

/-- A blank, the end of a line, or the end of the text. -/
def isGap (c : Option Char) : Bool :=
  c.all fun d => isBlank d || isBreak d

def isNameChar (c : Char) : Bool :=
  c.isAlphanum || c == '-' || c == '_'

/-- A character that may stand in a text at all. -/
def isAllowed (c : Char) : Bool :=
  let n := c.toNat
  n == 0x09 || n == 0x0A || n == 0x0D || (0x20 ≤ n && n ≤ 0x7E) || n == 0x85
    || (0xA0 ≤ n && n ≤ 0xD7FF) || (0xE000 ≤ n && n ≤ 0xFFFD) || 0x10000 ≤ n

namespace Cursor

def start (s : List Char) : Cursor :=
  ⟨s, 0, 0, 0⟩

def char? (c : Cursor) : Option Char :=
  c.rest.head?

def charAt? (c : Cursor) (n : Nat) : Option Char :=
  c.rest[n]?

def sees (c : Cursor) (d : Char) : Bool :=
  c.char? == some d

def seesBlank (c : Cursor) : Bool :=
  c.char?.any isBlank

def seesBreak (c : Cursor) : Bool :=
  c.char?.any isBreak

/-- Moves on by some characters of a line. -/
def skip (c : Cursor) (n : Nat) : Cursor :=
  ⟨c.rest.drop n, c.index + n, c.line, c.column + n⟩

/-- Moves on over the characters for which a test holds; none of them ends a line. -/
def takeWhile (c : Cursor) (p : Char → Bool) : List Char × Cursor :=
  let taken := c.rest.takeWhile fun d => p d && !isBreak d
  (taken, c.skip taken.length)

def toLineEnd (c : Cursor) : Cursor :=
  (c.takeWhile fun _ => true).2

/-- Moves over the end of a line, which is read as a line feed unless it is one of the
separators of Unicode. Where no line ends, nothing is read. -/
def takeBreak (c : Cursor) : List Char × Cursor :=
  match c.rest with
  | '\r' :: '\n' :: rest => (['\n'], ⟨rest, c.index + 2, c.line + 1, 0⟩)
  | d :: rest =>
    if isBreak d then
      (if d.toNat < 0x2028 then ['\n'] else [d], ⟨rest, c.index + 1, c.line + 1, 0⟩)
    else ([], c)
  | [] => ([], c)

/-- A mark between documents, three hyphens or three dots, stands at the start of a line. -/
def seesMark (c : Cursor) (d : Char) : Bool :=
  c.column == 0 && c.rest.take 3 == [d, d, d] && isGap (c.charAt? 3)

def seesAnyMark (c : Cursor) : Bool :=
  c.seesMark '-' || c.seesMark '.'

end Cursor

/-- The blanks and line ends between two words of a scalar. -/
structure Gap where
  /-- The blanks before the first line end. -/
  blanks : List Char
  first : List Char
  others : List Char
  /-- There is a line end. -/
  broken : Bool

namespace Gap

def none : Gap :=
  ⟨[], [], [], false⟩

/-- A gap that starts with a line end which is not part of the scalar. -/
def escaped : Gap :=
  ⟨[], [], [], true⟩

/-- What a gap contributes to a scalar: blanks on one line stay, a single line end becomes a
space, and of several the first one is dropped. -/
def join (g : Gap) : List Char :=
  if g.broken then
    if g.first = ['\n'] then
      if g.others.isEmpty then [' '] else g.others
    else g.first ++ g.others
  else g.blanks

/-- Reads blanks and line ends. In a scalar without quotes no tab may stand left of the column
`indent` on a new line. `fuel` exceeds the number of characters. -/
def read (indent : Option Int) : Nat → Gap → Cursor → Option (Gap × Cursor)
  | 0, _, _ => Option.none
  | fuel + 1, g, c =>
    match c.char? with
    | Option.none => some (g, c)
    | some d =>
      if isBlank d then
        if g.broken && d == '\t' && indent.any ((c.column : Int) < ·) then Option.none
        else if g.broken then read indent fuel g (c.skip 1)
        else read indent fuel { g with blanks := g.blanks ++ [d] } (c.skip 1)
      else if isBreak d then
        let (b, next) := c.takeBreak
        if g.broken then read indent fuel { g with others := g.others ++ b } next
        else read indent fuel ⟨[], b, [], true⟩ next
      else some (g, c)

end Gap

end ConditionQuery.Yaml
