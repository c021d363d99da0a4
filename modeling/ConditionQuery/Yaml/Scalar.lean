import ConditionQuery.Yaml.Cursor
import ConditionQuery.Text.Utf8

set_option autoImplicit false

/-! # Scalars and names in YAML

The forms in which a text may be written: without quotes, between single or double quotes,
and as a block of lines, whose line ends are kept or folded. Besides these the module reads
the names of anchors and the parts of tags.
-/

namespace ConditionQuery.Yaml

/-! ## Scalars without quotes -/

/-- Characters that belong to a flow collection. -/
def isFlowSign (c : Char) : Bool :=
  c == ',' || c == '[' || c == ']' || c == '\x7b' || c == '\x7d'

/-- Takes a word of a scalar without quotes. A colon ends it if a gap follows, and in a flow
collection so do the signs of such collections, which may not follow a colon directly. -/
def plainWord (inFlow : Bool) : List Char → Option (List Char)
  | [] => some []
  | c :: rest =>
    if isBlank c || isBreak c then some []
    else if inFlow && c == ':' && rest.head?.any (fun d => isFlowSign d || d == '?') then none
    else if c == ':' && isGap rest.head? then some []
    else if inFlow && isFlowSign c then some []
    else (plainWord inFlow rest).map (c :: ·)

/-- Reads a scalar without quotes: its text, and whether a line end was read after it. Lines
after the first one stand at column `indent` or further right, except in a flow collection.
`fuel` exceeds the number of words. -/
def plainScalar (inFlow : Bool) (indent : Int) :
    Nat → List Char → Gap → Cursor → Option ((List Char × Bool) × Cursor)
  | 0, _, _, _ => none
  | fuel + 1, text, gap, c =>
    if c.seesAnyMark || c.sees '#' then some ((text, gap.broken), c)
    else do
      let word ← plainWord inFlow c.rest
      let c := c.skip word.length
      let (text, gap) := if word.isEmpty then (text, gap) else (text ++ gap.join ++ word, Gap.none)
      if c.seesBlank || c.seesBreak then
        let (gap, c) ← Gap.read (some indent) (c.rest.length + 1) gap c
        if !inFlow && (c.column : Int) < indent then return ((text, gap.broken), c)
        else plainScalar inFlow indent fuel text gap c
      else return ((text, gap.broken), c)

/-! ## Quoted scalars -/

def escapedChar? (c : Char) : Option Char :=
  [('0', 0x00), ('a', 0x07), ('b', 0x08), ('t', 0x09), ('\t', 0x09), ('n', 0x0A), ('v', 0x0B),
    ('f', 0x0C), ('r', 0x0D), ('e', 0x1B), (' ', 0x20), ('"', 0x22), ('/', 0x2F), ('\\', 0x5C),
    ('N', 0x85), ('_', 0xA0), ('L', 0x2028), ('P', 0x2029)].lookup c |>.map Char.ofNat

/-- The number of hexadecimal digits after a letter that starts a code point. -/
def codeLength? (c : Char) : Option Nat :=
  [('x', 2), ('u', 4), ('U', 8)].lookup c

/-- Takes a word of a quoted scalar: the characters up to a blank, a line end or the closing
quote. The answer tells whether the word ends with an escaped line end. `fuel` exceeds the
number of characters. -/
def quotedWord (quote : Char) :
    Nat → List Char → Cursor → Option ((List Char × Bool) × Cursor)
  | 0, _, _ => none
  | fuel + 1, taken, c =>
    match c.rest with
    | [] => some ((taken.reverse, false), c)
    | d :: rest =>
      if isBlank d || isBreak d then some ((taken.reverse, false), c)
      else if quote == '\'' && d == '\'' && rest.head? == some '\'' then
        quotedWord quote fuel ('\'' :: taken) (c.skip 2)
      else if d == quote then some ((taken.reverse, false), c)
      else if quote == '"' && d == '\\' then
        match rest with
        | [] => none
        | e :: digits =>
          if isBreak e then some ((taken.reverse, true), (c.skip 1).takeBreak.2)
          else
            match escapedChar? e, codeLength? e with
            | some x, _ => quotedWord quote fuel (x :: taken) (c.skip 2)
            | none, some n =>
              if (digits.take n).length = n then
                match (Text.Hexadecimal.read? (digits.take n)).bind Text.Hexadecimal.character? with
                | some x => quotedWord quote fuel (x :: taken) (c.skip (n + 2))
                | none => none
              else none
            | none, none => none
      else quotedWord quote fuel (d :: taken) (c.skip 1)

/-- Reads a quoted scalar after its opening quote. No mark between documents may stand in it.
`fuel` exceeds the number of words. -/
def quotedScalar (quote : Char) : Nat → List Char → Cursor → Option (List Char × Cursor)
  | 0, _, _ => none
  | fuel + 1, text, c =>
    if c.seesAnyMark || c.rest.isEmpty then none
    else do
      let ((word, escaped), c) ← quotedWord quote (c.rest.length + 1) [] c
      if c.sees quote then return (text ++ word, c.skip 1)
      else
        let start := if escaped then Gap.escaped else Gap.none
        let (gap, c) ← Gap.read none (c.rest.length + 1) start c
        quotedScalar quote fuel (text ++ word ++ gap.join) c

/-! ## Blocks of lines -/

/-- What happens to the line ends at the end of a block. -/
inductive Chomping where
  /-- All are dropped. -/
  | strip
  /-- One is kept. -/
  | clip
  /-- All are kept. -/
  | keep
deriving DecidableEq, Repr

def Chomping.ofSign? : Char → Option Chomping
  | '+' => some .keep
  | '-' => some .strip
  | _ => none

def chomping (c : Cursor) : Option Chomping × Cursor :=
  match c.char?.bind Chomping.ofSign? with
  | some k => (some k, c.skip 1)
  | none => (none, c)

/-- Takes the digit for the depth of a block, if there is one. Zero is no depth. -/
def blockDepth? (c : Cursor) : Option (Nat × Cursor) :=
  match c.char? with
  | some d =>
    if d.isDigit then
      if d == '0' then none else some (d.toNat - '0'.toNat, c.skip 1)
    else some (0, c)
  | none => some (0, c)

/-- Reads what stands after the sign of a block on its line: chomping and depth in either
order, and a comment. The depth is zero if it is not given. -/
def blockHeader (c : Cursor) : Option ((Chomping × Nat) × Cursor) := do
  let (first, c) := chomping c
  let (depth, c) ← blockDepth? c
  let (second, c) := if first.isNone && depth != 0 then chomping c else (none, c)
  let c := (c.takeWhile isBlank).2
  let c := if c.sees '#' then c.toLineEnd else c
  if c.rest.isEmpty || c.seesBreak then
    return (((first.or second).getD .clip, depth), c.takeBreak.2)
  else none

/-- Takes empty lines and the indentation of the line after them. The column `indent` of the
block is zero as long as it is not known; the largest column reached is kept. -/
def blockBreaks (indent : Nat) :
    Nat → Nat → List Char → Cursor → Option ((List Char × Nat) × Cursor)
  | 0, _, _, _ => none
  | fuel + 1, furthest, breaks, c =>
    let spaces := (c.takeWhile (· == ' ')).1.length
    let c := c.skip (if indent = 0 then spaces else min spaces (indent - c.column))
    let furthest := max furthest c.column
    if (indent = 0 || c.column < indent) && c.sees '\t' then none
    else if c.seesBreak then
      let (b, c) := c.takeBreak
      blockBreaks indent fuel furthest (breaks ++ b) c
    else some ((breaks, furthest), c)

/-- Takes the lines of a block that stand at column `indent`. `lead` is the end of the line
before and `breaks` are the empty lines after it; a folded line end becomes a space unless a
line beside it starts with a blank. -/
def blockLines (folded : Bool) (indent : Nat) :
    Nat → List Char → List Char → List Char → Bool → Cursor →
      Option ((List Char × List Char × List Char) × Cursor)
  | 0, _, _, _, _, _ => none
  | fuel + 1, text, lead, breaks, afterBlank, c =>
    if c.column = indent && !c.rest.isEmpty then do
      let blank := c.seesBlank
      let joint :=
        if folded && lead = ['\n'] && !afterBlank && !blank then
          if breaks.isEmpty then [' '] else breaks
        else lead ++ breaks
      let (line, c) := c.takeWhile fun _ => true
      let (lead, c) := c.takeBreak
      let ((breaks, _), c) ← blockBreaks indent (c.rest.length + 1) 0 [] c
      blockLines folded indent fuel (text ++ joint ++ line) lead breaks blank c
    else some ((text, lead, breaks), c)

/-- Reads a block after its sign. `parent` is the column of the collection around it, or -1
if there is none. -/
def blockScalar (folded : Bool) (parent : Int) (c : Cursor) : Option (List Char × Cursor) := do
  let ((chomping, depth), c) ← blockHeader c
  let known := if depth = 0 then 0 else (max parent 0).toNat + depth
  let ((breaks, furthest), c) ← blockBreaks known (c.rest.length + 1) 0 [] c
  let indent := if known = 0 then max furthest (max (parent + 1) 1).toNat else known
  let ((text, lead, breaks), c) ←
    blockLines folded indent (c.rest.length + 1) [] [] breaks false c
  return (match chomping with
    | .strip => text
    | .clip => text ++ lead
    | .keep => text ++ lead ++ breaks, c)

/-! ## Names and tags -/

def anchorName (c : Cursor) : Option (List Char × Cursor) :=
  let (name, c) := c.takeWhile isNameChar
  let ends := isGap c.char?
    || c.char?.any fun d => ['?', ':', ',', ']', '\x7d', '%', '@', '\x60'].contains d
  if name.isEmpty || !ends then none else some (name, c)

/-- A character of the second part of a tag. In directives and between angle brackets the
signs of flow collections may stand there too. -/
def isTagChar (wide : Bool) (c : Char) : Bool :=
  isNameChar c
    || [';', '/', '?', ':', '@', '&', '=', '+', '$', '.', '!', '~', '*', '\'', '(', ')'].contains c
    || (wide && (c == ',' || c == '[' || c == ']'))

def escapedBytes : List Char → Option (List UInt8)
  | '%' :: a :: b :: rest => do
    let n ← Text.Hexadecimal.read? [a, b]
    let bytes ← escapedBytes rest
    return UInt8.ofNat n :: bytes
  | '%' :: _ => none
  | _ => some []

/-- Takes the characters of the second part of a tag; `fuel` exceeds their number. -/
def tagChars (wide : Bool) : Nat → List Char → Cursor → Option (List Char × Cursor)
  | 0, _, _ => none
  | fuel + 1, taken, c =>
    match c.char? with
    | some '%' => do
      let bytes ← escapedBytes c.rest
      let text ← Text.Utf8.read? bytes
      tagChars wide fuel (taken ++ text.toList) (c.skip (3 * bytes.length))
    | some d =>
      if isTagChar wide d then tagChars wide fuel (taken ++ [d]) (c.skip 1) else some (taken, c)
    | none => some (taken, c)

/-- Takes the handle of a tag: an exclamation mark, or a name between two of them. In a
directive the second mark must be there. -/
def tagHandle (inDirective : Bool) (c : Cursor) : Option (List Char × Cursor) :=
  if c.sees '!' then
    let (name, after) := (c.skip 1).takeWhile isNameChar
    if after.sees '!' then some ('!' :: name ++ ['!'], after.skip 1)
    else if inDirective && !name.isEmpty then none
    else some ('!' :: name, after)
  else none

def tag (inFlow : Bool) (c : Cursor) : Option ((List Char × List Char) × Cursor) := do
  let (result, c) ←
    if c.charAt? 1 == some '<' then do
      let (text, c) ← tagChars true (c.rest.length + 1) [] (c.skip 2)
      if text.isEmpty || !c.sees '>' then none else some (([], text), c.skip 1)
    else do
      let (handle, c) ← tagHandle false c
      if 1 < handle.length && handle.getLast? == some '!' then do
        let (text, c) ← tagChars false (c.rest.length + 1) [] c
        if text.isEmpty then none else some ((handle, text), c)
      else do
        let (text, c) ← tagChars false (c.rest.length + 1) (handle.drop 1) c
        if text.isEmpty then some (([], ['!']), c) else some ((['!'], text), c)
  if isGap c.char? || (inFlow && c.sees ',') then return (result, c) else none

end ConditionQuery.Yaml
