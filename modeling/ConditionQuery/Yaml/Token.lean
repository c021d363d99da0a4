import ConditionQuery.Yaml.Scalar

set_option autoImplicit false

/-! # The tokens of a YAML text

A text is read into tokens: scalars and their properties, the signs of flow collections, and
the starts and ends of the collections that indentation shows. A mapping's key is recognized
only by the colon after it, so the place before anything that may be a key is remembered, and
the tokens for the key are put there when the colon is found.
-/

namespace ConditionQuery.Yaml

inductive Token where
  | version (major minor : Nat)
  /-- A handle for tags and what it stands for. -/
  | handle (name meaning : List Char)
  | documentStart
  | documentEnd
  /-- The start of a sequence that indentation shows. -/
  | blockSequence
  /-- The start of a mapping that indentation shows. -/
  | blockMapping
  /-- The end of a collection that indentation shows. -/
  | blockEnd
  | flowSequence
  | flowSequenceEnd
  | flowMapping
  | flowMappingEnd
  /-- The hyphen before an item. -/
  | blockEntry
  /-- The comma between items. -/
  | flowEntry
  | key
  | value
  /-- A reference to an anchor. -/
  | alias (name : List Char)
  | anchor (name : List Char)
  /-- The type of the node that follows. -/
  | tag (handle suffix : List Char)
  | scalar (text : List Char) (plain : Bool)
deriving DecidableEq, Repr

/-- The place before something that may be a key. -/
structure KeyPlace where
  /-- Nothing but a key may stand there. -/
  required : Bool
  tokens : Nat
  place : Cursor

/-- What is known while a text is read into tokens. -/
structure Scanner where
  cursor : Cursor
  tokens : Array Token
  /-- The column of the innermost collection that indentation shows, or -1. -/
  indent : Int
  /-- The columns of the collections around it. -/
  outer : List Int
  keyAllowed : Bool
  /-- The place where a key may have started. -/
  pending : Option KeyPlace
  /-- The same for the flow collections around this one; there is one for every flow
  collection that is open. -/
  outerPending : List (Option KeyPlace)

namespace Scanner

def start (s : List Char) : Scanner :=
  ⟨.start s, #[], -1, [], true, none, []⟩

def inFlow (s : Scanner) : Bool :=
  !s.outerPending.isEmpty

def push (s : Scanner) (t : Token) : Scanner :=
  { s with tokens := s.tokens.push t }

/-- Adds a token for the next `n` characters. -/
def take (s : Scanner) (t : Token) (n : Nat) : Scanner :=
  { s.push t with cursor := s.cursor.skip n }

/-- Puts a token where a key started, or at the end. -/
def insert (s : Scanner) (place : Option Nat) (t : Token) : Scanner :=
  match place with
  | some n => { s with tokens := (s.tokens.toList.take n ++ t :: s.tokens.toList.drop n).toArray }
  | none => s.push t

/-- Gives up the place where a key may have started. -/
def dropKey? (s : Scanner) : Option Scanner :=
  if s.pending.any KeyPlace.required then none else some { s with pending := none }

/-- Remembers the place as one where a key may start. -/
def saveKey? (s : Scanner) : Option Scanner :=
  if s.keyAllowed then
    s.dropKey?.map fun s =>
      let required := !s.inFlow && s.indent == (s.cursor.column : Int)
      { s with pending := some ⟨required, s.tokens.size, s.cursor⟩ }
  else some s

/-- Forgets the place where a key may have started if the key would be too long: a key ends
on its line, at most 1024 characters on. -/
def freshKey? (s : Scanner) : Option Scanner :=
  match s.pending with
  | some k =>
    if k.place.line < s.cursor.line || k.place.index + 1024 < s.cursor.index then s.dropKey?
    else some s
  | none => some s

/-- Starts a collection at a column to the right of the one around it. -/
def deepen (s : Scanner) (column : Nat) (place : Option Nat) (t : Token) : Scanner :=
  if !s.inFlow && s.indent < column then
    { s.insert place t with indent := column, outer := s.indent :: s.outer }
  else s

/-- Ends the collections that start to the right of a column. -/
def unwind (column : Int) : List Int → Scanner → Scanner
  | [], s => s
  | i :: outer, s =>
    if s.indent ≤ column then s
    else unwind column outer { s.push .blockEnd with indent := i, outer := outer }

/-- Ends the collections that start to the right of a column, outside flow collections. -/
def dedent (s : Scanner) (column : Int) : Scanner :=
  if s.inFlow then s else unwind column s.outer s

/-- Moves on over blanks, comments and line ends. Tabs count as blanks only where no key may
start; a new line lets a key start, except in a flow collection. `fuel` exceeds the number of
lines. -/
def toToken (inFlow : Bool) : Nat → Bool → Cursor → Bool × Cursor
  | 0, keyAllowed, c => (keyAllowed, c)
  | fuel + 1, keyAllowed, c =>
    let c := if c.column == 0 && c.sees '\uFEFF' then c.skip 1 else c
    let c := (c.takeWhile fun d => d == ' ' || (d == '\t' && (inFlow || !keyAllowed))).2
    let c := if c.sees '#' then c.toLineEnd else c
    if c.seesBreak then toToken inFlow fuel (keyAllowed || !inFlow) c.takeBreak.2
    else (keyAllowed, c)

/-- Takes a number of at most nine digits. -/
def number? (c : Cursor) : Option (Nat × Cursor) :=
  let (ds, c) := c.takeWhile Char.isDigit
  if ds.isEmpty || 9 < ds.length then none
  else some (ds.foldl (fun n d => 10 * n + (d.toNat - '0'.toNat)) 0, c)

def version? (c : Cursor) : Option (Token × Cursor) := do
  let (major, c) ← number? (c.takeWhile isBlank).2
  if !c.sees '.' then none
  let (minor, c) ← number? (c.skip 1)
  return (.version major minor, c)

def handle? (c : Cursor) : Option (Token × Cursor) := do
  let (name, c) ← tagHandle true (c.takeWhile isBlank).2
  if !c.seesBlank then none
  let (meaning, c) ← tagChars true (c.rest.length + 1) [] (c.takeWhile isBlank).2
  if meaning.isEmpty || !isGap c.char? then none
  return (.handle name meaning, c)

/-- Moves on over blanks and a comment to the next line; nothing else may stand before it. -/
def lineRest? (c : Cursor) : Option Cursor :=
  let c := (c.takeWhile isBlank).2
  let c := if c.sees '#' then c.toLineEnd else c
  if c.rest.isEmpty || c.seesBreak then some c.takeBreak.2 else none

/-- Reads a directive after its percent sign, up to the end of the line. -/
def directive? (c : Cursor) : Option (Token × Cursor) :=
  let (name, after) := c.takeWhile isNameChar
  let read :=
    if !isGap after.char? then none
    else if name = "YAML".toList then version? after
    else if name = "TAG".toList then handle? after
    else none
  read.bind fun (t, c) => (lineRest? c).map fun c => (t, c)

/-- Leaves all collections, before a directive or a mark between documents. -/
def leave? (s : Scanner) : Option Scanner :=
  (s.dedent (-1)).dropKey?.map fun s => { s with keyAllowed := false }

/-- Adds a token that was read from the text, after which no key may start. -/
def took (s : Scanner) (t : Token) (c : Cursor) : Scanner :=
  { s.push t with cursor := c, keyAllowed := false }

def openFlow? (s : Scanner) (t : Token) : Option Scanner :=
  s.saveKey?.map fun s =>
    { s.take t 1 with
      keyAllowed := true, pending := none, outerPending := s.pending :: s.outerPending }

def closeFlow? (s : Scanner) (t : Token) : Option Scanner :=
  s.dropKey?.map fun s =>
    let s := { s.take t 1 with keyAllowed := false }
    match s.outerPending with
    | p :: rest => { s with pending := p, outerPending := rest }
    | [] => s

/-- Reads the hyphen before an item. -/
def entry? (s : Scanner) : Option Scanner := do
  if !s.inFlow && !s.keyAllowed then none
  let s ← (s.deepen s.cursor.column none .blockSequence).dropKey?
  return { s.take .blockEntry 1 with keyAllowed := true }

/-- Reads the question mark before a key. -/
def key? (s : Scanner) : Option Scanner := do
  if !s.inFlow && !s.keyAllowed then none
  let s ← (s.deepen s.cursor.column none .blockMapping).dropKey?
  return { s.take .key 1 with keyAllowed := !s.inFlow }

/-- Reads the colon before a value. If a key was pending it is one. -/
def value? (s : Scanner) : Option Scanner := do
  let s ← s.freshKey?
  match s.pending with
  | some k =>
    let s := (s.insert (some k.tokens) .key).deepen k.place.column (some k.tokens) .blockMapping
    return { s.take .value 1 with keyAllowed := false, pending := none }
  | none =>
    if !s.inFlow && !s.keyAllowed then none
    let s := s.deepen s.cursor.column none .blockMapping
    return { s.take .value 1 with keyAllowed := !s.inFlow }

/-- Reads a scalar without quotes. A line end after it lets a key start. -/
def plain? (s : Scanner) : Option Scanner := do
  let s ← s.saveKey?
  let ((text, broken), c) ←
    plainScalar s.inFlow (s.indent + 1) (s.cursor.rest.length + 1) [] Gap.none s.cursor
  return { s.took (.scalar text true) c with keyAllowed := broken }

def quoted? (s : Scanner) (quote : Char) : Option Scanner := do
  let s ← s.saveKey?
  let (text, c) ← quotedScalar quote (s.cursor.rest.length + 1) [] (s.cursor.skip 1)
  return s.took (.scalar text false) c

def block? (s : Scanner) (folded : Bool) : Option Scanner := do
  let s ← s.dropKey?
  let (text, c) ← blockScalar folded s.indent (s.cursor.skip 1)
  return { s.took (.scalar text false) c with keyAllowed := true }

/-- Reads an anchor or an alias. -/
def named? (s : Scanner) (make : List Char → Token) : Option Scanner := do
  let s ← s.saveKey?
  let (name, c) ← anchorName (s.cursor.skip 1)
  return s.took (make name) c

def tag? (s : Scanner) : Option Scanner := do
  let s ← s.saveKey?
  let ((handle, suffix), c) ← tag s.inFlow s.cursor
  return s.took (.tag handle suffix) c

def startsPlain (s : Scanner) (d : Char) : Bool :=
  let next := s.cursor.charAt? 1
  let sign := ['-', '?', ':', ',', '[', ']', '\x7b', '\x7d', '#', '&', '*', '!', '|', '>', '\'',
    '"', '%', '@', '\x60'].contains d
  !(isBlank d || isBreak d || sign) || (d == '-' && !next.any isBlank)
    || (!s.inFlow && (d == '?' || d == ':') && !isGap next)

/-- Reads a token that starts with the character `d`. -/
def token? (s : Scanner) (d : Char) : Option Scanner :=
  let c := s.cursor
  let gap := isGap (c.charAt? 1)
  if c.column == 0 && d == '%' then
    s.leave?.bind fun s => (directive? (c.skip 1)).map fun (t, c) => s.took t c
  else if c.seesMark '-' then s.leave?.map fun s => s.took .documentStart (c.skip 3)
  else if c.seesMark '.' then s.leave?.map fun s => s.took .documentEnd (c.skip 3)
  else if d == '[' then s.openFlow? .flowSequence
  else if d == '\x7b' then s.openFlow? .flowMapping
  else if d == ']' then s.closeFlow? .flowSequenceEnd
  else if d == '\x7d' then s.closeFlow? .flowMappingEnd
  else if d == ',' then s.dropKey?.map fun s => { s.take .flowEntry 1 with keyAllowed := true }
  else if d == '-' && gap then s.entry?
  else if d == '?' && (s.inFlow || gap) then s.key?
  else if d == ':' && (s.inFlow || gap) then s.value?
  else if d == '*' then s.named? .alias
  else if d == '&' then s.named? .anchor
  else if d == '!' then s.tag?
  else if d == '|' && !s.inFlow then s.block? false
  else if d == '>' && !s.inFlow then s.block? true
  else if d == '\'' || d == '"' then s.quoted? d
  else if s.startsPlain d then s.plain?
  else none

/-- Reads tokens to the end of the text; `fuel` exceeds their number. -/
def run : Nat → Scanner → Option (List Token)
  | 0, _ => none
  | fuel + 1, s =>
    let (keyAllowed, c) := toToken s.inFlow (s.cursor.rest.length + 1) s.keyAllowed s.cursor
    ({ s with keyAllowed := keyAllowed, cursor := c } : Scanner).freshKey?.bind fun s =>
      let s := s.dedent c.column
      match c.char? with
      | some d => (s.token? d).bind (run fuel)
      | none => s.leave?.map fun last => last.tokens.toList

end Scanner

/-- The tokens of a text. A byte order mark at its start is skipped, and no control
characters may stand in it. -/
def tokens? (s : List Char) : Option (List Token) :=
  let s := match s with
    | '\uFEFF' :: rest => rest
    | s => s
  if s.all isAllowed then Scanner.run (s.length + 1) (.start s) else none

end ConditionQuery.Yaml
