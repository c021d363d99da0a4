import ConditionQuery.Pattern.Tree
import ConditionQuery.Text.Blank
import ConditionQuery.Text.Decimal
import ConditionQuery.Unicode.Property

set_option autoImplicit false

/-! # The tokens of a pattern

A written pattern is a row of tokens: atoms, which match or assert something by themselves,
and the signs that combine them. The functions here take a token from the start of a text
and return it with the rest of the text, or nothing if the text starts with no token. A
parameter `verbose` tells whether blanks and comments are skipped.
-/

namespace ConditionQuery.Pattern

open Text

inductive Token where
  /-- A pattern that is complete by itself, or switches. -/
  | atom (t : Tree)
  | opening (s : List Switch) (name : Option (List Char))
  | closing
  | bar
  | repetition (least : Nat) (most : Option Nat)

/-- Skips blanks, and comments from a number sign to the end of the line. -/
def skipComments : Bool → List Char → List Char
  | _, [] => []
  | true, c :: rest => skipComments (c != '\n') rest
  | false, c :: rest =>
    if c == '#' then skipComments true rest
    else if isBlank c then skipComments false rest
    else c :: rest

def skip (verbose : Bool) (s : List Char) : List Char :=
  if verbose then skipComments false s else s

def dropStart? : List Char → List Char → Option (List Char)
  | [], s => some s
  | c :: p, d :: s => if c = d then dropStart? p s else none
  | _ :: _, [] => none

/-! ## Escapes -/

/-- A character that has a meaning of its own in a pattern. -/
def isMeta (c : Char) : Bool :=
  ['\\', '.', '+', '*', '?', '(', ')', '|', '[', ']', '\x7b', '\x7d', '^', '$',
    '#', '&', '-', '~'].contains c

/-- A character that a backslash may make literal: a sign of ASCII other than the angle
brackets. -/
def isEscapable (c : Char) : Bool :=
  isMeta c || (c.toNat < 0x80 && !c.isAlphanum && c != '<' && c != '>')

/-- A character that was not written as a byte. -/
def plain (c : Char) : Tree :=
  .literal ⟨c, false⟩

/-- Reads the character with the given hexadecimal digits, which fit a word of 32 bits. -/
def hexCharacter? (digits : List Char) : Option Char :=
  ((Hexadecimal.read? digits).filter (· < 0x100000000)).bind Hexadecimal.character?

/-- Takes `n` more hexadecimal digits, and then skips what a verbose pattern ignores. -/
def hexDigits (verbose : Bool) : Nat → List Char → List Char → Option (List Char × List Char)
  | 0, taken, s => some (taken.reverse, s)
  | n + 1, taken, c :: s =>
    if (Hexadecimal.digit? c).isSome then hexDigits verbose n (c :: taken) (skip verbose s)
    else none
  | _ + 1, _, [] => none

/-- Takes hexadecimal digits up to a closing brace; `fuel` bounds their number. -/
def bracedHexDigits (verbose : Bool) :
    Nat → List Char → List Char → Option (List Char × List Char)
  | fuel + 1, taken, c :: s =>
    if c = '\x7d' then some (taken.reverse, skip verbose s)
    else if (Hexadecimal.digit? c).isSome then
      bracedHexDigits verbose fuel (c :: taken) (skip verbose s)
    else none
  | _, _, _ => none

/-- Reads the character after an escape for a code point with `n` digits or with braces. -/
def hexEscape (verbose : Bool) (n : Nat) (s : List Char) : Option (Literal × List Char) :=
  match skip verbose s with
  | c :: rest =>
    if c = '\x7b' then do
      let (digits, s) ← bracedHexDigits verbose (rest.length + 1) [] (skip verbose rest)
      let c ← hexCharacter? digits
      return (⟨c, false⟩, s)
    else do
      let (digits, s) ← hexDigits verbose n [] (c :: rest)
      let c ← hexCharacter? digits
      return (⟨c, n == 2⟩, s)
  | [] => none

/-- Takes characters up to a closing brace; `fuel` bounds their number. -/
def bracedName (verbose : Bool) :
    Nat → List Char → List Char → Option (List Char × List Char)
  | fuel + 1, taken, c :: s =>
    if c = '\x7d' then some (taken.reverse, s)
    else bracedName verbose fuel (c :: taken) (skip verbose s)
  | _, _, _ => none

/-- Cuts a text at the first place where `mark` stands. -/
def cutAt? (mark : List Char) : List Char → Option (List Char × List Char)
  | [] => none
  | c :: s =>
    match dropStart? mark (c :: s) with
    | some rest => some ([], rest)
    | none => (cutAt? mark s).map fun (a, b) => (c :: a, b)

/-- The property that a name between braces asks for, and whether it is negated. -/
def propertyName (name : List Char) : PropertyName × Bool :=
  match cutAt? ['!', '='] name with
  | some (p, v) => (⟨some p, v⟩, true)
  | none =>
    match (cutAt? [':'] name).or (cutAt? ['='] name) with
    | some (p, v) => (⟨some p, v⟩, false)
    | none => (⟨none, name⟩, false)

/-- Reads a property after its escape letter: one letter, or a name between braces. -/
def propertyEscape (verbose negated : Bool) (s : List Char) : Option (Tree × List Char) :=
  match skip verbose s with
  | c :: rest =>
    if c = '\x7b' then do
      let (name, s) ← bracedName verbose (rest.length + 1) [] (skip verbose rest)
      let (p, inverted) := propertyName name
      return (.property p (negated != inverted), s)
    else if c = '\\' then none
    else some (.property ⟨none, [c]⟩ negated, skip verbose rest)
  | [] => none

/-- Takes the letters and hyphens of a name; `fuel` bounds their number. -/
def boundaryName (verbose : Bool) : Nat → List Char → List Char → List Char × List Char
  | fuel + 1, taken, c :: s =>
    if c.isAlpha || c == '-' then boundaryName verbose fuel (c :: taken) (skip verbose s)
    else (taken.reverse, c :: s)
  | _, taken, s => (taken.reverse, s)

/-- Reads what follows a word boundary: the kind of boundary between braces, or nothing. A
brace that neither a letter nor a hyphen follows belongs to a repetition. -/
def boundaryKind (verbose : Bool) (s : List Char) : Option (Anchor × List Char) :=
  match s with
  | b :: rest =>
    if b = '\x7b' then
      match skip verbose rest with
      | [] => none
      | c :: inner =>
        if c.isAlpha || c == '-' then
          let (name, after) := boundaryName verbose (inner.length + 1) [] (c :: inner)
          match after with
          | e :: after =>
            if e = '\x7d' then
              match String.ofList name with
              | "start" => some (.wordStart, after)
              | "end" => some (.wordEnd, after)
              | "start-half" => some (.wordStartHalf, after)
              | "end-half" => some (.wordEndHalf, after)
              | _ => none
            else none
          | [] => none
        else some (.boundary, s)
    else some (.boundary, s)
  | [] => some (.boundary, s)

/-- Reads what a backslash stands for together with what follows it. -/
def escape (verbose : Bool) : List Char → Option (Tree × List Char)
  | [] => none
  | 'x' :: s => (hexEscape verbose 2 s).map fun (l, s) => (.literal l, s)
  | 'u' :: s => (hexEscape verbose 4 s).map fun (l, s) => (.literal l, s)
  | 'U' :: s => (hexEscape verbose 8 s).map fun (l, s) => (.literal l, s)
  | 'p' :: s => propertyEscape verbose false s
  | 'P' :: s => propertyEscape verbose true s
  | 'd' :: s => some (.shorthand .digit false, s)
  | 'D' :: s => some (.shorthand .digit true, s)
  | 's' :: s => some (.shorthand .space false, s)
  | 'S' :: s => some (.shorthand .space true, s)
  | 'w' :: s => some (.shorthand .word false, s)
  | 'W' :: s => some (.shorthand .word true, s)
  | 'a' :: s => some (plain ('\x07'), s)
  | 'f' :: s => some (plain ('\x0c'), s)
  | 't' :: s => some (plain '\t', s)
  | 'n' :: s => some (plain '\n', s)
  | 'r' :: s => some (plain '\r', s)
  | 'v' :: s => some (plain ('\x0b'), s)
  | 'A' :: s => some (.anchor .textStart, s)
  | 'z' :: s => some (.anchor .textEnd, s)
  | 'b' :: s => (boundaryKind verbose s).map fun (a, s) => (.anchor a, s)
  | 'B' :: s => some (.anchor .noBoundary, s)
  | '<' :: s => some (.anchor .wordStart, s)
  | '>' :: s => some (.anchor .wordEnd, s)
  | c :: s => if isEscapable c then some (plain c, s) else none

/-! ## Bracketed classes -/

def posixClass? (name : List Char) : Option PosixClass :=
  match String.ofList name with
  | "alnum" => some .alnum
  | "alpha" => some .alpha
  | "ascii" => some .ascii
  | "blank" => some .blank
  | "cntrl" => some .cntrl
  | "digit" => some .digit
  | "graph" => some .graph
  | "lower" => some .lower
  | "print" => some .print
  | "punct" => some .punct
  | "space" => some .space
  | "upper" => some .upper
  | "word" => some .word
  | "xdigit" => some .xdigit
  | _ => none

/-- Reads a class name between colons and brackets, after the opening bracket. -/
def posix (s : List Char) : Option (SetTree × List Char) := do
  let s ← dropStart? [':'] s
  let (negated, s) := match s with
    | '^' :: rest => (true, rest)
    | s => (false, s)
  let (name, s) ← cutAt? [':'] s
  let s ← dropStart? [']'] s
  let p ← posixClass? name
  return (.posix p negated, s)

def setAtom (verbose : Bool) : List Char → Option (Tree × List Char)
  | [] => none
  | '\\' :: s => escape verbose s
  | c :: s => some (plain c, s)

/-- An atom as an item of a bracketed class. Assertions are none. -/
def setItem? : Tree → Option SetTree
  | .literal l => some (.single l)
  | .shorthand s negated => some (.shorthand s negated)
  | .property p negated => some (.property p negated)
  | _ => none

/-- The character of an atom, for the ends of a range. -/
def setLiteral? : Tree → Option Literal
  | .literal l => some l
  | _ => none

/-- Reads an item of a bracketed class: an atom, or two characters with a hyphen between
them that neither a closing bracket nor another hyphen follows. -/
def setRange (verbose : Bool) (s : List Char) : Option (SetTree × List Char) := do
  let (a, s) ← setAtom verbose s
  match skip verbose s with
  | [] => none
  | c :: rest =>
    let after := (skip verbose rest).head?
    if c != '-' || after == some ']' || after == some '-' then
      let item ← setItem? a
      return (item, c :: rest)
    else
      let (b, s) ← setAtom verbose (skip verbose rest)
      let first ← setLiteral? a
      let last ← setLiteral? b
      if first.char ≤ last.char then return (.range first last, s) else none

/-- Items side by side; one item is not wrapped. -/
def sideBySide : List SetTree → SetTree
  | [t] => t
  | items => .union items

/-- The part of a class to the left of an operator and the operator, if there is one. -/
abbrev Pending := Option (SetTree × SetOperator)

/-- The class up to here: the items read since the last operator, joined to what stands to
the left of it. -/
def settle (pending : Pending) (items : List SetTree) : SetTree :=
  match pending with
  | none => sideBySide items.reverse
  | some (left, op) => .operation op left (sideBySide items.reverse)

/-- Takes hyphens from the start of a class, where they stand for themselves. -/
def leadingHyphens (verbose : Bool) :
    Nat → List SetTree → List Char → List SetTree × List Char
  | fuel + 1, items, '-' :: s =>
    leadingHyphens verbose fuel (.single ⟨'-', false⟩ :: items) (skip verbose s)
  | _, items, s => (items, s)

mutual

/-- Reads a bracketed class after its opening bracket. A closing bracket in the first place
stands for itself. -/
def bracketed (verbose : Bool) : Nat → List Char → Option ((Bool × SetTree) × List Char)
  | 0, _ => none
  | fuel + 1, s =>
    let s := skip verbose s
    let (negated, s) := match s with
      | '^' :: rest => (true, skip verbose rest)
      | s => (false, s)
    let (items, s) := leadingHyphens verbose s.length [] s
    let (items, s) := match items, s with
      | [], ']' :: rest => ([.single ⟨']', false⟩], skip verbose rest)
      | items, s => (items, s)
    (setBody verbose fuel none items s).map fun (body, s) => ((negated, body), s)

def setBody (verbose : Bool) :
    Nat → Pending → List SetTree → List Char → Option (SetTree × List Char)
  | 0, _, _, _ => none
  | fuel + 1, pending, items, s =>
    match skip verbose s with
    | [] => none
    | ']' :: s => some (settle pending items, s)
    | '&' :: '&' :: s => setBody verbose fuel (some (settle pending items, .intersection)) [] s
    | '-' :: '-' :: s => setBody verbose fuel (some (settle pending items, .difference)) [] s
    | '~' :: '~' :: s =>
      setBody verbose fuel (some (settle pending items, .symmetricDifference)) [] s
    | '[' :: s =>
      match posix s with
      | some (item, s) => setBody verbose fuel pending (item :: items) s
      | none =>
        (bracketed verbose fuel s).bind fun ((negated, body), s) =>
          setBody verbose fuel pending (.bracketed negated body :: items) s
    | c :: s =>
      (setRange verbose (c :: s)).bind fun (item, s) =>
        setBody verbose fuel pending (item :: items) s

end

/-! ## Groups and repetitions -/

def flag? : Char → Option Flag
  | 'i' => some .ignoreCase
  | 'm' => some .multiLine
  | 's' => some .dotAll
  | 'U' => some .swapGreed
  | 'u' => some .unicode
  | 'R' => some .anyLineEnd
  | 'x' => some .verbose
  | _ => none

/-- Reads switches up to a colon or a closing parenthesis, which is left. A hyphen clears
the flags after it; it may stand once and not last, and no flag may stand twice. -/
def switches (cleared afterHyphen : Bool) (taken : List Switch) :
    List Char → Option (List Switch × List Char)
  | [] => none
  | c :: s =>
    if c == ':' || c == ')' then
      if afterHyphen then none else some (taken.reverse, c :: s)
    else if c == '-' then
      if cleared then none else switches true true taken s
    else
      match flag? c with
      | none => none
      | some f =>
        if taken.any (·.1 = f) then none else switches cleared false ((f, !cleared) :: taken) s

/-- A character of a group's name; the first one may be no digit or bracket. -/
def isNameChar (first : Bool) (c : Char) : Bool :=
  c == '_'
    || if first then Unicode.Property.alphabetic.contains c
      else c == '.' || c == '[' || c == ']' || Unicode.Property.alphanumeric.contains c

/-- Reads the name of a group, which a closing angle bracket ends. -/
def groupName (taken : List Char) : List Char → Option (List Char × List Char)
  | [] => none
  | c :: s =>
    if c == '>' then
      if taken.isEmpty then none else some (taken.reverse, s)
    else if isNameChar taken.isEmpty c then groupName (c :: taken) s
    else none

/-- Reads the start of a group, or switches, after the opening parenthesis. -/
def groupStart (verbose : Bool) (s : List Char) : Option (Token × List Char) :=
  match skip verbose s with
  | '?' :: s =>
    match s with
    | '=' :: _ | '!' :: _ => none
    | '<' :: '=' :: _ | '<' :: '!' :: _ => none
    | 'P' :: '<' :: s | '<' :: s =>
      (groupName [] s).map fun (name, s) => (.opening [] (some name), s)
    | s =>
      match switches false false [] s with
      | some (f, ':' :: s) => some (.opening f none, s)
      | some (f, _ :: s) => if f.isEmpty then none else some (.atom (.switches f), s)
      | _ => none
  | s => some (.opening [] none, s)

/-- Takes digits, and skips what a verbose pattern ignores after each; `fuel` bounds their
number. -/
def digits (verbose : Bool) : Nat → List Char → List Char → List Char × List Char
  | fuel + 1, taken, c :: s =>
    if Decimal.isDigit c then digits verbose fuel (c :: taken) (skip verbose s)
    else (taken.reverse, c :: s)
  | _, taken, s => (taken.reverse, s)

/-- Reads a number of a repetition, with blanks on both sides, if there is one. -/
def count (verbose : Bool) (s : List Char) : Option Nat × List Char :=
  let (ds, s) := digits verbose s.length [] (trimLeft s)
  (Decimal.read? ds, trimLeft (skip verbose s))

/-- A number of a repetition fits a word of 32 bits. -/
def countLimit : Nat := 0x100000000

/-- Reads the numbers of a repetition after the opening brace, and the sign for a reluctant
repetition, which changes nothing here. -/
def countedRepetition (verbose : Bool) (s : List Char) : Option (Token × List Char) := do
  let (least?, s) := count verbose (skip verbose s)
  let least ← least?.filter (· < countLimit)
  let (most, s) ← match s with
    | ',' :: s =>
      match skip verbose s with
      | [] => none
      | c :: rest =>
        if c = '\x7d' then some (none, c :: rest)
        else
          let (most?, s) := count verbose (c :: rest)
          (most?.filter (· < countLimit)).map fun n => (some n, s)
    | s => some (some least, s)
  match s with
  | c :: s =>
    if c = '\x7d' && most.all (least ≤ ·) then
      match skip verbose s with
      | '?' :: s => return (.repetition least most, s)
      | s => return (.repetition least most, s)
    else none
  | [] => none

def dropReluctant : List Char → List Char
  | '?' :: s => s
  | s => s

/-- Reads a token; the text is not empty. -/
def token (verbose : Bool) : List Char → Option (Token × List Char)
  | [] => none
  | '(' :: s => groupStart verbose s
  | ')' :: s => some (.closing, s)
  | '|' :: s => some (.bar, s)
  | '[' :: s =>
    (bracketed verbose (2 * s.length + 2) s).map fun ((negated, body), s) =>
      (.atom (.bracketed negated body), s)
  | '?' :: s => some (.repetition 0 (some 1), dropReluctant s)
  | '*' :: s => some (.repetition 0 none, dropReluctant s)
  | '+' :: s => some (.repetition 1 none, dropReluctant s)
  | '\\' :: s => (escape verbose s).map fun (t, s) => (.atom t, s)
  | '.' :: s => some (.atom .dot, s)
  | '^' :: s => some (.atom (.anchor .lineStart), s)
  | '$' :: s => some (.atom (.anchor .lineEnd), s)
  | c :: s =>
    if c = '\x7b' then countedRepetition verbose s else some (.atom (plain c), s)

def verboseAfter (s : List Switch) (verbose : Bool) : Bool :=
  s.foldl (fun v (f, value) => if f = .verbose then value else v) verbose

/-- Reads tokens to the end of the text. `outer` holds, for every group that is open, whether
the pattern around it is verbose; `fuel` exceeds the number of tokens. -/
def tokens : Nat → Bool → List Bool → List Char → Option (List Token)
  | 0, _, _, _ => none
  | fuel + 1, verbose, outer, s =>
    match skip verbose s with
    | [] => some []
    | c :: s =>
      (token verbose (c :: s)).bind fun (t, s) =>
        let (verbose, outer) := match t, outer with
          | .opening f _, outer => (verboseAfter f verbose, verbose :: outer)
          | .closing, v :: outer => (v, outer)
          | .atom (.switches f), outer => (verboseAfter f verbose, outer)
          | _, outer => (verbose, outer)
        (tokens fuel verbose outer s).map (t :: ·)

/-- The tokens of a written pattern, if it has no other parts. -/
def tokens? (s : List Char) : Option (List Token) :=
  tokens (s.length + 1) false [] s

end ConditionQuery.Pattern
