import ConditionQuery.Environment.Basic
import ConditionQuery.Text.Blank
import ConditionQuery.Unicode.Property

set_option autoImplicit false

/-! # Files of variables

A file may give defaults for variables, one on a line as a name, an equals sign and a value.
A value may be quoted, may run over several lines between quotes, and may refer to other
variables. The file is read up to the first line that is wrong; the lines before it count. Each
line is followed as soon as it is read, and following it can end the program (`Crash`).
-/

namespace ConditionQuery.Dotenv

open Text

/-! ## Lines -/

/-- What the text of a line leaves open at its end. -/
inductive Ending where
  | complete
  /-- A blank was last, so that a number sign would start a comment. -/
  | blank
  | escape
  /-- A single quote is open. -/
  | strong
  /-- A backslash was last between single quotes. -/
  | strongEscape
  /-- A double quote is open. -/
  | weak
  /-- A backslash was last between double quotes. -/
  | weakEscape
deriving DecidableEq, Repr

/-- The ending after one more character; none if a comment starts with it. -/
def Ending.next? : Ending → Char → Option Ending
  | .blank, c =>
    if c = '#' then none
    else if c = '\\' then some .escape
    else if c = '"' then some .weak
    else if c = '\'' then some .strong
    else some .complete
  | .complete, c =>
    if isBlank c && c != '\n' && c != '\r' then some .blank
    else if c = '\\' then some .escape
    else if c = '"' then some .weak
    else if c = '\'' then some .strong
    else some .complete
  | .escape, _ => some .complete
  | .weak, c =>
    if c = '\\' then some .weakEscape else if c = '"' then some .complete else some .weak
  | .weakEscape, _ => some .weak
  | .strong, c =>
    if c = '\\' then some .strongEscape else if c = '\'' then some .complete else some .strong
  | .strongEscape, _ => some .strong

/-- The ending of a text, or the part of the text before a comment. -/
def endingOf : Ending → List Char → List Char → Ending ⊕ List Char
  | e, _, [] => .inl e
  | e, before, c :: rest =>
    match e.next? c with
    | some e => endingOf e (c :: before) rest
    | none => .inr before.reverse

/-- Cuts a file behind its line feeds. -/
def physicalLines : List UInt8 → List UInt8 → List (List UInt8)
  | [], [] => []
  | taken, [] => [taken.reverse]
  | taken, b :: rest =>
    if b = 10 then (b :: taken).reverse :: physicalLines [] rest
    else physicalLines (b :: taken) rest

def dropLineEnd (s : List Char) : List Char :=
  match s.reverse with
  | '\n' :: '\r' :: rest => rest.reverse
  | '\n' :: rest => rest.reverse
  | _ => s

/-- The lines of a file, joined where one leaves something open. `text` and `ending` are the
line so far. The last item is `none` if the file is wrong from there on. -/
def lines (text : List Char) (ending : Ending) : List (List UInt8) → List (Option (List Char))
  | [] => if ending = .complete then [] else [none]
  | bytes :: rest =>
    match Utf8.read? bytes with
    | none => [none]
    | some line =>
      let whole := text ++ line.toList
      if (trimLeft whole).head? = some '#' then some [] :: lines [] .complete rest
      else
        match endingOf ending [] line.toList with
        | .inl .complete => some (dropLineEnd whole) :: lines [] .complete rest
        | .inl open_ => lines whole open_ rest
        | .inr before => some (text ++ before) :: lines [] .complete rest

/-! ## Values -/

/-- The quotes around a place in a value. -/
inductive Quote where
  | none
  | weak
  | strong
deriving DecidableEq, Repr

inductive Part where
  | text
  /-- The character after a backslash. -/
  | escaped
  | variable (braced : Bool) (name : List Char)
  | ended
  | comment
deriving DecidableEq, Repr

structure Value where
  quote : Quote
  part : Part
  output : List Char

namespace Value

def start : Value :=
  ⟨.none, .text, []⟩

def push (v : Value) (c : Char) : Value :=
  { v with part := .text, output := v.output ++ [c] }

/-- Reads one more character; `lookup` gives the values of variables. -/
def step (lookup : List Char → List Char) (v : Value) (c : Char) : Option Value :=
  match v.part with
  | .comment => some v
  | .ended =>
    if c = ' ' || c = '\t' then some v
    else if c = '#' then some { v with part := .comment }
    else none
  | .escaped =>
    if ['\\', '\'', '"', '$', ' '].contains c then some (v.push c)
    else if c = 'n' then some (v.push '\n')
    else none
  | .variable braced name =>
    if Unicode.Property.alphanumeric.contains c then
      some { v with part := .variable braced (name ++ [c]) }
    else if braced then
      if c = '\x7d' then some { v with part := .text, output := v.output ++ lookup name }
      else some { v with part := .variable true (name ++ [c]) }
    else if c = '\x7b' && name.isEmpty then some { v with part := .variable true [] }
    else
      let v := { v with output := v.output ++ lookup name }
      if c = '$' then some { v with part := .variable false [] } else some (v.push c)
  | .text =>
    match v.quote with
    | .strong => if c = '\'' then some { v with quote := .none } else some (v.push c)
    | .weak =>
      if c = '$' then some { v with part := .variable false [] }
      else if c = '"' then some { v with quote := .none }
      else if c = '\\' then some { v with part := .escaped }
      else some (v.push c)
    | .none =>
      if c = '$' then some { v with part := .variable false [] }
      else if c = '\'' then some { v with quote := .strong }
      else if c = '"' then some { v with quote := .weak }
      else if c = '\\' then some { v with part := .escaped }
      else if c = ' ' || c = '\t' then some { v with part := .ended }
      else some (v.push c)

/-- The value at the end of its line. Quotes and braces must be closed. -/
def finish? (lookup : List Char → List Char) (v : Value) : Option (List Char) :=
  if v.quote ≠ .none then none
  else match v.part with
    | .variable true _ => none
    | .variable false name => some (v.output ++ lookup name)
    | _ => some v.output

end Value

def value? (lookup : List Char → List Char) (s : List Char) : Option (List Char) :=
  (s.foldlM (Value.step lookup) Value.start).bind (Value.finish? lookup)

/-! ## Assignments -/

def key? (s : List Char) : Option (List Char × List Char) :=
  match s with
  | [] => none
  | c :: _ =>
    if c.isAlpha || c == '_' then
      let isKeyChar (d : Char) : Bool := d.isAlphanum || d == '_' || d == '.'
      some (s.takeWhile isKeyChar, s.dropWhile isKeyChar)
    else none

/-- Takes an equals sign after any blanks. -/
def equals? (s : List Char) : Option (List Char) :=
  match trimLeft s with
  | '=' :: rest => some rest
  | _ => none

/-- Takes the name of a variable and the equals sign, after the word `export` or without it.
The word may itself be a name. -/
def target? (s : List Char) : Option (List Char × List Char) := do
  let (key, rest) ← key? s
  match equals? rest with
  | some rest => return (key, rest)
  | none =>
    if key = "export".toList then do
      let (key, rest) ← key? (trimLeft rest)
      let rest ← equals? rest
      return (key, rest)
    else none

structure Progress where
  environment : Environment
  /-- The variables of the file, the latest first; an empty one has no value. -/
  assigned : List (String × Option String)

/-- The value of a variable that a value refers to: the environment's, else the file's, else
nothing. -/
def Progress.lookup (p : Progress) (name : List Char) : List Char :=
  let name := String.ofList name
  match p.environment.text? name with
  | some value => value.toList
  | none => (((p.assigned.lookup name).getD none).getD "").toList

inductive Line where
  /-- Nothing: it is empty or a comment. -/
  | nothing
  /-- A variable has a value, or is named without one. -/
  | assignment (key : List Char) (value : Option (List Char))
deriving DecidableEq, Repr

def Progress.line? (p : Progress) (s : List Char) : Option Line :=
  match trim s with
  | [] | '#' :: _ => some .nothing
  | s =>
    (target? s).bind fun (key, rest) =>
      match trimLeft rest with
      | [] | '#' :: _ => some (.assignment key none)
      | rest => (value? p.lookup rest).map fun v => .assignment key (some v)

def Progress.follow (p : Progress) : Line → Except Crash Progress
  | .nothing => .ok p
  | .assignment key value =>
    let name := String.ofList key
    let text := value.map String.ofList
    (p.environment.setDefault name (text.getD "")).map fun e => ⟨e, (name, text) :: p.assigned⟩

/-- Reads and follows lines up to the first one that is wrong. -/
def Progress.run : Progress → List (Option (List Char)) → Except Crash Progress
  | p, [] => .ok p
  | p, none :: _ => .ok p
  | p, some s :: rest =>
    match p.line? s with
    | none => .ok p
    | some line => (p.follow line).bind fun p => p.run rest

/-- A file without the byte order mark at its start. -/
def dropMark : List UInt8 → List UInt8
  | 0xEF :: 0xBB :: 0xBF :: rest => rest
  | bytes => bytes

def linesOf (bytes : List UInt8) : List (Option (List Char)) :=
  lines [] .complete (physicalLines [] (dropMark bytes))

/-- An environment with the defaults of a file. -/
def load (e : Environment) (bytes : List UInt8) : Except Crash Environment :=
  ((⟨e, []⟩ : Progress).run (linesOf bytes)).map Progress.environment

def loadAny (e : Environment) : Option (List UInt8) → Except Crash Environment
  | none => .ok e
  | some bytes => load e bytes

end ConditionQuery.Dotenv
