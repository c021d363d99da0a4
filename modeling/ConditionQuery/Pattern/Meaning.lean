import ConditionQuery.Pattern.Reading
import ConditionQuery.Pattern.Regex
import ConditionQuery.Unicode.Age
import ConditionQuery.Unicode.ScriptExtension
import ConditionQuery.Unicode.Segmentation

set_option autoImplicit false

/-! # The meaning of patterns

The regular expression that a written pattern stands for. Switches decide how its parts are
read, so the parts are gone through from left to right with the switches that hold. A pattern
that asks for an unknown property has no meaning, nor has one whose classes are limited to
ASCII and yet would match something else.
-/

namespace ConditionQuery.Pattern

open Unicode

/-- The switches that matter for the meaning of a pattern. -/
structure Mode where
  ignoreCase : Bool
  multiLine : Bool
  dotAll : Bool
  unicode : Bool
  anyLineEnd : Bool
deriving DecidableEq, Repr

namespace Mode

def start (ignoreCase : Bool) : Mode :=
  ⟨ignoreCase, false, false, true, false⟩

def apply (m : Mode) : Switch → Mode
  | (.ignoreCase, b) => { m with ignoreCase := b }
  | (.multiLine, b) => { m with multiLine := b }
  | (.dotAll, b) => { m with dotAll := b }
  | (.unicode, b) => { m with unicode := b }
  | (.anyLineEnd, b) => { m with anyLineEnd := b }
  | (.swapGreed, _) => m
  | (.verbose, _) => m

def applyAll (m : Mode) (s : List Switch) : Mode :=
  s.foldl apply m

def word (m : Mode) : CharSet :=
  if m.unicode then Property.word else [(0x30, 0x39), (0x41, 0x5A), (0x5F, 0x5F), (0x61, 0x7A)]

def anyDigits : CharSet :=
  Text.Decimal.zeros.map fun z => (z, z + 9)

def anyBlanks : CharSet :=
  [(0x9, 0xD), (0x20, 0x20), (0x85, 0x85), (0xA0, 0xA0), (0x1680, 0x1680), (0x2000, 0x200A),
    (0x2028, 0x2029), (0x202F, 0x202F), (0x205F, 0x205F), (0x3000, 0x3000)]

def shorthand (m : Mode) : Shorthand → CharSet
  | .word => m.word
  | .digit => if m.unicode then anyDigits else [(0x30, 0x39)]
  | .space => if m.unicode then anyBlanks else [(0x9, 0xD), (0x20, 0x20)]

/-- A class closed under a change of case, where case is ignored. -/
def close (m : Mode) (c : CharClass) : CharClass :=
  if m.ignoreCase then
    if m.unicode then .folded c else .foldedAscii c
  else c

/-- A class or its complement. The complement of an ASCII class would hold parts of
characters, so there is none. -/
def negate? (m : Mode) (negated : Bool) (c : CharClass) : Option CharClass :=
  if negated then
    if m.unicode then some (.complement c) else none
  else some c

/-- The character that a literal stands for. Without Unicode a byte above ASCII is none. -/
def literal? (m : Mode) (l : Literal) : Option Char :=
  if !m.unicode && l.isByte && 0x80 ≤ l.char.toNat then none else some l.char

/-- The character of a literal in a bracketed class. Without Unicode only ASCII may stand
there. -/
def setLiteral? (m : Mode) (l : Literal) : Option Char :=
  if !m.unicode && 0x80 ≤ l.char.toNat then none else some l.char

def single (m : Mode) (c : Char) : CharClass :=
  if !m.ignoreCase then .single c
  else if m.unicode then .ranges ((CaseFolding.orbit c).map fun d => (d.toNat, d.toNat))
  else .ranges [(c.toNat, c.toNat), (c.toLower.toNat, c.toLower.toNat),
    (c.toUpper.toNat, c.toUpper.toNat)]

end Mode

def PosixClass.members : PosixClass → CharSet
  | .alnum => [(0x30, 0x39), (0x41, 0x5A), (0x61, 0x7A)]
  | .alpha => [(0x41, 0x5A), (0x61, 0x7A)]
  | .ascii => [(0x00, 0x7F)]
  | .blank => [(0x09, 0x09), (0x20, 0x20)]
  | .cntrl => [(0x00, 0x1F), (0x7F, 0x7F)]
  | .digit => [(0x30, 0x39)]
  | .graph => [(0x21, 0x7E)]
  | .lower => [(0x61, 0x7A)]
  | .print => [(0x20, 0x7E)]
  | .punct => [(0x21, 0x2F), (0x3A, 0x40), (0x5B, 0x60), (0x7B, 0x7E)]
  | .space => [(0x09, 0x0D), (0x20, 0x20)]
  | .upper => [(0x41, 0x5A)]
  | .word => [(0x30, 0x39), (0x41, 0x5A), (0x5F, 0x5F), (0x61, 0x7A)]
  | .xdigit => [(0x30, 0x39), (0x41, 0x46), (0x61, 0x66)]

namespace PropertyName

/-- A name in the form in which names are compared: in lower case, without blanks, hyphens
and underscores, without characters outside ASCII, and without `is` at its start. The name
`isc` keeps its start. -/
def normalize (name : List Char) : String :=
  let bare (s : List Char) :=
    (s.filter fun c => c.toNat < 0x80 && c != ' ' && c != '_' && c != '-').map Char.toLower
  match name with
  | a :: b :: rest =>
    if a.toLower = 'i' && b.toLower = 's' then
      if bare rest = ['c'] then "isc" else String.ofList (bare rest)
    else String.ofList (bare name)
  | _ => String.ofList (bare name)

/-- The members of the class that a property name asks for. A value alone names a property,
a general category or a script, in this order. -/
def members? (p : PropertyName) : Option CharSet :=
  let value := normalize p.value
  let boundary (classes : List (List String × CharSet)) : Option CharSet :=
    Segmentation.named? classes value
  match p.property.map normalize with
  | none => ((Property.named? value).or (Category.named? value)).or (Script.named? value)
  | some "gc" | some "generalcategory" => Category.named? value
  | some "sc" | some "script" => Script.named? value
  | some "scx" | some "scriptextensions" => Script.extended? value
  | some "age" => Age.named? value
  | some "gcb" | some "graphemeclusterbreak" => boundary Segmentation.Grapheme.classes
  | some "wb" | some "wordbreak" => boundary Segmentation.Word.classes
  | some "sb" | some "sentencebreak" => boundary Segmentation.Sentence.classes
  | some _ => none

end PropertyName

def SetOperator.apply : SetOperator → CharClass → CharClass → CharClass
  | .intersection, a, b => .intersection a b
  | .difference, a, b => .intersection a (.complement b)
  | .symmetricDifference, a, b =>
    .union (.intersection a (.complement b)) (.intersection b (.complement a))

def Mode.property? (m : Mode) (p : PropertyName) (negated : Bool) : Option CharClass :=
  if m.unicode then
    p.members?.bind fun s => m.negate? negated (m.close (.ranges s))
  else none

mutual

/-- The class of a part of a bracketed class. Where case is ignored the parts on both sides
of an operator are closed before it is applied, and a bracketed class before it is negated. -/
def SetTree.meaning? (m : Mode) : SetTree → Option CharClass
  | .single l => (m.setLiteral? l).map .single
  | .range a b => do
    let a ← m.setLiteral? a
    let b ← m.setLiteral? b
    return .ranges [(a.toNat, b.toNat)]
  | .shorthand s negated => m.negate? negated (.ranges (m.shorthand s))
  | .property p negated => m.property? p negated
  | .posix p negated => m.negate? negated (m.close (.ranges p.members))
  | .union items => SetTree.meanings? m items
  | .operation op a b => do
    let a ← a.meaning? m
    let b ← b.meaning? m
    return op.apply (m.close a) (m.close b)
  | .bracketed negated body => do
    let c ← body.meaning? m
    m.negate? negated (m.close c)

def SetTree.meanings? (m : Mode) : List SetTree → Option CharClass
  | [] => some .none
  | t :: rest => do
    let c ← t.meaning? m
    let cs ← SetTree.meanings? m rest
    return .union c cs

end

def Mode.look (m : Mode) : Anchor → Look
  | .lineStart =>
    if m.multiLine then if m.anyLineEnd then .anyLineStart else .lineStart else .textStart
  | .lineEnd =>
    if m.multiLine then if m.anyLineEnd then .anyLineEnd else .lineEnd else .textEnd
  | .textStart => .textStart
  | .textEnd => .textEnd
  | .boundary => .boundary m.word
  | .noBoundary => .noBoundary m.word
  | .wordStart => .wordStart m.word
  | .wordEnd => .wordEnd m.word
  | .wordStartHalf => .wordStartHalf m.word
  | .wordEndHalf => .wordEndHalf m.word

def Mode.dot? (m : Mode) : Option CharClass :=
  if !m.unicode then none
  else if m.dotAll then some (.ranges CharSet.all)
  else if m.anyLineEnd then some (.complement (.ranges [(0x0A, 0x0A), (0x0D, 0x0D)]))
  else some (.complement (.ranges [(0x0A, 0x0A)]))

mutual

/-- The expression of a pattern, and the mode that holds after it. -/
def Tree.meaning? (m : Mode) : Tree → Option (Regex × Mode)
  | .empty => some (.empty, m)
  | .literal l => (m.literal? l).map fun c => (.one (m.single c), m)
  | .dot => m.dot?.map fun c => (.one c, m)
  | .anchor a => some (.look (m.look a), m)
  | .shorthand s negated => (m.negate? negated (.ranges (m.shorthand s))).map fun c => (.one c, m)
  | .property p negated => (m.property? p negated).map fun c => (.one c, m)
  | .bracketed negated body => do
    let c ← body.meaning? m
    let c ← m.negate? negated (m.close c)
    return (.one c, m)
  | .switches s => some (.empty, m.applyAll s)
  | .group s body => (body.meaning? (m.applyAll s)).map fun (r, _) => (r, m)
  | .repeated body least most =>
    (body.meaning? m).map fun (r, m) => (r.repeated least most, m)
  | .concat parts => Tree.chainMeaning? m parts
  | .alternation branches => Tree.branchMeaning? m branches

def Tree.chainMeaning? (m : Mode) : List Tree → Option (Regex × Mode)
  | [] => some (.empty, m)
  | t :: rest => do
    let (r, m) ← t.meaning? m
    let (rs, m) ← Tree.chainMeaning? m rest
    return (.seq r rs, m)

/-- The expression of alternatives. Switches in one of them hold in the ones after it. -/
def Tree.branchMeaning? (m : Mode) : List Tree → Option (Regex × Mode)
  | [] => some (.one .none, m)
  | t :: rest => do
    let (r, m) ← t.meaning? m
    let (rs, m) ← Tree.branchMeaning? m rest
    return (.alt r rs, m)

end

end ConditionQuery.Pattern

namespace ConditionQuery.Regex

/-- The expression of a written pattern, if it is one. -/
def ofPattern? (ignoreCase : Bool) (pattern : String) : Option Regex :=
  (Pattern.Tree.ofText? pattern.toList).bind fun t =>
    (t.meaning? (.start ignoreCase)).map Prod.fst

end ConditionQuery.Regex
