import ConditionQuery.Yaml.Token

set_option autoImplicit false

/-! # YAML documents

The tree that a text describes: scalars, sequences and mappings, with every alias replaced by
what it refers to. A text describes at most one document here; one without any describes an
empty scalar.
-/

namespace ConditionQuery.Yaml

/-- What is said of a text that does not describe what it should. Why it does not, and where, is
left out: this text stands for all such reasons. -/
def problem : String :=
  "not of the expected form"

inductive Node where
  /-- A text, whether it was written without quotes, and its tag. -/
  | scalar (text : String) (plain : Bool) (tag : Option String)
  | sequence (items : List Node)
  /-- A mapping, with its pairs in order. -/
  | mapping (pairs : List (Node × Node))
  /-- A reference to a node around it. -/
  | enclosing
deriving Repr

/-- The scalar that stands where nothing is written. -/
def Node.empty : Node :=
  .scalar "" true none

/-- What is known while tokens are read into nodes. -/
structure Assembly where
  tokens : List Token
  /-- The handles for tags and what they stand for. -/
  handles : List (List Char × List Char)
  /-- The anchors, the latest first, with a number for each and the node. -/
  anchors : List (List Char × Nat × Node)

abbrev Parse := StateT Assembly Option

namespace Parse

/-- The next token; none at the end. -/
def peek : Parse (Option Token) := do
  return (← get).tokens.head?

def advance : Parse Unit :=
  modify fun a => { a with tokens := a.tokens.drop 1 }

/-- Moves over the token if it is the given one. -/
def taking (t : Token) : Parse Bool := do
  if (← peek) = some t then
    advance
    return true
  else return false

/-- The next token is one of the given ones, or there is none. -/
def atAny (ts : List Token) : Parse Bool := do
  return (← peek).any ts.contains

def aliased (name : List Char) : Parse Node := do
  match (← get).anchors.find? (fun entry => entry.1 == name) with
  | some (_, _, n) => return n
  | none => failure

def tagText (handle suffix : List Char) : Parse String := do
  if handle.isEmpty then return String.ofList suffix
  else
    match (← get).handles.lookup handle with
    | some meaning => return String.ofList (meaning ++ suffix)
    | none => failure

def anchor? : Parse (Option (List Char)) := do
  match ← peek with
  | some (.anchor name) =>
    advance
    return some name
  | _ => return none

def tag? : Parse (Option String) := do
  match ← peek with
  | some (.tag handle suffix) =>
    advance
    return some (← tagText handle suffix)
  | _ => return none

/-- Reads the anchor and the tag of a node, in either order. -/
def properties : Parse (Option (List Char) × Option String) := do
  let first ← anchor?
  let tag ← tag?
  let second ← if first.isNone && tag.isSome then anchor? else pure none
  return (first.or second, tag)

/-- Notes the start of an anchored node. Until it ends, its alias refers to a node around. -/
def reserve (name : Option (List Char)) : Parse Nat := do
  let a ← get
  match name with
  | some name =>
    set { a with anchors := (name, a.anchors.length, .enclosing) :: a.anchors }
    return a.anchors.length
  | none => return a.anchors.length

def settle (name : Option (List Char)) (id : Nat) (n : Node) : Parse Unit :=
  if name.isSome then
    modify fun a => { a with anchors := a.anchors.map fun (x, i, m) =>
      (x, i, if i = id then n else m) }
  else pure ()

mutual

/-- Reads a node. Collections that indentation shows may stand where `block` holds, and a
sequence at the indentation of the mapping around it where `indentless` holds. -/
def node (block indentless : Bool) : Nat → Parse Node
  | 0 => failure
  | fuel + 1 => do
    match ← peek with
    | some (.alias name) =>
      advance
      aliased name
    | _ =>
      let (name, tag) ← properties
      let id ← reserve name
      let n ← content block indentless name tag fuel
      settle name id n
      return n

/-- Reads a node after its anchor and tag. A node that has either may be empty. -/
def content (block indentless : Bool) (name : Option (List Char)) (tag : Option String) :
    Nat → Parse Node
  | 0 => failure
  | fuel + 1 => do
    match ← peek with
    | some (.scalar text plain) =>
      advance
      return .scalar (String.ofList text) plain tag
    | some .flowSequence =>
      advance
      return .sequence (← flowItems true fuel)
    | some .flowMapping =>
      advance
      return .mapping (← flowPairs true fuel)
    | some t =>
      if indentless && t = .blockEntry then return .sequence (← indentlessItems fuel)
      else if block && t = .blockSequence then
        advance
        return .sequence (← blockItems fuel)
      else if block && t = .blockMapping then
        advance
        return .mapping (← blockPairs fuel)
      else if name.isSome || tag.isSome then return .scalar "" true tag
      else failure
    | none => if name.isSome || tag.isSome then return .scalar "" true tag else failure

/-- Reads a node, or an empty one if one of the given tokens is next. -/
def nodeUnless (ts : List Token) (block indentless : Bool) : Nat → Parse Node
  | 0 => failure
  | fuel + 1 => do
    if ← atAny ts then return .empty else node block indentless fuel

def blockItems : Nat → Parse (List Node)
  | 0 => failure
  | fuel + 1 => do
    if ← taking .blockEntry then
      let n ← nodeUnless [.blockEntry, .blockEnd] true false fuel
      return n :: (← blockItems fuel)
    else if ← taking .blockEnd then return []
    else failure

/-- Reads the items of a sequence at the indentation of the mapping around it. -/
def indentlessItems : Nat → Parse (List Node)
  | 0 => failure
  | fuel + 1 => do
    if ← taking .blockEntry then
      let n ← nodeUnless [.blockEntry, .key, .value, .blockEnd] true false fuel
      return n :: (← indentlessItems fuel)
    else return []

def blockPairs : Nat → Parse (List (Node × Node))
  | 0 => failure
  | fuel + 1 => do
    if ← taking .key then
      let k ← nodeUnless [.key, .value, .blockEnd] true true fuel
      let v ← if ← taking .value then nodeUnless [.key, .value, .blockEnd] true true fuel
        else pure .empty
      return (k, v) :: (← blockPairs fuel)
    else if ← taking .blockEnd then return []
    else failure

/-- Reads the items of a sequence in brackets; all but the first follow a comma. A pair with
the sign of a key is a mapping of one pair. -/
def flowItems (first : Bool) : Nat → Parse (List Node)
  | 0 => failure
  | fuel + 1 => do
    if ← taking .flowSequenceEnd then return []
    else
      if !first then
        if !(← taking .flowEntry) then failure
      if ← taking .flowSequenceEnd then return []
      else if ← taking .key then
        let pair ← flowPair fuel
        return .mapping [pair] :: (← flowItems false fuel)
      else
        let n ← node false false fuel
        return n :: (← flowItems false fuel)

/-- Reads a pair in brackets. Where the key is missing, the token after it is passed over. -/
def flowPair : Nat → Parse (Node × Node)
  | 0 => failure
  | fuel + 1 => do
    let ends : List Token := [.flowEntry, .flowSequenceEnd]
    let k ←
      if ← atAny (.value :: ends) then
        advance
        pure Node.empty
      else node false false fuel
    let v ← if ← taking .value then nodeUnless ends false false fuel else pure .empty
    return (k, v)

/-- Reads the pairs of a mapping in braces; all but the first follow a comma. A node without
the sign of a key has an empty value. -/
def flowPairs (first : Bool) : Nat → Parse (List (Node × Node))
  | 0 => failure
  | fuel + 1 => do
    let ends : List Token := [.flowEntry, .flowMappingEnd]
    if ← taking .flowMappingEnd then return []
    else
      if !first then
        if !(← taking .flowEntry) then failure
      if ← taking .flowMappingEnd then return []
      else if ← taking .key then
        let k ← nodeUnless (.value :: ends) false false fuel
        let v ← if ← taking .value then nodeUnless ends false false fuel else pure .empty
        return (k, v) :: (← flowPairs false fuel)
      else
        let k ← node false false fuel
        return (k, .empty) :: (← flowPairs false fuel)

end

/-- The handles that need no directive. -/
def usualHandles : List (List Char × List Char) :=
  [(['!'], ['!']), (['!', '!'], "tag:yaml.org,2002:".toList)]

/-- Reads directives. The version may be given once and must be 1.1 or 1.2, and a handle may
be defined once. -/
def directives (versioned : Bool) (handles : List (List Char × List Char)) :
    Nat → Parse Unit
  | 0 => failure
  | fuel + 1 => do
    match ← peek with
    | some (.version major minor) =>
      if versioned || major != 1 || (minor != 1 && minor != 2) then failure
      advance
      directives true handles fuel
    | some (.handle name meaning) =>
      if (handles.lookup name).isSome then failure
      advance
      directives versioned ((name, meaning) :: handles) fuel
    | _ => modify fun a => { a with handles := handles ++ usualHandles }

def documentEnds : Nat → Parse Unit
  | 0 => failure
  | fuel + 1 => do
    if ← taking .documentEnd then documentEnds fuel

/-- Reads a text to its end: one document, with or without a mark at its start, or none. -/
def document (fuel : Nat) : Parse Node := do
  let root ← match ← peek with
    | none => pure Node.empty
    | some (.version _ _) | some (.handle _ _) | some .documentStart => do
      directives false [] fuel
      if !(← taking .documentStart) then failure
      if (← atAny [.documentStart, .documentEnd]) || (← peek).isNone then pure Node.empty
      else node true false fuel
    | some _ => node true false fuel
  documentEnds fuel
  if (← peek).isSome then failure
  return root

end Parse

/-- The node at the root of a text, if the text describes at most one document. -/
def Node.ofText? (text : String) : Option Node :=
  (tokens? text.toList).bind fun ts =>
    (Parse.document (4 * ts.length + 4) ⟨ts, Parse.usualHandles, []⟩).map Prod.fst

/-! ## Reading values -/

namespace Node

/-- The text of a scalar, however it was written. -/
def text? : Node → Option String
  | .scalar text _ _ => some text
  | _ => none

/-- The ways to write that there is no value. -/
def nullWords : List String :=
  ["null", "Null", "NULL", "~"]

/-- A text, or nothing where nothing is written or a word for it. A tag that asks for the
absence of a value allows only such a word. -/
def optionalText? : Node → Option (Option String)
  | .scalar text plain tag =>
    if !plain then some (some text)
    else match tag with
      | none => if text.isEmpty || nullWords.contains text then some none else some (some text)
      | some t =>
        if t = "tag:yaml.org,2002:null" then
          if nullWords.contains text then some none else none
        else some (some text)
  | _ => none

/-- A list of texts; where nothing is written it is empty. -/
def texts? : Node → Option (List String)
  | .sequence items => items.mapM text?
  | .scalar "" true _ => some []
  | _ => none

/-- The fields of a record: a mapping whose keys are texts, or none where nothing is
written. -/
def fields? : Node → Option (List (String × Node))
  | .mapping pairs => pairs.mapM fun (k, v) => k.text?.map fun name => (name, v)
  | .scalar "" true _ => some []
  | _ => none

/-- The value of a field that may be missing, with a default for it. A field may not stand
twice. -/
def fieldD? {α : Type} (name : String) (fallback : α) (read : Node → Option α)
    (fields : List (String × Node)) : Option α :=
  match fields.filter fun field => field.1 = name with
  | [] => some fallback
  | [(_, v)] => read v
  | _ => none

end Node

end ConditionQuery.Yaml
