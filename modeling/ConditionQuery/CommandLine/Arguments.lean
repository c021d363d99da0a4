import ConditionQuery.Condition

set_option autoImplicit false

/-! # Arguments

A command line is a list of words. Options come before the name of a command and after it;
those after it are the command's own, but the options for files may stand in both places.
`Invocation.ofWords` reads the words: the answer is what is to be done, or a request for
help, or what is wrong with the words.
-/

namespace ConditionQuery.CommandLine

/-! ## Options -/

inductive Switch where
  | config
  | catalog
  | source
  | relation
  | target
  | uid
  | format
  | negate
  | help
  | version
deriving DecidableEq, Repr

namespace Switch

def all : List Switch :=
  [.config, .catalog, .source, .relation, .target, .uid, .format, .negate, .help, .version]

/-- The name of an option. It is written after two hyphens. -/
def name : Switch → String
  | .config => "config"
  | .catalog => "catalog"
  | .source => "source"
  | .relation => "relation"
  | .target => "target"
  | .uid => "uid"
  | .format => "format"
  | .negate => "negate"
  | .help => "help"
  | .version => "version"

/-- The letter of an option that has one. It is written after one hyphen. -/
def letter? : Switch → Option Char
  | .help => some 'h'
  | .version => some 'V'
  | _ => none

def hasValue : Switch → Bool
  | .negate | .help | .version => false
  | _ => true

end Switch

/-- Where options stand: before the name of a command, or after the name of one. -/
inductive Place where
  | start
  | translate
  | labels
  | options
deriving DecidableEq, Repr

namespace Place

def ofCommand? (word : String) : Option Place :=
  if word = "translate" then some .translate
  else if word = "labels" then some .labels
  else if word = "options" then some .options
  else none

def admits : Place → Switch → Bool
  | _, .config | _, .catalog | _, .help => true
  | .start, .version => true
  | .translate, s => s ∈ [.source, .relation, .target, .uid, .format, .negate]
  | .options, s => s ∈ [.source, .relation]
  | _, _ => false

def named? (p : Place) (name : String) : Option Switch :=
  Switch.all.find? fun s => p.admits s && s.name = name

def lettered? (p : Place) (letter : Char) : Option Switch :=
  Switch.all.find? fun s => p.admits s && s.letter? = some letter

end Place

inductive Format where
  | json
  | datalog
deriving DecidableEq, Repr

def Format.ofName? (name : String) : Option Format :=
  if name = "json" then some .json else if name = "datalog" then some .datalog else none

/-! ## Words -/

inductive Misuse where
  | unknownOption (word : String)
  | missingValue (s : Switch)
  | unneededValue (s : Switch)
  | repeatedOption (s : Switch)
  | missingOption (s : Switch)
  | unknownFormat (value : String)
  | unexpectedWord (word : String)
  | unknownCommand (word : String)
  | missingCommand
deriving DecidableEq, Repr

/-- The wording of what is wrong, which is this library's own. -/
def Misuse.message : Misuse → String
  | .unknownOption word => "there is no option " ++ word ++ " here"
  | .missingValue s => "the option --" ++ s.name ++ " needs a value"
  | .unneededValue s => "the option --" ++ s.name ++ " takes no value"
  | .repeatedOption s => "the option --" ++ s.name ++ " is given twice"
  | .missingOption s => "the option --" ++ s.name ++ " is missing"
  | .unknownFormat value => "there is no format " ++ value
  | .unexpectedWord word => "unexpected word " ++ word
  | .unknownCommand word => "there is no command " ++ word
  | .missingCommand => "a command is missing"

/-- Why words are not an order to do something. -/
inductive Halt where
  | help
  | version
  | misuse (m : Misuse)
deriving DecidableEq, Repr

inductive Form where
  /-- Two hyphens and a name, with or without an equals sign and a value. -/
  | named (name : String) (value : Option String)
  /-- A hyphen and letters; only the first one is kept. -/
  | lettered (letter : Char)
  /-- Two hyphens: no options follow. -/
  | divider
  /-- Anything else, a single hyphen too. -/
  | plain
deriving DecidableEq, Repr

def Form.ofWord (word : String) : Form :=
  match word.toList with
  | '-' :: '-' :: [] => .divider
  | '-' :: '-' :: s =>
    .named (String.ofList (s.takeWhile (· ≠ '=')))
      (match s.dropWhile (· ≠ '=') with
        | [] => none
        | _ :: value => some (String.ofList value))
  | '-' :: c :: _ => .lettered c
  | _ => .plain

/-! ## The options of a place -/

/-- The options that have been read in a place. The last one may still wait for its value,
and it counts only when the next option or the end comes. -/
structure Given where
  values : List (Switch × String)
  /-- The last option, with its value if it is there. -/
  last : Option (Switch × Option String)

namespace Given

def none : Given :=
  ⟨[], .none⟩

def get? (g : Given) (s : Switch) : Option String :=
  g.values.lookup s

/-- Counts an option. It may be given once, and a format must exist. -/
def put (g : Given) (s : Switch) (value : String) : Except Halt Given :=
  if (g.get? s).isSome then .error (.misuse (.repeatedOption s))
  else if s = .format && (Format.ofName? value).isNone then
    .error (.misuse (.unknownFormat value))
  else .ok { g with values := (s, value) :: g.values }

def settle (g : Given) : Except Halt Given :=
  match g.last with
  | .none => .ok g
  | some (s, .none) => .error (.misuse (.missingValue s))
  | some (s, some value) => (⟨g.values, .none⟩ : Given).put s value

/-- Reads an option; `value` is the one that is written behind an equals sign. -/
def option (g : Given) (s : Switch) (value : Option String) : Except Halt Given :=
  match value with
  | some v =>
    if s.hasValue then g.settle.bind fun g => g.put s v
    else .error (.misuse (.unneededValue s))
  | .none => do
    let g ← g.settle
    if s.hasValue then return { g with last := some (s, .none) }
    else if s = .help then throw .help
    else if s = .version then throw .version
    else g.put s ""

/-- Reads the options at the start of a list of words. The words from the first one on that
is neither an option nor the value of one are left. -/
def read (p : Place) : Given → List String → Except Halt (Given × List String)
  | g, [] => .ok (g, [])
  | g, word :: rest =>
    match Form.ofWord word with
    | .divider =>
      match rest with
      | [] => .ok (g, [])
      | next :: _ => .error (.misuse (.unexpectedWord next))
    | .named name value =>
      match p.named? name with
      | .none => .error (.misuse (.unknownOption word))
      | some s => (g.option s value).bind fun g => read p g rest
    | .lettered letter =>
      match p.lettered? letter with
      | .none => .error (.misuse (.unknownOption word))
      | some s => (g.option s .none).bind fun g => read p g rest
    | .plain =>
      match g.last with
      | some (s, .none) => read p { g with last := some (s, some word) } rest
      | _ => .ok (g, word :: rest)

/-- The value of an option that must be given. -/
def required (g : Given) (s : Switch) : Except Halt String :=
  match g.get? s with
  | some value => .ok value
  | .none => .error (.misuse (.missingOption s))

end Given

/-! ## Invocations -/

inductive Command where
  | translate (condition : Condition) (format : Format)
  /-- List the names of relations that are offered. -/
  | labels
  /-- List the suggestions for the targets of a relation. -/
  | options (source relation : String)
deriving DecidableEq, Repr

structure Invocation where
  settingsFile : Option String
  /-- The file with known titles and names. -/
  catalogFile : Option String
  command : Command
deriving DecidableEq, Repr

namespace Invocation

def command? (p : Place) (g : Given) : Except Halt Command :=
  match p with
  | .start => .error (.misuse .missingCommand)
  | .labels => .ok .labels
  | .options => do
    let source ← g.required .source
    let relation ← g.required .relation
    return .options source relation
  | .translate => do
    let source ← g.required .source
    let relation ← g.required .relation
    let condition : Condition :=
      ⟨source, relation, (g.get? .target).getD "", (g.get? .negate).isSome,
        (g.get? .uid).getD ""⟩
    return .translate condition (((g.get? .format).bind Format.ofName?).getD .json)

def ofCommandWords (p : Place) (rest : List String) : Except Halt (Given × Command) := do
  let (given, rest) ← Given.none.read p rest
  match rest with
  | word :: _ => throw (.misuse (.unexpectedWord word))
  | [] =>
    let given ← given.settle
    let command ← command? p given
    return (given, command)

/-- The answer to a request for help on the commands of the given names. -/
def helpOn : List String → Halt
  | [] => .help
  | [word] =>
    if word = "help" || (Place.ofCommand? word).isSome then .help
    else .misuse (.unknownCommand word)
  | word :: other :: _ =>
    .misuse (.unknownCommand (if (Place.ofCommand? word).isSome then other else word))

/-- Reads a command line. Of an option that stands in both places the one after the name of the
command counts. -/
def ofWords (words : List String) : Except Halt Invocation := do
  let (start, rest) ← Given.none.read .start words
  match rest with
  | [] => do
    let _ ← start.settle
    throw (.misuse .missingCommand)
  | word :: rest =>
    if word = "help" then throw (helpOn rest)
    else match Place.ofCommand? word with
      | none => throw (.misuse (.unknownCommand word))
      | some p => do
        let (given, command) ← ofCommandWords p rest
        let start ← start.settle
        return ⟨(given.get? .config).or (start.get? .config),
          (given.get? .catalog).or (start.get? .catalog), command⟩

end Invocation

end ConditionQuery.CommandLine
