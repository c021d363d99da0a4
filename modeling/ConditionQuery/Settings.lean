import ConditionQuery.Environment.Basic
import ConditionQuery.Json.Basic
import ConditionQuery.Pattern.Meaning
import ConditionQuery.Text.Blank
import ConditionQuery.Text.Quoted
import ConditionQuery.Translator
import ConditionQuery.Yaml.Node

set_option autoImplicit false

/-! # Settings

What a user can set: the pattern of day-note titles, the file with known titles and names,
and the built-in relations to leave out. Settings come from the environment or from a file,
never from both, and are checked before they are used.
-/

namespace ConditionQuery

/-- What a user can set. -/
structure Settings where
  dayNotePattern : String
  /-- The file with known titles and names. -/
  catalogFile : Option String
  /-- The names of built-in relations to leave out. -/
  disabledRelations : List String
deriving DecidableEq, Repr

/-- Why there are no settings. -/
inductive SettingsError where
  /-- The value of a variable is not text. -/
  | notUnicode (value : List UInt8)
  | unreadableFile {problem : FileProblem}
  /-- The text of the file does not describe settings. -/
  | malformedFile (content : String)
  | emptyPattern
  | invalidPattern (pattern : String)
deriving DecidableEq, Repr

namespace SettingsError

/-- The wording of the error that an error comes from. -/
def cause : SettingsError → String
  | .notUnicode value =>
    "environment variable was not valid unicode: " ++ String.ofList (Text.Quoted.ofBytes value)
  | @unreadableFile problem => problem.message
  | .malformedFile _ => Yaml.problem
  | .emptyPattern => "day_note_pattern: Day-note pattern cannot be empty"
  | .invalidPattern pattern =>
    "day_note_pattern: Validation error: invalid_regex [\x7b\"value\": String("
      ++ String.ofList (Text.Quoted.ofText pattern) ++ ")\x7d]"

def message (e : SettingsError) : String :=
  match e with
  | .notUnicode _ => "Environment variable error: " ++ e.cause
  | .unreadableFile => "Parse error for yaml_file: file read failed - " ++ e.cause
  | .malformedFile content => "Parse error for yaml_content: " ++ content ++ " - " ++ e.cause
  | .emptyPattern | .invalidPattern _ => "Validation error: " ++ e.cause

end SettingsError

namespace Settings

def default : Settings :=
  ⟨DayNote.defaultPattern, none, []⟩

def toJson (s : Settings) : Json :=
  .object [("day_note_pattern", .text s.dayNotePattern),
    ("catalog_file", s.catalogFile.elim .null .text),
    ("disabled_relations", .array (s.disabledRelations.map .text))]

def optionalText? : Json → Option (Option String)
  | .null => some none
  | .text s => some (some s)
  | _ => none

/-- Reads settings. Fields that are missing have their defaults. -/
def ofJson? (j : Json) : Option Settings :=
  match j.record ["day_note_pattern", "catalog_file", "disabled_relations"] with
  | .object fields => do
    let j := Json.object fields
    let pattern ← j.fieldD? "day_note_pattern" default.dayNotePattern Json.text?
    let file ← j.fieldD? "catalog_file" default.catalogFile optionalText?
    let disabled ← j.fieldD? "disabled_relations" default.disabledRelations Json.texts?
    return ⟨pattern, file, disabled⟩
  | _ => none

def ofNode? (root : Yaml.Node) : Option Settings := do
  let fields ← root.fields?
  let pattern ← Yaml.Node.fieldD? "day_note_pattern" default.dayNotePattern Yaml.Node.text? fields
  let file ← Yaml.Node.fieldD? "catalog_file" default.catalogFile Yaml.Node.optionalText? fields
  let disabled ←
    Yaml.Node.fieldD? "disabled_relations" default.disabledRelations Yaml.Node.texts? fields
  return ⟨pattern, file, disabled⟩

/-- Checks settings: the pattern is not empty, and it is a pattern. -/
def validate (s : Settings) : Except SettingsError Settings :=
  if s.dayNotePattern.isEmpty then .error .emptyPattern
  else if (Regex.ofPattern? false s.dayNotePattern).isNone then
    .error (.invalidPattern s.dayNotePattern)
  else .ok s

/-! ## The environment -/

def splitAtCommas : List Char → List (List Char)
  | [] => [[]]
  | c :: s =>
    if c = ',' then [] :: splitAtCommas s
    else match splitAtCommas s with
      | first :: rest => (c :: first) :: rest
      | [] => [[c]]

/-- The items of a list with commas between them, without the blanks around them. Empty items
do not count. -/
def listItems (s : String) : List String :=
  (((splitAtCommas s.toList).map Text.trim).filter fun item => !item.isEmpty).map String.ofList

def patternVariable : String := "CONDITION_DATALOG_DAY_NOTE_PATTERN"

def catalogVariable : String := "CONDITION_DATALOG_CATALOG"

/-- The variable that holds the relations to leave out, with commas between them. -/
def disabledVariable : String := "CONDITION_DATALOG_DISABLED_RELATIONS"

def textOf? (e : Environment) (name : String) : Except SettingsError (Option String) :=
  match e.get? name with
  | none => .ok none
  | some value =>
    match Text.Utf8.read? value with
    | some text => .ok (some text)
    | none => .error (.notUnicode value)

def ofEnvironment (e : Environment) : Except SettingsError Settings := do
  let pattern ← textOf? e patternVariable
  let file ← textOf? e catalogVariable
  let disabled ← textOf? e disabledVariable
  validate ⟨pattern.getD default.dayNotePattern, file, disabled.elim [] listItems⟩

/-! ## Files -/

def ofFile (content : FileContent) : Except SettingsError Settings :=
  match content.text with
  | .error problem => .error (@SettingsError.unreadableFile problem)
  | .ok text =>
    match (Yaml.Node.ofText? text).bind ofNode? with
    | some s => validate s
    | none => .error (.malformedFile text)

/-- The settings of a program: those of a file if one is named, else those of the
environment. A catalog file that is named takes the place of the one in the settings. -/
def ofSources (e : Environment) (file : Option FileContent) (catalog : Option String) :
    Except SettingsError Settings := do
  let s ← match file with
    | some content => ofFile content
    | none => ofEnvironment e
  validate { s with catalogFile := catalog.or s.catalogFile }

/-! ## Use -/

/-- The built-in relations without those that are left out. Only exact names count. -/
def registry (s : Settings) : Registry :=
  s.disabledRelations.foldl
    (fun r name => match Builtin.ofName? name with
      | some b => r.unregister b.name
      | none => r)
    Registry.builtins

def translator (s : Settings) (services : Services) : Translator :=
  ⟨s.registry, ⟨services, s.dayNotePattern⟩⟩

end Settings

end ConditionQuery
