import ConditionQuery.CommandLine.Arguments
import ConditionQuery.CommandLine.Report
import ConditionQuery.Clause.Datalog
import ConditionQuery.Clause.Json
import ConditionQuery.Environment.Dotenv

set_option autoImplicit false

/-! # The command line

What a program that is started with some words, in some environment and among some files
writes, and the code with which it ends. Either all output is written or, after a failure,
none of it: the output is made before any of it is written.

The text of the help is not modelled, and the wording of what is wrong with the words is this
library's own.
-/

namespace ConditionQuery.CommandLine

/-! ## Outcomes -/

inductive Outcome where
  | success (output : String)
  /-- It writes how it is used. This text is no part of the outcome. -/
  | help
  | failure (report : Report)
  | misuse (message : String)
  /-- The environment cannot take the defaults that a file gives for it. -/
  | crash (c : Crash)
deriving DecidableEq, Repr

namespace Outcome

/-- The code with which the program ends. -/
def code : Outcome → Nat
  | .success _ | .help => 0
  | .failure _ => 1
  | .misuse _ => 2
  | .crash _ => 101

/-- What the program writes, but for the text of the help. -/
def output : Outcome → String
  | .success output => output
  | _ => ""

def complaint : Outcome → String
  | .success _ | .help => ""
  | .failure report => report.text ++ "\n"
  | .misuse message => "error: " ++ message ++ "\n"
  | .crash c => c.message ++ "\n"

end Outcome

def lines (texts : List String) : String :=
  String.join (texts.map fun text => text ++ "\n")

def versionText : String :=
  "condition-datalog 0.1.0\n"

def Halt.outcome : Halt → Outcome
  | .help => .help
  | .version => .success versionText
  | .misuse m => .misuse m.message

/-! ## Commands -/

def Format.write (f : Format) (clauses : List Clause) : String :=
  match f with
  | .json => String.ofList ((Json.array (Clause.toJsons clauses)).pretty 0) ++ "\n"
  | .datalog => Clause.toDatalog clauses ++ "\n"

def Command.output (t : Translator) : Command → Except TranslateError String
  | .translate condition format => (t.translate condition).map format.write
  | .labels => .ok (lines t.labels)
  | .options source relation => (t.targetOptions source relation).map lines

/-! ## Runs -/

/-- The catalog that settings name, or the empty one. -/
def catalogOf {m : Type → Type} [Monad m] (read : String → m FileContent) (s : Settings) :
    m (Except ServiceError Catalog) :=
  match s.catalogFile with
  | none => pure (.ok .empty)
  | some path => do return Catalog.ofFile path (← read path)

/-- Does what is to be done. Settings and the catalog are read before the command runs. -/
def Invocation.run {m : Type → Type} [Monad m] (read : String → m FileContent)
    (e : Environment) (now : Instant) (i : Invocation) : m Outcome := do
  let file ← match i.settingsFile with
    | none => pure none
    | some path => do pure (some (← read path))
  match Settings.ofSources e file i.catalogFile with
  | .error problem => return .failure (.ofSettings problem)
  | .ok settings =>
    match ← catalogOf read settings with
    | .error problem => return .failure (.ofService problem)
    | .ok catalog =>
      match i.command.output (settings.translator (Services.ofCatalog now catalog)) with
      | .error problem => return .failure (.ofTranslation problem)
      | .ok output => return .success output

/-- The run of the program. The defaults in a file count for the environment if there is such
a file; they are loaded before the words are looked at. -/
def run {m : Type → Type} [Monad m] (read : String → m FileContent) (e : Environment)
    (defaults : Option (List UInt8)) (now : Instant) (words : List String) : m Outcome :=
  match Dotenv.loadAny e defaults with
  | .error crash => return .crash crash
  | .ok e =>
    match Invocation.ofWords words with
    | .error halt => return halt.outcome
    | .ok i => i.run read e now

end ConditionQuery.CommandLine
