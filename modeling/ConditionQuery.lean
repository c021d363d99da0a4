import ConditionQuery.Calendar.Date
import ConditionQuery.Calendar.Instant
import ConditionQuery.Calendar.Notation
import ConditionQuery.Calendar.Phrase
import ConditionQuery.Calendar.Reading
import ConditionQuery.Clause.Basic
import ConditionQuery.Clause.Binding
import ConditionQuery.Clause.Datalog
import ConditionQuery.Clause.Json
import ConditionQuery.CommandLine.Arguments
import ConditionQuery.CommandLine.Report
import ConditionQuery.CommandLine.Run
import ConditionQuery.Condition
import ConditionQuery.Environment.Basic
import ConditionQuery.Environment.Dotenv
import ConditionQuery.Json.Basic
import ConditionQuery.Main
import ConditionQuery.Pattern.Meaning
import ConditionQuery.Pattern.Reading
import ConditionQuery.Pattern.Regex
import ConditionQuery.Pattern.Token
import ConditionQuery.Pattern.Tree
import ConditionQuery.Relation.Builtin
import ConditionQuery.Relation.DayNote
import ConditionQuery.Relation.Handler
import ConditionQuery.Relation.Registry
import ConditionQuery.Relation.Template
import ConditionQuery.Services.Basic
import ConditionQuery.Services.Catalog
import ConditionQuery.Services.Problem
import ConditionQuery.Settings
import ConditionQuery.Text.Blank
import ConditionQuery.Text.Decimal
import ConditionQuery.Text.Hexadecimal
import ConditionQuery.Text.Literal
import ConditionQuery.Text.Quoted
import ConditionQuery.Text.Symbol
import ConditionQuery.Text.Utf8
import ConditionQuery.Translator
import ConditionQuery.Unicode.Age
import ConditionQuery.Unicode.CaseFolding
import ConditionQuery.Unicode.Category
import ConditionQuery.Unicode.CharSet
import ConditionQuery.Unicode.Property
import ConditionQuery.Unicode.Script
import ConditionQuery.Unicode.ScriptExtension
import ConditionQuery.Unicode.Segmentation
import ConditionQuery.Yaml.Cursor
import ConditionQuery.Yaml.Node
import ConditionQuery.Yaml.Scalar
import ConditionQuery.Yaml.Token
import ConditionQuery.Proofs.Calendar.Date
import ConditionQuery.Proofs.Calendar.Distance
import ConditionQuery.Proofs.Calendar.Form
import ConditionQuery.Proofs.Calendar.Notation
import ConditionQuery.Proofs.Calendar.Scanner
import ConditionQuery.Proofs.Calendar.Spelling
import ConditionQuery.Proofs.Clause.Binding
import ConditionQuery.Proofs.Clause.Dominance
import ConditionQuery.Proofs.Clause.Expansion
import ConditionQuery.Proofs.Clause.Form
import ConditionQuery.Proofs.Clause.Readability
import ConditionQuery.Proofs.Clause.Skeleton
import ConditionQuery.Proofs.Clause.Term
import ConditionQuery.Proofs.CommandLine.Run
import ConditionQuery.Proofs.Environment.Dotenv
import ConditionQuery.Proofs.Json.Exchange
import ConditionQuery.Proofs.Json.Rearrangement
import ConditionQuery.Proofs.Pattern.Literal
import ConditionQuery.Proofs.Pattern.Search
import ConditionQuery.Proofs.Relation.Builtins
import ConditionQuery.Proofs.Relation.Capture
import ConditionQuery.Proofs.Relation.DayNote
import ConditionQuery.Proofs.Relation.Heading
import ConditionQuery.Proofs.Relation.Helper
import ConditionQuery.Proofs.Relation.History
import ConditionQuery.Proofs.Relation.Interleaving
import ConditionQuery.Proofs.Relation.Labels
import ConditionQuery.Proofs.Relation.Resolution
import ConditionQuery.Proofs.Relation.Skeleton
import ConditionQuery.Proofs.Relation.Template
import ConditionQuery.Proofs.Settings.Listing
import ConditionQuery.Proofs.Settings.Registry
import ConditionQuery.Proofs.Settings.Sources
import ConditionQuery.Proofs.Text.Blank
import ConditionQuery.Proofs.Text.Case
import ConditionQuery.Proofs.Text.Decimal
import ConditionQuery.Proofs.Text.Symbol
import ConditionQuery.Proofs.Text.Utf8
import ConditionQuery.Proofs.Translator.Composition
import ConditionQuery.Proofs.Translator.Failure
import ConditionQuery.Proofs.Translator.Frame
import ConditionQuery.Proofs.Translator.Hygiene
import ConditionQuery.Proofs.Translator.Skeleton
import ConditionQuery.Proofs.Translator.Translation
import ConditionQuery.Proofs.Unicode.CaseFolding
