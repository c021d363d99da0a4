import ConditionQuery.Proofs.Environment.Dotenv
import ConditionQuery.Proofs.Json.Layout
import ConditionQuery.Proofs.Settings.Sources

set_option autoImplicit false

/-! # All or nothing

A run goes through stages: the settings are read and merged with the command line, the catalog that
they name is read, and the command is done with the translator of both. A stage that fails ends the
run (`Invocation.Fails`), and a run whose stages all succeed has lines to print
(`Invocation.Prints`); there is nothing between the two (`Invocation.fails_or_prints`).

The program need not make its output before it writes any of it. It can write line by line
(`Invocation.perform`), for all that can fail comes before the first line.

Before the first stage, the defaults of the environment are loaded. A file of defaults can end the
program (`Dotenv.EndsProgram`), which then has neither failed nor printed anything.
-/

namespace ConditionQuery.CommandLine

/-! ## Lines -/

theorem lines_cons (text : String) (texts : List String) :
    lines (text :: texts) = text ++ "\n" ++ lines texts :=
  String.join_cons

theorem lines_singleton (text : String) : lines [text] = text ++ "\n" := by
  rw [lines_cons]
  exact String.append_empty

theorem toList_lines (texts : List String) :
    (lines texts).toList = texts.flatMap fun text => text.toList ++ ['\n'] := by
  induction texts with
  | nil => rfl
  | cons text texts ih => simp [lines_cons, ih]

/-- The lines of a value are its printed form and a line feed. -/
theorem lines_jsonLines (j : Json) : lines j.lines = String.ofList (j.pretty 0) ++ "\n" := by
  apply String.toList_injective
  rw [toList_lines, ← j.pretty_append_lineFeed]
  simp

/-! ## Commands -/

namespace Command

variable {t : Translator} {c : Command} {texts : List String}

inductive Fails (t : Translator) : Command → Prop where
  | generation {condition : Condition} {format : Format} {problem : TranslateError}
      (h : t.translate condition = .error problem) : Fails t (.translate condition format)
  | targetOptions {source relation : String} {problem : TranslateError}
      (h : t.targetOptions source relation = .error problem) : Fails t (.options source relation)

inductive Prints (t : Translator) : Command → List String → Prop where
  | json {condition : Condition} {clauses : List Clause}
      (h : t.translate condition = .ok clauses) :
      Prints t (.translate condition .json) (Json.array (Clause.toJsons clauses)).lines
  | datalog {condition : Condition} {clauses : List Clause}
      (h : t.translate condition = .ok clauses) :
      Prints t (.translate condition .datalog) [Clause.toDatalog clauses]
  | labels : Prints t .labels t.labels
  | options {source relation : String} {suggestions : List String}
      (h : t.targetOptions source relation = .ok suggestions) :
      Prints t (.options source relation) suggestions

theorem fails_or_prints (t : Translator) (c : Command) : c.Fails t ∨ ∃ texts, c.Prints t texts := by
  cases c with
  | translate condition format =>
      cases h : t.translate condition with
      | error problem => exact .inl (.generation h)
      | ok clauses =>
          cases format with
          | json => exact .inr ⟨_, .json h⟩
          | datalog => exact .inr ⟨_, .datalog h⟩
  | labels => exact .inr ⟨_, .labels⟩
  | options source relation =>
      cases h : t.targetOptions source relation with
      | error problem => exact .inl (.targetOptions h)
      | ok suggestions => exact .inr ⟨_, .options h⟩

theorem output_of_fails (h : c.Fails t) : ∃ problem, c.output t = .error problem := by
  cases h with
  | generation h => exact ⟨_, by rw [output, h]; rfl⟩
  | targetOptions h => exact ⟨_, by rw [output, h]; rfl⟩

theorem output_of_prints (h : c.Prints t texts) : c.output t = .ok (lines texts) := by
  cases h with
  | json h =>
      rw [output, h, lines_jsonLines]
      rfl
  | datalog h =>
      rw [output, h, lines_singleton]
      rfl
  | labels => rfl
  | options h =>
      rw [output, h]
      rfl

end Command

/-! ## Runs -/

/-- How a run ends whose command has been done. -/
def Outcome.ofOutput : Except TranslateError String → Outcome
  | .error problem => .failure (.ofTranslation problem)
  | .ok output => .success output

/-- How a run ends with settings and a catalog for them. -/
def Command.outcomeWith (c : Command) (now : Instant) (s : Settings) :
    Except ServiceError Catalog → Outcome
  | .error problem => .failure (.ofService problem)
  | .ok catalog => .ofOutput (c.output (s.translator (Services.ofCatalog now catalog)))

theorem Command.outcome_ok (c : Command) (read : String → FileContent) (now : Instant)
    (s : Settings) :
    c.outcome read now (.ok s) = c.outcomeWith now s (catalogOf (m := Id) read s) := by
  rw [outcome]
  cases catalogOf (m := Id) read s with
  | error problem => rfl
  | ok catalog =>
      rw [outcomeWith]
      dsimp only
      cases c.output (s.translator (Services.ofCatalog now catalog)) <;> rfl

namespace Invocation

variable {i : Invocation} {read : String → FileContent} {e : Environment} {now : Instant}
  {s : Settings} {t : Translator} {texts : List String}

/-- The settings of a run: those of the file that the command line names, or else those of the
environment, with the catalog file of the command line if it names one. -/
def merged (i : Invocation) (read : String → FileContent) (e : Environment) :
    Except SettingsError Settings :=
  (Settings.ofFileOr e (i.settingsFile.map read)).map (Settings.withCatalog i.catalogFile)

/-- The catalog that goes with settings. -/
inductive Supplies (read : String → FileContent) (s : Settings) : Catalog → Prop where
  /-- If the settings name no file, it is empty. -/
  | empty (h : s.catalogFile = none) : Supplies read s .empty
  /-- If they name a file, it is the catalog in this file. -/
  | file {path : String} {catalog : Catalog} (hpath : s.catalogFile = some path)
      (h : Catalog.ofFile path (read path) = .ok catalog) : Supplies read s catalog

/-- The translator of a run, made from the merged settings and their catalog. -/
inductive Prepares (i : Invocation) (read : String → FileContent) (e : Environment)
    (now : Instant) : Translator → Prop where
  | mk {s : Settings} {catalog : Catalog} (hs : i.merged read e = .ok s)
      (hcatalog : Supplies read s catalog) :
      Prepares i read e now (s.translator (Services.ofCatalog now catalog))

/-- A stage of a run fails. -/
inductive Fails (i : Invocation) (read : String → FileContent) (e : Environment)
    (now : Instant) : Prop where
  | settings {problem : SettingsError} (h : i.merged read e = .error problem)
  | catalog {s : Settings} {path : String} {problem : ServiceError}
      (hs : i.merged read e = .ok s) (hpath : s.catalogFile = some path)
      (h : Catalog.ofFile path (read path) = .error problem)
  | command {t : Translator} (ht : i.Prepares read e now t) (h : i.command.Fails t)

/-- All stages of a run succeed, and there are lines to print. -/
inductive Prints (i : Invocation) (read : String → FileContent) (e : Environment)
    (now : Instant) (texts : List String) : Prop where
  | mk {t : Translator} (ht : i.Prepares read e now t) (h : i.command.Prints t texts)

theorem run_eq_of_merged (i : Invocation) (read : String → FileContent) (e : Environment)
    (now : Instant) :
    i.run (m := Id) read e now = i.command.outcome read now (i.merged read e) := by
  rw [run_eq, merged, Settings.ofCommandLine, Settings.ofSources_eq]

theorem catalogOf_of_supplies {catalog : Catalog} (h : Supplies read s catalog) :
    catalogOf (m := Id) read s = .ok catalog := by
  cases h with
  | empty h =>
      rw [catalogOf, h]
      rfl
  | file hpath h =>
      rw [catalogOf, hpath]
      exact h

theorem run_of_prepares (ht : i.Prepares read e now t) :
    i.run (m := Id) read e now = .ofOutput (i.command.output t) := by
  obtain ⟨hs, hcatalog⟩ := ht
  rw [run_eq_of_merged, hs, Command.outcome_ok, catalogOf_of_supplies hcatalog]
  rfl

theorem run_of_fails (h : i.Fails read e now) :
    ∃ report, i.run (m := Id) read e now = .failure report := by
  cases h with
  | settings h => exact ⟨_, by rw [run_eq_of_merged, h]; rfl⟩
  | @catalog s path problem hs hpath h =>
      have hread : catalogOf (m := Id) read s = .error problem := by
        rw [catalogOf, hpath]
        exact h
      exact ⟨_, by rw [run_eq_of_merged, hs, Command.outcome_ok, hread]; rfl⟩
  | command ht h =>
      obtain ⟨problem, houtput⟩ := Command.output_of_fails h
      exact ⟨_, by rw [run_of_prepares ht, houtput]; rfl⟩

theorem run_of_prints (h : i.Prints read e now texts) :
    i.run (m := Id) read e now = .success (lines texts) := by
  obtain ⟨ht, h⟩ := h
  rw [run_of_prepares ht, Command.output_of_prints h]
  rfl

/-- The stages are tried in turn. The first failure ends the run, and if there is none, the command
has its lines. -/
theorem fails_or_prints (i : Invocation) (read : String → FileContent) (e : Environment)
    (now : Instant) : i.Fails read e now ∨ ∃ texts, i.Prints read e now texts := by
  -- once there is a translator, only the command can fail
  have hcommand : ∀ {t}, i.Prepares read e now t →
      i.Fails read e now ∨ ∃ texts, i.Prints read e now texts := by
    intro t ht
    obtain h | ⟨texts, h⟩ := i.command.fails_or_prints t
    · exact .inl (.command ht h)
    · exact .inr ⟨texts, ht, h⟩
  cases hs : i.merged read e with
  | error problem => exact .inl (.settings hs)
  | ok s =>
      cases hpath : s.catalogFile with
      | none => exact hcommand ⟨hs, .empty hpath⟩
      | some path =>
          cases h : Catalog.ofFile path (read path) with
          | error problem => exact .inl (.catalog hs hpath h)
          | ok catalog => exact hcommand ⟨hs, .file hpath h⟩

end Invocation

/-! ## Printing as it goes -/

section Printing

variable {m : Type → Type} [Monad m] (write : String → m Unit)

/-- Prints texts one after the other, each on a line of its own. -/
def printLines : List String → m Unit
  | [] => pure ()
  | text :: rest => do
    write (text ++ "\n")
    printLines rest

/-- Does a command and prints what comes of it. The answer is the code with which the program
ends. -/
def Command.perform (t : Translator) : Command → m Nat
  | .translate condition format =>
    match t.translate condition with
    | .error _ => return 1
    | .ok clauses => do
      write (format.write clauses)
      return 0
  | .labels => do
    printLines write t.labels
    return 0
  | .options source relation =>
    match t.targetOptions source relation with
    | .error _ => return 1
    | .ok suggestions => do
      printLines write suggestions
      return 0

def Command.performWith (now : Instant) (s : Settings) (c : Command) :
    Except ServiceError Catalog → m Nat
  | .error _ => return 1
  | .ok catalog => c.perform write (s.translator (Services.ofCatalog now catalog))

def Invocation.perform (read : String → m FileContent) (e : Environment) (now : Instant)
    (i : Invocation) : m Nat := do
  let file ← match i.settingsFile with
    | none => pure none
    | some path => do pure (some (← read path))
  match Settings.ofSources e file i.catalogFile with
  | .error _ => return 1
  | .ok s => i.command.performWith write now s (← catalogOf read s)

end Printing

def record (text : String) : StateM String Unit :=
  modify (· ++ text)

theorem printLines_record (texts : List String) (written : String) :
    (printLines record texts).run written = ((), written ++ lines texts) := by
  induction texts generalizing written with
  | nil => exact congrArg (Prod.mk ()) String.append_empty.symm
  | cons text texts ih =>
      show (printLines record texts).run (written ++ (text ++ "\n")) = _
      rw [ih, lines_cons, String.append_assoc]

/-- The code of an outcome, and its output behind what has been written. -/
def Outcome.after (o : Outcome) (written : String) : Nat × String :=
  (o.code, written ++ o.output)

theorem Outcome.failure_after (report : Report) (written : String) :
    (Outcome.failure report).after written = (1, written) :=
  congrArg (Prod.mk 1) String.append_empty

theorem Command.perform_record (t : Translator) (c : Command) (written : String) :
    (c.perform record t).run written = (Outcome.ofOutput (c.output t)).after written := by
  cases c with
  | translate condition format =>
      rw [perform, output]
      cases t.translate condition with
      | error problem => exact (Outcome.failure_after _ _).symm
      | ok clauses => rfl
  | labels =>
      show (0, ((printLines record t.labels).run written).2) = _
      rw [printLines_record]
      rfl
  | options source relation =>
      rw [perform, output]
      cases t.targetOptions source relation with
      | error problem => exact (Outcome.failure_after _ _).symm
      | ok suggestions =>
          show (0, ((printLines record suggestions).run written).2) = _
          rw [printLines_record]
          rfl

theorem Command.performWith_record (c : Command) (now : Instant) (s : Settings)
    (catalog : Except ServiceError Catalog) (written : String) :
    (c.performWith record now s catalog).run written
      = (c.outcomeWith now s catalog).after written := by
  cases catalog with
  | error problem => exact (Outcome.failure_after _ _).symm
  | ok catalog => exact c.perform_record _ written

/-- Files are read in the same way while something is written. -/
theorem catalogOf_record (read : String → FileContent) (s : Settings) :
    catalogOf (m := StateM String) (fun path => pure (read path)) s
      = pure (catalogOf (m := Id) read s) := by
  unfold catalogOf
  cases s.catalogFile <;> rfl

/-- A program that prints as it goes ends with the code of the run, and it has written the output of
the run. -/
theorem Invocation.perform_record (i : Invocation) (read : String → FileContent) (e : Environment)
    (now : Instant) (written : String) :
    (i.perform record (fun path => pure (read path)) e now).run written
      = (i.run (m := Id) read e now).after written := by
  rw [run_eq, Settings.ofCommandLine, perform]
  have hrest : ∀ settings : Except SettingsError Settings,
      StateT.run (m := Id) (match settings with
        | .error _ => pure 1
        | .ok s => do
          i.command.performWith record now s (← catalogOf (fun path => pure (read path)) s)) written
        = (i.command.outcome read now settings).after written := by
    intro settings
    cases settings with
    | error problem => exact (Outcome.failure_after _ _).symm
    | ok s =>
        rw [Command.outcome_ok, ← Command.performWith_record]
        dsimp only
        rw [catalogOf_record]
        rfl
  cases i.settingsFile with
  | none => exact hrest _
  | some path => exact hrest _

/-! ## All or nothing -/

/-- A run prints all that it has to print, or nothing. -/
structure AllOrNothing (i : Invocation) (read : String → FileContent) (e : Environment)
    (now : Instant) (o : Outcome) : Prop where
  /-- If a stage fails, the code is 1, and nothing is written. -/
  of_fails : i.Fails read e now → o.code = 1 ∧ o.output = ""
  /-- If no stage fails, the run has lines to print. -/
  exists_prints : ¬ i.Fails read e now → ∃ texts, i.Prints read e now texts
  /-- If it has lines to print, the code is 0, and exactly these lines are written. -/
  of_prints : ∀ texts, i.Prints read e now texts → o.code = 0 ∧ o.output = lines texts
  /-- A program that prints as it goes ends with the same code and has written the same. -/
  perform_eq : ∀ written,
    (i.perform record (fun path => pure (read path)) e now).run written = o.after written

theorem allOrNothing_run (i : Invocation) (read : String → FileContent) (e : Environment)
    (now : Instant) : AllOrNothing i read e now (i.run (m := Id) read e now) where
  of_fails := by
    intro h
    obtain ⟨report, hfailure⟩ := Invocation.run_of_fails h
    rw [hfailure]
    exact ⟨rfl, rfl⟩
  exists_prints := fun h => (i.fails_or_prints read e now).resolve_left h
  of_prints := by
    intro texts h
    rw [Invocation.run_of_prints h]
    exact ⟨rfl, rfl⟩
  perform_eq := i.perform_record read e now

/-- A program that ends on the spot has neither failed nor printed what it was asked for. -/
theorem not_allOrNothing_crash {i : Invocation} {read : String → FileContent} {e : Environment}
    {now : Instant} {c : Crash} : ¬ AllOrNothing i read e now (.crash c) := by
  intro h
  obtain hfails | ⟨texts, hprints⟩ := i.fails_or_prints read e now
  · exact absurd (h.of_fails hfails).1 (show 101 ≠ 1 by decide)
  · exact absurd (h.of_prints texts hprints).1 (show 101 ≠ 0 by decide)

/-- A run is all or nothing in the environment with the defaults of a file. -/
def AllOrNothingWith (defaults : Option (List UInt8)) (i : Invocation)
    (read : String → FileContent) (e : Environment) (now : Instant) (o : Outcome) : Prop :=
  ∃ e', Dotenv.loadAny e defaults = .ok e' ∧ AllOrNothing i read e' now o

section Words

variable {words : List String} {i : Invocation} {read : String → FileContent} {e : Environment}
  {defaults : Option (List UInt8)} {now : Instant}

theorem exists_crash_of_endsProgram (h : Dotenv.EndsProgram e defaults) :
    ∃ c, run (m := Id) read e defaults now words = .crash c := by
  obtain ⟨c, hload⟩ := Dotenv.endsProgram_iff.mp h
  exact ⟨c, by rw [run, hload]; rfl⟩

theorem allOrNothingWith_of_not_endsProgram (hwords : Invocation.ofWords words = .ok i)
    (h : ¬ Dotenv.EndsProgram e defaults) :
    AllOrNothingWith defaults i read e now (run (m := Id) read e defaults now words) := by
  cases hload : Dotenv.loadAny e defaults with
  | error c => exact absurd (Dotenv.endsProgram_iff.mpr ⟨c, hload⟩) h
  | ok e' =>
      have hrun : run (m := Id) read e defaults now words = i.run (m := Id) read e' now := by
        rw [run, hload, hwords]
      exact ⟨e', hload, hrun ▸ allOrNothing_run i read e' now⟩

end Words

/-- **A program prints what it is asked for, or nothing, unless its defaults end it.** Whatever the
environment, the defaults for it and the files are: if the defaults can be loaded, a run that fails
at some stage ends with 1 and has written nothing, and every other run ends with 0 and has written
the lines that the translator of its settings and its catalog has for the command. If they cannot,
the program ends with 101 before it looks at what it is asked for. Defaults without a null byte can
be loaded. -/
theorem run_allOrNothing_iff {words : List String} {i : Invocation}
    (hwords : Invocation.ofWords words = .ok i) (read : String → FileContent) (e : Environment)
    (defaults : Option (List UInt8)) (now : Instant) :
    let o := run (m := Id) read e defaults now words
    (AllOrNothingWith defaults i read e now o ↔ ¬ Dotenv.EndsProgram e defaults) ∧
    (Dotenv.EndsProgram e defaults →
      o.code = 101 ∧ o.output = "" ∧ ∀ e', ¬ AllOrNothing i read e' now o) ∧
    (Dotenv.NullFree e → (∀ bytes, defaults = some bytes → 0 ∉ bytes) →
      AllOrNothingWith defaults i read e now o) := by
  intro o
  refine ⟨⟨?_, allOrNothingWith_of_not_endsProgram hwords⟩, ?_, ?_⟩
  · rintro ⟨e', -, h⟩ hends
    obtain ⟨c, hcrash⟩ : ∃ c, o = .crash c := exists_crash_of_endsProgram hends
    exact not_allOrNothing_crash (hcrash ▸ h)
  · intro hends
    obtain ⟨c, hcrash⟩ : ∃ c, o = .crash c := exists_crash_of_endsProgram hends
    rw [hcrash]
    exact ⟨rfl, rfl, fun e' => not_allOrNothing_crash⟩
  · exact fun he hdefaults =>
      allOrNothingWith_of_not_endsProgram hwords (Dotenv.not_endsProgram_of_nullFree he hdefaults)

/-- Two runs without a catalog in an environment that gets a variable from a file. One fails at its
last stage, since its target is no date, and the other one prints suggestions. -/
theorem run_allOrNothing_iff_default :
    let read : String → FileContent := fun _ => .error .notFound
    let defaults : Option (List UInt8) := some [88, 61, 97]
    let dated := ["translate", "--source", "A", "--relation", "created after", "--target", "then"]
    let headed := ["options", "--source", "A", "--relation", "has heading"]
    Invocation.ofWords dated
      = .ok ⟨none, none, .translate ⟨"A", "created after", "then", false, ""⟩ .json⟩ ∧
    Invocation.ofWords headed = .ok ⟨none, none, .options "A" "has heading"⟩ ∧
    ((run (m := Id) read .empty defaults ⟨0, 0⟩ dated).code = 1 ∧
      (run (m := Id) read .empty defaults ⟨0, 0⟩ dated).output = "") ∧
    (run (m := Id) read .empty defaults ⟨0, 0⟩ headed).code = 0 ∧
      (run (m := Id) read .empty defaults ⟨0, 0⟩ headed).output = lines ["1", "2", "3", "0"] := by
  intro read defaults dated headed
  let e' : Environment := ⟨[("X", "a".toUTF8.toList)]⟩
  have hload : Dotenv.loadAny .empty defaults = .ok e' := rfl
  have hends : ¬ Dotenv.EndsProgram .empty defaults := by
    rw [Dotenv.endsProgram_iff, hload]
    exact nofun
  have hempty : Dotenv.NullFree .empty := fun _ _ h => nomatch h
  have hdefaults : ∀ bytes, defaults = some bytes → 0 ∉ bytes := by
    intro bytes h
    cases show some [88, 61, 97] = some bytes from h
    decide
  have hsettings : Settings.ofFileOr e' none = .ok Settings.default :=
    Settings.ofEnvironment_of_unset (by decide)
  have hprepares : ∀ c : Command, (⟨none, none, c⟩ : Invocation).Prepares read e' ⟨0, 0⟩
      (Settings.default.translator (Services.ofCatalog ⟨0, 0⟩ .empty)) :=
    fun c => .mk (congrArg (Except.map (Settings.withCatalog none)) hsettings) (.empty rfl)
  have hdated : Invocation.ofWords dated
      = .ok ⟨none, none, .translate ⟨"A", "created after", "then", false, ""⟩ .json⟩ := rfl
  have hheaded : Invocation.ofWords headed = .ok ⟨none, none, .options "A" "has heading"⟩ := rfl
  refine ⟨hdated, hheaded, ?_, ?_⟩
  · obtain ⟨e, he, h⟩ := (run_allOrNothing_iff hdated read .empty defaults ⟨0, 0⟩).1.mpr hends
    cases hload.symm.trans he
    have hfails : (Settings.default.translator (Services.ofCatalog ⟨0, 0⟩ .empty)).translate
        ⟨"A", "created after", "then", false, ""⟩
        = .error (.generation "created after"
          (.service (.unreadableDate "then" "unrecognized date expression"))) := rfl
    exact h.of_fails (.command (hprepares _) (.generation hfails))
  · obtain ⟨e, he, h⟩ :=
      (run_allOrNothing_iff hheaded read .empty defaults ⟨0, 0⟩).2.2 hempty hdefaults
    cases hload.symm.trans he
    exact h.of_prints _ ⟨hprepares _, .options rfl⟩

/-- A file that gives `X` a value with a null character in it. The program that finds this file does
not do what it is asked for, and it does not report a failure either. -/
theorem not_allOrNothing_null :
    let read : String → FileContent := fun _ => .error .notFound
    let defaults : Option (List UInt8) := some [88, 61, 97, 0, 98]
    let words := ["options", "--source", "A", "--relation", "has heading"]
    let i : Invocation := ⟨none, none, .options "A" "has heading"⟩
    let o := run (m := Id) read .empty defaults ⟨0, 0⟩ words
    Invocation.ofWords words = .ok i ∧ o = .crash ⟨"X", "a\x00b"⟩ ∧ o.code = 101 ∧
      ∀ e', ¬ AllOrNothing i read e' ⟨0, 0⟩ o := by
  intro read defaults words i o
  have hcrash : o = .crash ⟨"X", "a\x00b"⟩ := rfl
  exact ⟨rfl, hcrash, rfl, fun e' => hcrash ▸ not_allOrNothing_crash⟩

end ConditionQuery.CommandLine
