import ConditionQuery.CommandLine.Run

set_option autoImplicit false

/-! # Where settings come from

Settings come from the file that the command line names, or else from three variables of the
environment, and never from both. Whatever their source, settings that are accepted are valid: they
are checked before anything else is done with them. A catalog file on the command line takes the
place of the one in the settings only after this check, so that a second check finds nothing new
(`Settings.ofSources_eq`). What two runs with different sources have in common follows from there.
-/

namespace ConditionQuery

namespace Settings

variable {s s' : Settings} {e e' : Environment} {file : Option FileContent}
  {catalog : Option String}

/-! ## Valid settings -/

/-- The pattern of day-note titles is not empty, and it is a pattern. -/
structure IsValid (s : Settings) : Prop where
  ne_empty : s.dayNotePattern ≠ ""
  exists_regex : ∃ p, Regex.ofPattern? false s.dayNotePattern = some p

/-- Exactly the valid settings pass the check, and they pass it unchanged. -/
theorem validate_eq_ok_iff : validate s = .ok s' ↔ s.IsValid ∧ s' = s := by
  have hregex : (∃ p, Regex.ofPattern? false s.dayNotePattern = some p) ↔
      ¬ (Regex.ofPattern? false s.dayNotePattern).isNone = true := by
    rw [Option.isNone_iff_eq_none, ← Option.isSome_iff_exists, Option.isSome_iff_ne_none]
  unfold validate
  constructor
  · intro h
    split at h
    · cases h
    · next hempty =>
      split at h
      · cases h
      · next hnone =>
        cases h
        exact ⟨⟨fun heq => hempty (by rw [heq]; rfl), hregex.mpr hnone⟩, rfl⟩
  · rintro ⟨⟨hempty, hpattern⟩, rfl⟩
    rw [if_neg (by simpa using hempty), if_neg (hregex.mp hpattern)]

theorem isValid_of_validate (h : validate s = .ok s') : s'.IsValid := by
  obtain ⟨hvalid, rfl⟩ := validate_eq_ok_iff.mp h
  exact hvalid

/-- What comes of two steps comes of the second one after the first. -/
theorem exists_of_bind_eq_ok {ε α β : Type} {x : Except ε α} {f : α → Except ε β} {b : β}
    (h : x >>= f = .ok b) : ∃ a, x = .ok a ∧ f a = .ok b := by
  cases x with
  | error problem => cases h
  | ok a => exact ⟨a, rfl, h⟩

theorem isValid_of_ofEnvironment (h : ofEnvironment e = .ok s) : s.IsValid := by
  unfold ofEnvironment at h
  obtain ⟨_, -, h⟩ := exists_of_bind_eq_ok h
  obtain ⟨_, -, h⟩ := exists_of_bind_eq_ok h
  obtain ⟨_, -, h⟩ := exists_of_bind_eq_ok h
  exact isValid_of_validate h

theorem isValid_of_ofFile {content : FileContent} (h : ofFile content = .ok s) : s.IsValid := by
  unfold ofFile at h
  split at h
  · cases h
  · split at h
    · exact isValid_of_validate h
    · cases h

/-! ## Sources -/

/-- The settings of a file if there is one, and else those of the environment. -/
def ofFileOr (e : Environment) : Option FileContent → Except SettingsError Settings
  | some content => ofFile content
  | none => ofEnvironment e

theorem isValid_of_ofFileOr (h : ofFileOr e file = .ok s) : s.IsValid := by
  cases file with
  | some content => exact isValid_of_ofFile h
  | none => exact isValid_of_ofEnvironment h

/-- The settings with a catalog file in place of theirs, if one is named. -/
def withCatalog (catalog : Option String) (s : Settings) : Settings :=
  { s with catalogFile := catalog.or s.catalogFile }

theorem ofSources_eq_bind (e : Environment) (file : Option FileContent)
    (catalog : Option String) :
    ofSources e file catalog = ofFileOr e file >>= fun s => validate (withCatalog catalog s) := by
  cases file <;> rfl

/-- The second check finds nothing new, since it is about the pattern. -/
theorem ofSources_eq (e : Environment) (file : Option FileContent) (catalog : Option String) :
    ofSources e file catalog = (ofFileOr e file).map (withCatalog catalog) := by
  rw [ofSources_eq_bind]
  cases hsource : ofFileOr e file with
  | error problem => rfl
  | ok s =>
      obtain ⟨hempty, hregex⟩ := isValid_of_ofFileOr hsource
      exact validate_eq_ok_iff.mpr ⟨⟨hempty, hregex⟩, rfl⟩

theorem isValid_of_ofSources (h : ofSources e file catalog = .ok s) : s.IsValid := by
  rw [ofSources_eq_bind] at h
  obtain ⟨_, -, h⟩ := exists_of_bind_eq_ok h
  exact isValid_of_validate h

def variableNames : List String :=
  [patternVariable, catalogVariable, disabledVariable]

theorem textOf?_congr {name : String} (h : e'.get? name = e.get? name) :
    textOf? e' name = textOf? e name := by
  unfold textOf?
  rw [h]

/-- Other variables do not count. -/
theorem ofEnvironment_congr (h : ∀ name ∈ variableNames, e'.get? name = e.get? name) :
    ofEnvironment e' = ofEnvironment e := by
  have htext : ∀ name ∈ variableNames, textOf? e' name = textOf? e name :=
    fun name hname => textOf?_congr (h name hname)
  unfold ofEnvironment
  rw [htext patternVariable (by decide), htext catalogVariable (by decide),
    htext disabledVariable (by decide)]

theorem isValid_default : default.IsValid := by
  have hpattern : (Regex.ofPattern? false default.dayNotePattern).isSome = true := by
    decide +kernel
  exact ⟨by decide, Option.isSome_iff_exists.mp hpattern⟩

/-- Where no variable is set, there are settings. -/
theorem ofEnvironment_of_unset (h : ∀ name ∈ variableNames, e.get? name = none) :
    ofEnvironment e = .ok default := by
  have hunset : ∀ name ∈ variableNames, textOf? e name = .ok none := by
    intro name hname
    unfold textOf?
    rw [h name hname]
  unfold ofEnvironment
  rw [hunset patternVariable (by decide), hunset catalogVariable (by decide),
    hunset disabledVariable (by decide)]
  dsimp only [bind, Except.bind]
  exact validate_eq_ok_iff.mpr ⟨isValid_default, rfl⟩

/-- A catalog file that is named changes neither success nor failure, and of the settings only the
catalog file. -/
theorem ofSources_some_catalog (e : Environment) (file : Option FileContent) (path : String) :
    ofSources e file (some path)
      = (ofSources e file none).map fun s => { s with catalogFile := some path } := by
  rw [ofSources_eq, ofSources_eq]
  cases ofFileOr e file <;> rfl

/-! ## The command line -/

/-- The settings of a program among some files and in some environment. `file` is the name of the
file with settings and `catalog` that of the catalog file, as far as the command line has them. -/
def ofCommandLine (read : String → FileContent) (e : Environment) (file catalog : Option String) :
    Except SettingsError Settings :=
  ofSources e (file.map read) catalog

end Settings

namespace CommandLine

/-- The rest of a run, once it is clear what the settings are. -/
def Command.outcome (c : Command) (read : String → FileContent) (now : Instant) :
    Except SettingsError Settings → Outcome
  | .error problem => .failure (.ofSettings problem)
  | .ok settings =>
    match catalogOf (m := Id) read settings with
    | .error problem => .failure (.ofService problem)
    | .ok catalog =>
      match c.output (settings.translator (Services.ofCatalog now catalog)) with
      | .error problem => .failure (.ofTranslation problem)
      | .ok output => .success output

/-- A run depends on the environment only through the settings. -/
theorem Invocation.run_eq (i : Invocation) (read : String → FileContent) (e : Environment)
    (now : Instant) :
    i.run (m := Id) read e now = i.command.outcome read now
      (Settings.ofCommandLine read e i.settingsFile i.catalogFile) := by
  unfold Invocation.run Settings.ofCommandLine
  cases i.settingsFile with
  | none => rfl
  | some path => rfl

end CommandLine

/-! ## Sources kept apart -/

namespace Settings

open CommandLine

/-- Settings that are accepted are valid, and their sources do not leak into one another. -/
structure SourcesKeptApart (read : String → FileContent) (e : Environment) : Prop where
  /-- Settings of the environment that are accepted are valid, -/
  isValid_of_environment : ∀ s, ofEnvironment e = .ok s → s.IsValid
  /-- those of a file are, -/
  isValid_of_file : ∀ content s, ofFile content = .ok s → s.IsValid
  /-- and those of a program are, whatever is on its command line. -/
  isValid_of_commandLine : ∀ file catalog s, ofCommandLine read e file catalog = .ok s → s.IsValid
  /-- If the command line names a file with settings, only this file counts. -/
  eq_of_file : ∀ path catalog e' read', read' path = read path →
    ofCommandLine read' e' (some path) catalog = ofCommandLine read e (some path) catalog
  /-- Then the same is done in every environment. -/
  run_eq_of_file : ∀ (i : Invocation) path e' now, i.settingsFile = some path →
    i.run (m := Id) read e' now = i.run (m := Id) read e now
  /-- If it names none, no file counts, and of the environment only three variables. -/
  eq_of_environment : ∀ catalog e' read', (∀ name ∈ variableNames, e'.get? name = e.get? name) →
    ofCommandLine read' e' none catalog = ofCommandLine read e none catalog
  /-- A catalog file on the command line changes neither success nor failure, and of the settings
  nothing but the catalog file. -/
  map_catalog : ∀ file path, ofCommandLine read e file (some path)
    = (ofCommandLine read e file none).map fun s => { s with catalogFile := some path }

/-- **Sources of settings are kept apart, and accepted settings are valid.** Either a file or the
environment decides on the settings, with success or with failure, and a catalog file on the command
line is put into the settings that they give. -/
theorem ofCommandLine_sourcesKeptApart (read : String → FileContent) (e : Environment) :
    SourcesKeptApart read e where
  isValid_of_environment := fun _ => isValid_of_ofEnvironment
  isValid_of_file := fun _ _ => isValid_of_ofFile
  isValid_of_commandLine := fun _ _ _ => isValid_of_ofSources
  eq_of_file := by
    intro path catalog e' read' hread
    show ofSources e' (some (read' path)) catalog = ofSources e (some (read path)) catalog
    rw [hread, ofSources_eq, ofSources_eq]
    rfl
  run_eq_of_file := by
    intro i path e' now hpath
    rw [Invocation.run_eq, Invocation.run_eq, hpath]
    rfl
  eq_of_environment := by
    intro catalog e' read' h
    show ofSources e' none catalog = ofSources e none catalog
    rw [ofSources_eq, ofSources_eq, ofFileOr, ofFileOr, ofEnvironment_congr h]
  map_catalog := fun file => ofSources_some_catalog e (file.map read)

end Settings

end ConditionQuery
