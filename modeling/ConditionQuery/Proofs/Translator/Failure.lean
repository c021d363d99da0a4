import ConditionQuery.Proofs.Relation.Skeleton
import ConditionQuery.Proofs.Translator.Translation

set_option autoImplicit false

/-! # When a condition has no clauses

Among built-in relations only four can fail, those that compare a time of the source with the
instant that the target stands for. They fail exactly if the services cannot tell this instant, and
the failure says which registered relation was asked and what the services said. If they can, the
clauses bind the time and compare the instant with it, in milliseconds that are rounded down.
-/

namespace ConditionQuery

/-! ## Instants in milliseconds -/

namespace Instant

def unixNanos (t : Instant) : Int :=
  t.seconds * 1000000000 + t.nanos

/-- The millisecond with number `m` since the start of 1970, or before it, is the one in which an
instant lies. -/
def IsInMilli (t : Instant) (m : Int) : Prop :=
  m * 1000000 ≤ t.unixNanos ∧ t.unixNanos < (m + 1) * 1000000

/-- Milliseconds are rounded down, also before 1970 and in leap seconds. -/
theorem isInMilli_iff {t : Instant} {m : Int} : t.IsInMilli m ↔ m = t.unixMillis := by
  unfold IsInMilli unixNanos unixMillis
  omega

end Instant

/-! ## Comparisons with times -/

inductive TimeKind where
  | creation
  | edit

def TimeKind.attr : TimeKind → String
  | .creation => ":create/time"
  | .edit => ":edit/time"

def TimeKind.word : TimeKind → String
  | .creation => "CreateTime"
  | .edit => "EditTime"

/-- Where a time has to be, as seen from an instant. -/
inductive Side where
  | after
  | before

/-- The sign between an instant and a time that is on a side of it. -/
def Side.operator : Side → String
  | .after => "<"
  | .before => ">"

/-- Clauses bind a time of the source and then ask that it be on a side of an instant. -/
def Compares (kind : TimeKind) (side : Side) (source : String) (t : Instant)
    (clauses : List Clause) : Prop :=
  ∃ (time : String) (m : Int), time = source ++ "-" ++ kind.word ∧ t.IsInMilli m ∧
    clauses = [.triple (.var source) kind.attr (.var time),
      .test side.operator [.number m, .var time]]

theorem compares_iff {kind : TimeKind} {side : Side} {source : String} {t : Instant}
    {clauses : List Clause} : Compares kind side source t clauses ↔
      clauses = Template.timed source kind.attr kind.word side.operator t := by
  simp only [Compares, Instant.isInMilli_iff]
  constructor
  · rintro ⟨_, _, rfl, rfl, rfl⟩
    rfl
  · rintro rfl
    exact ⟨_, _, rfl, rfl, rfl⟩

namespace Builtin

/-- What a relation asks of a time, if it is one that compares times. -/
def comparison? : Builtin → Option (TimeKind × Side)
  | .createdAfter => some (.creation, .after)
  | .createdBefore => some (.creation, .before)
  | .editedAfter => some (.edit, .after)
  | .editedBefore => some (.edit, .before)
  | _ => none

variable {b : Builtin} {kind : TimeKind} {side : Side} {r : Request} {setting : Setting}

theorem comparesTime_eq_isSome (b : Builtin) : b.comparesTime = b.comparison?.isSome := by
  cases b <;> rfl

theorem generate_of_comparison (hb : b.comparison? = some (kind, side)) (r : Request)
    (setting : Setting) :
    b.generate r setting = Template.timedBy setting r kind.attr kind.word side.operator := by
  cases b <;> cases hb <;> rfl

theorem generate_eq_ok_iff (hb : b.comparison? = some (kind, side)) {xs : List Clause} :
    b.generate r setting = .ok xs ↔ ∃ t : Instant,
      setting.services.readDate r.target = .ok t ∧ Compares kind side r.source t xs := by
  simp only [generate_of_comparison hb, compares_iff]
  constructor
  · exact Template.timedBy_eq_ok
  · rintro ⟨t, ht, rfl⟩
    rw [Template.timedBy, ht]

/-- A relation fails if it compares times and the services cannot tell the instant. -/
theorem generate_eq_error_iff {e : GenerateError} :
    b.generate r setting = .error e ↔ ∃ kind side problem, b.comparison? = some (kind, side) ∧
      setting.services.readDate r.target = .error problem ∧ e = .service problem := by
  cases hb : b.comparison? with
  | none =>
      obtain ⟨xs, hxs⟩ : ∃ xs, b.generate r setting = .ok xs :=
        exists_generate fun htime => by simp [comparesTime_eq_isSome, hb] at htime
      simp [hxs]
  | some comparison =>
      obtain ⟨kind, side⟩ := comparison
      rw [generate_of_comparison hb, Template.timedBy]
      cases setting.services.readDate r.target with
      | ok t => simp
      | error problem => simp [eq_comm]

end Builtin

namespace Translator

/-! ## Failures of conditions -/

/-- A condition fails as its relation does, under the name that is registered. -/
theorem translate_eq_error_iff {t : Translator} {c : Condition} {e : TranslateError} :
    t.translate c = .error e ↔ ∃ resolved cause,
      t.registry.resolve c.relation = some resolved ∧
      resolved.handler.generator.generate ⟨c.source, c.target, c.uid⟩ t.setting = .error cause ∧
      e = .generation resolved.key cause := by
  unfold translate
  cases t.registry.resolve c.relation with
  | none => simp
  | some resolved =>
      dsimp only
      cases hgen : resolved.handler.generator.generate ⟨c.source, c.target, c.uid⟩ t.setting with
      | ok xs => simp [hgen]
      | error cause => simp [hgen, eq_comm]

/-- The name in a failure is a registered one. -/
theorem mem_keys_of_translate_eq_error {t : Translator} {c : Condition} {key : String}
    {cause : GenerateError} (h : t.translate c = .error (.generation key cause)) :
    key ∈ t.registry.keys := by
  obtain ⟨resolved, _, hres, -, he⟩ := translate_eq_error_iff.mp h
  obtain ⟨entry, hentry, hkey, -⟩ := Registry.exists_entry_of_resolve hres
  cases he
  rw [← hkey]
  exact List.mem_map_of_mem hentry

/-- Conditions fail only where a time is compared with a text that stands for no instant. -/
structure FailsOnDatesOnly (t : Translator) : Prop where
  /-- A condition, negated or not, fails exactly if its relation is taken for one that compares
  times and its target, as it was typed, stands for no instant. The failure has the name under which
  the relation is registered and what the services said. -/
  eq_error_iff : ∀ (c : Condition) (e : TranslateError), t.translate c = .error e ↔
    ∃ resolved b kind side problem, t.registry.resolve c.relation = some resolved ∧
      resolved.handler.generator = .builtin b ∧ b.comparison? = some (kind, side) ∧
      t.setting.services.readDate c.target = .error problem ∧
      e = .generation resolved.key (.service problem)
  /-- The name in a failure is a registered one. -/
  key_mem : ∀ c key cause, t.translate c = .error (.generation key cause) → key ∈ t.registry.keys
  /-- Where the target stands for an instant, a time of the source is bound and compared with it. -/
  eq_ok_iff : ∀ (c : Condition) resolved b kind side,
    t.registry.resolve c.relation = some resolved → resolved.handler.generator = .builtin b →
    b.comparison? = some (kind, side) → ∀ clauses, t.translate c = .ok clauses ↔
      ∃ instant xs, t.setting.services.readDate c.target = .ok instant ∧
        Compares kind side c.source instant xs ∧
        clauses = if c.negate then [.noneOf xs] else xs

theorem translate_eq_error_iff_of_builtinsOnly {t : Translator} (ht : t.registry.BuiltinsOnly)
    {c : Condition} {e : TranslateError} :
    t.translate c = .error e ↔
      ∃ resolved b kind side problem, t.registry.resolve c.relation = some resolved ∧
        resolved.handler.generator = .builtin b ∧ b.comparison? = some (kind, side) ∧
        t.setting.services.readDate c.target = .error problem ∧
        e = .generation resolved.key (.service problem) := by
  rw [translate_eq_error_iff]
  constructor
  · rintro ⟨resolved, cause, hres, hcause, rfl⟩
    obtain ⟨b, hb⟩ := ht.exists_generator_eq hres
    rw [hb] at hcause
    obtain ⟨kind, side, problem, hcomparison, hread, rfl⟩ := Builtin.generate_eq_error_iff.mp hcause
    exact ⟨resolved, b, kind, side, problem, hres, hb, hcomparison, hread, rfl⟩
  · rintro ⟨resolved, b, kind, side, problem, hres, hb, hcomparison, hread, rfl⟩
    refine ⟨resolved, .service problem, hres, ?_, rfl⟩
    rw [hb]
    exact Builtin.generate_eq_error_iff.mpr ⟨kind, side, problem, hcomparison, hread, rfl⟩

/-- Some clauses are negated to one. -/
theorem negateIf_of_compares {kind : TimeKind} {side : Side} {source : String} {t : Instant}
    {xs : List Clause} (h : Compares kind side source t xs) (negate : Bool) :
    negateIf negate xs = if negate then [.noneOf xs] else xs := by
  obtain ⟨_, _, -, -, rfl⟩ := h
  cases negate <;> rfl

theorem translate_eq_ok_iff_of_comparison {t : Translator} {c : Condition} {resolved : Resolved}
    {b : Builtin} {kind : TimeKind} {side : Side}
    (hres : t.registry.resolve c.relation = some resolved)
    (hb : resolved.handler.generator = .builtin b) (hcomparison : b.comparison? = some (kind, side))
    {clauses : List Clause} :
    t.translate c = .ok clauses ↔
      ∃ instant xs, t.setting.services.readDate c.target = .ok instant ∧
        Compares kind side c.source instant xs ∧
        clauses = if c.negate then [.noneOf xs] else xs := by
  have hbuiltin : t.builtinOf? c = some b := by
    rw [builtinOf?, hres, Option.bind_some, Handler.builtin?, hb]
  constructor
  · intro h
    rcases translate_eq_ok h with ⟨hnone, -⟩ | ⟨resolved', xs, hres', hgen, rfl⟩
    · rw [hres] at hnone
      cases hnone
    · obtain rfl : resolved = resolved' := Option.some.inj (hres.symm.trans hres')
      rw [hb] at hgen
      obtain ⟨instant, hread, hxs⟩ := (Builtin.generate_eq_ok_iff hcomparison).mp hgen
      exact ⟨instant, xs, hread, hxs, negateIf_of_compares hxs c.negate⟩
  · rintro ⟨instant, xs, hread, hxs, rfl⟩
    rw [← negateIf_of_compares hxs]
    exact translate_of_generate hbuiltin
      ((Builtin.generate_eq_ok_iff hcomparison).mpr ⟨instant, hread, hxs⟩)

/-- **Built-in relations fail on dates only.** In a registry of built-in relations, under whatever
names, with all services, conditions fail exactly where they compare a time with a text that stands
for no instant, and where they compare it with an instant, the clauses say so. -/
theorem translate_failsOnDatesOnly (t : Translator) (ht : t.registry.BuiltinsOnly) :
    t.FailsOnDatesOnly where
  eq_error_iff := fun _ _ => translate_eq_error_iff_of_builtinsOnly ht
  key_mem := fun _ _ _ => mem_keys_of_translate_eq_error
  eq_ok_iff := fun _ _ _ _ _ hres hb hcomparison _ =>
    translate_eq_ok_iff_of_comparison hres hb hcomparison

/-- A relation under the name of another one, in other letters; one target stands for no instant,
and the other one for an instant before 1970 that is no whole millisecond. -/
theorem translate_failsOnDatesOnly_crossed :
    let registry := Registry.empty.register "created after" (.builtin .editedBefore)
    let read : String → Except ServiceError Instant := fun text =>
      if text = "then" then .ok ⟨-1, 999500000⟩ else .error (.unreadableDate text "unknown")
    let t : Translator := ⟨registry, ⟨⟨id, read, .ok [], .ok []⟩, DayNote.defaultPattern⟩⟩
    registry.BuiltinsOnly ∧
    t.translate ⟨"A", "Created After?", " then", true, ""⟩
      = .error (.generation "created after" (.service (.unreadableDate " then" "unknown"))) ∧
    t.translate ⟨"A", "Created After?", "then", false, ""⟩
      = .ok [.triple (.var "A") ":edit/time" (.var "A-EditTime"),
        .test ">" [.const "-1", .var "A-EditTime"]] := by
  intro registry read t
  have hregistry : registry.BuiltinsOnly := by
    intro e he
    obtain rfl : e = Entry.make "created after" (.builtin .editedBefore) := List.mem_singleton.mp he
    exact ⟨.editedBefore, rfl⟩
  have hfound : (Entry.make "created after" (.builtin .editedBefore)).isFoundIn "Created After?"
      = true := by decide +kernel
  have hres : t.registry.resolve "Created After?"
      = some ⟨"created after", .builtin .editedBefore, .fuzzy⟩ := by
    have hfind : registry.find? "Created After?" = none := by decide
    have hfirst : (registry.entries.find? fun e => e.isFoundIn "Created After?")
        = some (Entry.make "created after" (.builtin .editedBefore)) :=
      List.find?_cons_of_pos hfound
    show registry.resolve _ = _
    rw [Registry.resolve, hfind, hfirst]
    rfl
  obtain ⟨herror, -, hok⟩ := translate_failsOnDatesOnly t hregistry
  refine ⟨hregistry, ?_, ?_⟩
  · rw [herror]
    exact ⟨_, .editedBefore, .edit, .before, _, hres, rfl, rfl, rfl, rfl⟩
  · have hmilli : Instant.IsInMilli ⟨-1, 999500000⟩ (-1) := by
      unfold Instant.IsInMilli Instant.unixNanos
      decide
    have hthen := hok ⟨"A", "Created After?", "then", false, ""⟩ _ .editedBefore .edit .before hres
      rfl rfl
    exact (hthen _).mpr ⟨⟨-1, 999500000⟩, _, rfl, ⟨_, -1, rfl, hmilli, rfl⟩, rfl⟩

end Translator

end ConditionQuery
