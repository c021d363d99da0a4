import ConditionQuery.Proofs.Relation.History
import Mathlib.Logic.Function.Basic

set_option autoImplicit false

/-! # Clients that share a registry

Several clients work on one registry at the same time. Each runs its own sequence of operations,
every operation takes effect at once, and the operations of different clients come in any order: an
interleaving takes the next operation of some client until none is left.

Clients with names of their own, apart from each other's and from those at the start, do not notice
each other. What stands under a name depends on the changes about this name alone (`get?_run`), and
these are all made by one client; a name with something under it is resolved exactly, whatever other
names could be found in it. The entries that clients add come after those at the start
(`run_eq_append`), so that nothing but these is left once all clients have removed what they added.
-/

namespace ConditionQuery.Registry

/-! ## Operations -/

inductive Operation where
  | register (name : String) (x : Handler)
  | unregister (name : String)
  | get (name : String)
  | contains (name : String)
  | resolve (text : String)

namespace Operation

/-- The name or text that an operation is about. -/
def name : Operation → String
  | .register name _ => name
  | .unregister name => name
  | .get name => name
  | .contains name => name
  | .resolve text => text

/-- What an operation changes, if it changes anything. -/
def change? : Operation → Option Change
  | .register name x => some (.register name x)
  | .unregister name => some (.unregister name)
  | _ => none

/-- An operation other than a question for the relation that a text names. -/
def isPlain : Operation → Bool
  | .resolve _ => false
  | _ => true

end Operation

inductive Answer where
  | done
  | removed (b : Bool)
  | handler (x : Option Handler)
  | present (b : Bool)
  | resolved (x : Option Resolved)

def answer (r : Registry) : Operation → Answer
  | .register _ _ => .done
  | .unregister name => .removed (r.removes name)
  | .get name => .handler (r.get? name)
  | .contains name => .present (r.contains name)
  | .resolve text => .resolved (r.resolve text)

def perform (r : Registry) (op : Operation) : Registry :=
  match op.change? with
  | some c => r.apply c
  | none => r

def performAll (r : Registry) (ops : List Operation) : Registry :=
  ops.foldl perform r

def changes (ops : List Operation) : List Change :=
  ops.filterMap Operation.change?

/-- Only the changes among operations matter for the registry. -/
theorem performAll_eq_run (r : Registry) (ops : List Operation) :
    r.performAll ops = r.run (changes ops) := by
  induction ops generalizing r with
  | nil => rfl
  | cons op ops ih =>
      have hcons : r.performAll (op :: ops) = (r.perform op).performAll ops := rfl
      rw [hcons, ih, perform, changes, changes, List.filterMap_cons]
      cases op.change? <;> rfl

theorem changes_cons (op : Operation) (ops : List Operation) :
    changes (op :: ops) = changes [op] ++ changes ops :=
  List.filterMap_append (l := [op])

/-- A change that an operation makes is about the operation's name. -/
theorem exists_of_mem_changes {ops : List Operation} {c : Change} (h : c ∈ changes ops) :
    ∃ op ∈ ops, op.name = c.name := by
  obtain ⟨op, hop, hc⟩ := List.mem_filterMap.mp h
  refine ⟨op, hop, ?_⟩
  cases op <;> cases hc <;> rfl

/-! ## Interleavings -/

section
variable {ι : Type} [DecidableEq ι]

/-- A schedule takes the first operation of some client's program, and then goes on with what is
left of the programs, until all are done. -/
inductive Interleaves : (ι → List Operation) → List (ι × Operation) → Prop
  | done {programs : ι → List Operation} (h : ∀ i, programs i = []) : Interleaves programs []
  | step {programs : ι → List Operation} {i : ι} {op : Operation} {rest : List Operation}
      {schedule : List (ι × Operation)} (hi : programs i = op :: rest)
      (h : Interleaves (Function.update programs i rest) schedule) :
      Interleaves programs ((i, op) :: schedule)

/-- The operations of one client in a schedule. -/
def own (i : ι) (schedule : List (ι × Operation)) : List Operation :=
  (schedule.filter fun step => step.1 = i).map Prod.snd

def merged (schedule : List (ι × Operation)) : List Operation :=
  schedule.map Prod.snd

theorem own_cons (i j : ι) (op : Operation) (schedule : List (ι × Operation)) :
    own i ((j, op) :: schedule) = if j = i then op :: own i schedule else own i schedule := by
  by_cases hj : j = i
  · simp [own, hj]
  · simp [own, hj]

theorem own_append (i : ι) (xs ys : List (ι × Operation)) :
    own i (xs ++ ys) = own i xs ++ own i ys := by
  rw [own, List.filter_append, List.map_append, own, own]

/-- Every client's operations come in the order of its program. -/
theorem Interleaves.own_eq {programs : ι → List Operation} {schedule : List (ι × Operation)}
    (h : Interleaves programs schedule) (i : ι) : own i schedule = programs i := by
  induction h with
  | done h => rw [h i, own, List.filter_nil, List.map_nil]
  | @step programs j op rest schedule hj _ ih =>
      rw [own_cons, ih]
      split
      · next hji =>
        subst hji
        rw [Function.update_self, hj]
      · next hji => rw [Function.update_of_ne (Ne.symm hji)]

/-- Every step of a schedule comes from a program. -/
theorem Interleaves.mem_program {programs : ι → List Operation} {schedule : List (ι × Operation)}
    (h : Interleaves programs schedule) {i : ι} {op : Operation} (hmem : (i, op) ∈ schedule) :
    op ∈ programs i := by
  rw [← h.own_eq i, own, List.mem_map]
  exact ⟨(i, op), List.mem_filter.mpr ⟨hmem, by simp⟩, rfl⟩

end

/-! ## What stands under a name -/

section
variable {r : Registry} {name : String}

theorem run_append (r : Registry) (xs ys : List Change) : r.run (xs ++ ys) = (r.run xs).run ys :=
  List.foldl_append

theorem run_concat (r : Registry) (cs : List Change) (c : Change) :
    r.run (cs ++ [c]) = (r.run cs).apply c :=
  run_append r cs [c]

/-- Only the changes about a name matter for what stands under it. -/
theorem get?_run (r : Registry) (cs : List Change) (name : String) :
    (r.run cs).get? name = (r.run (cs.filter fun c => c.name = name)).get? name := by
  induction cs using List.reverseRecOn with
  | nil => rfl
  | append_singleton cs c ih =>
      rw [run_concat, get?_apply, List.filter_append]
      by_cases hc : c.name = name
      · rw [if_pos hc, List.filter_cons_of_pos (by simpa using hc), List.filter_nil, run_concat,
          get?_apply, if_pos hc]
      · rw [if_neg hc, ih, List.filter_cons_of_neg (by simpa using hc), List.filter_nil,
          List.append_nil]

/-- What stands under a name that was not there at the start is what the changes say. -/
theorem get?_run_iff (hname : name ∉ r.keys) (cs : List Change) (x : Handler) :
    (r.run cs).get? name = some x ↔ Standing cs name x := by
  induction cs using List.reverseRecOn with
  | nil =>
      have hnone : r.get? name = none := by
        rw [mem_keys_iff, not_exists] at hname
        exact Option.eq_none_iff_forall_ne_some.mpr hname
      simp [run, hnone, not_standing_nil]
  | append_singleton cs c ih =>
      rw [run_concat, get?_apply, standing_snoc]
      split
      · rfl
      · exact ih

/-- Registries with the same under a name answer alike, except about resolution. -/
theorem answer_congr {r' : Registry} {op : Operation} (hop : op.isPlain = true)
    (h : r.get? op.name = r'.get? op.name) : r.answer op = r'.answer op := by
  have hmem : op.name ∈ r.keys ↔ op.name ∈ r'.keys := by rw [mem_keys_iff, mem_keys_iff, h]
  cases op with
  | register name x => rfl
  | unregister name =>
      have hremoves : r.removes name = r'.removes name := by
        rw [Bool.eq_iff_iff, removes_iff, removes_iff]
        exact hmem
      rw [answer, answer, hremoves]
  | get name => exact congrArg Answer.handler h
  | contains name =>
      have hcontains : r.contains name = r'.contains name := by
        rw [Bool.eq_iff_iff, contains_iff, contains_iff]
        exact hmem
      rw [answer, answer, hcontains]
  | resolve text => exact absurd hop (by simp [Operation.isPlain])

/-! ## The entries at the start -/

theorem put_append {xs ys : List Entry} {x : Handler} (h : name ∉ xs.map Entry.key) :
    put name x (xs ++ ys) = xs ++ put name x ys := by
  induction xs with
  | nil => rfl
  | cons d xs ih =>
      rw [List.map_cons, List.mem_cons, not_or] at h
      rw [List.cons_append, put, if_neg (Ne.symm h.1), ih h.2, List.cons_append]

/-- A change about another name leaves the entries at the start alone. -/
theorem apply_append {c : Change} (h : c.name ∉ r.keys) (added : Registry) :
    apply ⟨r.entries ++ added.entries⟩ c = ⟨r.entries ++ (added.apply c).entries⟩ := by
  cases c with
  | register name x =>
      have hput : put name x (r.entries ++ added.entries) = r.entries ++ put name x added.entries :=
        put_append h
      rw [apply, register, hput]
      rfl
  | unregister name =>
      have hkeep : r.unregister name = r := unregister_of_not_mem h
      have hentries : r.entries.filter (fun e => e.key ≠ name) = r.entries :=
        congrArg entries hkeep
      rw [apply, unregister, List.filter_append, hentries]
      rfl

/-- Changes about other names add entries after those at the start, the same as they would make from
nothing. -/
theorem run_eq_append {cs : List Change} (h : ∀ c ∈ cs, c.name ∉ r.keys) :
    r.run cs = ⟨r.entries ++ (empty.run cs).entries⟩ := by
  induction cs using List.reverseRecOn with
  | nil => simp [run, empty]
  | append_singleton cs c ih =>
      have hcs : ∀ d ∈ cs, d.name ∉ r.keys := fun d hd => h d (by simp [hd])
      have hc : c.name ∉ r.keys := h c (by simp)
      rw [run_concat, ih hcs, apply_append hc, run_concat]

/-- Changes about other names after which none of these is present leave the registry as it was. -/
theorem run_eq_self {cs : List Change} (h : ∀ c ∈ cs, c.name ∉ r.keys)
    (hgone : ∀ c ∈ cs, ¬ Present cs c.name) : r.run cs = r := by
  have hkeys : (empty.run cs).keys = [] := by
    rw [List.eq_nil_iff_forall_not_mem]
    intro name hname
    obtain ⟨x, hx⟩ := mem_keys_iff.mp hname
    -- what stands under the name was put there by one of the changes
    have hstanding : Standing cs name x := (get?_run_iff (by simp [keys, empty]) cs x).mp hx
    obtain ⟨before, after, hsplit, -⟩ := id hstanding
    have hmem : Change.register name x ∈ cs := by simp [hsplit]
    exact hgone _ hmem ⟨x, hstanding⟩
  have hentries : (empty.run cs).entries = [] := List.map_eq_nil_iff.mp hkeys
  rw [run_eq_append h, hentries, List.append_nil]

end

/-! ## Clients with names of their own -/

section
variable {ι : Type} {r : Registry} {names : ι → String → Prop} {programs : ι → List Operation}
  {schedule : List (ι × Operation)} {i : ι} {name : String}

/-- Every client keeps to its names, and these are neither another client's nor there at the
start. -/
structure Separate (r : Registry) (names : ι → String → Prop) (programs : ι → List Operation) :
    Prop where
  keeps : ∀ i, ∀ op ∈ programs i, names i op.name
  apart : ∀ i j name, names i name → names j name → i = j
  fresh : ∀ i name, names i name → name ∉ r.keys

variable [DecidableEq ι]

/-- After the steps `before` of all clients an operation is answered as if its client were alone;
and if its client has something standing under a name, the name is resolved to that, exactly. -/
structure AnsweredAlone (r : Registry) (before : List (ι × Operation)) (i : ι) (op : Operation) :
    Prop where
  plain : op.isPlain = true →
    (r.performAll (merged before)).answer op = (r.performAll (own i before)).answer op
  resolve : ∀ name x, op = .resolve name → Standing (changes (own i before)) name x →
    (r.performAll (merged before)).answer op = .resolved (some ⟨name, x, .exact⟩) ∧
      (r.performAll (own i before)).answer op = .resolved (some ⟨name, x, .exact⟩)

/-- The changes about a client's name are the client's. -/
theorem Separate.filter_changes (h : Separate r names programs)
    (hsteps : ∀ step ∈ schedule, names step.1 step.2.name) (hname : names i name) :
    (changes (merged schedule)).filter (fun c => c.name = name)
      = (changes (own i schedule)).filter (fun c => c.name = name) := by
  induction schedule with
  | nil => rfl
  | cons step schedule ih =>
      obtain ⟨j, op⟩ := step
      rw [List.forall_mem_cons] at hsteps
      have hrest := ih hsteps.2
      have hmerged : changes (merged ((j, op) :: schedule))
          = changes [op] ++ changes (merged schedule) := changes_cons op _
      rw [hmerged, List.filter_append, hrest, own_cons]
      by_cases hj : j = i
      · rw [if_pos hj, changes_cons op (own i schedule), List.filter_append]
      · -- an operation of another client is about another name
        have hnone : (changes [op]).filter (fun c => c.name = name) = [] := by
          rw [List.filter_eq_nil_iff]
          intro c hc hcname
          obtain ⟨d, hd, hdname⟩ := exists_of_mem_changes hc
          rw [List.mem_singleton.mp hd, of_decide_eq_true hcname] at hdname
          exact hj (h.apart j i name (hdname ▸ hsteps.1) hname)
        rw [if_neg hj, hnone, List.nil_append]

/-- What stands under a client's name is what would stand there if the client were alone. -/
theorem Separate.get?_merged (h : Separate r names programs)
    (hsteps : ∀ step ∈ schedule, names step.1 step.2.name) (hname : names i name) :
    (r.performAll (merged schedule)).get? name
      = (r.performAll (own i schedule)).get? name := by
  rw [performAll_eq_run, performAll_eq_run, get?_run, h.filter_changes hsteps hname, ← get?_run]

theorem Separate.answeredAlone (h : Separate r names programs) {before : List (ι × Operation)}
    {op : Operation} (hsteps : ∀ step ∈ before, names step.1 step.2.name)
    (hop : names i op.name) : AnsweredAlone r before i op where
  plain := fun hplain => answer_congr hplain (h.get?_merged hsteps hop)
  resolve := by
    rintro name x rfl hstanding
    have halone : (r.performAll (own i before)).get? name = some x := by
      rw [performAll_eq_run]
      exact (get?_run_iff (h.fresh i name hop) _ x).mpr hstanding
    have htogether : (r.performAll (merged before)).get? name = some x :=
      (h.get?_merged hsteps hop).trans halone
    exact ⟨congrArg Answer.resolved (resolve_of_get? htogether),
      congrArg Answer.resolved (resolve_of_get? halone)⟩

/-- If no client has left a name of its own, the registry is what it was at the start. -/
theorem Separate.performAll_eq_self (h : Separate r names programs)
    (hsteps : ∀ step ∈ schedule, names step.1 step.2.name)
    (hgone : ∀ i name, names i name → ¬ Present (changes (own i schedule)) name) :
    r.performAll (merged schedule) = r := by
  have hclient : ∀ c ∈ changes (merged schedule), ∃ i, names i c.name := by
    intro c hc
    obtain ⟨op, hop, hname⟩ := exists_of_mem_changes hc
    obtain ⟨step, hstep, rfl⟩ := List.mem_map.mp hop
    exact ⟨step.1, hname ▸ hsteps step hstep⟩
  rw [performAll_eq_run]
  refine run_eq_self (fun c hc => ?_) fun c hc hpresent => ?_
  · obtain ⟨i, hi⟩ := hclient c hc
    exact h.fresh i c.name hi
  · obtain ⟨i, hi⟩ := hclient c hc
    obtain ⟨x, hx⟩ := hpresent
    -- the client would have left the name if it had been alone
    have hmerged : (r.performAll (merged schedule)).get? c.name = some x := by
      rw [performAll_eq_run]
      exact (get?_run_iff (h.fresh i c.name hi) _ x).mpr hx
    rw [h.get?_merged hsteps hi, performAll_eq_run] at hmerged
    exact hgone i c.name hi ⟨x, (get?_run_iff (h.fresh i c.name hi) _ x).mp hmerged⟩

/-- **Clients with names of their own do not disturb each other.** In every interleaving of their
programs each operation is answered as it would be if its client were alone, where only names that
their client has registered are resolved; and if in the end no client has left a name, the registry
is what it was at the start. -/
theorem interleaved_answeredAlone {ι : Type} [DecidableEq ι] (r : Registry)
    (names : ι → String → Prop) (programs : ι → List Operation) (h : Separate r names programs)
    (schedule : List (ι × Operation)) (hschedule : Interleaves programs schedule) :
    (∀ before i op after, schedule = before ++ (i, op) :: after →
      programs i = own i before ++ op :: own i after ∧ AnsweredAlone r before i op) ∧
    ((∀ i name, names i name → ¬ Present (changes (programs i)) name) →
      r.performAll (merged schedule) = r) := by
  have hsteps : ∀ step ∈ schedule, names step.1 step.2.name :=
    fun step hstep => h.keeps step.1 step.2 (hschedule.mem_program hstep)
  constructor
  · rintro before i op after rfl
    rw [List.forall_mem_append, List.forall_mem_cons] at hsteps
    refine ⟨?_, h.answeredAlone hsteps.1 hsteps.2.1⟩
    rw [← hschedule.own_eq i, own_append, own_cons, if_pos rfl]
  · intro hgone
    refine h.performAll_eq_self hsteps fun i name hname => ?_
    rw [hschedule.own_eq i]
    exact hgone i name hname

/-- One client's name is found in the other's, and is there when the other's is resolved. -/
theorem interleaved_answeredAlone_kid :
    let programs : Bool → List Operation := fun
      | true =>
        [.register "has kid" (.builtin .hasChild), .resolve "has kid", .unregister "has kid"]
      | false => [.register "kid" (.builtin .hasParent), .unregister "kid", .contains "kid"]
    let before : List (Bool × Operation) := [(false, .register "kid" (.builtin .hasParent)),
      (true, .register "has kid" (.builtin .hasChild))]
    let after : List (Bool × Operation) := [(false, .unregister "kid"),
      (true, .unregister "has kid"), (false, .contains "kid")]
    Interleaves programs (before ++ (true, .resolve "has kid") :: after) ∧
      (builtins.performAll (merged before)).answer (.resolve "has kid")
        = .resolved (some ⟨"has kid", .builtin .hasChild, .exact⟩) ∧
      builtins.performAll (merged (before ++ (true, .resolve "has kid") :: after)) = builtins := by
  intro programs before after
  have hschedule : Interleaves programs (before ++ (true, .resolve "has kid") :: after) :=
    .step rfl (.step rfl (.step rfl (.step rfl (.step rfl (.step rfl
      (.done fun i => by cases i <;> rfl))))))
  have hseparate :
      Separate builtins (fun i name => name = if i then "has kid" else "kid") programs := by
    refine ⟨fun i op hop => ?_, fun i j name hi hj => ?_, fun i name hi => ?_⟩
    · cases i <;> simp [programs] at hop <;> rcases hop with rfl | rfl | rfl <;> rfl
    · subst hi
      revert hj
      cases i <;> cases j <;> simp
    · subst hi
      cases i <;> decide
  have hremoved : ∀ (cs : List Change) (name : String),
      ¬ Present (cs ++ [.unregister name]) name := by
    intro cs name
    rw [present_snoc]
    simp [Change.name]
  have hgone : ∀ i name, (name = if i then "has kid" else "kid") →
      ¬ Present (changes (programs i)) name := by
    rintro i name rfl
    cases i with
    | true => exact hremoved [.register "has kid" (.builtin .hasChild)] "has kid"
    | false => exact hremoved [.register "kid" (.builtin .hasParent)] "kid"
  obtain ⟨hanswers, hend⟩ :=
    interleaved_answeredAlone builtins _ programs hseparate _ hschedule
  refine ⟨hschedule, ?_, hend hgone⟩
  have hresolve := (hanswers before true (.resolve "has kid") after rfl).2.resolve
  exact (hresolve "has kid" (.builtin .hasChild) rfl ⟨[], [], rfl, by simp⟩).1

end

end ConditionQuery.Registry
