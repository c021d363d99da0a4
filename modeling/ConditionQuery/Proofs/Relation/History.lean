import ConditionQuery.Proofs.Relation.Registry
import Mathlib.Data.List.Induction

set_option autoImplicit false

/-! # The registry as an ordered map

A registry is changed by registering and by removing names. What it holds after any number of
changes can be told from the list of these changes alone: which handler stands under a name
(`Standing`), and since when a name has been there without a break (`BeganAt`). The names are
those under which a handler stands, in the order in which they began. The built-in relations
count as registered, one after the other, before the first change.

Both notions are followed from one change to the next (`standing_snoc`, `beganAt_snoc`), and so
is the registry (`Tracks.apply`); a whole run is an induction on its changes (`Tracks.run`).
-/

namespace ConditionQuery.Registry

inductive Change where
  | register (name : String) (x : Handler)
  | unregister (name : String)

def Change.name : Change → String
  | .register name _ => name
  | .unregister name => name

/-- The handler that a change leaves under its name. -/
def Change.handler? : Change → Option Handler
  | .register _ x => some x
  | .unregister _ => none

def apply (r : Registry) : Change → Registry
  | .register name x => r.register name x
  | .unregister name => r.unregister name

def run (r : Registry) (changes : List Change) : Registry :=
  changes.foldl apply r

inductive Start where
  | empty
  | builtins

def Start.registry : Start → Registry
  | .empty => Registry.empty
  | .builtins => Registry.builtins

/-- The relations at the start as changes. -/
def Start.seeds : Start → List Change
  | .empty => []
  | .builtins => Builtin.all.map fun b => .register b.name (.builtin b)

/-! ## Histories -/

/-- The last change about a name registers the handler. -/
def Standing (history : List Change) (name : String) (x : Handler) : Prop :=
  ∃ before after, history = before ++ .register name x :: after ∧ ∀ c ∈ after, c.name ≠ name

/-- The last change about a name registers a handler. -/
def Present (history : List Change) (name : String) : Prop :=
  ∃ x, Standing history name x

/-- The change after the first `i` ones registers a name that is not present then, and no later
change removes it. -/
def BeganAt (history : List Change) (name : String) (i : Nat) : Prop :=
  ∃ before x after, before.length = i ∧ history = before ++ .register name x :: after ∧
    ¬ Present before name ∧ .unregister name ∉ after

variable {h : List Change} {c : Change} {r : Registry} {name : String}

theorem eq_register_iff {x : Handler} :
    c = .register name x ↔ c.name = name ∧ c.handler? = some x := by
  cases c <;> simp [Change.name, Change.handler?]

theorem eq_unregister_iff : c = .unregister name ↔ c.name = name ∧ c.handler? = none := by
  cases c <;> simp [Change.name, Change.handler?]

/-- A change in a history that is one longer is the last one, or it is in the shorter history. -/
theorem snoc_eq_append_cons {before after : List Change} {d : Change} :
    h ++ [c] = before ++ d :: after ↔
      (after = [] ∧ h = before ∧ c = d) ∨
        ∃ rest, after = rest ++ [c] ∧ h = before ++ d :: rest := by
  constructor
  · intro hsplit
    rcases List.eq_nil_or_concat after with rfl | ⟨rest, last, rfl⟩
    · obtain ⟨hbefore, hd⟩ := List.append_inj' hsplit rfl
      exact Or.inl ⟨rfl, hbefore, List.singleton_inj.mp hd⟩
    · rw [List.concat_eq_append, ← List.cons_append, ← List.append_assoc] at hsplit
      obtain ⟨hbefore, hlast⟩ := List.append_inj' hsplit rfl
      rw [List.concat_eq_append, List.singleton_inj.mp hlast]
      exact Or.inr ⟨rest, rfl, hbefore⟩
  · rintro (⟨rfl, rfl, rfl⟩ | ⟨rest, rfl, rfl⟩)
    · rfl
    · simp

theorem not_standing_nil (name : String) (x : Handler) : ¬ Standing [] name x := by
  rintro ⟨before, after, hsplit, -⟩
  exact absurd hsplit.symm (by simp)

/-- A last change about the name decides what stands under it, and no other change matters. -/
theorem standing_snoc (h : List Change) (c : Change) (name : String) (x : Handler) :
    Standing (h ++ [c]) name x ↔
      if c.name = name then c.handler? = some x else Standing h name x := by
  constructor
  · rintro ⟨before, after, hsplit, hafter⟩
    -- the change that registers is the last one, or the last one is about another name
    rcases snoc_eq_append_cons.mp hsplit with ⟨rfl, rfl, rfl⟩ | ⟨rest, rfl, rfl⟩
    · simp [Change.name, Change.handler?]
    · rw [if_neg (hafter c (by simp))]
      exact ⟨before, rest, rfl, fun d hd => hafter d (by simp [hd])⟩
  · intro hx
    split at hx
    · next hc =>
      obtain rfl := eq_register_iff.mpr ⟨hc, hx⟩
      exact ⟨h, [], rfl, by simp⟩
    · next hc =>
      obtain ⟨before, after, rfl, hafter⟩ := hx
      refine ⟨before, after ++ [c], by simp, fun d hd => ?_⟩
      rcases List.mem_append.mp hd with hd | hd
      · exact hafter d hd
      · rwa [List.mem_singleton.mp hd]

theorem present_snoc (h : List Change) (c : Change) (name : String) :
    Present (h ++ [c]) name ↔
      if c.name = name then c ≠ .unregister name else Present h name := by
  simp only [Present, standing_snoc]
  split
  · next hc =>
    rw [ne_eq, eq_unregister_iff, ← Option.isSome_iff_exists, Option.isSome_iff_ne_none]
    simp [hc]
  · rfl

/-- A stretch goes on after a change unless the change removes the name, and a new one begins
with the registration of a name that is not present. -/
theorem beganAt_snoc (h : List Change) (c : Change) (name : String) (i : Nat) :
    BeganAt (h ++ [c]) name i ↔
      (BeganAt h name i ∧ c ≠ .unregister name) ∨
      (i = h.length ∧ (∃ x, c = .register name x) ∧ ¬ Present h name) := by
  constructor
  · rintro ⟨before, x, after, rfl, hsplit, habsent, hstays⟩
    rcases snoc_eq_append_cons.mp hsplit with ⟨rfl, rfl, rfl⟩ | ⟨rest, rfl, rfl⟩
    · exact Or.inr ⟨rfl, ⟨x, rfl⟩, habsent⟩
    · rw [List.mem_append, List.mem_singleton, not_or] at hstays
      exact Or.inl ⟨⟨before, x, rest, rfl, rfl, habsent, hstays.1⟩, Ne.symm hstays.2⟩
  · rintro (⟨⟨before, x, after, rfl, rfl, habsent, hstays⟩, hc⟩ | ⟨rfl, ⟨x, rfl⟩, habsent⟩)
    · refine ⟨before, x, after ++ [c], rfl, by simp, habsent, ?_⟩
      rw [List.mem_append, List.mem_singleton, not_or]
      exact ⟨hstays, Ne.symm hc⟩
    · exact ⟨h, x, [], rfl, rfl, habsent, List.not_mem_nil⟩

theorem BeganAt.lt_length {i : Nat} (hi : BeganAt h name i) : i < h.length := by
  obtain ⟨before, x, after, rfl, rfl, -, -⟩ := hi
  rw [List.length_append, List.length_cons]
  omega

theorem not_beganAt_nil (name : String) (i : Nat) : ¬ BeganAt [] name i :=
  fun hi => absurd hi.lt_length (by simp)

/-- A name whose stretch has not ended is present. -/
theorem BeganAt.present {i : Nat} (hi : BeganAt h name i) : Present h name := by
  induction h using List.reverseRecOn with
  | nil => exact absurd hi (not_beganAt_nil name i)
  | append_singleton h c ih =>
      rw [present_snoc]
      rcases (beganAt_snoc h c name i).mp hi with ⟨hi, hc⟩ | ⟨-, ⟨x, rfl⟩, -⟩
      · split
        · exact hc
        · exact ih hi
      · simp [Change.name]

/-- A present name has a stretch that has not ended. -/
theorem Present.exists_beganAt (hname : Present h name) : ∃ i, BeganAt h name i := by
  induction h using List.reverseRecOn with
  | nil => exact absurd hname.choose_spec (not_standing_nil name _)
  | append_singleton h c ih =>
      simp only [beganAt_snoc]
      rw [present_snoc] at hname
      by_cases hold : Present h name
      · -- the stretch goes on, since the last change does not remove the name
        obtain ⟨i, hi⟩ := ih hold
        refine ⟨i, Or.inl ⟨hi, fun hc => ?_⟩⟩
        simp [hc, Change.name] at hname
      · split at hname
        · next hc =>
          cases c with
          | register n x =>
              obtain rfl : n = name := hc
              exact ⟨h.length, Or.inr ⟨rfl, ⟨x, rfl⟩, hold⟩⟩
          | unregister n =>
              obtain rfl : n = name := hc
              exact absurd rfl hname
        · exact absurd hname hold

/-- There is only one such stretch. -/
theorem BeganAt.unique {i j : Nat} (hi : BeganAt h name i) (hj : BeganAt h name j) : i = j := by
  -- on the last change: a new stretch begins only if the name is absent, and then no old one lasts
  induction h using List.reverseRecOn with
  | nil => exact absurd hi (not_beganAt_nil name i)
  | append_singleton h c ih =>
      rcases (beganAt_snoc h c name i).mp hi with ⟨hi, -⟩ | ⟨rfl, -, habsent⟩
      · rcases (beganAt_snoc h c name j).mp hj with ⟨hj, -⟩ | ⟨rfl, -, habsent⟩
        · exact ih hi hj
        · exact absurd hi.present habsent
      · rcases (beganAt_snoc h c name j).mp hj with ⟨hj, -⟩ | ⟨rfl, -, -⟩
        · exact absurd hj.present habsent
        · rfl

/-- A change begins no new stretch of a name that is present. -/
theorem BeganAt.of_snoc {i : Nat} (hname : Present h name) (hi : BeganAt (h ++ [c]) name i) :
    BeganAt h name i := by
  rcases (beganAt_snoc h c name i).mp hi with ⟨hi, -⟩ | ⟨-, -, habsent⟩
  · exact hi
  · exact absurd hname habsent

/-! ## One change -/

theorem get?_apply (r : Registry) (c : Change) (name : String) :
    (r.apply c).get? name = if c.name = name then c.handler? else r.get? name := by
  cases c with
  | register n x => simp only [apply, get?_register, Change.name, Change.handler?, eq_comm]
  | unregister n => simp only [apply, get?_unregister, Change.name, Change.handler?, eq_comm]

/-- The entries of names have the names' own patterns. -/
def PatternsOwn (r : Registry) : Prop :=
  ∀ e ∈ r.entries, e.pattern = Regex.ofPattern? true e.key

theorem PatternsOwn.apply (hr : PatternsOwn r) (c : Change) : PatternsOwn (r.apply c) := by
  intro e he
  cases c with
  | register n x =>
      rcases mem_put he with he | ⟨d, hd, rfl⟩ | rfl
      · exact hr e he
      · exact hr d hd
      · rfl
  | unregister n => exact hr e (List.mem_filter.mp he).1

/-- A registry is what the history says. -/
structure Tracks (h : List Change) (r : Registry) : Prop where
  nodup : r.keys.Nodup
  get? : ∀ name x, r.get? name = some x ↔ Standing h name x
  ordered : r.keys.Pairwise fun a b => ∀ i j, BeganAt h a i → BeganAt h b j → i < j
  patterns : PatternsOwn r

theorem Tracks.mem_keys (hr : Tracks h r) : name ∈ r.keys ↔ Present h name := by
  rw [mem_keys_iff]
  exact exists_congr fun x => hr.get? name x

theorem nodup_keys_apply (hr : r.keys.Nodup) (c : Change) : (r.apply c).keys.Nodup := by
  cases c with
  | register n x =>
      rw [apply, keys_register]
      split
      · exact hr
      · next hmem =>
        rw [List.nodup_append]
        refine ⟨hr, List.pairwise_singleton _ _, fun a ha b hb heq => hmem ?_⟩
        rwa [← List.mem_singleton.mp hb, ← heq]
  | unregister n =>
      rw [apply, keys_unregister]
      exact hr.filter _

theorem Tracks.ordered_apply (hr : Tracks h r) (c : Change) :
    (r.apply c).keys.Pairwise fun a b =>
      ∀ i j, BeganAt (h ++ [c]) a i → BeganAt (h ++ [c]) b j → i < j := by
  -- the names that were there before the change keep the order they had
  have hold : r.keys.Pairwise fun a b =>
      ∀ i j, BeganAt (h ++ [c]) a i → BeganAt (h ++ [c]) b j → i < j := by
    refine hr.ordered.imp_of_mem fun ha hb hlt i j hi hj => ?_
    exact hlt i j (hi.of_snoc (hr.mem_keys.mp ha)) (hj.of_snoc (hr.mem_keys.mp hb))
  cases c with
  | register n x =>
      rw [apply, keys_register]
      split
      · exact hold
      · next hmem =>
        rw [List.pairwise_append]
        refine ⟨hold, List.pairwise_singleton _ _, fun a ha b hb i j hi hj => ?_⟩
        obtain rfl := List.mem_singleton.mp hb
        -- the new name begins with the last change, after all others
        have hlt : i < h.length := (hi.of_snoc (hr.mem_keys.mp ha)).lt_length
        rcases (beganAt_snoc h _ b j).mp hj with ⟨hj, -⟩ | ⟨rfl, -, -⟩
        · exact absurd (hr.mem_keys.mpr hj.present) hmem
        · exact hlt
  | unregister n =>
      rw [apply, keys_unregister]
      exact hold.filter _

/-- A change keeps the registry in step with the history. -/
theorem Tracks.apply (hr : Tracks h r) (c : Change) : Tracks (h ++ [c]) (r.apply c) where
  nodup := nodup_keys_apply hr.nodup c
  get? := by
    intro name x
    rw [get?_apply, standing_snoc]
    split
    · rfl
    · exact hr.get? name x
  ordered := hr.ordered_apply c
  patterns := hr.patterns.apply c

/-! ## Runs -/

theorem tracks_empty : Tracks [] Registry.empty where
  nodup := List.nodup_nil
  get? := by
    intro name x
    simp [not_standing_nil, Registry.get?, find?, Registry.empty]
  ordered := List.Pairwise.nil
  patterns := fun e he => absurd he List.not_mem_nil

theorem Tracks.run (hr : Tracks h r) (changes : List Change) :
    Tracks (h ++ changes) (r.run changes) := by
  induction changes generalizing h r with
  | nil => rwa [List.append_nil]
  | cons c changes ih =>
      -- the first change becomes the last one of the history
      have hrest := ih (hr.apply c)
      rwa [List.append_assoc] at hrest

/-- Registering built-in relations whose names are new puts them at the end one by one. -/
theorem run_register_builtins {bs : List Builtin} (hbs : (bs.map Builtin.name).Nodup)
    (hnew : ∀ b ∈ bs, b.name ∉ r.keys) :
    r.run (bs.map fun b => .register b.name (.builtin b))
      = ⟨r.entries ++ bs.map fun b => Entry.make b.name (.builtin b)⟩ := by
  induction bs generalizing r with
  | nil => simp [run]
  | cons b bs ih =>
      rw [List.map_cons, List.nodup_cons] at hbs
      have hb : b.name ∉ r.keys := hnew b (List.mem_cons_self ..)
      have hput : r.register b.name (.builtin b)
          = ⟨r.entries ++ [Entry.make b.name (.builtin b)]⟩ := by
        rw [register, put_of_not_mem hb]
      have hnew' : ∀ d ∈ bs, d.name ∉ (r.register b.name (.builtin b)).keys := by
        intro d hd
        rw [keys_register, if_neg hb, List.mem_append, List.mem_singleton, not_or]
        refine ⟨hnew d (List.mem_cons_of_mem _ hd), fun heq => hbs.1 ?_⟩
        exact heq ▸ List.mem_map_of_mem hd
      have hrun := ih hbs.2 hnew'
      rw [hput] at hrun
      rw [List.map_cons, run, List.foldl_cons, apply, hput]
      rw [run] at hrun
      rw [hrun, List.map_cons, List.append_assoc, List.singleton_append]

theorem Start.tracks (start : Start) : Tracks start.seeds start.registry := by
  cases start with
  | empty => exact tracks_empty
  | builtins =>
      have hrun := tracks_empty.run Start.builtins.seeds
      have hnames : (Builtin.all.map Builtin.name).Nodup := by decide
      rwa [Start.seeds, run_register_builtins hnames (by simp [keys, Registry.empty])] at hrun

/-! ## The ordered map -/

/-- A registry is the insertion-ordered map that a history of changes describes. -/
structure Refines (r : Registry) (history : List Change) : Prop where
  /-- No name occurs twice. -/
  nodup_keys : r.keys.Nodup
  /-- Under a name is what its last change registers, -/
  get?_eq_some_iff : ∀ name x, r.get? name = some x ↔ Standing history name x
  /-- and nothing if there is no change of the name or the last one removes it. -/
  get?_eq_none_iff : ∀ name, r.get? name = none ↔ ¬ Present history name
  /-- The names are those that are present. -/
  mem_keys_iff : ∀ name, name ∈ r.keys ↔ Present history name
  contains_iff : ∀ name, r.contains name = true ↔ name ∈ r.keys
  size_eq : r.size = r.keys.length
  isEmpty_iff : r.isEmpty = true ↔ r.keys = []
  /-- The stretch in which a name is present has one beginning, -/
  existsUnique_beganAt : ∀ name ∈ r.keys, ∃! i, BeganAt history name i
  /-- and names are in the order of these beginnings. -/
  pairwise_beganAt : r.keys.Pairwise fun a b =>
    ∀ i j, BeganAt history a i → BeganAt history b j → i < j
  /-- A name that is registered again keeps its place; -/
  keys_register : ∀ name x, name ∈ r.keys → (r.register name x).keys = r.keys
  /-- if it has been removed in between, it moves to the end. -/
  keys_unregister_register : ∀ name x,
    ((r.unregister name).register name x).keys = r.keys.filter (· ≠ name) ++ [name]
  /-- Removing a name says whether it was there, -/
  removes_iff : ∀ name, r.removes name = true ↔ name ∈ r.keys
  /-- removes its entry and no other, -/
  entries_unregister : ∀ before e after, r.entries = before ++ e :: after →
    (r.unregister e.key).entries = before ++ after
  /-- and nothing if the name was not there. -/
  unregister_of_not_mem : ∀ name, name ∉ r.keys → r.unregister name = r
  /-- The pattern of an entry is its own name, read as a pattern. -/
  pattern_eq : ∀ e ∈ r.entries, e.pattern = Regex.ofPattern? true e.key

theorem Tracks.refines (hr : Tracks h r) : Refines r h where
  nodup_keys := hr.nodup
  get?_eq_some_iff := hr.get?
  get?_eq_none_iff := by
    intro name
    rw [← hr.mem_keys, Registry.mem_keys_iff, ← Option.isSome_iff_exists,
      Option.not_isSome_iff_eq_none]
  mem_keys_iff := fun _ => hr.mem_keys
  contains_iff := fun _ => Registry.contains_iff
  size_eq := size_eq_length_keys
  isEmpty_iff := Registry.isEmpty_iff
  existsUnique_beganAt := by
    intro name hname
    obtain ⟨i, hi⟩ := (hr.mem_keys.mp hname).exists_beganAt
    exact ⟨i, hi, fun j hj => hj.unique hi⟩
  pairwise_beganAt := hr.ordered
  keys_register := fun name x hname => by rw [Registry.keys_register, if_pos hname]
  keys_unregister_register := by
    intro name x
    rw [Registry.keys_register, keys_unregister, if_neg (by simp)]
  removes_iff := fun _ => Registry.removes_iff
  entries_unregister := fun _ _ _ => Registry.entries_unregister hr.nodup
  unregister_of_not_mem := fun _ => Registry.unregister_of_not_mem
  pattern_eq := hr.patterns

/-- **The registry is an insertion-ordered map.** After any changes of the empty registry or of
the built-in one it holds what these changes say. -/
theorem run_refines (start : Start) (changes : List Change) :
    Refines (start.registry.run changes) (start.seeds ++ changes) :=
  (start.tracks.run changes).refines

/-- A name that is registered again keeps its place, one that has been removed goes to the end. -/
example :
    (Registry.builtins.run [.unregister "references", .register "self" (.builtin .hasChild),
      .register "references" (.builtin .references)]).keys
      = Registry.builtins.keys.filter (· ≠ "references") ++ ["references"] := by
  decide

end ConditionQuery.Registry
