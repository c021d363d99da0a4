import ConditionQuery.Pattern.Meaning
import ConditionQuery.Proofs.Pattern.Search
import ConditionQuery.Proofs.Unicode.CaseFolding
import Mathlib.Data.List.Forall2
import Mathlib.Data.List.Induction

set_option autoImplicit false

/-! # Patterns that are plain texts

A match is a run of characters between what stands before and what stands after it (`Reads`), and
an expression is found in a text if the text has such a run (`isFoundIn_iff_reads`). One lemma for
each constructor tells what its matches are.

A text whose characters have no meaning of their own in patterns is a pattern for itself: it reads
the runs of as many characters, which are the same one by one up to case (`found_plain_iff`).
-/

namespace ConditionQuery

open Unicode

namespace Regex

/-! ## Matches in place -/

/-- An expression matches `run` where it stands between `before` and `after`. -/
def Reads (r : Regex) (before run after : List Char) : Prop :=
  r.Spans (before ++ run ++ after) before.length (before ++ run).length

variable {before run after : List Char} {a b : Regex} {c : CharClass}

theorem reads_empty : Regex.empty.Reads before run after ↔ run = [] := by
  rw [Reads, Spans, List.length_append]
  constructor
  · intro h
    exact List.eq_nil_of_length_eq_zero (by omega)
  · rintro rfl
    simp

theorem reads_one : (Regex.one c).Reads before run after ↔
    ∃ x, run = [x] ∧ c.contains x = true := by
  rw [Reads, Spans, List.length_append]
  constructor
  · rintro ⟨hlength, x, hx, hc⟩
    obtain ⟨y, rfl⟩ : ∃ y, run = [y] := List.length_eq_one_iff.mp (by omega)
    obtain rfl : y = x := by simpa using hx
    exact ⟨y, rfl, hc⟩
  · rintro ⟨x, rfl, hc⟩
    exact ⟨rfl, x, by simp, hc⟩

/-- The run is cut where the first expression stops and the second one starts. -/
theorem reads_seq : (Regex.seq a b).Reads before run after ↔
    ∃ first last, run = first ++ last ∧ a.Reads before first (last ++ after) ∧
      b.Reads (before ++ first) last after := by
  have htext : ∀ first last : List Char,
      before ++ first ++ (last ++ after) = before ++ (first ++ last) ++ after := by simp
  have htext' : ∀ first last : List Char,
      before ++ first ++ last = before ++ (first ++ last) := by simp
  constructor
  · rintro ⟨k, hk, hj⟩
    have hle : before.length ≤ k := forward_spans _ a _ _ hk
    have hge : k ≤ (before ++ run).length := forward_spans _ b _ _ hj
    rw [List.length_append] at hge
    obtain ⟨first, last, rfl, hlength⟩ :
        ∃ first last, run = first ++ last ∧ (before ++ first).length = k := by
      refine ⟨run.take (k - before.length), run.drop (k - before.length),
        (List.take_append_drop _ _).symm, ?_⟩
      rw [List.length_append, List.length_take]
      omega
    refine ⟨first, last, rfl, ?_, ?_⟩
    · rw [Reads, htext, hlength]
      exact hk
    · rw [Reads, htext', hlength]
      exact hj
  · rintro ⟨first, last, rfl, hfirst, hlast⟩
    rw [Reads, htext] at hfirst
    rw [Reads, htext'] at hlast
    exact ⟨(before ++ first).length, hfirst, hlast⟩

theorem reads_textStart : (Regex.look .textStart).Reads before run after ↔
    run = [] ∧ before = [] := by
  rw [Reads, Spans, List.length_append, Look.holds]
  constructor
  · rintro ⟨hlength, hstart⟩
    obtain rfl : run = [] := List.eq_nil_of_length_eq_zero (by omega)
    refine ⟨rfl, ?_⟩
    -- a character before the place would be on the left of it
    cases before using List.reverseRecOn with
    | nil => rfl
    | append_singleton before x => simp [leftOf] at hstart
  · rintro ⟨rfl, rfl⟩
    exact ⟨rfl, rfl⟩

theorem reads_textEnd : (Regex.look .textEnd).Reads before run after ↔
    run = [] ∧ after = [] := by
  rw [Reads, Spans, List.length_append, Look.holds]
  constructor
  · rintro ⟨hlength, hend⟩
    obtain rfl : run = [] := List.eq_nil_of_length_eq_zero (by omega)
    refine ⟨rfl, ?_⟩
    cases after with
    | nil => rfl
    | cons x after => simp at hend
  · rintro ⟨rfl, rfl⟩
    simp

/-- The empty expression before another one changes nothing. -/
theorem reads_empty_seq : (Regex.seq .empty b).Reads before run after ↔
    b.Reads before run after := by
  rw [reads_seq]
  constructor
  · rintro ⟨first, last, rfl, hfirst, hlast⟩
    obtain rfl := reads_empty.mp hfirst
    rwa [List.append_nil] at hlast
  · intro h
    exact ⟨[], run, rfl, reads_empty.mpr rfl, by rwa [List.append_nil]⟩

/-- The empty expression after another one changes nothing. -/
theorem reads_seq_empty : (Regex.seq a .empty).Reads before run after ↔
    a.Reads before run after := by
  rw [reads_seq]
  constructor
  · rintro ⟨first, last, rfl, hfirst, hlast⟩
    obtain rfl := reads_empty.mp hlast
    rwa [List.append_nil]
  · intro h
    exact ⟨run, [], (List.append_nil run).symm, h, reads_empty.mpr rfl⟩

/-- At the start of a text nothing stands before a match. -/
theorem reads_textStart_seq : (Regex.seq (.look .textStart) b).Reads before run after ↔
    before = [] ∧ b.Reads before run after := by
  rw [reads_seq]
  constructor
  · rintro ⟨first, last, rfl, hfirst, hlast⟩
    obtain ⟨rfl, rfl⟩ := reads_textStart.mp hfirst
    exact ⟨rfl, hlast⟩
  · rintro ⟨rfl, h⟩
    exact ⟨[], run, rfl, reads_textStart.mpr ⟨rfl, rfl⟩, h⟩

/-- As many characters of a class as there are steps. -/
theorem inRow_one_iff {n : Nat} :
    InRow ((Regex.one c).Spans (before ++ run ++ after)) n before.length (before ++ run).length ↔
      run.length = n ∧ ∀ x ∈ run, c.contains x = true := by
  induction n generalizing before run with
  | zero =>
      rw [InRow, List.length_append]
      constructor
      · intro h
        obtain rfl : run = [] := List.eq_nil_of_length_eq_zero (by omega)
        simp
      · rintro ⟨hlength, -⟩
        omega
  | succ n ih =>
      cases run with
      | nil =>
          -- the first step leads behind the end
          refine iff_of_false ?_ (by simp)
          rintro ⟨k, ⟨rfl, -⟩, hrest⟩
          have hle := (forward_spans _ (.one c)).inRow n _ _ hrest
          rw [List.append_nil] at hle
          omega
      | cons x run =>
          have htext : before ++ x :: run ++ after = before ++ [x] ++ run ++ after := by simp
          have hend : (before ++ x :: run).length = (before ++ [x] ++ run).length := by simp
          have hfirst : (before ++ [x] ++ run ++ after)[before.length]? = some x := by simp
          have hrest : InRow ((Regex.one c).Spans (before ++ [x] ++ run ++ after)) n
              (before.length + 1) (before ++ [x] ++ run).length ↔
                run.length = n ∧ ∀ x ∈ run, c.contains x = true := by
            rw [← List.length_singleton (a := x), ← List.length_append]
            exact ih
          rw [htext, hend, List.length_cons, Nat.succ_inj, List.forall_mem_cons]
          constructor
          · rintro ⟨k, ⟨rfl, y, hy, hc⟩, hrow⟩
            obtain rfl : x = y := Option.some.inj (hfirst.symm.trans hy)
            obtain ⟨hlength, hall⟩ := hrest.mp hrow
            exact ⟨hlength, hc, hall⟩
          · rintro ⟨hlength, hc, hall⟩
            exact ⟨before.length + 1, ⟨rfl, x, hfirst, hc⟩, hrest.mpr ⟨hlength, hall⟩⟩

/-- Any number of characters of a class. -/
theorem reads_many : (Regex.times (.one c) 0 none).Reads before run after ↔
    ∀ x ∈ run, c.contains x = true := by
  rw [Reads, Spans]
  constructor
  · rintro ⟨n, -, -, hn⟩
    exact (inRow_one_iff.mp hn).2
  · intro h
    have hmost : ∀ m, (none : Option Nat) = some m → run.length ≤ max 0 m := by simp
    exact ⟨run.length, Nat.zero_le _, hmost, inRow_one_iff.mpr ⟨rfl, h⟩⟩

/-- An expression is found in a text that has a run for it. -/
theorem isFoundIn_iff_reads (r : Regex) (text : String) : r.isFoundIn text = true ↔
    ∃ before run after, text.toList = before ++ run ++ after ∧ r.Reads before run after := by
  rw [isFoundIn_iff]
  constructor
  · rintro ⟨i, j, hi, hspans⟩
    have hij : i ≤ j := forward_spans _ r i j hspans
    have hj : j ≤ text.toList.length := (moves_ends text.toList r).le_size i j hi hspans
    have hcut : text.toList.take i ++ (text.toList.drop i).take (j - i) = text.toList.take j := by
      rw [← List.take_add, Nat.add_sub_cancel' hij]
    refine ⟨text.toList.take i, (text.toList.drop i).take (j - i), text.toList.drop j, ?_, ?_⟩
    · rw [hcut, List.take_append_drop]
    · rw [Reads, hcut, List.take_append_drop, List.length_take, List.length_take,
        Nat.min_eq_left hi, Nat.min_eq_left hj]
      exact hspans
  · rintro ⟨before, run, after, htext, hreads⟩
    refine ⟨before.length, (before ++ run).length, ?_, ?_⟩
    · rw [htext, List.append_assoc, List.length_append]
      omega
    · rw [htext]
      exact hreads

/-! ## Rows of characters -/

/-- One character of each class in turn, and then a match of an expression. -/
def row (classes : List CharClass) (rest : Regex) : Regex :=
  classes.foldr (fun c r => .seq (.one c) r) rest

/-- Rows are matched alike if they are so at every place. -/
theorem forall₂_congr_left {α β : Type} {R S : α → β → Prop} {xs : List α} {ys : List β}
    (h : ∀ x ∈ xs, ∀ y, R x y ↔ S x y) : List.Forall₂ R xs ys ↔ List.Forall₂ S xs ys := by
  induction xs generalizing ys with
  | nil => rw [List.forall₂_nil_left_iff, List.forall₂_nil_left_iff]
  | cons x xs ih =>
      rw [List.forall_mem_cons] at h
      rw [List.forall₂_cons_left_iff, List.forall₂_cons_left_iff]
      exact exists_congr fun y => exists_congr fun ys =>
        and_congr (h.1 y) (and_congr_left fun _ => ih h.2)

theorem reads_row {classes : List CharClass} {rest : Regex} :
    (row classes rest).Reads before run after ↔
      ∃ first last, run = first ++ last ∧
        List.Forall₂ (fun c x => c.contains x = true) classes first ∧
        rest.Reads (before ++ first) last after := by
  induction classes generalizing before run with
  | nil =>
      constructor
      · intro h
        exact ⟨[], run, rfl, .nil, by rwa [List.append_nil]⟩
      · rintro ⟨first, last, rfl, hfirst, hlast⟩
        cases hfirst
        rwa [List.append_nil] at hlast
  | cons c classes ih =>
      rw [row, List.foldr_cons, ← row, reads_seq]
      constructor
      · rintro ⟨_, last, rfl, hone, hrest⟩
        obtain ⟨x, rfl, hx⟩ := reads_one.mp hone
        obtain ⟨first, last, rfl, hfirst, hlast⟩ := ih.mp hrest
        refine ⟨x :: first, last, rfl, .cons hx hfirst, ?_⟩
        simpa using hlast
      · rintro ⟨_, last, rfl, hfirst, hlast⟩
        cases hfirst with
        | cons hx hfirst =>
          next x first =>
          refine ⟨[x], first ++ last, rfl, reads_one.mpr ⟨x, rfl, hx⟩, ?_⟩
          exact ih.mpr ⟨first, last, rfl, hfirst, by simpa using hlast⟩

end Regex

/-! ## Plain texts -/

namespace Pattern

/-- A character that has no meaning of its own in a pattern. -/
def isPlain (c : Char) : Bool :=
  !(['(', ')', '|', '[', '?', '*', '+', '\\', '.', '^', '$', '\x7b'].contains c)

theorem token_plain {c : Char} (hc : isPlain c = true) (s : List Char) :
    token false (c :: s) = some (.atom (plain c), s) := by
  simp only [isPlain, List.contains_cons, List.contains_nil, Bool.not_eq_true',
    Bool.or_eq_false_iff] at hc
  unfold token
  split <;> simp_all

theorem tokens_plain {s : List Char} (hs : ∀ c ∈ s, isPlain c = true) {fuel : Nat}
    (hfuel : s.length < fuel) :
    tokens fuel false [] s = some (s.map fun c => .atom (plain c)) := by
  induction s generalizing fuel with
  | nil =>
      obtain ⟨fuel, rfl⟩ := Nat.exists_eq_add_of_lt hfuel
      rfl
  | cons c s ih =>
      obtain ⟨fuel, rfl⟩ : ∃ n, fuel = n + 1 := ⟨fuel - 1, by omega⟩
      rw [List.forall_mem_cons] at hs
      have hrest : tokens fuel false [] s = some (s.map fun c => .atom (plain c)) :=
        ih hs.2 (by simpa using hfuel)
      simp only [tokens, skip, Bool.false_eq_true, if_false, token_plain hs.1, Option.bind_some]
      rw [plain, hrest]
      rfl

theorem read?_atoms (l : Level) (ts : List Tree) :
    read? l [] (ts.map .atom) = some { l with parts := ts.reverse ++ l.parts }.body := by
  induction ts generalizing l with
  | nil => rfl
  | cons t ts ih =>
      rw [List.map_cons, read?, ih, Level.push, List.reverse_cons, List.append_assoc]
      rfl

/-- Several parts are wrapped. -/
theorem chain_cons_cons (t u : Tree) (ts : List Tree) :
    Level.chain (t :: u :: ts) = .concat (t :: u :: ts) := rfl

theorem weight_chain (ts : List Tree) : (Level.chain ts).weight = Tree.weights ts := by
  rcases ts with _ | ⟨t, _ | ⟨u, ts⟩⟩
  · rfl
  · rw [Level.chain, Tree.weights, Tree.weights, Nat.add_zero]
  · rw [chain_cons_cons, Tree.weight]

theorem depth_chain_le (ts : List Tree) : (Level.chain ts).depth ≤ Tree.depths ts + 1 := by
  rcases ts with _ | ⟨t, _ | ⟨u, ts⟩⟩
  · exact Nat.zero_le _
  · simp [Level.chain, Tree.depths]
  · rw [chain_cons_cons, Tree.depth]

theorem weights_plain_le (s : List Char) : Tree.weights (s.map plain) ≤ 128 * s.length := by
  induction s with
  | nil => exact Nat.zero_le _
  | cons c s ih =>
      have hc : (plain c).weight ≤ 128 := by
        have hlength : encodedLength c ≤ 4 := by
          unfold encodedLength
          split_ifs <;> omega
        show 32 * encodedLength c ≤ 128
        omega
      rw [List.map_cons, Tree.weights, List.length_cons]
      omega

theorem depths_plain (s : List Char) : Tree.depths (s.map plain) = 0 := by
  induction s with
  | nil => rfl
  | cons c s ih =>
      have hc : (plain c).depth = 0 := rfl
      rw [List.map_cons, Tree.depths, hc, ih, Nat.max_self]

theorem groupNames_atoms (ts : List Tree) : groupNames (ts.map .atom) = [] := by
  rw [groupNames, List.filterMap_map, List.filterMap_eq_nil_iff]
  intro t _
  rfl

/-- A plain text that is not too long is a pattern: the row of its characters. -/
theorem ofText?_plain {s : List Char} (hs : ∀ c ∈ s, isPlain c = true)
    (hlength : 128 * s.length ≤ weightLimit) :
    Tree.ofText? s = some (Level.chain (s.map plain)) := by
  have htokens : tokens? s = some ((s.map plain).map .atom) := by
    rw [tokens?, tokens_plain hs (Nat.lt_succ_self _), List.map_map]
    rfl
  have hread : read? (.start []) [] ((s.map plain).map .atom)
      = some (Level.chain (s.map plain)) := by
    rw [read?_atoms]
    simp [Level.start, Level.body]
  have hdepth : (Level.chain (s.map plain)).depth ≤ depthLimit := by
    have hle := depth_chain_le (s.map plain)
    rw [depths_plain] at hle
    exact Nat.le_trans hle (by decide)
  have hweight : (Level.chain (s.map plain)).weight ≤ weightLimit := by
    rw [weight_chain]
    exact Nat.le_trans (weights_plain_le s) hlength
  rw [Tree.ofText?, htokens, Option.bind_eq_bind, Option.bind_some, groupNames_atoms,
    if_pos List.nodup_nil, hread, Option.bind_eq_bind, Option.bind_some, decide_eq_true hdepth,
    decide_eq_true hweight]
  rfl

/-! ## The meaning of plain texts -/

variable {m : Mode}

/-- Characters in a row mean a row of classes. -/
theorem chainMeaning?_plain (hm : m.unicode = true) (s : List Char) (parts : List Tree) :
    Tree.chainMeaning? m (s.map plain ++ parts)
      = (Tree.chainMeaning? m parts).map fun (r, after) =>
          (Regex.row (s.map m.single) r, after) := by
  induction s with
  | nil => simp [Regex.row]
  | cons c s ih =>
      have hliteral : (plain c).meaning? m = some (.one (m.single c), m) := by
        simp [plain, Tree.meaning?, Mode.literal?, hm]
      rw [List.map_cons, List.cons_append, Tree.chainMeaning?, hliteral]
      simp only [Option.bind_eq_bind, Option.bind_some, ih]
      cases Tree.chainMeaning? m parts <;> rfl

/-- A plain text reads what the row of its characters reads. -/
theorem exists_meaning?_chain_plain (hm : m.unicode = true) (s : List Char) :
    ∃ p, (Level.chain (s.map plain)).meaning? m = some (p, m) ∧ ∀ before run after,
      p.Reads before run after ↔ (Regex.row (s.map m.single) .empty).Reads before run after := by
  rcases s with _ | ⟨c, _ | ⟨d, s⟩⟩
  · exact ⟨.empty, rfl, fun _ _ _ => Iff.rfl⟩
  · -- one character is not wrapped, so that no empty match follows it
    refine ⟨.one (m.single c), ?_, fun before run after => ?_⟩
    · simp [Level.chain, plain, Tree.meaning?, Mode.literal?, hm]
    · rw [Regex.reads_one, List.map_singleton, Regex.row, List.foldr_cons, List.foldr_nil,
        Regex.reads_seq]
      constructor
      · rintro ⟨x, rfl, hx⟩
        exact ⟨[x], [], rfl, Regex.reads_one.mpr ⟨x, rfl, hx⟩, Regex.reads_empty.mpr rfl⟩
      · rintro ⟨first, last, rfl, hfirst, hlast⟩
        obtain ⟨x, rfl, hx⟩ := Regex.reads_one.mp hfirst
        obtain rfl := Regex.reads_empty.mp hlast
        exact ⟨x, rfl, hx⟩
  · refine ⟨Regex.row ((c :: d :: s).map m.single) .empty, ?_, fun _ _ _ => Iff.rfl⟩
    have hchain := chainMeaning?_plain hm (c :: d :: s) []
    rw [List.append_nil] at hchain
    rw [List.map_cons, List.map_cons, chain_cons_cons, Tree.meaning?, ← List.map_cons,
      ← List.map_cons, hchain]
    rfl

/-- Where letters match in either case, a character matches those that are listed for it. -/
theorem contains_single (hm : m.unicode = true) (hcase : m.ignoreCase = true) {c d : Char} :
    (m.single c).contains d = true ↔ d ∈ CaseFolding.orbit c := by
  have hsingle : m.single c = .ranges ((CaseFolding.orbit c).map fun e => (e.toNat, e.toNat)) := by
    simp [Mode.single, hm, hcase]
  rw [hsingle, CharClass.contains, CharSet.contains, List.any_map, List.any_eq_true]
  constructor
  · rintro ⟨e, he, hrange⟩
    rw [Function.comp_apply, Bool.and_eq_true, decide_eq_true_eq, decide_eq_true_eq] at hrange
    have heq : e.toNat = d.toNat := Nat.le_antisymm hrange.1 hrange.2
    rwa [← Char.toNat_inj.mp heq]
  · intro hd
    exact ⟨d, hd, by simp⟩

end Pattern

/-- A name stands in a text: as a run of characters that are the same, one by one, up to case. -/
def Text.OccursIn (name text : String) : Prop :=
  ∃ before run after, text.toList = before ++ run ++ after ∧
    List.Forall₂ (fun c d => CaseFolding.same c d = true) name.toList run

open Pattern in
/-- A plain name in lower case, read as a pattern, is found where it stands up to case. -/
theorem Regex.found_plain_iff {name : String} (hplain : ∀ c ∈ name.toList, isPlain c = true)
    (hfold : ∀ c ∈ name.toList, CaseFolding.foldCode c.toNat = c.toNat)
    (hlength : 128 * name.toList.length ≤ weightLimit) :
    ∃ p, Regex.ofPattern? true name = some p ∧
      ∀ text, p.isFoundIn text = true ↔ Text.OccursIn name text := by
  obtain ⟨p, hp, hreads⟩ :=
    exists_meaning?_chain_plain (m := .start true) rfl name.toList
  refine ⟨p, ?_, fun text => ?_⟩
  · rw [ofPattern?, ofText?_plain hplain hlength, Option.bind_some, hp]
    rfl
  · have hrun : ∀ run : List Char,
        List.Forall₂ (fun c x => c.contains x = true) (name.toList.map (Mode.start true).single) run
          ↔ List.Forall₂ (fun c d => CaseFolding.same c d = true) name.toList run := by
      intro run
      rw [List.forall₂_map_left_iff]
      refine forall₂_congr_left fun c hc d => ?_
      rw [contains_single rfl rfl, CaseFolding.mem_orbit_iff (hfold c hc)]
    rw [isFoundIn_iff_reads]
    constructor
    · rintro ⟨before, run, after, htext, hrow⟩
      obtain ⟨first, last, rfl, hfirst, hlast⟩ := reads_row.mp ((hreads _ _ _).mp hrow)
      obtain rfl := reads_empty.mp hlast
      rw [List.append_nil] at htext
      exact ⟨before, first, after, htext, (hrun first).mp hfirst⟩
    · rintro ⟨before, run, after, htext, hname⟩
      refine ⟨before, run, after, htext, (hreads _ _ _).mpr (reads_row.mpr ?_)⟩
      exact ⟨run, [], (List.append_nil run).symm, (hrun run).mpr hname, reads_empty.mpr rfl⟩

end ConditionQuery
