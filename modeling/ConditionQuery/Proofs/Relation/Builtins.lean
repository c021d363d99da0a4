import ConditionQuery.Proofs.Pattern.Literal
import ConditionQuery.Proofs.Relation.Resolution

set_option autoImplicit false

/-! # What a text is taken for among the built-in relations

The names of the built-in relations have no signs of patterns in them, so each of them is found in a
text where it stands itself, in letters of any case (`finds_name_iff`). A text that is no name is
therefore taken for the first of the relations whose name stands in it. The order matters: several
names stand in others, for instance `references` in `references title`.
-/

namespace ConditionQuery

open Unicode

/-! ## The names as patterns -/

/-- The names consist of ASCII characters without a meaning in patterns, none of them in upper
case. -/
theorem Builtin.plain_name (b : Builtin) : ∀ c ∈ b.name.toList,
    Pattern.isPlain c = true ∧ c.toNat < 0x80 ∧ (c.toNat < 0x41 ∨ 0x5A < c.toNat) := by
  have hall : b.name.toList.all (fun c => Pattern.isPlain c = true ∧ c.toNat < 0x80 ∧
      (c.toNat < 0x41 ∨ 0x5A < c.toNat)) = true := by cases b <;> decide +kernel
  intro c hc
  exact of_decide_eq_true (List.all_eq_true.mp hall c hc)

theorem Builtin.length_name_le (b : Builtin) : b.name.toList.length ≤ 21 := by
  cases b <;> decide +kernel

theorem Builtin.mem_all (b : Builtin) : b ∈ all := by
  cases b <;> decide

namespace Registry

variable {text : String}

/-- The name of a built-in relation matches in a text where it stands up to case. -/
theorem finds_name_iff {b : Builtin} :
    finds text b.name = true ↔ Text.OccursIn b.name text := by
  have hlength : 128 * b.name.toList.length ≤ Pattern.weightLimit := by
    have hle := b.length_name_le
    have hlimit : 128 * 21 ≤ Pattern.weightLimit := by decide
    omega
  have hfold : ∀ c ∈ b.name.toList, CaseFolding.foldCode c.toNat = c.toNat := by
    intro c hc
    obtain ⟨-, hascii, hupper⟩ := b.plain_name c hc
    exact CaseFolding.foldCode_of_ascii hascii hupper
  obtain ⟨p, hp, hfound⟩ :=
    Regex.found_plain_iff (fun c hc => (b.plain_name c hc).1) hfold hlength
  rw [finds, hp, Option.any_some, hfound]

/-! ## Resolution -/

theorem wellKept_builtins : builtins.WellKept :=
  wellKept_run .builtins []

theorem keys_builtins : builtins.keys = Builtin.all.map Builtin.name := by
  rw [keys, builtins, List.map_map]
  rfl

theorem mem_keys_builtins_iff : text ∈ builtins.keys ↔ ∃ b : Builtin, text = b.name := by
  rw [keys_builtins, List.mem_map]
  constructor
  · rintro ⟨b, -, rfl⟩
    exact ⟨b, rfl⟩
  · rintro ⟨b, rfl⟩
    exact ⟨b, b.mem_all, rfl⟩

theorem get?_builtins (b : Builtin) : builtins.get? b.name = some (.builtin b) := by
  have hentry : Entry.make b.name (.builtin b) ∈ builtins.entries :=
    List.mem_map_of_mem b.mem_all
  exact wellKept_builtins.get?_key hentry

/-- A text that is no name is taken for the first relation whose name is found in it. -/
theorem resolve_builtins_of_ne (h : ∀ b : Builtin, text ≠ b.name) :
    builtins.resolve text = (Builtin.all.find? fun b => finds text b.name).map fun b =>
      ⟨b.name, .builtin b, .fuzzy⟩ := by
  have hmem : text ∉ builtins.keys := by
    rw [mem_keys_builtins_iff]
    rintro ⟨b, hb⟩
    exact h b hb
  rw [wellKept_builtins.resolve_of_not_mem hmem, keys_builtins, List.find?_map]
  have hcomp : finds text ∘ Builtin.name = fun b => finds text b.name := rfl
  rw [hcomp]
  cases Builtin.all.find? fun b => finds text b.name with
  | none => rfl
  | some b =>
      rw [Option.map_some, Option.bind_some, get?_builtins]
      rfl

/-- A relation is the first one, in the order of the built-in relations, whose name stands in a
text. -/
def IsFirstNamed (text : String) (b : Builtin) : Prop :=
  ∃ before after, Builtin.all = before ++ b :: after ∧ Text.OccursIn b.name text ∧
    ∀ a ∈ before, ¬ Text.OccursIn a.name text

/-- **Built-in relations are found by their names.** The name of a built-in relation is taken for
exactly this relation. Any other text is taken for the first relation whose name stands in it, up to
case, and for none if there is no such relation. -/
theorem resolve_builtins (text : String) :
    (∀ b : Builtin, text = b.name →
      builtins.resolve text = some ⟨text, .builtin b, .exact⟩) ∧
    ((∀ b : Builtin, text ≠ b.name) →
      (∀ b : Builtin, IsFirstNamed text b ↔
        builtins.resolve text = some ⟨b.name, .builtin b, .fuzzy⟩) ∧
      ((∀ b : Builtin, ¬ Text.OccursIn b.name text) ↔ builtins.resolve text = none)) := by
  refine ⟨?_, fun hne => ⟨fun b => ?_, ?_⟩⟩
  · rintro b rfl
    exact resolve_of_get? (get?_builtins b)
  · rw [resolve_builtins_of_ne hne, Option.map_eq_some_iff]
    have hfirst : IsFirstNamed text b ↔
        (Builtin.all.find? fun b => finds text b.name) = some b := by
      simp only [IsFirstNamed, List.find?_eq_some_iff_append, Bool.not_eq_true',
        ← finds_name_iff, Bool.not_eq_true]
      constructor
      · rintro ⟨before, after, hsplit, hb, hbefore⟩
        exact ⟨hb, before, after, hsplit, hbefore⟩
      · rintro ⟨hb, before, after, hsplit, hbefore⟩
        exact ⟨before, after, hsplit, hb, hbefore⟩
    rw [hfirst]
    constructor
    · intro hfind
      exact ⟨b, hfind, rfl⟩
    · rintro ⟨a, hfind, ha⟩
      -- the handler tells which relation it is
      have hgenerator : Generator.builtin a = .builtin b :=
        congrArg (fun x => x.handler.generator) ha
      rwa [← Generator.builtin.inj hgenerator]
  · rw [resolve_builtins_of_ne hne, Option.map_eq_none_iff, List.find?_eq_none]
    constructor
    · intro hnone b _
      rw [finds_name_iff]
      exact hnone b
    · intro hnone b
      rw [← finds_name_iff]
      exact hnone b b.mem_all

/-- The long s is an s, and the order of the relations counts, not that of the places. -/
example :
    (builtins.resolve "Is in page of my\u017felf").map (fun x => (x.key, x.kind))
      = some ("self", .fuzzy) := by
  decide +kernel

end Registry

end ConditionQuery
