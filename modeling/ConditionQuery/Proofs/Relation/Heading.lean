import ConditionQuery.Proofs.Clause.Term
import ConditionQuery.Proofs.Text.Blank
import ConditionQuery.Relation.Template

set_option autoImplicit false

/-! # Levels of headings

A target of `has heading` denotes a level if it is a numeral, with or without blanks around it, of
an integer that fits in 64 bits (`DenotesLevel`). The clause then has the integer as its value; for
any other target it has the text of the target. So a clause tells the level apart from every other
level and from every text, and the spelling of the level gets lost (`Builtin.generate_hasHeading`).
-/

namespace ConditionQuery

/-- A target denotes a level: without the blanks at its ends it is a numeral of an integer that fits
in 64 bits. -/
structure DenotesLevel (target : String) (level : Int) : Prop where
  denotes : Text.Decimal.Denotes (Text.trimmed target) level
  least_le : -2 ^ 63 ≤ level
  le_greatest : level ≤ 2 ^ 63 - 1

variable {target target' : String} {level : Int}

theorem readInt64?_trimmed_eq_some_iff :
    Text.Decimal.readInt64? (Text.trimmed target) = some level ↔ DenotesLevel target level := by
  rw [Text.Decimal.readInt64?_eq_some_iff]
  exact ⟨fun h => ⟨h.1, h.2.1, h.2.2⟩, fun h => ⟨h.denotes, h.least_le, h.le_greatest⟩⟩

/-- A written numeral denotes what it was written for. -/
theorem DenotesLevel.numeral (h : DenotesLevel target level) :
    DenotesLevel (String.ofList (Text.Decimal.write level)) level where
  denotes := by
    have hblank : ∀ c ∈ Text.Decimal.write level, (!Text.isBlank c) = true := by
      intro c hc
      have hc := isDelimiter_of_isSymbolChar (isSymbolChar_of_mem_write hc)
      simp only [isDelimiter, Bool.or_eq_false_iff] at hc
      simp [hc]
    rw [Text.trimmed, String.toList_ofList, Text.trim_eq_self_of_forall hblank]
    exact Text.Decimal.denotes_write level
  least_le := h.least_le
  le_greatest := h.le_greatest

namespace Template

theorem headingLevel_of_denotes (h : DenotesLevel target level) :
    headingLevel target = .number level := by
  rw [headingLevel, readInt64?_trimmed_eq_some_iff.mpr h]

theorem headingLevel_of_not_denotes (h : ∀ level, ¬ DenotesLevel target level) :
    headingLevel target = .string target := by
  have hnone : Text.Decimal.readInt64? (Text.trimmed target) = none :=
    Option.eq_none_iff_forall_ne_some.mpr fun level hlevel =>
      h level (readInt64?_trimmed_eq_some_iff.mp hlevel)
  rw [headingLevel, hnone]

/-- Two targets have one value exactly if they are one text or denote one level. -/
theorem headingLevel_eq_iff : headingLevel target = headingLevel target' ↔
    target = target' ∨ ∃ level, DenotesLevel target level ∧ DenotesLevel target' level := by
  constructor
  · intro h
    by_cases ht : ∃ level, DenotesLevel target level
    · obtain ⟨level, hlevel⟩ := ht
      rw [headingLevel_of_denotes hlevel] at h
      by_cases ht' : ∃ level', DenotesLevel target' level'
      · obtain ⟨level', hlevel'⟩ := ht'
        rw [headingLevel_of_denotes hlevel'] at h
        obtain rfl := Term.number_inj.mp h
        exact Or.inr ⟨level, hlevel, hlevel'⟩
      · rw [headingLevel_of_not_denotes (not_exists.mp ht')] at h
        exact absurd h.symm (Term.string_ne_number target' level)
    · rw [headingLevel_of_not_denotes (not_exists.mp ht)] at h
      by_cases ht' : ∃ level', DenotesLevel target' level'
      · obtain ⟨level', hlevel'⟩ := ht'
        rw [headingLevel_of_denotes hlevel'] at h
        exact absurd h (Term.string_ne_number target level')
      · rw [headingLevel_of_not_denotes (not_exists.mp ht')] at h
        exact Or.inl (Term.string_inj.mp h)
  · rintro (rfl | ⟨level, hlevel, hlevel'⟩)
    · rfl
    · rw [headingLevel_of_denotes hlevel, headingLevel_of_denotes hlevel']

end Template

/-! ## The clause of a heading -/

namespace Builtin

def HasLevel (source target : String) (value : Term) : Prop :=
  ∀ (uid : String) (setting : Setting), hasHeading.generate ⟨source, target, uid⟩ setting
    = .ok [.triple (.var source) ":block/heading" value]

/-- The clauses of `has heading` for one source identify the targets by the levels they denote. -/
structure IdentifiesLevels (source : String) : Prop where
  /-- A target that denotes a level gives this level as a number, in its canonical numeral. -/
  of_denotes : ∀ target level, DenotesLevel target level →
    HasLevel source target (.number level) ∧
      ∃ numeral : String, Term.number level = .const numeral ∧
        Text.Decimal.IsCanonical numeral.toList level
  /-- Any other target gives its own text, with the blanks at its ends, as a string literal. -/
  of_not_denotes : ∀ target, (∀ level, ¬ DenotesLevel target level) →
    HasLevel source target (.string target)
  /-- Two targets have one clause exactly if they are one text or denote one level, -/
  generate_eq_iff : ∀ target target' uid uid' setting setting',
    hasHeading.generate ⟨source, target, uid⟩ setting
        = hasHeading.generate ⟨source, target', uid'⟩ setting' ↔
      target = target' ∨ ∃ level, DenotesLevel target level ∧ DenotesLevel target' level
  /-- and the canonical numeral of a level is a target with the same clause. -/
  generate_numeral : ∀ target level (numeral : String), DenotesLevel target level →
    Text.Decimal.IsCanonical numeral.toList level → ∀ uid setting,
      hasHeading.generate ⟨source, numeral, uid⟩ setting
        = hasHeading.generate ⟨source, target, uid⟩ setting

theorem hasLevel_headingLevel (source target : String) :
    HasLevel source target (Template.headingLevel target) :=
  fun _ _ => rfl

/-- The clauses for one source are equal exactly if their values are. -/
theorem generate_hasHeading_eq_iff {source target target' uid uid' : String}
    {setting setting' : Setting} :
    hasHeading.generate ⟨source, target, uid⟩ setting
        = hasHeading.generate ⟨source, target', uid'⟩ setting' ↔
      Template.headingLevel target = Template.headingLevel target' := by
  rw [hasLevel_headingLevel source target uid setting,
    hasLevel_headingLevel source target' uid' setting']
  simp [Clause.triple]

/-- **Headings are identified by the integers that targets denote**, at both ends of the range of 64
bits and for numerals with signs, with any number of zeros before them and with blanks of any script
around them. -/
theorem generate_hasHeading (source : String) : IdentifiesLevels source where
  of_denotes := by
    intro target level h
    refine ⟨fun uid setting => ?_, String.ofList (Text.Decimal.write level), rfl, ?_⟩
    · rw [← Template.headingLevel_of_denotes h]
      exact hasLevel_headingLevel source target uid setting
    · rw [String.toList_ofList]
      exact Text.Decimal.isCanonical_write level
  of_not_denotes := by
    intro target h
    rw [← Template.headingLevel_of_not_denotes h]
    exact hasLevel_headingLevel source target
  generate_eq_iff := fun _ _ _ _ _ _ =>
    generate_hasHeading_eq_iff.trans Template.headingLevel_eq_iff
  generate_numeral := by
    intro target level numeral h hnumeral uid setting
    have hwrite : numeral = String.ofList (Text.Decimal.write level) := by
      rw [← Text.Decimal.isCanonical_iff.mp hnumeral, String.ofList_toList]
    rw [generate_hasHeading_eq_iff, Template.headingLevel_eq_iff, hwrite]
    exact Or.inr ⟨level, h.numeral, h⟩

/-- The least level with a sign and zeros, between a no-break space and a line separator, and a
number that is too great by one. -/
example :
    Template.headingLevel "\u00a0-009223372036854775808\u2028" = .number (-2 ^ 63) ∧
      Template.headingLevel " +9223372036854775808" = .string " +9223372036854775808" := by
  decide +kernel

end Builtin

end ConditionQuery
