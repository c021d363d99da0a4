import ConditionQuery.Proofs.Relation.Helper

set_option autoImplicit false

/-! # Captured variables

An arrangement is about a few things: the source, in most cases the target, and what it asks for
besides them. These are its slots (`Builtin.slots`), and the variables of its clauses are the names
of the slots, one for one and in this order (`Builtin.varsAll_generate`). Two slots under one name
are one variable to the query, which then asks for something else than the relation says.

The source and the target are called as the request says. The other names are made up, from the
name of a node and a word or as a fixed one, and nothing keeps a request from using such a name
itself. The main statement lists the requests that do, those whose source is called like the
attribute page of the target, like the title of the target, or like the day-note pattern: only for
them are there two slots under one name.
-/

namespace ConditionQuery

open Clause

/-- What a variable of an arrangement stands for. -/
inductive Slot where
  | source
  | target
  | ofSource (k : Helper)
  | ofTarget (k : Helper)
  | regex
deriving DecidableEq, Repr

namespace Slot

/-- The request has a name for the slot. -/
def IsGiven (x : Slot) : Prop :=
  x = .source ∨ x = .target

def name (r : Request) : Slot → String
  | .source => r.source
  | .target => r.target
  | .ofSource k => k.name r.source
  | .ofTarget k => k.name r.target
  | .regex => DayNote.regexVariable

/-- The slots are told apart by their names. Only source and target may have one name, if the
request calls them so. -/
def KeptApart (r : Request) (slots : List Slot) : Prop :=
  ∀ x ∈ slots, ∀ y ∈ slots, x.name r = y.name r → x = y ∨ x.IsGiven ∧ y.IsGiven

end Slot

/-! ## The variables of an arrangement -/

/-- The slots of the clauses that compare the title of a node with a text. -/
def DayNote.slots (text : String) (node title : Slot) : List Slot :=
  if DayNote.isPlaceholder text then [node, title, .regex, .regex, title] else [node]

/-- The slots of an arrangement, in the order in which its variables occur. -/
def Builtin.slots (b : Builtin) (r : Request) : List Slot :=
  match b with
  | .self | .hasHeading => [.source]
  | .references | .isInPage | .hasChild | .hasAncestor => [.source, .target]
  | .isReferencedBy | .hasParent | .hasDescendant => [.target, .source]
  | .hasTitle => DayNote.slots r.target .source (.ofSource .title)
  | .withTextInTitle => [.source, .ofSource .title, .ofSource .title]
  | .hasAttribute => [.ofTarget .attribute, .target, .ofTarget .attribute, .target, .source]
  | .withText => [.source, .ofSource .text, .source, .ofSource .text, .ofSource .text]
  | .createdBy => [.source, .ofSource .creator, .ofSource .creator]
  | .editedBy => [.source, .ofSource .editor, .ofSource .editor]
  | .referencesTitle | .isInPageWithTitle =>
    .source :: .target :: DayNote.slots r.target .target (.ofTarget .title)
  | .createdAfter | .createdBefore => [.source, .ofSource .created, .ofSource .created]
  | .editedAfter | .editedBefore => [.source, .ofSource .edited, .ofSource .edited]

theorem Template.varsAll_titled (setting : Setting) (r : Request) (text : String)
    (node title : Slot) (htitle : title.name r = Helper.title.name (node.name r)) :
    varsAll (titled setting (node.name r) text)
      = (DayNote.slots text node title).map (Slot.name r) := by
  unfold titled DayNote.slots
  split
  · simp only [List.map_cons, List.map_nil, htitle, Helper.title_name]
    rfl
  · rfl

open Template in
/-- The variables of an arrangement are the names of its slots. -/
theorem Builtin.varsAll_generate {b : Builtin} {r : Request} {setting : Setting}
    {xs : List Clause} (h : b.generate r setting = .ok xs) :
    varsAll xs = (b.slots r).map (Slot.name r) := by
  cases b with
  | self | references | isReferencedBy | isInPage | withTextInTitle | hasAttribute | hasChild
  | hasParent | hasAncestor | hasDescendant | withText | createdBy | editedBy =>
      cases h
      rfl
  | hasTitle =>
      cases h
      exact varsAll_titled setting r r.target .source (.ofSource .title) rfl
  | hasHeading =>
      cases h
      obtain ⟨text, htext⟩ := headingLevel_eq_const r.target
      rw [htext]
      rfl
  | referencesTitle | isInPageWithTitle =>
      cases h
      have htitled := varsAll_titled setting r r.target .target (.ofTarget .title) rfl
      exact congrArg (r.source :: r.target :: ·) htitled
  | createdAfter | createdBefore | editedAfter | editedBefore =>
      obtain ⟨instant, -, rfl⟩ := timedBy_eq_ok h
      rfl

/-! ## Names in use -/

/-- The source has the name of something else that the arrangement asks for. -/
def Builtin.Captures (b : Builtin) (r : Request) : Prop :=
  match b with
  | .hasAttribute => Helper.attribute.name r.target = r.source
  | .hasTitle => DayNote.isPlaceholder r.target = true ∧ DayNote.regexVariable = r.source
  | .referencesTitle | .isInPageWithTitle =>
    DayNote.isPlaceholder r.target = true ∧
      (Helper.title.name r.target = r.source ∨ DayNote.regexVariable = r.source)
  | _ => False

/-- A helper is not called like its node. -/
theorem Helper.name_ne_node (k : Helper) (node : String) : k.name node ≠ node := by
  intro h
  have hlength := congrArg String.length h
  have hhyphen : "-".length = 1 := by decide
  simp only [name, String.length_append] at hlength
  omega

theorem DayNote.regexVariable_ne_of_isPlaceholder {text : String}
    (h : isPlaceholder text = true) : regexVariable ≠ text := by
  rintro rfl
  exact absurd h (by decide)

/-- Slots are told apart if no slot with a name that is made up shares it. -/
theorem Slot.keptApart_iff {r : Request} {slots : List Slot} :
    KeptApart r slots ↔
      ∀ x ∈ slots, ¬ x.IsGiven → ∀ y ∈ slots, y ≠ x → x.name r ≠ y.name r := by
  constructor
  · intro h x hx hgiven y hy hne hname
    rcases h x hx y hy hname with heq | hboth
    · exact hne heq.symm
    · exact hgiven hboth.1
  · intro h x hx y hy hname
    by_cases hne : x = y
    · exact Or.inl hne
    · by_cases hx' : x.IsGiven
      · by_cases hy' : y.IsGiven
        · exact Or.inr ⟨hx', hy'⟩
        · exact absurd hname.symm (h y hy hy' x hx hne)
      · exact absurd hname (h x hx hx' y hy (Ne.symm hne))

/-- The slots of an arrangement are told apart unless the source has the name of another one. -/
theorem Builtin.keptApart_slots_iff (b : Builtin) (r : Request) :
    Slot.KeptApart r (b.slots r) ↔ ¬ b.Captures r := by
  have hregex : ∀ (k : Helper) (node : String), DayNote.regexVariable ≠ k.name node :=
    fun k node => (k.name_ne_regexVariable node).symm
  rw [Slot.keptApart_iff]
  cases b with
  | self | references | isReferencedBy | isInPage | hasChild | hasParent | hasAncestor
  | hasDescendant | hasHeading =>
      -- no name is made up
      simp [slots, Slot.IsGiven, Captures]
  | withTextInTitle | withText | createdBy | editedBy | createdAfter | createdBefore
  | editedAfter | editedBefore =>
      -- the target is no variable, and the helper of the source is not called like the source
      simp [slots, Slot.IsGiven, Slot.name, Captures, Helper.name_ne_node]
  | hasAttribute =>
      simp [slots, Slot.IsGiven, Slot.name, Captures, Helper.name_ne_node]
  | hasTitle =>
      by_cases hdate : DayNote.isPlaceholder r.target = true
      · simp [slots, DayNote.slots, hdate, Slot.IsGiven, Slot.name, Captures,
          Helper.name_ne_node, Helper.name_ne_regexVariable, hregex]
      · simp [slots, DayNote.slots, hdate, Slot.IsGiven, Captures]
  | referencesTitle | isInPageWithTitle =>
      by_cases hdate : DayNote.isPlaceholder r.target = true
      · have htarget := DayNote.regexVariable_ne_of_isPlaceholder hdate
        simp [slots, DayNote.slots, hdate, Slot.IsGiven, Slot.name, Captures,
          Helper.name_ne_node, Helper.name_ne_regexVariable, hregex, htarget]
        exact fun htitle _ => htitle
      · simp [slots, DayNote.slots, hdate, Slot.IsGiven, Captures]

/-- **Capture.** The variables of an arrangement are the names of its slots, and the slots are told
apart by them if and only if the source does not have the name of the attribute page or the title of
the target or of the day-note pattern where the arrangement asks for it. -/
theorem Builtin.generate_keptApart_iff {b : Builtin} {r : Request} {setting : Setting}
    {xs : List Clause} (h : b.generate r setting = .ok xs) :
    varsAll xs = (b.slots r).map (Slot.name r) ∧
      (Slot.KeptApart r (b.slots r) ↔ ¬ b.Captures r) :=
  ⟨varsAll_generate h, keptApart_slots_iff b r⟩

/-- Names that come close to those that are made up are not captured. -/
theorem Builtin.generate_keptApart_iff_close :
    let setting : Setting :=
      ⟨⟨id, fun _ => .ok ⟨0, 0⟩, .ok [], .ok []⟩, DayNote.defaultPattern⟩
    let r : Request := ⟨"date-regex-Title", " \x7bDate\x7d ", ""⟩
    ∃ xs, Builtin.isInPageWithTitle.generate r setting = .ok xs ∧
      varsAll xs = ["date-regex-Title", " \x7bDate\x7d ", " \x7bDate\x7d ",
        " \x7bDate\x7d -Title", "date-regex", "date-regex", " \x7bDate\x7d -Title"] ∧
      Slot.KeptApart r (Builtin.isInPageWithTitle.slots r) := by
  intro setting r
  have hgenerate : Builtin.isInPageWithTitle.generate r setting = .ok _ := rfl
  have hcaptures : ¬ Builtin.isInPageWithTitle.Captures r := by
    rintro ⟨-, htitle | hregex⟩
    · exact absurd htitle (by decide)
    · exact absurd hregex (by decide)
  have hkept := generate_keptApart_iff hgenerate
  exact ⟨_, hgenerate, hkept.1.trans (by decide), hkept.2.mpr hcaptures⟩

/-- A source that is called like the pattern, like the attribute page of the target or like the
title of the target is captured. -/
theorem Builtin.not_keptApart_namesake :
    let setting : Setting :=
      ⟨⟨id, fun _ => .ok ⟨0, 0⟩, .ok [], .ok []⟩, DayNote.defaultPattern⟩
    ∀ c ∈ [(Builtin.hasTitle, (⟨"date-regex", "\x7bdate\x7d", ""⟩ : Request)),
      (Builtin.hasAttribute, ⟨"B-Attribute", "B", ""⟩),
      (Builtin.referencesTitle, ⟨"\x7bdate\x7d-Title", "\x7bdate\x7d", ""⟩)],
      ∃ xs, c.1.generate c.2 setting = .ok xs ∧ ¬ Slot.KeptApart c.2 (c.1.slots c.2) := by
  intro setting c hc
  simp only [List.mem_cons, List.not_mem_nil, or_false] at hc
  rcases hc with rfl | rfl | rfl
  · refine ⟨_, rfl, fun hkept => (keptApart_slots_iff _ _).mp hkept ?_⟩
    exact ⟨by decide, rfl⟩
  · refine ⟨_, rfl, fun hkept => (keptApart_slots_iff _ _).mp hkept ?_⟩
    exact (by decide : Helper.attribute.name "B" = "B-Attribute")
  · refine ⟨_, rfl, fun hkept => (keptApart_slots_iff _ _).mp hkept ?_⟩
    exact ⟨by decide, Or.inl (by decide)⟩

end ConditionQuery
