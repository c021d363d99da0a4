import ConditionQuery.Proofs.Pattern.Literal
import ConditionQuery.Proofs.Relation.Template
import ConditionQuery.Proofs.Text.Blank
import ConditionQuery.Proofs.Text.Case

set_option autoImplicit false

/-! # Targets that stand for any day note

The placeholder is recognized by a scan of the target (`isPlaceholder`). The same texts are
described by a pattern, and by what is left of them without blanks and upper-case letters; all
three descriptions are compared with a fourth one, which only says how such a text is put together
(`IsPadded`).

Three of the built-in relations compare a title with the target (`Builtin.titled?`). For the
placeholder they ask for a title that the day-note pattern is found in, and only then an
arrangement calls a function.
-/

namespace ConditionQuery

open Unicode

namespace DayNote

/-! ## The placeholder -/

/-- The placeholder stands between blanks, in letters of either case, and nothing else does. -/
def IsPadded (text : List Char) : Prop :=
  ∃ before run after, text = before ++ run ++ after ∧ (∀ c ∈ before, Text.isBlank c = true) ∧
    Text.lower run = placeholder ∧ ∀ c ∈ after, Text.isBlank c = true

/-- What the scan takes from a text is, in lower case, what it looks for. -/
theorem takePlaceholder?_eq_some_iff {p s rest : List Char} :
    takePlaceholder? p s = some rest ↔ ∃ run, s = run ++ rest ∧ Text.lower run = p := by
  induction p generalizing s with
  | nil =>
      rw [takePlaceholder?, Option.some_inj]
      constructor
      · rintro rfl
        exact ⟨[], rfl, rfl⟩
      · rintro ⟨run, rfl, hrun⟩
        obtain rfl : run = [] := List.map_eq_nil_iff.mp hrun
        rfl
  | cons q p ih =>
      cases s with
      | nil =>
          refine iff_of_false (by simp [takePlaceholder?]) ?_
          rintro ⟨run, hs, hrun⟩
          obtain ⟨rfl, -⟩ := List.append_eq_nil_iff.mp hs.symm
          exact absurd hrun nofun
      | cons c s =>
          rw [takePlaceholder?]
          constructor
          · intro h
            split at h
            · next hc =>
                obtain ⟨run, rfl, hrun⟩ := ih.mp h
                exact ⟨c :: run, rfl, congrArg₂ List.cons hc hrun⟩
            · cases h
          · rintro ⟨_ | ⟨d, run⟩, hs, hrun⟩
            · exact absurd hrun nofun
            · obtain ⟨rfl, rfl⟩ := List.cons.inj hs
              obtain ⟨hc, hrest⟩ := List.cons.inj hrun
              rw [if_pos hc]
              exact ih.mpr ⟨run, rfl, hrest⟩

/-- The placeholder has no blanks, in whichever case its letters are. -/
theorem not_isBlank_of_lower_eq {run : List Char} (hrun : Text.lower run = placeholder) :
    ∀ c ∈ run, (!Text.isBlank c) = true := by
  intro c hc
  have hmem : c.toLower ∈ placeholder := by
    rw [← hrun]
    exact List.mem_map_of_mem hc
  have hnot : placeholder.all (fun d => !Text.isBlank d) = true := by decide
  have hlower := List.all_eq_true.mp hnot _ hmem
  rwa [Text.isBlank_toLower] at hlower

/-- A text is taken for the placeholder if it is put together like it. -/
theorem isPlaceholder_iff_isPadded {text : String} :
    isPlaceholder text = true ↔ IsPadded text.toList := by
  rw [isPlaceholder]
  constructor
  · intro h
    cases htake : takePlaceholder? placeholder (Text.trimLeft text.toList) with
    | none => simp [htake] at h
    | some after =>
        rw [htake] at h
        obtain ⟨run, htrim, hrun⟩ := takePlaceholder?_eq_some_iff.mp htake
        obtain ⟨before, htext, hbefore⟩ := Text.exists_padding_left text.toList
        refine ⟨before, run, after, ?_, hbefore, hrun, List.all_eq_true.mp h⟩
        rw [List.append_assoc, ← htrim]
        exact htext
  · rintro ⟨before, run, after, htext, hbefore, hrun, hafter⟩
    -- the run has a first character, which is no blank
    have hfirst : ∀ c ∈ (run ++ after).head?, Text.isBlank c = false := by
      intro c hc
      cases run with
      | nil => exact absurd hrun nofun
      | cons d run =>
          obtain rfl : d = c := by simpa using hc
          simpa using not_isBlank_of_lower_eq hrun d (by simp)
    have htrim : Text.trimLeft text.toList = run ++ after := by
      rw [htext, List.append_assoc, Text.trimLeft_append hbefore, Text.trimLeft_eq_self hfirst]
    have htake : takePlaceholder? placeholder (run ++ after) = some after :=
      takePlaceholder?_eq_some_iff.mpr ⟨run, rfl, hrun⟩
    rw [htrim, htake]
    exact List.all_eq_true.mpr hafter

/-- A text is put together like the placeholder if that is what is left of it without the blanks at
its ends and with its letters in lower case. -/
theorem isPadded_iff_lower_trim {s : List Char} :
    IsPadded s ↔ Text.lower (Text.trim s) = placeholder := by
  constructor
  · rintro ⟨before, run, after, rfl, hbefore, hrun, hafter⟩
    rw [Text.trim_padded hbefore hafter,
      Text.trim_eq_self_of_forall (not_isBlank_of_lower_eq hrun), hrun]
  · intro h
    obtain ⟨before, after, hs, hbefore, hafter⟩ := Text.exists_padding s
    exact ⟨before, Text.trim s, after, hs, hbefore, h, hafter⟩

/-- Only whole targets are the placeholder, and no-break spaces are blanks. -/
example : isPlaceholder "\u00a0\x7bDaTe\x7d\n" = true ∧
    isPlaceholder "\x7bdate\x7d page" = false := by
  decide

/-! ## The placeholder as a pattern -/

def placeholderPattern : String :=
  "(?i)^\\s*\\\x7bdate\\\x7d\\s*$"

def blankRegex : Regex :=
  .times (.one (.ranges Pattern.Mode.anyBlanks)) 0 none

/-- What the pattern of the placeholder means: from the start of a text to its end there are blanks,
the characters of the placeholder up to case, and blanks. -/
def placeholderRegex : Regex :=
  .seq .empty (.seq (.look .textStart) (.seq blankRegex
    (Regex.row (placeholder.map (Pattern.Mode.start true).single)
      (.seq blankRegex (.seq (.look .textEnd) .empty)))))

theorem ofPattern?_placeholderPattern :
    Regex.ofPattern? false placeholderPattern = some placeholderRegex := rfl

theorem contains_anyBlanks (c : Char) :
    CharSet.contains Pattern.Mode.anyBlanks c = Text.isBlank c := by
  rw [Bool.eq_iff_iff]
  simp only [CharSet.contains, Pattern.Mode.anyBlanks, Text.isBlank, List.any_cons, List.any_nil,
    Bool.or_eq_true, Bool.and_eq_true, decide_eq_true_eq, beq_iff_eq, Bool.false_eq_true, or_false]
  omega

theorem reads_blankRegex {before run after : List Char} :
    blankRegex.Reads before run after ↔ ∀ c ∈ run, Text.isBlank c = true := by
  rw [blankRegex, Regex.reads_many]
  exact forall₂_congr fun c _ => by rw [CharClass.contains, contains_anyBlanks]

/-- No character outside ASCII is the same as one of the placeholder up to case. -/
theorem mem_orbit_placeholder {c d : Char} (hc : c ∈ placeholder) :
    d ∈ CaseFolding.orbit c ↔ d.toLower = c := by
  have horbits : placeholder.map CaseFolding.orbit
      = placeholder.map fun c => if c.toUpper = c then [c] else [c, c.toUpper] := by decide +kernel
  have hlower : placeholder.all (fun c => c.toLower = c ∧ c.toUpper.toLower = c) = true := by decide
  have hcase : c.toLower = c ∧ c.toUpper.toLower = c := by
    simpa using List.all_eq_true.mp hlower c hc
  have hmem : d ∈ CaseFolding.orbit c ↔ d = c ∨ d = c.toUpper := by
    rw [List.map_inj_left.mp horbits c hc]
    by_cases hupper : c.toUpper = c
    · simp [hupper]
    · simp [hupper]
  rw [hmem]
  constructor
  · rintro (rfl | rfl)
    · exact hcase.1
    · exact hcase.2
  · rintro rfl
    exact Text.forall_toLower (p := fun c d => c = d ∨ c = d.toUpper) (fun _ _ => Or.inl rfl)
      (by decide) d

/-- The row of the placeholder's characters matches the runs that are the placeholder in lower
case. -/
theorem reads_placeholder_iff {run : List Char} :
    List.Forall₂ (fun c x => c.contains x = true)
      (placeholder.map (Pattern.Mode.start true).single) run ↔ Text.lower run = placeholder := by
  rw [List.forall₂_map_left_iff]
  have hcase : ∀ c ∈ placeholder, ∀ x,
      ((Pattern.Mode.start true).single c).contains x = true ↔ c = x.toLower := by
    intro c hc x
    rw [Pattern.contains_single rfl rfl, mem_orbit_placeholder hc, eq_comm]
  rw [Regex.forall₂_congr_left hcase, ← List.forall₂_map_right_iff (R := Eq),
    List.forall₂_eq_eq_eq, Text.lower, eq_comm]

/-- A match of the pattern is a whole text that is put together like the placeholder. -/
theorem reads_placeholderRegex {before run after : List Char} :
    placeholderRegex.Reads before run after ↔ before = [] ∧ IsPadded run ∧ after = [] := by
  rw [placeholderRegex, Regex.reads_empty_seq, Regex.reads_textStart_seq]
  refine and_congr_right ?_
  rintro rfl
  simp only [Regex.reads_seq (a := blankRegex), reads_blankRegex, Regex.reads_row,
    reads_placeholder_iff, Regex.reads_seq_empty, Regex.reads_textEnd]
  constructor
  · rintro ⟨before, _, rfl, hbefore, run, _, rfl, hrun, blanks, _, rfl, hblanks, rfl, rfl⟩
    exact ⟨⟨before, run, blanks, by simp, hbefore, hrun, hblanks⟩, rfl⟩
  · rintro ⟨⟨before, run, blanks, rfl, hbefore, hrun, hblanks⟩, rfl⟩
    exact ⟨before, run ++ blanks, by simp, hbefore, run, blanks, rfl, hrun, blanks, [], by simp,
      hblanks, rfl, rfl⟩

/-- The pattern is found in the texts that are put together like the placeholder. -/
theorem isFoundIn_placeholderRegex {text : String} :
    placeholderRegex.isFoundIn text = true ↔ IsPadded text.toList := by
  simp only [Regex.isFoundIn_iff_reads, reads_placeholderRegex]
  constructor
  · rintro ⟨_, run, _, htext, rfl, hrun, rfl⟩
    rwa [htext, List.nil_append, List.append_nil]
  · intro h
    exact ⟨[], text.toList, [], by simp, rfl, h, rfl⟩

end DayNote

/-! ## What the placeholder is turned into -/

namespace Builtin

open Clause

/-- For the relations that compare a title with the target: the clauses that link the source to the
node with this title, and the node. -/
def titled? (b : Builtin) (r : Request) : Option (List Clause × String) :=
  match b with
  | .hasTitle => some ([], r.source)
  | .referencesTitle => some ([.edge r.source ":block/refs" r.target], r.target)
  | .isInPageWithTitle => some ([.edge r.source ":block/page" r.target], r.target)
  | _ => none

/-- The clauses of the other relations call no function. -/
theorem callsAll_generate_of_not_titled {b : Builtin} {r : Request} {setting : Setting}
    {xs : List Clause} (hb : b.titled? r = none) (h : b.generate r setting = .ok xs) :
    callsAll xs = [] := by
  cases b with
  | hasTitle | referencesTitle | isInPageWithTitle => cases hb
  | createdAfter | createdBefore | editedAfter | editedBefore =>
      obtain ⟨instant, -, rfl⟩ := Template.timedBy_eq_ok h
      rfl
  | self | references | isReferencedBy | isInPage | withTextInTitle | hasAttribute | hasChild
  | hasParent | hasAncestor | hasDescendant | withText | createdBy | editedBy | hasHeading =>
      cases h
      rfl

theorem generate_of_titled {b : Builtin} {r : Request} {link : List Clause} {node : String}
    (hb : b.titled? r = some (link, node)) (setting : Setting) :
    b.generate r setting = .ok (link ++ Template.titled setting node r.target) := by
  cases b <;> cases hb <;> rfl

/-- The links are triples, so that a titled arrangement calls what the comparison calls. -/
theorem callsAll_link_append {b : Builtin} {r : Request} {link : List Clause} {node : String}
    (hb : b.titled? r = some (link, node)) (xs : List Clause) :
    callsAll (link ++ xs) = callsAll xs := by
  cases b <;> cases hb <;> rfl

/-- **The day-note placeholder.** A target is the placeholder exactly if it reads `date` in braces
without the blanks at its ends and with its ASCII letters in lower case, which is what the pattern
of the placeholder says.

The three relations that compare a title with the target link the source to a node, if the node is
another one, and then ask for the title of this node: for the placeholder by the three clauses that
bind the title, make the configured pattern and test the title against it, and for every other
target by a triple with the normalized target. The arrangements of all relations call no other
function. -/
theorem generate_dayNote :
    (∃ p, Regex.ofPattern? false DayNote.placeholderPattern = some p ∧ ∀ text,
      (p.isFoundIn text = true ↔ DayNote.isPlaceholder text = true) ∧
      (DayNote.isPlaceholder text = true ↔
        Text.lower (Text.trimmed text) = "\x7bdate\x7d".toList)) ∧
    ∀ (b : Builtin) (r : Request) (setting : Setting),
      (∀ link node, b.titled? r = some (link, node) →
        b.generate r setting = .ok (link ++
          if DayNote.isPlaceholder r.target then
            [.triple (.var node) ":node/title" (.var (node ++ "-Title")),
              .bind "re-pattern" [.string setting.dayNotePattern] (.var "date-regex"),
              .test "re-find" [.var "date-regex", .var (node ++ "-Title")]]
          else
            [.triple (.var node) ":node/title"
              (.string (setting.services.normalizeTitle r.target))])) ∧
      ∀ xs, b.generate r setting = .ok xs → callsAll xs =
        if (b.titled? r).isSome && DayNote.isPlaceholder r.target then
          [.bind "re-pattern" [.string setting.dayNotePattern] (.var "date-regex")]
        else [] := by
  refine ⟨⟨DayNote.placeholderRegex, DayNote.ofPattern?_placeholderPattern, fun text => ?_⟩,
    fun b r setting => ⟨fun link node hb => generate_of_titled hb setting, fun xs hxs => ?_⟩⟩
  · have hscan : DayNote.isPlaceholder text = true ↔ DayNote.IsPadded text.toList :=
      DayNote.isPlaceholder_iff_isPadded
    exact ⟨DayNote.isFoundIn_placeholderRegex.trans hscan.symm,
      hscan.trans DayNote.isPadded_iff_lower_trim⟩
  · cases hb : b.titled? r with
    | none => exact callsAll_generate_of_not_titled hb hxs
    | some titled =>
        obtain ⟨link, node⟩ := titled
        obtain rfl : link ++ Template.titled setting node r.target = xs :=
          Except.ok.inj ((generate_of_titled hb setting).symm.trans hxs)
        rw [callsAll_link_append hb, Template.titled, Option.isSome_some, Bool.true_and]
        split
        · rfl
        · rfl

end Builtin

end ConditionQuery
