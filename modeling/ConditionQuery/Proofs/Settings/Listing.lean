import ConditionQuery.Proofs.Settings.Registry
import ConditionQuery.Proofs.Settings.Sources
import ConditionQuery.Proofs.Text.Blank
import ConditionQuery.Proofs.Text.Utf8

set_option autoImplicit false

/-! # Lists in a variable

A variable of the environment lists the relations to leave out. Between its commas stand items with
blanks around them, or blanks alone. Reading goes from comma to comma (`listItems_append`), so a
list is read piece by piece (`listItems_intercalate`), and what is read are exactly the items that
were written (`listItems_eq_iff`). Of the settings the list determines the relations that are left
out and nothing else (`ofEnvironment_of_listed`).
-/

namespace ConditionQuery

namespace Environment

variable {e : Environment} {name other : String}

def unset (e : Environment) (name : String) : Environment :=
  ⟨e.bindings.filter fun b => b.1 ≠ name⟩

theorem get?_unset_self (e : Environment) (name : String) : (e.unset name).get? name = none := by
  rw [get?, unset, List.lookup_eq_none_iff]
  intro b hb
  have hne : b.1 ≠ name := of_decide_eq_true (List.mem_filter.mp hb).2
  exact bne_iff_ne.mpr (Ne.symm hne)

theorem get?_unset_of_ne (h : other ≠ name) : (e.unset name).get? other = e.get? other := by
  obtain ⟨bindings⟩ := e
  show (bindings.filter fun b => b.1 ≠ name).lookup other = bindings.lookup other
  induction bindings with
  | nil => rfl
  | cons b bindings ih =>
      by_cases hb : b.1 = name
      · have hother : (other == b.1) = false := beq_false_of_ne (hb ▸ h)
        rw [List.filter_cons_of_neg (by simpa using hb), ih, List.lookup_cons, hother]
      · rw [List.filter_cons_of_pos (by simpa using hb), List.lookup_cons, List.lookup_cons, ih]

end Environment

namespace Settings

variable {text before item after gap piece : String} {pieces items : List String}
  {s : Settings} {e : Environment}

/-! ## Pieces between commas -/

theorem splitAtCommas_eq_splitOn (s : List Char) : splitAtCommas s = s.splitOn ',' := by
  induction s with
  | nil => rfl
  | cons c s ih =>
      rw [splitAtCommas, ih, List.splitOn_cons_eq_if_modifyHead]
      by_cases hc : c = ','
      · rw [if_pos hc, if_pos (beq_iff_eq.mpr hc)]
      · rw [if_neg hc, if_neg (fun h => hc (beq_iff_eq.mp h))]
        cases hsplit : s.splitOn ',' with
        | nil => exact absurd hsplit (List.splitOn_ne_nil ',' s)
        | cons first rest => rfl

theorem comma_not_mem_of_mem_splitAtCommas {s p : List Char} (hp : p ∈ splitAtCommas s) :
    ',' ∉ p := by
  fun_induction splitAtCommas s generalizing p with
  | case1 =>
      rw [List.mem_singleton.mp hp]
      exact List.not_mem_nil
  | case2 s ih =>
      rcases List.mem_cons.mp hp with rfl | hp
      · exact List.not_mem_nil
      · exact ih hp
  | case3 c s hc first rest hsplit ih =>
      rw [hsplit] at ih
      rcases List.mem_cons.mp hp with rfl | hp
      · exact List.not_mem_cons_of_ne_of_not_mem (Ne.symm hc) (ih (List.mem_cons_self ..))
      · exact ih (List.mem_cons_of_mem _ hp)
  | case4 c s hc hsplit ih =>
      rw [List.mem_singleton.mp hp]
      exact List.not_mem_cons_of_ne_of_not_mem (Ne.symm hc) List.not_mem_nil

/-- Every text consists of pieces without commas, and of commas between them. -/
theorem exists_pieces (text : String) :
    ∃ pieces : List String, text = ",".intercalate pieces ∧
      ∀ piece ∈ pieces, ',' ∉ piece.toList := by
  refine ⟨(splitAtCommas text.toList).map String.ofList, ?_, ?_⟩
  · have hpieces : (splitAtCommas text.toList).map (String.toList ∘ String.ofList)
        = text.toList.splitOn ',' := by
      rw [← splitAtCommas_eq_splitOn]
      exact List.map_id'' (fun _ => String.toList_ofList) _
    rw [← String.toList_inj, String.toList_intercalate, List.map_map, hpieces]
    exact (List.intercalate_splitOn ',').symm
  · intro piece hpiece
    obtain ⟨p, hp, rfl⟩ := List.mem_map.mp hpiece
    rw [String.toList_ofList]
    exact comma_not_mem_of_mem_splitAtCommas hp

/-! ## Reading piece by piece -/

/-- Two lists with a comma between them are read one after the other. -/
theorem listItems_append (a b : String) :
    listItems (a ++ "," ++ b) = listItems a ++ listItems b := by
  have hsplit : splitAtCommas (a ++ "," ++ b).toList
      = splitAtCommas a.toList ++ splitAtCommas b.toList := by
    have hlist : (a ++ "," ++ b).toList = a.toList ++ ',' :: b.toList := by
      rw [String.toList_append, String.toList_append, List.append_assoc]
      rfl
    rw [hlist, splitAtCommas_eq_splitOn, List.splitOn_append_cons_self, ← splitAtCommas_eq_splitOn,
      ← splitAtCommas_eq_splitOn]
  rw [listItems, hsplit, List.map_append, List.filter_append, List.map_append]
  rfl

theorem listItems_intercalate (pieces : List String) :
    listItems (",".intercalate pieces) = pieces.flatMap listItems := by
  induction pieces with
  | nil => rfl
  | cons piece pieces ih =>
      cases pieces with
      | nil => rw [String.intercalate_singleton, List.flatMap_singleton]
      | cons next pieces =>
          rw [String.intercalate_cons_cons, listItems_append, ih, ← List.flatMap_cons]

/-- A piece without commas holds what is left of it without the blanks at its ends, if anything
is. -/
theorem listItems_piece (h : ',' ∉ piece.toList) :
    listItems piece = if Text.trimmed piece = [] then [] else [String.ofList (Text.trimmed piece)]
    := by
  rw [listItems, splitAtCommas_eq_splitOn, List.splitOn_eq_singleton h, List.map_singleton,
    ← Text.trimmed]
  cases Text.trimmed piece with
  | nil => rfl
  | cons c s => rfl

/-! ## Written lists -/

/-- An item is not empty, has no commas, and neither starts nor ends with a blank. -/
structure IsItem (item : String) : Prop where
  ne_empty : item ≠ ""
  comma_not_mem : ',' ∉ item.toList
  isBlank_first : ∀ c ∈ item.toList.head?, Text.isBlank c = false
  isBlank_last : ∀ c ∈ item.toList.getLast?, Text.isBlank c = false

theorem isItem_iff : IsItem item ↔ (item ≠ "" ∧ ',' ∉ item.toList) ∧
    item.toList.head?.all (!Text.isBlank ·) = true ∧
    item.toList.getLast?.all (!Text.isBlank ·) = true := by
  simp only [Option.all_eq_true, Bool.not_eq_true']
  constructor
  · rintro ⟨hne, hcomma, hfirst, hlast⟩
    exact ⟨⟨hne, hcomma⟩, hfirst, hlast⟩
  · rintro ⟨⟨hne, hcomma⟩, hfirst, hlast⟩
    exact ⟨hne, hcomma, hfirst, hlast⟩

instance (item : String) : Decidable (IsItem item) :=
  decidable_of_iff _ isItem_iff.symm

/-- A gap has blanks only, if anything. -/
def IsGap (gap : String) : Prop :=
  ∀ c ∈ gap.toList, Text.isBlank c = true

instance (gap : String) : Decidable (IsGap gap) :=
  decidable_of_iff (gap.toList.all Text.isBlank = true) List.all_eq_true

/-- The pieces of a list hold its items, in their order: a piece is a gap, or it is an item with
gaps around it. -/
inductive Hold : List String → List String → Prop
  | nil : Hold [] []
  | gap {gap : String} {pieces items : List String} :
      IsGap gap → Hold pieces items → Hold (gap :: pieces) items
  | item {before item after : String} {pieces items : List String} :
      IsGap before → IsItem item → IsGap after → Hold pieces items →
      Hold ((before ++ item ++ after) :: pieces) (item :: items)

/-- A text lists items: it consists of pieces that hold them, with commas between the pieces. -/
def Lists (text : String) (items : List String) : Prop :=
  ∃ pieces, Hold pieces items ∧ text = ",".intercalate pieces

theorem IsGap.comma_not_mem (h : IsGap gap) : ',' ∉ gap.toList :=
  fun hmem => absurd (h ',' hmem) (by decide)

theorem IsGap.trimmed_eq (h : IsGap gap) : Text.trimmed gap = [] := by
  have hnil : ∀ c ∈ ([] : List Char), Text.isBlank c = true :=
    fun _ hc => absurd hc List.not_mem_nil
  have hgap := Text.trim_padded h hnil []
  rwa [List.append_nil, List.append_nil] at hgap

theorem IsGap.append (hbefore : IsGap before) (hafter : IsGap after) : IsGap (before ++ after) := by
  intro c hc
  rw [String.toList_append, List.mem_append] at hc
  exact hc.elim (hbefore c) (hafter c)

theorem IsGap.listItems_eq (h : IsGap gap) : listItems gap = [] := by
  rw [listItems_piece h.comma_not_mem, if_pos h.trimmed_eq]

/-- The gaps around an item are not read. -/
theorem IsItem.listItems_eq (h : IsItem item) (hbefore : IsGap before) (hafter : IsGap after) :
    listItems (before ++ item ++ after) = [item] := by
  have hlist : (before ++ item ++ after).toList
      = before.toList ++ item.toList ++ after.toList := by
    rw [String.toList_append, String.toList_append]
  have htrimmed : Text.trimmed (before ++ item ++ after) = item.toList := by
    rw [Text.trimmed, hlist, Text.trim_padded hbefore hafter]
    exact Text.trim_eq_self h.isBlank_first h.isBlank_last
  have hcomma : ',' ∉ (before ++ item ++ after).toList := by
    rw [hlist, List.mem_append, List.mem_append, not_or, not_or]
    exact ⟨⟨hbefore.comma_not_mem, h.comma_not_mem⟩, hafter.comma_not_mem⟩
  have hne : item.toList ≠ [] := fun heq => h.ne_empty (String.toList_eq_nil_iff.mp heq)
  rw [listItems_piece hcomma, htrimmed, if_neg hne, String.ofList_toList]

theorem Hold.flatMap_listItems (h : Hold pieces items) : pieces.flatMap listItems = items := by
  induction h with
  | nil => rfl
  | gap hgap _ ih => rw [List.flatMap_cons, hgap.listItems_eq, ih, List.nil_append]
  | item hbefore hitem hafter _ ih =>
      rw [List.flatMap_cons, hitem.listItems_eq hbefore hafter, ih, List.singleton_append]

theorem Hold.isItem (h : Hold pieces items) (hitem : item ∈ items) : IsItem item := by
  induction h with
  | nil => exact absurd hitem List.not_mem_nil
  | gap _ _ ih => exact ih hitem
  | item _ hfirst _ _ ih =>
      rcases List.mem_cons.mp hitem with rfl | hitem
      · exact hfirst
      · exact ih hitem

/-- A piece is what is left of it without the blanks at its ends, with gaps around it. -/
theorem exists_gaps (piece : String) : ∃ before after, IsGap before ∧ IsGap after ∧
    piece = before ++ String.ofList (Text.trimmed piece) ++ after := by
  obtain ⟨before, after, hsplit, hbefore, hafter⟩ := Text.exists_padding piece.toList
  refine ⟨String.ofList before, String.ofList after, ?_, ?_, ?_⟩
  · rwa [IsGap, String.toList_ofList]
  · rwa [IsGap, String.toList_ofList]
  · rw [← String.ofList_append, ← String.ofList_append, Text.trimmed, ← hsplit,
      String.ofList_toList]

/-- What is left of a piece without commas is an item, if anything is left. -/
theorem isItem_trimmed (hcomma : ',' ∉ piece.toList) (hne : Text.trimmed piece ≠ []) :
    IsItem (String.ofList (Text.trimmed piece)) := by
  have hlist : (String.ofList (Text.trimmed piece)).toList = Text.trimmed piece :=
    String.toList_ofList
  obtain ⟨before, after, hsplit, -⟩ := Text.exists_padding piece.toList
  refine ⟨fun hempty => hne ?_, ?_, ?_, ?_⟩
  · rw [← hlist, hempty, String.toList_empty]
  · -- what is left is a part of the piece
    intro hmem
    rw [hlist] at hmem
    rw [hsplit] at hcomma
    exact hcomma (List.mem_append_left after (List.mem_append_right before hmem))
  · rw [hlist]
    exact Text.isBlank_head?_trim piece.toList
  · rw [hlist]
    exact Text.isBlank_getLast?_trim piece.toList

/-- Pieces without commas hold what is read from them. -/
theorem hold_flatMap_listItems (h : ∀ piece ∈ pieces, ',' ∉ piece.toList) :
    Hold pieces (pieces.flatMap listItems) := by
  induction pieces with
  | nil => exact .nil
  | cons piece pieces ih =>
      obtain ⟨hpiece, hpieces⟩ := List.forall_mem_cons.mp h
      obtain ⟨before, after, hbefore, hafter, hsplit⟩ := exists_gaps piece
      rw [List.flatMap_cons, listItems_piece hpiece]
      by_cases hnil : Text.trimmed piece = []
      · -- nothing is left between the gaps at the two ends, so they are one gap
        have hgap : IsGap piece := by
          rw [hsplit, hnil, String.ofList_nil, String.append_empty]
          exact hbefore.append hafter
        rw [if_pos hnil, List.nil_append]
        exact .gap hgap (ih hpieces)
      · have hitem := Hold.item hbefore (isItem_trimmed hpiece hnil) hafter (ih hpieces)
        rw [← hsplit] at hitem
        rwa [if_neg hnil, List.singleton_append]

/-- What is read from a text are the items that it lists. -/
theorem listItems_eq_iff : listItems text = items ↔ Lists text items := by
  constructor
  · rintro rfl
    obtain ⟨pieces, rfl, hcomma⟩ := exists_pieces text
    rw [listItems_intercalate]
    exact ⟨pieces, hold_flatMap_listItems hcomma, rfl⟩
  · rintro ⟨pieces, hhold, rfl⟩
    rw [listItems_intercalate, hhold.flatMap_listItems]

theorem isItem_of_mem_listItems (h : item ∈ listItems text) : IsItem item := by
  obtain ⟨pieces, hhold, -⟩ := listItems_eq_iff.mp (rfl : listItems text = _)
  exact hhold.isItem h

/-! ## The list of an environment -/

def leavingOut (names : List String) (s : Settings) : Settings :=
  { s with disabledRelations := names }

theorem validate_leavingOut (names : List String) (s : Settings) :
    validate (leavingOut names s) = (validate s).map (leavingOut names) := by
  unfold validate leavingOut
  dsimp only
  split
  · rfl
  · split
    · rfl
    · rfl

theorem textOf?_of_get? {name : String} (h : e.get? name = some text.toUTF8.toList) :
    textOf? e name = .ok (some text) := by
  unfold textOf?
  rw [h]
  dsimp only
  rw [Text.Utf8.read?_toUTF8]

/-- The list decides neither on success nor on failure, and of the settings only on the relations
that are left out. -/
theorem ofEnvironment_of_listed (h : e.get? disabledVariable = some text.toUTF8.toList) :
    ofEnvironment e
      = (ofEnvironment (e.unset disabledVariable)).map (leavingOut (listItems text)) := by
  have hpattern : textOf? (e.unset disabledVariable) patternVariable = textOf? e patternVariable :=
    textOf?_congr (Environment.get?_unset_of_ne (by decide))
  have hcatalog : textOf? (e.unset disabledVariable) catalogVariable = textOf? e catalogVariable :=
    textOf?_congr (Environment.get?_unset_of_ne (by decide))
  have hdisabled : textOf? (e.unset disabledVariable) disabledVariable = .ok none := by
    unfold textOf?
    rw [Environment.get?_unset_self]
  unfold ofEnvironment
  rw [hpattern, hcatalog, hdisabled, textOf?_of_get? h]
  cases textOf? e patternVariable with
  | error problem => rfl
  | ok pattern =>
      cases textOf? e catalogVariable with
      | error problem => rfl
      | ok file => exact validate_leavingOut (listItems text) ⟨_, file, []⟩

theorem isItem_name (b : Builtin) : IsItem b.name := by
  cases b <;> decide +kernel

/-- The list of an environment leaves out just some relations, and it does nothing else. -/
structure LeavesOut (e : Environment) (bs : List Builtin) : Prop where
  /-- There are settings if there are without the list, and they are the same except for the
  relations to leave out, which are just these, in their order. -/
  ofEnvironment_eq : ofEnvironment e
    = (ofEnvironment (e.unset disabledVariable)).map (leavingOut (bs.map Builtin.name))
  /-- If nothing else is set, there are settings. -/
  ofEnvironment_alone : e.get? patternVariable = none → e.get? catalogVariable = none →
    ofEnvironment e = .ok (leavingOut (bs.map Builtin.name) default)
  /-- The program has all other built-in relations, in their order, and has nothing else. -/
  registry_eq : ∀ s services, ofEnvironment e = .ok s → (s.translator services).registry
    = ⟨(Builtin.all.filter (· ∉ bs)).map fun b => Entry.make b.name (.builtin b)⟩

theorem leavesOut_of_listed {bs : List Builtin} (hlists : Lists text (bs.map Builtin.name))
    (h : e.get? disabledVariable = some text.toUTF8.toList) : LeavesOut e bs := by
  have heq := ofEnvironment_of_listed h
  rw [listItems_eq_iff.mpr hlists] at heq
  refine ⟨heq, fun hpattern hcatalog => ?_, fun s services hs => registry_of_named ?_⟩
  · have hunset : ∀ name ∈ variableNames, (e.unset disabledVariable).get? name = none := by
      intro name hname
      by_cases hname' : name = disabledVariable
      · rw [hname', Environment.get?_unset_self]
      · rw [Environment.get?_unset_of_ne hname']
        rcases List.mem_cons.mp hname with rfl | hname
        · exact hpattern
        · rcases List.mem_cons.mp hname with rfl | hname
          · exact hcatalog
          · exact absurd (List.mem_singleton.mp hname) hname'
    rw [heq, ofEnvironment_of_unset hunset]
    rfl
  · rw [heq] at hs
    cases hother : ofEnvironment (e.unset disabledVariable) with
    | error problem =>
        rw [hother] at hs
        cases hs
    | ok t =>
        rw [hother] at hs
        cases hs
        rfl

/-- **Reading a list undoes writing it.** Lists with a comma between them are read one after the
other; what is read are items, and they are the items that the text lists, whatever the gaps around
them and between the commas are. The names of the built-in relations are items. In an environment
that lists some of them, exactly these relations are left out, and nothing else is different. -/
theorem listItems_undoes_joining :
    (∀ a b, listItems (a ++ "," ++ b) = listItems a ++ listItems b) ∧
    (∀ text, ∀ item ∈ listItems text, IsItem item) ∧
    (∀ text items, listItems text = items ↔ Lists text items) ∧
    (∀ b : Builtin, IsItem b.name) ∧
    ∀ e text (bs : List Builtin), Lists text (bs.map Builtin.name) →
      e.get? disabledVariable = some text.toUTF8.toList → LeavesOut e bs :=
  ⟨listItems_append, fun _ _ => isItem_of_mem_listItems, fun _ _ => listItems_eq_iff, isItem_name,
    fun _ _ _ => leavesOut_of_listed⟩

/-- A list with blanks of several kinds around its items, and with gaps between its commas. -/
theorem listItems_undoes_joining_gaps :
    let text := "\thas child ,,\u3000edited by, "
    let e : Environment := ⟨[(disabledVariable, text.toUTF8.toList)]⟩
    Lists text ["has child", "edited by"] ∧
    e.get? disabledVariable = some text.toUTF8.toList ∧
    LeavesOut e [.hasChild, .editedBy] ∧
    ofEnvironment e = .ok ⟨DayNote.defaultPattern, none, ["has child", "edited by"]⟩ := by
  intro text e
  have hlists : Lists text ([Builtin.hasChild, .editedBy].map Builtin.name) :=
    ⟨["\t" ++ "has child" ++ " ", "", "\u3000" ++ "edited by" ++ "", " "],
      .item (by decide) (isItem_name .hasChild) (by decide) <| .gap (by decide) <|
        .item (by decide) (isItem_name .editedBy) (by decide) <| .gap (by decide) .nil,
      by decide⟩
  have hleaves : LeavesOut e [.hasChild, .editedBy] :=
    listItems_undoes_joining.2.2.2.2 e text _ hlists rfl
  exact ⟨hlists, rfl, hleaves, hleaves.ofEnvironment_alone rfl rfl⟩

/-- A zero-width space is no blank. -/
example : listItems ",\u00a0a b\u2003,, \u200bc\n,self" = ["a b", "\u200bc", "self"] := by
  decide +kernel

end Settings

end ConditionQuery
