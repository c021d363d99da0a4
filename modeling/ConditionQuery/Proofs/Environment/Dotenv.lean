import ConditionQuery.Environment.Dotenv
import ConditionQuery.Proofs.Text.Blank
import ConditionQuery.Proofs.Text.Utf8

set_option autoImplicit false

/-! # Files that end the program

A file of variables is read line by line, and each line is followed before the next one is read. A
line that gives a null character to a variable without text ends the program if it is reached, and
nothing else does: `Crashes` says so of a row of lines, and `run_eq_error_iff` that it is the whole
truth.

The characters of a value come from its line, from the environment and from the lines before. So a
file without null characters ends no program whose environment has none
(`not_endsProgram_of_nullFree`).
-/

namespace ConditionQuery

namespace Environment

variable {e e' : Environment} {name value : String} {c : Crash}

theorem setDefault_eq_error_iff : e.setDefault name value = .error c ↔
    e.text? name = none ∧ '\x00' ∈ value.toList ∧ c = ⟨name, value⟩ := by
  unfold setDefault
  cases htext : e.text? name with
  | some text => simp
  | none =>
      by_cases hnull : '\x00' ∈ value.toList
      · simp [hnull, eq_comm]
      · simp [hnull]

/-- A default without a null character can be given. -/
theorem exists_setDefault (h : '\x00' ∉ value.toList) : ∃ e', e.setDefault name value = .ok e' := by
  cases hset : e.setDefault name value with
  | ok e' => exact ⟨e', rfl⟩
  | error c => exact absurd (setDefault_eq_error_iff.mp hset).2.1 h

/-- A default is the only text that giving it adds. -/
theorem text?_of_setDefault (h : e.setDefault name value = .ok e') (other : String) :
    e'.text? other = e.text? other ∨ e'.text? other = some value := by
  unfold setDefault at h
  split at h
  · cases h
    exact .inl rfl
  · split at h
    · cases h
    · cases h
      by_cases heq : other = name
      · right
        rw [text?, get?, heq, List.lookup_cons_self, Option.bind_some, Text.Utf8.read?_toUTF8]
      · left
        rw [text?, get?, List.lookup_cons, beq_false_of_ne heq]
        rfl

end Environment

namespace Dotenv

open Text

variable {p p' : Progress} {s key value : List Char} {line : Line} {c : Crash}

/-! ## Lines that end the program -/

/-- Reading and following lines ends the program. -/
inductive Crashes : Progress → List (Option (List Char)) → Crash → Prop where
  /-- A line gives a null character to a variable without text, -/
  | here {p : Progress} {s key value : List Char} {rest : List (Option (List Char))}
      (hline : p.line? s = some (.assignment key (some value)))
      (hunset : p.environment.text? (String.ofList key) = none) (hnull : '\x00' ∈ value) :
      Crashes p (some s :: rest) ⟨String.ofList key, String.ofList value⟩
  /-- or it can be followed, and one of the lines after it does. -/
  | later {p p' : Progress} {s : List Char} {line : Line} {rest : List (Option (List Char))}
      {c : Crash} (hline : p.line? s = some line) (hfollow : p.follow line = .ok p')
      (h : Crashes p' rest c) : Crashes p (some s :: rest) c

theorem map_eq_error_iff {ε α β : Type} {x : Except ε α} {f : α → β} {problem : ε} :
    x.map f = .error problem ↔ x = .error problem := by
  cases x <;> simp [Except.map]

theorem follow_eq_error_iff : p.follow line = .error c ↔
    ∃ key value, line = .assignment key (some value) ∧
      p.environment.text? (String.ofList key) = none ∧ '\x00' ∈ value ∧
      c = ⟨String.ofList key, String.ofList value⟩ := by
  cases line with
  | nothing => simp [Progress.follow]
  | assignment key value =>
      rw [Progress.follow, map_eq_error_iff, Environment.setDefault_eq_error_iff]
      cases value with
      | none => simp
      | some value =>
          simp only [Option.map_some, Option.getD_some, String.toList_ofList]
          constructor
          · exact fun h => ⟨key, value, rfl, h⟩
          · rintro ⟨_, _, heq, h⟩
            cases heq
            exact h

theorem run_of_line? {rest : List (Option (List Char))} (hline : p.line? s = some line) :
    p.run (some s :: rest) = (p.follow line).bind fun p => p.run rest := by
  rw [Progress.run, hline]

theorem run_eq_error_iff {p : Progress} {ls : List (Option (List Char))} :
    p.run ls = .error c ↔ Crashes p ls c := by
  induction ls generalizing p with
  | nil => exact ⟨nofun, nofun⟩
  | cons l rest ih =>
      cases l with
      | none => exact ⟨nofun, nofun⟩
      | some s =>
          constructor
          · intro h
            cases hline : p.line? s with
            | none =>
                rw [Progress.run, hline] at h
                cases h
            | some line =>
                rw [run_of_line? hline] at h
                cases hfollow : p.follow line with
                | error crash =>
                    rw [hfollow] at h
                    cases h
                    obtain ⟨key, value, rfl, hunset, hnull, rfl⟩ := follow_eq_error_iff.mp hfollow
                    exact .here hline hunset hnull
                | ok p' =>
                    rw [hfollow] at h
                    exact .later hline hfollow (ih.mp h)
          · intro h
            cases h with
            | here hline hunset hnull =>
                rw [run_of_line? hline, follow_eq_error_iff.mpr ⟨_, _, rfl, hunset, hnull, rfl⟩]
                rfl
            | later hline hfollow h =>
                rw [run_of_line? hline, hfollow]
                exact ih.mpr h

/-- Loading the defaults that a file gives for an environment ends the program. -/
def EndsProgram (e : Environment) (defaults : Option (List UInt8)) : Prop :=
  ∃ bytes c, defaults = some bytes ∧ Crashes ⟨e, []⟩ (linesOf bytes) c

theorem load_eq_error_iff {e : Environment} {bytes : List UInt8} :
    load e bytes = .error c ↔ Crashes ⟨e, []⟩ (linesOf bytes) c := by
  rw [load, map_eq_error_iff, run_eq_error_iff]

theorem endsProgram_iff {e : Environment} {defaults : Option (List UInt8)} :
    EndsProgram e defaults ↔ ∃ c, loadAny e defaults = .error c := by
  cases defaults with
  | none => exact ⟨nofun, nofun⟩
  | some bytes => simp [EndsProgram, loadAny, load_eq_error_iff]

/-! ## Where the characters of a value come from -/

section Values

variable {lookup : List Char → List Char} {v v' : Value} {x d : Char}

/-- A step adds the character that is read, a line feed for an escape, or what is looked up. -/
theorem mem_output_of_step (h : v.step lookup x = some v') (hd : d ∈ v'.output) :
    d ∈ v.output ∨ d = x ∨ d = '\n' ∨ ∃ name, d ∈ lookup name := by
  unfold Value.step at h
  repeat' split at h
  all_goals simp only [Option.some.injEq, reduceCtorEq] at h
  -- the value is as it was, or a character is pushed, or a text is looked up, or both
  all_goals
    subst h
    grind [Value.push]

theorem mem_output_of_foldlM (h : s.foldlM (Value.step lookup) v = some v') (hd : d ∈ v'.output) :
    d ∈ v.output ∨ d ∈ s ∨ d = '\n' ∨ ∃ name, d ∈ lookup name := by
  induction s generalizing v with
  | nil =>
      cases h
      exact .inl hd
  | cons x s ih =>
      rw [List.foldlM_cons] at h
      obtain ⟨w, hstep, hrest⟩ := Option.bind_eq_some_iff.mp h
      obtain hw | hs | hother := ih hrest
      · obtain hv | rfl | hother := mem_output_of_step hstep hw
        · exact .inl hv
        · exact .inr (.inl List.mem_cons_self)
        · exact .inr (.inr hother)
      · exact .inr (.inl (List.mem_cons_of_mem _ hs))
      · exact .inr (.inr hother)

theorem mem_of_finish? (h : v.finish? lookup = some value) (hd : d ∈ value) :
    d ∈ v.output ∨ ∃ name, d ∈ lookup name := by
  unfold Value.finish? at h
  repeat' split at h
  all_goals simp only [Option.some.injEq, reduceCtorEq] at h
  all_goals
    subst h
    grind

/-- The characters of a value are those of its line, line feeds, and what is looked up. -/
theorem mem_of_value? (h : value? lookup s = some value) (hd : d ∈ value) :
    d ∈ s ∨ d = '\n' ∨ ∃ name, d ∈ lookup name := by
  obtain ⟨v, hv, hfinish⟩ := Option.bind_eq_some_iff.mp h
  obtain hout | hname := mem_of_finish? hfinish hd
  · obtain hstart | hrest := mem_output_of_foldlM hv hout
    · cases hstart
    · exact hrest
  · exact .inr (.inr hname)

end Values

theorem trimLeft_suffix (s : List Char) : trimLeft s <:+ s :=
  List.dropWhile_suffix _

theorem trim_subset (s : List Char) : trim s ⊆ s := by
  obtain ⟨before, after, hs, -⟩ := exists_padding s
  intro d hd
  rw [hs]
  exact List.mem_append_left _ (List.mem_append_right _ hd)

section Assignments

variable {rest : List Char}

theorem suffix_of_key? (h : key? s = some (key, rest)) : rest <:+ s := by
  unfold key? at h
  split at h
  · cases h
  · split at h
    · cases h
      exact List.dropWhile_suffix _
    · cases h

theorem suffix_of_equals? (h : equals? s = some rest) : rest <:+ s := by
  unfold equals? at h
  split at h
  · next heq =>
    cases h
    exact (heq ▸ List.suffix_cons _ _ : _ <:+ trimLeft s).trans (trimLeft_suffix s)
  · cases h

theorem suffix_of_target? (h : target? s = some (key, rest)) : rest <:+ s := by
  unfold target? at h
  obtain ⟨⟨first, after⟩, hfirst, h⟩ := Option.bind_eq_some_iff.mp h
  dsimp only at h
  split at h
  · next hequals =>
    cases h
    exact (suffix_of_equals? hequals).trans (suffix_of_key? hfirst)
  · split at h
    · -- the first name was the word `export`
      obtain ⟨⟨second, after'⟩, hsecond, h⟩ := Option.bind_eq_some_iff.mp h
      obtain ⟨final, hequals, h⟩ := Option.bind_eq_some_iff.mp h
      cases h
      have hafter : after' <:+ after := (suffix_of_key? hsecond).trans (trimLeft_suffix after)
      exact ((suffix_of_equals? hequals).trans hafter).trans (suffix_of_key? hfirst)
    · cases h

theorem mem_of_line? {d : Char} (h : p.line? s = some (.assignment key (some value)))
    (hd : d ∈ value) : d ∈ s ∨ d = '\n' ∨ ∃ name, d ∈ p.lookup name := by
  unfold Progress.line? at h
  split at h
  · cases h
  · cases h
  · obtain ⟨⟨name, after⟩, htarget, h⟩ := Option.bind_eq_some_iff.mp h
    dsimp only at h
    split at h
    · cases h
    · cases h
    · obtain ⟨v, hv, heq⟩ := Option.map_eq_some_iff.mp h
      cases heq
      obtain hafter | hother := mem_of_value? hv hd
      · have hrest : trimLeft after <:+ trim s :=
          (trimLeft_suffix after).trans (suffix_of_target? htarget)
        exact .inl (trim_subset s (hrest.subset hafter))
      · exact .inr hother

end Assignments

/-! ## Files without null characters -/

/-- No variable of an environment has a text with a null character. -/
def NullFree (e : Environment) : Prop :=
  ∀ name text, e.text? name = some text → '\x00' ∉ text.toList

/-- No variable has a text with a null character while a file is read. -/
structure Progress.NullFree (p : Progress) : Prop where
  environment : Dotenv.NullFree p.environment
  assigned : ∀ name text, p.assigned.lookup name = some (some text) → '\x00' ∉ text.toList

theorem Progress.NullFree.lookup (hp : p.NullFree) (name : List Char) : '\x00' ∉ p.lookup name := by
  unfold Progress.lookup
  dsimp only
  split
  · next text htext => exact hp.environment _ _ htext
  · cases hassigned : p.assigned.lookup (String.ofList name) with
    | none => simp
    | some value =>
        cases value with
        | none => simp
        | some text => exact hp.assigned _ _ hassigned

theorem not_mem_of_line? (hp : p.NullFree) (hs : '\x00' ∉ s)
    (h : p.line? s = some (.assignment key (some value))) : '\x00' ∉ value := by
  intro hnull
  obtain hmem | heq | ⟨name, hmem⟩ := mem_of_line? h hnull
  · exact hs hmem
  · exact absurd heq (by decide)
  · exact hp.lookup name hmem

/-- A line without null characters can be followed, and no null character comes of it. -/
theorem exists_follow (hp : p.NullFree) (hs : '\x00' ∉ s) (h : p.line? s = some line) :
    ∃ p', p.follow line = .ok p' ∧ p'.NullFree := by
  cases line with
  | nothing => exact ⟨p, rfl, hp⟩
  | assignment key value =>
      have hvalue : '\x00' ∉ ((value.map String.ofList).getD "").toList := by
        cases value with
        | none => simp
        | some value =>
            rw [Option.map_some, Option.getD_some, String.toList_ofList]
            exact not_mem_of_line? hp hs h
      obtain ⟨e', he'⟩ : ∃ e', p.environment.setDefault (String.ofList key) _ = .ok e' :=
        Environment.exists_setDefault hvalue
      refine ⟨⟨e', (String.ofList key, value.map String.ofList) :: p.assigned⟩, ?_, ?_, ?_⟩
      · rw [Progress.follow, he']
        rfl
      · intro name text htext
        obtain hold | hnew := Environment.text?_of_setDefault he' name
        · exact hp.environment name text (hold ▸ htext)
        · rw [htext] at hnew
          cases hnew
          exact hvalue
      · intro name text hlookup
        rw [List.lookup_cons] at hlookup
        split at hlookup
        · rwa [Option.some.inj hlookup, Option.getD_some] at hvalue
        · exact hp.assigned name text hlookup

/-- Lines without null characters are followed to their end, or up to one that is wrong. -/
theorem exists_run {ls : List (Option (List Char))} (hp : p.NullFree)
    (hls : ∀ s, some s ∈ ls → '\x00' ∉ s) : ∃ p', p.run ls = .ok p' := by
  induction ls generalizing p with
  | nil => exact ⟨p, rfl⟩
  | cons l rest ih =>
      cases l with
      | none => exact ⟨p, rfl⟩
      | some s =>
          cases hline : p.line? s with
          | none => exact ⟨p, by rw [Progress.run, hline]⟩
          | some line =>
              obtain ⟨p', hfollow, hp'⟩ := exists_follow hp (hls s List.mem_cons_self) hline
              rw [run_of_line? hline, hfollow]
              exact ih hp' fun s hs => hls s (List.mem_cons_of_mem _ hs)

section Lines

variable {bytes taken row : List UInt8} {rows : List (List UInt8)} {before text : List Char}

theorem mem_of_mem_physicalLines {b : UInt8} (h : row ∈ physicalLines taken bytes) (hb : b ∈ row) :
    b ∈ taken ∨ b ∈ bytes := by
  fun_induction physicalLines taken bytes with
  | case1 => cases h
  | case2 taken =>
      rw [List.mem_singleton.mp h, List.mem_reverse] at hb
      exact .inl hb
  | case3 taken rest ih =>
      obtain rfl | h := List.mem_cons.mp h
      · obtain rfl | htaken := List.mem_cons.mp (List.mem_reverse.mp hb)
        · exact .inr List.mem_cons_self
        · exact .inl htaken
      · obtain htaken | hrest := ih h
        · cases htaken
        · exact .inr (List.mem_cons_of_mem _ hrest)
  | case4 taken x rest hx ih =>
      obtain htaken | hrest := ih h
      · obtain rfl | htaken := List.mem_cons.mp htaken
        · exact .inr List.mem_cons_self
        · exact .inl htaken
      · exact .inr (List.mem_cons_of_mem _ hrest)

theorem mem_of_endingOf {e : Ending} {after : List Char} {d : Char}
    (h : endingOf e before s = .inr after) (hd : d ∈ after) : d ∈ before ∨ d ∈ s := by
  fun_induction endingOf e before s with
  | case1 => cases h
  | case2 e before x rest e' hnext ih => grind
  | case3 e before x rest hnext =>
      cases h
      exact .inl (List.mem_reverse.mp hd)

theorem dropLineEnd_subset (s : List Char) : dropLineEnd s ⊆ s := by
  intro d hd
  unfold dropLineEnd at hd
  rw [← List.mem_reverse]
  split at hd <;> grind

theorem not_mem_of_read? {line : String} (h : Utf8.read? row = some line) (hrow : 0 ∉ row) :
    '\x00' ∉ line.toList :=
  fun hnull => hrow (Utf8.mem_of_mem_read? h hnull (by decide))

theorem not_mem_append_of_read? {line : String} (htext : '\x00' ∉ text)
    (h : Utf8.read? row = some line) (hrow : 0 ∉ row) : '\x00' ∉ text ++ line.toList := by
  rw [List.mem_append, not_or]
  exact ⟨htext, not_mem_of_read? h hrow⟩

/-- Lines have no null character if the bytes that they are made from have none. -/
theorem not_mem_of_mem_lines {ending : Ending} (htext : '\x00' ∉ text)
    (hrows : ∀ row ∈ rows, 0 ∉ row) (h : some s ∈ lines text ending rows) : '\x00' ∉ s := by
  fun_induction lines text ending rows with
  | case1 => cases h
  | case2 => simp at h
  | case3 => simp at h
  | case4 text ending row rest line hread whole hcomment ih =>
      obtain ⟨hrow, hrest⟩ := List.forall_mem_cons.mp hrows
      obtain heq | h := List.mem_cons.mp h
      · cases heq
        simp
      · exact ih (by simp) hrest h
  | case5 text ending row rest line hread whole hcomment hending ih =>
      obtain ⟨hrow, hrest⟩ := List.forall_mem_cons.mp hrows
      obtain heq | h := List.mem_cons.mp h
      · cases heq
        exact fun hnull =>
          not_mem_append_of_read? htext hread hrow (dropLineEnd_subset whole hnull)
      · exact ih (by simp) hrest h
  | case6 text ending row rest line hread whole hcomment open_ hopen hending ih =>
      obtain ⟨hrow, hrest⟩ := List.forall_mem_cons.mp hrows
      exact ih (not_mem_append_of_read? htext hread hrow) hrest h
  | case7 text ending row rest line hread whole hcomment before hending ih =>
      obtain ⟨hrow, hrest⟩ := List.forall_mem_cons.mp hrows
      obtain heq | h := List.mem_cons.mp h
      · cases heq
        intro hnull
        obtain h | h := List.mem_append.mp hnull
        · exact htext h
        · obtain h | h := mem_of_endingOf hending h
          · cases h
          · exact not_mem_of_read? hread hrow h
      · exact ih (by simp) hrest h

theorem dropMark_subset (bytes : List UInt8) : dropMark bytes ⊆ bytes := by
  unfold dropMark
  split
  · exact fun b hb => List.mem_cons_of_mem _ (List.mem_cons_of_mem _ (List.mem_cons_of_mem _ hb))
  · exact List.Subset.refl _

end Lines

/-- A file without null bytes can be loaded into an environment without null characters. -/
theorem not_endsProgram_of_nullFree {e : Environment} {defaults : Option (List UInt8)}
    (he : NullFree e) (hdefaults : ∀ bytes, defaults = some bytes → 0 ∉ bytes) :
    ¬ EndsProgram e defaults := by
  rintro ⟨bytes, c, rfl, hcrash⟩
  have hlines : ∀ s, some s ∈ linesOf bytes → '\x00' ∉ s := by
    intro s hs
    refine not_mem_of_mem_lines (by simp) ?_ hs
    intro row hrow hnull
    obtain h | h := mem_of_mem_physicalLines hrow hnull
    · cases h
    · exact hdefaults bytes rfl (dropMark_subset bytes h)
  obtain ⟨p, hp⟩ := exists_run (p := ⟨e, []⟩) ⟨he, by simp⟩ hlines
  rw [run_eq_error_iff.mpr hcrash] at hp
  cases hp

end Dotenv

end ConditionQuery
