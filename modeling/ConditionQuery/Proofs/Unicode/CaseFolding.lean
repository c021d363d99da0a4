import ConditionQuery.Proofs.Text.Symbol
import ConditionQuery.Unicode.CaseFolding
import Mathlib.Data.List.Basic

set_option autoImplicit false

/-! # Case folding

The runs of the folding table are in ascending order, and where two of them overlap they move
characters by one offset (`runs_inOrder`). So the first run that holds a character is as good as
any other (`foldCode_of_holds`), and the characters that are listed for a character that is its own
folding are those with this folding (`mem_orbit_iff`).
-/

namespace ConditionQuery.Unicode.CaseFolding

open Text.Hexadecimal (toNat_ofNat)

/-! ## The runs of the table -/

/-- The runs start in ascending order, and those that overlap have one offset. The runs that have
been seen start at `low` at the latest; those that overlap end at `high` and have the offset
`offset`. -/
def inOrder (low high : Nat) (offset : Int) : List Run → Bool
  | [] => true
  | r :: rest =>
    decide (low ≤ r.first) &&
      if high < r.first then inOrder r.first r.last r.offset rest
      else r.offset == offset && inOrder r.first (max high r.last) offset rest

def areChars (first last : Int) : Bool :=
  decide (0 ≤ first) && (decide (last < 0xD800) || decide (0xDFFF < first ∧ last < 0x110000))

theorem runs_inOrder : inOrder 0 0 0 runs = true := by decide +kernel

/-- The characters of a run and their foldings are characters indeed. -/
theorem runs_areChars : (runs.all fun r =>
    areChars r.first r.last && areChars (r.first + r.offset) (r.last + r.offset)) = true := by
  decide +kernel

/-- The only run of ASCII characters is that of the upper-case letters. -/
theorem runs_ascii : (runs.all fun r =>
    decide (0x41 ≤ r.first ∧ r.last ≤ 0x5A ∨ 0x80 ≤ r.first)) = true := by
  decide +kernel

theorem holds_iff {r : Run} {n : Int} :
    r.holds n = true ↔ r.first ≤ n ∧ n ≤ r.last ∧ (n - r.first) % r.step = 0 := by
  simp [Run.holds, and_assoc]

theorem inOrder_bounds {low high : Nat} {offset : Int} {rs : List Run}
    (h : inOrder low high offset rs = true) :
    ∀ q ∈ rs, low ≤ q.first ∧ (high < q.first ∨ q.offset = offset) := by
  induction rs generalizing low high offset with
  | nil => simp
  | cons r rest ih =>
      rw [inOrder, Bool.and_eq_true, decide_eq_true_eq] at h
      obtain ⟨hlow, h⟩ := h
      intro q hq
      split at h
      · next hgap =>
        -- the run starts after all that has been seen, and so do the runs after it
        rcases List.mem_cons.mp hq with rfl | hq
        · exact ⟨hlow, Or.inl hgap⟩
        · have hfirst : r.first ≤ q.first := (ih h q hq).1
          exact ⟨by omega, Or.inl (by omega)⟩
      · next hgap =>
        rw [Bool.and_eq_true, beq_iff_eq] at h
        rcases List.mem_cons.mp hq with rfl | hq
        · exact ⟨hlow, Or.inr h.1⟩
        · obtain ⟨hfirst, hq⟩ := ih h.2 q hq
          exact ⟨by omega, hq.imp (fun hhigh => by omega) id⟩

/-- Two runs that share a character have one offset. -/
theorem offset_eq_of_inOrder {low high : Nat} {offset : Int} {rs : List Run}
    (h : inOrder low high offset rs = true) {n : Int} {r q : Run} (hr : r ∈ rs) (hq : q ∈ rs)
    (hrn : r.holds n = true) (hqn : q.holds n = true) : r.offset = q.offset := by
  induction rs generalizing low high offset with
  | nil => exact absurd hr List.not_mem_nil
  | cons first rest ih =>
      rw [inOrder, Bool.and_eq_true] at h
      obtain ⟨-, h⟩ := h
      -- a later run with a character of the first one overlaps it
      have hfirst : ∀ x ∈ rest, first.holds n = true → x.holds n = true →
          first.offset = x.offset := by
        intro x hx hfirst hxn
        have hfirst := holds_iff.mp hfirst
        have hxn := holds_iff.mp hxn
        split at h
        · rcases (inOrder_bounds h x hx).2 with hlast | heq
          · omega
          · exact heq.symm
        · rw [Bool.and_eq_true, beq_iff_eq] at h
          rcases (inOrder_bounds h.2 x hx).2 with hlast | heq
          · omega
          · rw [h.1, heq]
      rcases List.mem_cons.mp hr with rfl | hrest
      · rcases List.mem_cons.mp hq with rfl | hq
        · rfl
        · exact hfirst q hq hrn hqn
      · rcases List.mem_cons.mp hq with rfl | hq
        · exact (hfirst r hrest hqn hrn).symm
        · split at h
          · exact ih h hrest hq
          · rw [Bool.and_eq_true] at h
            exact ih h.2 hrest hq

/-! ## The folding of a character -/

theorem foldCode_of_holds {r : Run} (hr : r ∈ runs) {n : Nat} (h : r.holds n = true) :
    foldCode n = (n + r.offset).toNat := by
  obtain ⟨q, hq⟩ : ∃ q, runs.find? (fun r => r.holds n) = some q := by
    rw [← Option.isSome_iff_exists, List.find?_isSome]
    exact ⟨r, hr, h⟩
  have hmem : q ∈ runs := List.mem_of_find?_eq_some hq
  have hqn : q.holds n = true := by simpa using List.find?_some hq
  -- the run that is found may be another one, but it has the same offset
  have hoffset : q.offset = r.offset := offset_eq_of_inOrder runs_inOrder hmem hr hqn h
  simp only [foldCode, hq, hoffset]

/-- A character belongs to a run, which moves it, or is its own folding. -/
theorem foldCode_cases (n : Nat) :
    (∃ r ∈ runs, r.holds n = true ∧ foldCode n = (n + r.offset).toNat) ∨
      (∀ r ∈ runs, r.holds n = false) ∧ foldCode n = n := by
  by_cases h : ∃ r ∈ runs, r.holds n = true
  · obtain ⟨r, hr, hn⟩ := h
    exact Or.inl ⟨r, hr, hn, foldCode_of_holds hr hn⟩
  · have hnone : ∀ r ∈ runs, r.holds n = false := by
      intro r hr
      exact Bool.eq_false_iff.mpr fun hn => h ⟨r, hr, hn⟩
    have hfind : runs.find? (fun r => r.holds n) = none := by
      rw [List.find?_eq_none]
      intro r hr
      simp [hnone r hr]
    exact Or.inr ⟨hnone, by simp only [foldCode, hfind]⟩

/-- An ASCII character that is no upper-case letter is its own folding. -/
theorem foldCode_of_ascii {n : Nat} (hascii : n < 0x80) (hupper : n < 0x41 ∨ 0x5A < n) :
    foldCode n = n := by
  rcases foldCode_cases n with ⟨r, hr, hn, -⟩ | ⟨-, hself⟩
  · have hrun := List.all_eq_true.mp runs_ascii r hr
    rw [decide_eq_true_eq] at hrun
    have hbounds := holds_iff.mp hn
    omega
  · exact hself

theorem zero_le_of_areChars {first last : Int} (h : areChars first last = true) : 0 ≤ first := by
  rw [areChars, Bool.and_eq_true, decide_eq_true_eq] at h
  exact h.1

theorem isValidChar_of_areChars {first last : Int} (h : areChars first last = true) {n : Nat}
    (hfirst : first ≤ n) (hlast : n ≤ last) : n.isValidChar := by
  simp only [areChars, Bool.and_eq_true, Bool.or_eq_true, decide_eq_true_eq] at h
  have hn : n < 0xD800 ∨ 0xDFFF < n ∧ n < 0x110000 := by omega
  exact hn

theorem chars_of_mem_runs {r : Run} (hr : r ∈ runs) :
    areChars r.first r.last = true ∧ areChars (r.first + r.offset) (r.last + r.offset) = true := by
  have hchars := List.all_eq_true.mp runs_areChars r hr
  rwa [Bool.and_eq_true] at hchars

/-- The folding of a character is a character. -/
theorem isValidChar_foldCode (c : Char) : (foldCode c.toNat).isValidChar := by
  rcases foldCode_cases c.toNat with ⟨r, hr, hn, hmoved⟩ | ⟨-, hself⟩
  · have hchars := (chars_of_mem_runs hr).2
    have hbounds := holds_iff.mp hn
    have hpos : 0 ≤ (r.first : Int) + r.offset := zero_le_of_areChars hchars
    rw [hmoved]
    exact isValidChar_of_areChars hchars (by omega) (by omega)
  · rw [hself]
    exact c.valid

theorem same_iff {c d : Char} : same c d = true ↔ foldCode c.toNat = foldCode d.toNat := by
  rw [same, beq_iff_eq, fold, fold]
  constructor
  · intro h
    have hcode := congrArg Char.toNat h
    rwa [toNat_ofNat (isValidChar_foldCode c), toNat_ofNat (isValidChar_foldCode d)] at hcode
  · intro h
    rw [h]

/-- The characters that are listed for a character that is its own folding are those that are the
same up to case. -/
theorem mem_orbit_iff {c d : Char} (hc : foldCode c.toNat = c.toNat) :
    d ∈ orbit c ↔ same c d = true := by
  rw [same_iff, orbit, hc, List.mem_cons, List.mem_filterMap, Char.ofNat_toNat]
  constructor
  · rintro (rfl | ⟨r, hr, hd⟩)
    · exact hc.symm
    · obtain ⟨hn, rfl⟩ : r.holds (c.toNat - r.offset) = true ∧
          Char.ofNat (c.toNat - r.offset : Int).toNat = d := by
        simpa using hd
      -- the run leads from the listed character to the folding
      have hbounds := holds_iff.mp hn
      have hcast : (((c.toNat : Int) - r.offset).toNat : Int) = c.toNat - r.offset := by omega
      have hvalid : ((c.toNat : Int) - r.offset).toNat.isValidChar :=
        isValidChar_of_areChars (chars_of_mem_runs hr).1 (by omega) (by omega)
      rw [toNat_ofNat hvalid, foldCode_of_holds hr (by rwa [hcast])]
      omega
  · intro h
    rcases foldCode_cases d.toNat with ⟨r, hr, hn, hmoved⟩ | ⟨-, hself⟩
    · have hpos : 0 ≤ (r.first : Int) + r.offset := zero_le_of_areChars (chars_of_mem_runs hr).2
      have hbounds := holds_iff.mp hn
      have hback : (c.toNat : Int) - r.offset = d.toNat := by omega
      refine Or.inr ⟨r, hr, ?_⟩
      simp only [hback, hn, if_true, Int.toNat_natCast, Char.ofNat_toNat]
    · rw [hself] at h
      exact Or.inl (Char.toNat_inj.mp h.symm)

end ConditionQuery.Unicode.CaseFolding
