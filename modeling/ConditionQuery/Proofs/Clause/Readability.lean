import ConditionQuery.Proofs.Clause.Form
import ConditionQuery.Proofs.Text.Symbol

set_option autoImplicit false

/-! # The text of clauses can be read back

A reader of Datalog text: the forms of the text are read first, and then every form as a term
or a clause. For clauses that are well formed the reader returns exactly the clauses that the
text was made from (`ofDatalog?_toDatalog`), whatever the names of variables and the string
literals hold, so that no two sequences of such clauses share a text.

Well formed are all variables, the constants that the functions of `Clause/Basic.lean` make,
and functions and tests that are called by a word.
-/

namespace ConditionQuery

/-! ## Words -/

/-- The characters of symbols are no delimiters. -/
theorem isDelimiter_of_isSymbolChar {c : Char} (h : Text.Symbol.isSymbolChar c = true) :
    isDelimiter c = false := by
  rw [Text.Symbol.isSymbolChar, Bool.or_eq_true, Bool.or_eq_true, beq_iff_eq, beq_iff_eq] at h
  rcases h with (h | rfl) | rfl
  · have hc : (65 ≤ c.toNat ∧ c.toNat ≤ 90 ∨ 97 ≤ c.toNat ∧ c.toNat ≤ 122)
        ∨ 48 ≤ c.toNat ∧ c.toNat ≤ 57 := by
      unfold Char.isAlphanum Char.isAlpha Char.isUpper Char.isLower Char.isDigit at h
      simp only [Bool.or_eq_true, Bool.and_eq_true, decide_eq_true_eq, ge_iff_le,
        UInt32.le_iff_toNat_le] at h
      exact h
    -- no delimiter has a code point in these ranges
    have hne : ∀ d : Char, d.toNat ∈ [34, 40, 41, 91, 93] → c ≠ d := by
      rintro d hd rfl
      simp only [List.mem_cons, List.not_mem_nil, or_false] at hd
      omega
    have hblank : Text.isBlank c = false := by
      simp only [Text.isBlank, Bool.or_eq_false_iff, Bool.and_eq_false_iff, beq_eq_false_iff_ne,
        decide_eq_false_iff_not]
      omega
    simp [isDelimiter, hblank, hne '"' (by decide), hne '[' (by decide), hne ']' (by decide),
      hne '(' (by decide), hne ')' (by decide)]
  · decide
  · decide

/-- The symbol of a variable is a word. -/
theorem isWord_ofName (name : String) : IsWord (Text.Symbol.ofName name) := by
  refine ⟨by simp [Text.Symbol.ofName], fun c hc => ?_⟩
  rw [Text.Symbol.ofName, List.mem_cons] at hc
  rcases hc with rfl | hc
  · decide
  · exact isDelimiter_of_isSymbolChar (Text.Symbol.isSymbolChar_of_mem_encode hc)

/-- A written number consists of digits after an optional hyphen. -/
theorem isSymbolChar_of_mem_write {i : Int} {c : Char} (hc : c ∈ Text.Decimal.write i) :
    Text.Symbol.isSymbolChar c = true := by
  have hdigit : ∀ n : Nat, c ∈ Nat.toDigits 10 n → Text.Symbol.isSymbolChar c = true := by
    intro n hn
    have h := Nat.isDigit_of_mem_toDigits (by decide) (by decide) hn
    simp [Text.Symbol.isSymbolChar, Char.isAlphanum, h]
  cases i with
  | ofNat n => exact hdigit n hc
  | negSucc n =>
      rw [Text.Decimal.write, List.mem_cons] at hc
      rcases hc with rfl | hc
      · decide
      · exact hdigit (n + 1) hc

/-- A written number is a word. -/
theorem isWord_write (i : Int) : IsWord (Text.Decimal.write i) := by
  refine ⟨?_, fun c hc => isDelimiter_of_isSymbolChar (isSymbolChar_of_mem_write hc)⟩
  cases i with
  | ofNat n => exact Nat.toDigits_ne_nil
  | negSucc n => simp [Text.Decimal.write]

/-! ## Terms -/

namespace Term

def form (t : Term) : Form :=
  .atom t.datalog

/-- Reads a form as a term: what starts with a question mark is the symbol of a variable, and
any other atom is a constant. -/
def ofForm? : Form → Option Term
  | .atom text =>
    if text.head? = some '?' then (Text.Symbol.ofSymbol? text).map .var
    else some (.const (String.ofList text))
  | _ => none

/-- A keyword: a word that starts with a colon. -/
def IsKeyword (k : String) : Prop :=
  k.toList.head? = some ':' ∧ IsWord k.toList

instance (k : String) : Decidable (IsKeyword k) :=
  inferInstanceAs (Decidable (_ ∧ _))

/-- The terms that queries are made of: any variable, and the constants that are made as string
literals, as numbers of 64 bits and as keywords. -/
inductive WellFormed : Term → Prop
  | var (name : String) : WellFormed (.var name)
  | string (s : String) : WellFormed (.string s)
  | number (i : Int) (h : Text.Decimal.fitsInt64 i = true) : WellFormed (.number i)
  | keyword (k : String) (h : IsKeyword k) : WellFormed (.keyword k)

/-- A term whose text reads as its form, and whose form is read as the term. -/
structure Readable (t : Term) : Prop where
  readsAs : Form.ReadsAs t.datalog [t.form]
  ofForm?_form : ofForm? t.form = some t

theorem readable_var (name : String) : (Term.var name).Readable where
  readsAs := Form.readsAs_word (isWord_ofName name)
  ofForm?_form := by
    rw [form, ofForm?, if_pos (by rfl), datalog, Text.Symbol.ofSymbol?_ofName, Option.map_some]

/-- A constant that reads as one atom is readable if it is not taken for a variable. -/
theorem readable_const {text : String} (h : Form.ReadsAs text.toList [.atom text.toList])
    (hhead : text.toList.head? ≠ some '?') : (Term.const text).Readable where
  readsAs := h
  ofForm?_form := by rw [form, ofForm?, datalog, if_neg hhead, String.ofList_toList]

theorem readable_string (s : String) : (Term.string s).Readable := by
  refine readable_const ?_ ?_
  · rw [String.toList_ofList]
    exact Form.readsAs_literal s.toList
  · rw [String.toList_ofList]
    simp [Text.Literal.encode]

/-- Numbers of any size are readable. -/
theorem readable_number (i : Int) : (Term.number i).Readable := by
  refine readable_const ?_ ?_
  · rw [String.toList_ofList]
    exact Form.readsAs_word (isWord_write i)
  · rw [String.toList_ofList]
    intro hhead
    have hmem := isSymbolChar_of_mem_write (List.mem_of_mem_head? hhead)
    exact absurd hmem (by decide)

theorem readable_keyword {k : String} (hk : IsKeyword k) : (Term.keyword k).Readable := by
  refine readable_const (Form.readsAs_word hk.2) ?_
  rw [hk.1]
  simp

theorem WellFormed.readable {t : Term} (h : t.WellFormed) : t.Readable := by
  cases h with
  | var name => exact readable_var name
  | string s => exact readable_string s
  | number i _ => exact readable_number i
  | keyword k hk => exact readable_keyword hk

theorem mapM_ofForm?_form {ts : List Term} (h : ∀ t ∈ ts, t.Readable) :
    (ts.map form).mapM ofForm? = some ts := by
  induction ts with
  | nil => rfl
  | cons t ts ih =>
      rw [List.map_cons, List.mapM_cons, (h t (by simp)).ofForm?_form,
        ih fun u hu => h u (by simp [hu])]
      rfl

theorem readsAs_datalogs {ts : List Term} (h : ∀ t ∈ ts, t.Readable) :
    Form.ReadsAs (datalogs ts) (ts.map form) :=
  Form.readsAs_spaced datalog form ts fun t ht => (h t ht).readsAs

end Term

/-! ## Clauses -/

namespace Clause

mutual

def form : Clause → Form
  | .pattern e a v => .square [e.form, a.form, v.form]
  | .anyOf branches => .round (.atom "or".toList :: forms branches)
  | .noneOf clauses => .round (.atom "not".toList :: forms clauses)
  | .bind function arguments result =>
    .square [.round (.atom function.toList :: arguments.map Term.form), result.form]
  | .test predicate arguments =>
    .square [.round (.atom predicate.toList :: arguments.map Term.form)]

def forms : List Clause → List Form
  | [] => []
  | c :: rest => form c :: forms rest

end

/-- Reads the forms between square brackets: a test, a call whose result is bound, or a
pattern. -/
def ofRow? : List Form → Option Clause
  | [.round (.atom predicate :: arguments)] => do
    return .test (String.ofList predicate) (← arguments.mapM Term.ofForm?)
  | [.round (.atom function :: arguments), result] => do
    return .bind (String.ofList function) (← arguments.mapM Term.ofForm?) (← Term.ofForm? result)
  | [e, a, v] => do return .pattern (← Term.ofForm? e) (← Term.ofForm? a) (← Term.ofForm? v)
  | _ => none

mutual

def ofForm? : Form → Option Clause
  | .square row => ofRow? row
  | .round (.atom head :: rest) =>
    if head = "or".toList then (ofForms? rest).map .anyOf
    else if head = "not".toList then (ofForms? rest).map .noneOf
    else none
  | _ => none

def ofForms? : List Form → Option (List Clause)
  | [] => some []
  | f :: rest => do
    let c ← ofForm? f
    let cs ← ofForms? rest
    return c :: cs

end

/-- Reads the text of a sequence of clauses. -/
def ofDatalog? (text : String) : Option (List Clause) :=
  (Form.ofText? text.toList).bind ofForms?

/-- The clauses whose terms have a property, at every depth, and whose functions and tests are
called by words. -/
inductive Over (P : Term → Prop) : Clause → Prop
  | pattern {e a v : Term} (he : P e) (ha : P a) (hv : P v) : Over P (.pattern e a v)
  | anyOf {branches : List Clause} (h : ∀ c ∈ branches, Over P c) : Over P (.anyOf branches)
  | noneOf {clauses : List Clause} (h : ∀ c ∈ clauses, Over P c) : Over P (.noneOf clauses)
  | bind {function : String} {arguments : List Term} {result : Term}
      (hf : IsWord function.toList) (ha : ∀ t ∈ arguments, P t) (hr : P result) :
      Over P (.bind function arguments result)
  | test {predicate : String} {arguments : List Term} (hp : IsWord predicate.toList)
      (ha : ∀ t ∈ arguments, P t) : Over P (.test predicate arguments)

theorem Over.mono {P Q : Term → Prop} (hPQ : ∀ t, P t → Q t) {c : Clause} (h : c.Over P) :
    c.Over Q := by
  induction h with
  | pattern he ha hv => exact .pattern (hPQ _ he) (hPQ _ ha) (hPQ _ hv)
  | anyOf _ ih => exact .anyOf ih
  | noneOf _ ih => exact .noneOf ih
  | bind hf ha hr => exact .bind hf (fun t ht => hPQ t (ha t ht)) (hPQ _ hr)
  | test hp ha => exact .test hp fun t ht => hPQ t (ha t ht)

/-- The clauses whose terms are well formed. -/
abbrev WellFormed (c : Clause) : Prop :=
  c.Over Term.WellFormed

theorem datalogs_eq_spaced (cs : List Clause) : datalogs cs = spaced (cs.map datalog) := by
  induction cs with
  | nil => rfl
  | cons c cs ih =>
      cases cs with
      | nil => rfl
      | cons d ds =>
          show datalog c ++ ' ' :: datalogs (d :: ds) = _
          rw [ih]
          rfl

theorem forms_eq_map (cs : List Clause) : forms cs = cs.map form := by
  induction cs with
  | nil => rfl
  | cons c cs ih => rw [forms, ih, List.map_cons]

/-- A sequence of clauses reads as the forms of its members, if every member does. -/
theorem readsAs_datalogs {cs : List Clause}
    (h : ∀ c ∈ cs, Form.ReadsAs (datalog c) [form c]) : Form.ReadsAs (datalogs cs) (forms cs) := by
  rw [datalogs_eq_spaced, forms_eq_map]
  exact Form.readsAs_spaced datalog form cs h

/-- A call whose result is bound is a call between round brackets and the result, between square
brackets. -/
theorem datalog_bind (function : String) (arguments : List Term) (result : Term) :
    datalog (.bind function arguments result)
      = '[' :: ('(' :: (function.toList ++ ' ' :: Term.datalogs arguments) ++ [')']
        ++ ' ' :: result.datalog) ++ [']'] := by
  show ['[', '('] ++ function.toList ++ ' ' :: Term.datalogs arguments ++ ')' :: ' '
    :: result.datalog ++ [']'] = _
  simp

/-- A test is a call between square brackets. -/
theorem datalog_test (predicate : String) (arguments : List Term) :
    datalog (.test predicate arguments)
      = '[' :: ('(' :: (predicate.toList ++ ' ' :: Term.datalogs arguments) ++ [')']) ++ [']'] := by
  show ['[', '('] ++ predicate.toList ++ ' ' :: Term.datalogs arguments ++ [')', ']'] = _
  simp

/-- The text of a call between round brackets. -/
theorem readsAs_call {function : String} {arguments : List Term} (hf : IsWord function.toList)
    (ha : ∀ t ∈ arguments, t.Readable) :
    Form.ReadsAs ('(' :: (function.toList ++ ' ' :: Term.datalogs arguments) ++ [')'])
      [.round (.atom function.toList :: arguments.map Term.form)] :=
  ((Form.readsAs_word hf).spaced (Term.readsAs_datalogs ha)).round

/-- The text of a clause with readable terms reads as its form. -/
theorem Over.readsAs {c : Clause} (h : c.Over Term.Readable) :
    Form.ReadsAs (datalog c) [form c] := by
  induction h with
  | @pattern e a v he ha hv =>
      have hterms : ∀ t ∈ [e, a, v], t.Readable := by simp [he, ha, hv]
      exact (Term.readsAs_datalogs hterms).square
  | @anyOf branches _ ih =>
      have hor : IsWord "or".toList := by decide
      exact ((Form.readsAs_word hor).spaced (readsAs_datalogs ih)).round
  | @noneOf clauses _ ih =>
      have hnot : IsWord "not".toList := by decide
      exact ((Form.readsAs_word hnot).spaced (readsAs_datalogs ih)).round
  | @bind function arguments result hf ha hr =>
      rw [datalog_bind, form]
      exact ((readsAs_call hf ha).spaced hr.readsAs).square
  | @test predicate arguments hp ha =>
      rw [datalog_test, form]
      exact (readsAs_call hp ha).square

theorem ofForms?_forms {cs : List Clause} (h : ∀ c ∈ cs, ofForm? (form c) = some c) :
    ofForms? (forms cs) = some cs := by
  induction cs with
  | nil => rfl
  | cons c cs ih =>
      rw [forms, ofForms?, h c (by simp), ih fun d hd => h d (by simp [hd])]
      rfl

/-- The form of a clause with readable terms is read as the clause. -/
theorem Over.ofForm?_form {c : Clause} (h : c.Over Term.Readable) : ofForm? (form c) = some c := by
  induction h with
  | @pattern e a v he ha hv =>
      rw [form, ofForm?]
      -- the row starts with an atom, so it is no call
      show ofRow? [.atom e.datalog, a.form, v.form] = _
      rw [ofRow?]
      rw [← Term.form, he.ofForm?_form, ha.ofForm?_form, hv.ofForm?_form]
      rfl
  | @anyOf branches _ ih =>
      rw [form, ofForm?, if_pos rfl, ofForms?_forms ih, Option.map_some]
  | @noneOf clauses _ ih =>
      rw [form, ofForm?, if_neg (by decide), if_pos rfl, ofForms?_forms ih, Option.map_some]
  | @bind function arguments result hf ha hr =>
      rw [form, ofForm?, ofRow?, Term.mapM_ofForm?_form ha, hr.ofForm?_form, String.ofList_toList]
      rfl
  | @test predicate arguments hp ha =>
      rw [form, ofForm?, ofRow?, Term.mapM_ofForm?_form ha, String.ofList_toList]
      rfl

/-- Reading the text of clauses with readable terms gives the clauses. -/
theorem ofDatalog?_of_over {cs : List Clause} (h : ∀ c ∈ cs, c.Over Term.Readable) :
    ofDatalog? (toDatalog cs) = some cs := by
  have hforms : Form.ofText? (datalogs cs) = some (forms cs) :=
    (readsAs_datalogs fun c hc => (h c hc).readsAs).ofText?_eq
  rw [ofDatalog?, toDatalog, String.toList_ofList, hforms, Option.bind_some]
  exact ofForms?_forms fun c hc => (h c hc).ofForm?_form

/-- Reading the text of well-formed clauses gives the clauses. -/
theorem ofDatalog?_toDatalog {cs : List Clause} (h : ∀ c ∈ cs, c.WellFormed) :
    ofDatalog? (toDatalog cs) = some cs :=
  ofDatalog?_of_over fun c hc => (h c hc).mono fun _ => Term.WellFormed.readable

/-- **Unique readability.** The reader recovers well-formed clauses from their text, and two
sequences of well-formed clauses with the same text are equal. -/
theorem toDatalog_uniquely_readable :
    (∀ cs : List Clause, (∀ c ∈ cs, c.WellFormed) → ofDatalog? (toDatalog cs) = some cs) ∧
    (∀ cs ds : List Clause, (∀ c ∈ cs, c.WellFormed) → (∀ d ∈ ds, d.WellFormed) →
      toDatalog cs = toDatalog ds → cs = ds) := by
  refine ⟨fun cs h => ofDatalog?_toDatalog h, fun cs ds hc hd htext => ?_⟩
  have hread : some cs = some ds := by
    rw [← ofDatalog?_toDatalog hc, htext, ofDatalog?_toDatalog hd]
  exact Option.some.inj hread

/-- Empty and nested groups, a call without arguments, a test named like a group, and texts full
of brackets, quotes and blanks. -/
theorem toDatalog_uniquely_readable_nested :
    let cs : List Clause :=
      [.noneOf [.anyOf [], .anyOf [.pattern (.var "?x) [(") (.keyword ":k") (.string "\") \n]")]],
        .bind "f" [] (.var ""), .test "or" [.number (-0x8000000000000000)]]
    (∀ c ∈ cs, c.WellFormed) ∧ ofDatalog? (toDatalog cs) = some cs ∧
      toDatalog cs ≠ toDatalog [.noneOf cs] := by
  intro cs
  have hinner : (Clause.pattern (.var "?x) [(") (.keyword ":k") (.string "\") \n]")).WellFormed :=
    .pattern (.var _) (.keyword ":k" (by decide)) (.string _)
  have hempty : (Clause.anyOf []).WellFormed := .anyOf (by simp)
  have hgroup : (Clause.noneOf [.anyOf [],
      .anyOf [.pattern (.var "?x) [(") (.keyword ":k") (.string "\") \n]")]]).WellFormed :=
    .noneOf (List.forall_mem_cons.mpr ⟨hempty,
      List.forall_mem_singleton.mpr (.anyOf (List.forall_mem_singleton.mpr hinner))⟩)
  have hbind : (Clause.bind "f" [] (.var "")).WellFormed :=
    .bind (by decide) (by simp) (.var _)
  have htest : (Clause.test "or" [.number (-0x8000000000000000)]).WellFormed :=
    .test (by decide) (List.forall_mem_singleton.mpr (.number _ (by decide)))
  have hcs : ∀ c ∈ cs, c.WellFormed := List.forall_mem_cons.mpr ⟨hgroup,
    List.forall_mem_cons.mpr ⟨hbind, List.forall_mem_singleton.mpr htest⟩⟩
  have hnot : ∀ c ∈ [Clause.noneOf cs], c.WellFormed := List.forall_mem_singleton.mpr (.noneOf hcs)
  refine ⟨hcs, toDatalog_uniquely_readable.1 cs hcs, fun htext => ?_⟩
  have heq := congrArg List.length (toDatalog_uniquely_readable.2 cs _ hcs hnot htext)
  exact absurd heq (by decide)

end Clause

end ConditionQuery
