import ConditionQuery.Proofs.Clause.Readability
import ConditionQuery.Proofs.Text.Literal
import ConditionQuery.Proofs.Text.Numeral

set_option autoImplicit false

/-! # The text of terms

A variable is written as a symbol, a text as a string literal and an integer as a numeral. Each of
them can be read back (`datalog_var_decodable`, `datalog_string_selfDelimiting`), so that terms made
from different names, texts or integers differ, and a literal is never a numeral, since it starts
with a quote (`string_ne_number`).
-/

namespace ConditionQuery.Term

/-! ## Equal terms -/

theorem string_inj {s t : String} : string s = string t ↔ s = t := by
  constructor
  · intro h
    have hencode : Text.Literal.encode s.toList = Text.Literal.encode t.toList :=
      String.ofList_injective (const.inj h)
    exact String.toList_inj.mp (Text.Literal.encode_inj hencode)
  · rintro rfl
    rfl

theorem number_inj {i j : Int} : number i = number j ↔ i = j := by
  constructor
  · intro h
    exact Text.Decimal.write_inj (String.ofList_injective (const.inj h))
  · rintro rfl
    rfl

/-- A string literal is no number, whatever text is written in it. -/
theorem string_ne_number (s : String) (i : Int) : string s ≠ number i := by
  intro h
  have hencode : Text.Literal.encode s.toList = Text.Decimal.write i :=
    String.ofList_injective (const.inj h)
  have hquote : '"' ∈ Text.Decimal.write i := by
    rw [← hencode, Text.Literal.encode]
    exact List.mem_cons_self
  exact absurd (isSymbolChar_of_mem_write hquote) (by decide)

/-! ## Variables -/

/-- The characters of symbols, one range after the other. -/
theorem isSymbolChar_iff {c : Char} : Text.Symbol.isSymbolChar c = true ↔
    ('A' ≤ c ∧ c ≤ 'Z') ∨ ('a' ≤ c ∧ c ≤ 'z') ∨ ('0' ≤ c ∧ c ≤ '9') ∨ c = '-' ∨ c = '_' := by
  unfold Text.Symbol.isSymbolChar Char.isAlphanum Char.isAlpha Char.isUpper Char.isLower
    Char.isDigit
  simp only [Bool.or_eq_true, Bool.and_eq_true, decide_eq_true_eq, beq_iff_eq, or_assoc]
  rfl

/-- **Names of variables can be read back.** Variables are written alike exactly if they have one
name, and a reader gets the name. A symbol is a question mark and a code, which is not empty and has
only letters and digits of ASCII, hyphens and underscores. The code of two names together is that of
the one and then that of the other, unless one of them is empty: the code of the empty name is a
lone underscore, and no other name has it. The codes of single characters can be told apart in front
of any text. -/
theorem datalog_var_decodable :
    (∀ m n : String, (var m).datalog = (var n).datalog ↔ m = n) ∧
    (∀ n : String, Text.Symbol.ofSymbol? (var n).datalog = some n) ∧
    (∀ n : String, (var n).datalog = '?' :: Text.Symbol.encode n.toList ∧
      Text.Symbol.encode n.toList ≠ [] ∧ ∀ c ∈ Text.Symbol.encode n.toList,
        ('A' ≤ c ∧ c ≤ 'Z') ∨ ('a' ≤ c ∧ c ≤ 'z') ∨ ('0' ≤ c ∧ c ≤ '9') ∨ c = '-' ∨ c = '_') ∧
    (∀ m n : String, m ≠ "" → n ≠ "" → Text.Symbol.encode (m ++ n).toList
      = Text.Symbol.encode m.toList ++ Text.Symbol.encode n.toList) ∧
    (∀ n : String, (var n).datalog = ['?', '_'] ↔ n = "") ∧
    ∀ (c d : Char) (s t : List Char),
      Text.Symbol.encodeChar c ++ s = Text.Symbol.encodeChar d ++ t → c = d ∧ s = t := by
  have hread : ∀ n : String, Text.Symbol.ofSymbol? (var n).datalog = some n :=
    Text.Symbol.ofSymbol?_ofName
  refine ⟨fun m n => ⟨fun h => ?_, fun h => by rw [h]⟩, hread, fun n => ⟨rfl, ?_, fun c hc => ?_⟩,
    fun m n hm hn => ?_, fun n => ?_, fun c d s t h => Text.Symbol.encodeChar_append_inj h⟩
  · have hmn : some m = some n := by rw [← hread m, h, hread n]
    exact Option.some.inj hmn
  · exact Text.Symbol.encode_ne_nil n.toList
  · exact isSymbolChar_iff.mp (Text.Symbol.isSymbolChar_of_mem_encode hc)
  · rw [String.toList_append]
    exact Text.Symbol.encode_append (by simpa using hm) (by simpa using hn)
  · show '?' :: Text.Symbol.encode n.toList = ['?', '_'] ↔ n = ""
    rw [List.cons.injEq, Text.Symbol.encode_eq_underscore_iff]
    simp

/-! ## Texts -/

/-- **String literals delimit themselves.** The text between the quotes comes about by five
replacements one after the other, which is the same as to replace each character by its code. In
front of any text a literal is read back from behind its opening quote: the reader gets exactly the
text that was written, and leaves exactly what follows. The literal has no line feed, no carriage
return and no tab in it. -/
theorem datalog_string_selfDelimiting (s : String) :
    (Text.Literal.escape s.toList
        = Text.Literal.Replacement.runAll Text.Literal.replacements s.toList ∧
      Text.Literal.escape s.toList
        = s.toList.flatMap (Text.Literal.Replacement.atOnce Text.Literal.replacements)) ∧
    (∀ rest : List Char, ∃ body, (string s).datalog ++ rest = '"' :: body ∧
      Text.Literal.read? body = some (s.toList, rest)) ∧
    ∀ c ∈ (string s).datalog, c ≠ '\n' ∧ c ≠ '\r' ∧ c ≠ '\t' := by
  have htext : (string s).datalog = Text.Literal.encode s.toList := String.toList_ofList
  refine ⟨⟨(Text.Literal.runAll_replacements s.toList).symm, ?_⟩, fun rest => ?_, fun c hc => ?_⟩
  · rw [Text.Literal.atOnce_replacements, Text.Literal.escape]
  · refine ⟨Text.Literal.escape s.toList ++ '"' :: rest, ?_, Text.Literal.read?_escape _ rest⟩
    rw [htext, Text.Literal.encode]
    simp
  · rw [htext] at hc
    have hraw := Text.Literal.isRaw_of_mem_encode hc
    simpa [Text.Literal.isRaw, and_assoc] using hraw

end ConditionQuery.Term
