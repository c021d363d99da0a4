import ConditionQuery.Clause.Json
import ConditionQuery.Condition
import ConditionQuery.Proofs.Json.Rearrangement

set_option autoImplicit false

/-! # Exchanged clauses and conditions

The JSON form of a clause is read back as the clause, and that of a condition as the condition.
Nothing changes if the fields of an object come in another order or if it has fields that its
shape does not use, in clauses at any depth. A condition is also read back if its form leaves out
what goes without saying.

The name of a shape may come after the fields that it tells how to read. So what is shown of edits
is not about forms but about all values: whatever is read from a value, or is not, is read from
the edited one as well (`Clause.ReadAlike`, `Condition.ReadAlike`).
-/

namespace ConditionQuery

open Json

/-! ## The names that shapes use -/

def kindOf (fields : List (String × Json)) : Option String :=
  (fields.lookup "type").bind text?

def Clause.Shape.fields : Clause.Shape → List String
  | .pattern => ["arguments"]
  | .anyOf | .noneOf => ["clauses"]
  | .bind => ["fn", "arguments", "binding"]
  | .test => ["pred", "arguments"]

/-- The names of the fields that belong to the shape with a given name, of a term, of a bound
result or of a clause. -/
def Clause.fieldsOf (kind : String) : List String :=
  if kind = "variable" ∨ kind = "constant" then ["value"]
  else if kind = "bind-scalar" then ["variable"]
  else (Shape.ofName? kind).elim [] Shape.fields

theorem Clause.fieldsOf_of_shape {kind : String} {shape : Clause.Shape}
    (h : Shape.ofName? kind = some shape) : fieldsOf kind = shape.fields := by
  have hname : shape.name = kind := by simpa using List.find?_some h
  subst hname
  cases shape <;> rfl

/-- The names that the objects in a clause use. -/
def Clause.usedNames (fields : List (String × Json)) : List String :=
  "type" :: (kindOf fields).elim [] fieldsOf

def Condition.fieldNames : List String :=
  ["source", "relation", "target", "not", "uid"]

def Condition.usedNames (_ : List (String × Json)) : List String :=
  fieldNames

/-- The names of the fields of a condition that go without saying. -/
def Condition.implied (c : Condition) : List String :=
  (if c.negate = false then ["not"] else []) ++ if c.uid = "" then ["uid"] else []

/-! ## Terms -/

namespace Term

theorem ofJson?_object (fields : List (String × Json)) :
    ofJson? (.object fields) = (kindOf fields).bind fun kind =>
      if kind = "variable" then ((fields.lookup "value").bind text?).map .var
      else if kind = "constant" then ((fields.lookup "value").bind text?).map .const
      else none := by
  simp only [ofJson?, record, textField?, field?, kindOf]
  cases (fields.lookup "type").bind text? with
  | none => rfl
  | some kind =>
      cases (fields.lookup "value").bind text? with
      | none => simp
      | some value =>
          simp only [Option.bind_eq_bind, Option.bind_some, Option.map_some]
          split
          · rfl
          · split <;> rfl

theorem ofBindingJson?_object (fields : List (String × Json)) :
    ofBindingJson? (.object fields) = (kindOf fields).bind fun kind =>
      if kind = "bind-scalar" then (fields.lookup "variable").bind ofJson? else none := rfl

theorem ofJson?_toJson (t : Term) : ofJson? t.toJson = some t := by
  cases t <;> rfl

theorem listOfJson?_toJson (ts : List Term) :
    listOfJson? (.array (ts.map toJson)) = some ts := by
  simp only [listOfJson?, items?, Option.bind_some]
  induction ts with
  | nil => rfl
  | cons t ts ih => simp [ofJson?_toJson, ih]

theorem ofBindingJson?_toBindingJson (t : Term) : ofBindingJson? t.toBindingJson = some t := by
  cases t <;> rfl

end Term

/-! ## Clauses -/

namespace Clause

theorem ofFields?_eq (fields : List (String × Json)) :
    ofFields? fields = (fields.lookup "clauses").bind listOfJson? := by
  induction fields with
  | nil => rfl
  | cons f rest ih =>
      obtain ⟨n, j⟩ := f
      by_cases hn : "clauses" = n
      · subst hn
        rw [List.lookup_cons_self]
        cases j <;> simp [ofFields?, listOfJson?, items?]
      · have hne : n ≠ "clauses" := Ne.symm hn
        rw [lookup_cons_ne hn, ← ih]
        cases j <;> simp [ofFields?, hne]

/-- The parts of a clause, by the names of its fields. -/
def ofParts? (part : String → Option Json) : Shape → Option Clause
  | .pattern => (part "arguments").bind patternOfJson?
  | .anyOf => ((part "clauses").bind listOfJson?).map .anyOf
  | .noneOf => ((part "clauses").bind listOfJson?).map .noneOf
  | .bind => (part "fn").bind fun function => (part "arguments").bind fun arguments =>
    (part "binding").bind fun result => bindOfJson? function arguments result
  | .test => (part "pred").bind fun predicate => (part "arguments").bind fun arguments =>
    testOfJson? predicate arguments

theorem ofJson?_object (fields : List (String × Json)) :
    ofJson? (.object fields) = ((kindOf fields).bind Shape.ofName?).bind
      (ofParts? fun name => fields.lookup name) := by
  rw [ofJson?, ofFields?_eq, kindOf]
  cases ((fields.lookup "type").bind text?).bind Shape.ofName? with
  | none => rfl
  | some shape => cases shape <;> rfl

/-- A clause that is written as an array: the name of its shape, and the values of as many fields
as the shape has. -/
theorem ofJson?_array_cons (j : Json) (values : List Json) :
    ofJson? (.array (j :: values)) = (j.text?.bind Shape.ofName?).bind fun shape =>
      if values.length = shape.fields.length then
        ofParts? (fun name => (shape.fields.zip values).lookup name) shape
      else none := by
  cases j with
  | text name =>
      rw [text?, Option.bind_some]
      rw [ofJson?.eq_def]
      dsimp only
      cases Shape.ofName? name with
      | none => rfl
      | some shape =>
          rw [Option.bind_some]
          -- no shape has more than three fields besides its name
          rcases values with _ | ⟨a, _ | ⟨b, _ | ⟨c, _ | ⟨d, rest⟩⟩⟩⟩
          · cases shape <;> rfl
          · cases a <;> cases shape <;> rfl
          · cases a <;> cases shape <;> rfl
          · cases a <;> cases shape <;> rfl
          · cases a <;> cases shape <;> simp [Shape.fields]
  | _ => rfl

theorem listOfJson?_toJsons (clauses : List Clause)
    (h : ∀ c ∈ clauses, ofJson? c.toJson = some c) :
    listOfJson? (.array (toJsons clauses)) = some clauses := by
  rw [listOfJson?, items?, Option.bind_some]
  induction clauses with
  | nil => rfl
  | cons c rest ih =>
      have hc : ofJson? c.toJson = some c := h c (List.mem_cons_self ..)
      have hrest := ih fun d hd => h d (List.mem_cons_of_mem _ hd)
      rw [toJsons, ofItems?, hc, hrest]
      rfl

/-- The JSON form of a clause is read back as the clause. -/
theorem ofJson?_toJson (c : Clause) : ofJson? c.toJson = some c := by
  induction c with
  | pattern e a v =>
      have hread : ofJson? (toJson (.pattern e a v))
          = patternOfJson? (.array ([e, a, v].map Term.toJson)) := rfl
      rw [hread, patternOfJson?, Term.listOfJson?_toJson]
  | anyOf branches ih =>
      have hread : ofJson? (toJson (.anyOf branches))
          = (listOfJson? (.array (toJsons branches))).map .anyOf := rfl
      rw [hread, listOfJson?_toJsons branches ih, Option.map_some]
  | noneOf clauses ih =>
      have hread : ofJson? (toJson (.noneOf clauses))
          = (listOfJson? (.array (toJsons clauses))).map .noneOf := rfl
      rw [hread, listOfJson?_toJsons clauses ih, Option.map_some]
  | bind function arguments result =>
      have hread : ofJson? (toJson (.bind function arguments result))
          = bindOfJson? (.text function) (.array (arguments.map Term.toJson))
              result.toBindingJson := rfl
      rw [hread, bindOfJson?, Term.listOfJson?_toJson, Term.ofBindingJson?_toBindingJson]
      rfl
  | test predicate arguments =>
      have hread : ofJson? (toJson (.test predicate arguments))
          = testOfJson? (.text predicate) (.array (arguments.map Term.toJson)) := rfl
      rw [hread, testOfJson?, Term.listOfJson?_toJson]
      rfl

/-! ## Readings of related values -/

/-- Whatever is read from a value, or is not, is read from another one as well. -/
structure ReadAlike (j j' : Json) : Prop where
  text : j'.text? = j.text?
  term : Term.ofJson? j' = Term.ofJson? j
  terms : Term.listOfJson? j' = Term.listOfJson? j
  result : Term.ofBindingJson? j' = Term.ofBindingJson? j
  clause : ofJson? j' = ofJson? j
  clauses : listOfJson? j' = listOfJson? j

/-- The fields that belong to a shape decide what is read of them. -/
theorem ofParts?_congr {part part' : String → Option Json} {shape : Shape}
    (h : ∀ name ∈ shape.fields, Option.Rel ReadAlike (part name) (part' name)) :
    ofParts? part' shape = ofParts? part shape := by
  cases shape with
  | pattern =>
      have harguments := h "arguments" (by simp [Shape.fields])
      exact rel_bind harguments fun j j' hj => by simp only [patternOfJson?, hj.terms]
  | anyOf =>
      have hclauses := h "clauses" (by simp [Shape.fields])
      exact congrArg (Option.map Clause.anyOf) (rel_bind hclauses fun j j' hj => hj.clauses)
  | noneOf =>
      have hclauses := h "clauses" (by simp [Shape.fields])
      exact congrArg (Option.map Clause.noneOf) (rel_bind hclauses fun j j' hj => hj.clauses)
  | bind =>
      have hfn := h "fn" (by simp [Shape.fields])
      have harguments := h "arguments" (by simp [Shape.fields])
      have hbinding := h "binding" (by simp [Shape.fields])
      refine rel_bind hfn fun f f' hf => rel_bind harguments fun a a' ha => ?_
      refine rel_bind hbinding fun b b' hb => ?_
      simp only [bindOfJson?, hf.text, ha.terms, hb.result]
  | test =>
      have hpred := h "pred" (by simp [Shape.fields])
      have harguments := h "arguments" (by simp [Shape.fields])
      refine rel_bind hpred fun p p' hp => rel_bind harguments fun a a' ha => ?_
      simp only [testOfJson?, hp.text, ha.terms]

theorem ofItems?_eq {items items' : List Json} (h : List.Forall₂ ReadAlike items items') :
    ofItems? items' = ofItems? items := by
  induction h with
  | nil => rfl
  | cons hj _ ih => rw [ofItems?, ofItems?, hj.clause, ih]

theorem readAlike_array (items items' : List Json) (h : List.Forall₂ ReadAlike items items') :
    ReadAlike (.array items) (.array items') := by
  have htext : ∀ j j', ReadAlike j j' → j'.text? = j.text? := fun _ _ hj => hj.text
  have hterm : ∀ j j', ReadAlike j j' → Term.ofJson? j' = Term.ofJson? j := fun _ _ hj => hj.term
  constructor
  case text => rfl
  case term =>
    have hfield := rel_field?_record h ["type", "value"]
    simp only [Term.ofJson?, textField?, rel_bind (hfield _) htext]
  case terms => exact mapM_eq_of_forall₂ h hterm
  case result =>
    have hfield := rel_field?_record h ["type", "variable"]
    simp only [Term.ofBindingJson?, textField?, rel_bind (hfield _) htext,
      rel_bind (hfield _) hterm]
  case clause =>
    cases h with
    | nil => rfl
    | @cons j j' values values' hj hvalues =>
        have hparts : ∀ shape : Shape,
            ofParts? (fun name => (shape.fields.zip values').lookup name) shape
              = ofParts? (fun name => (shape.fields.zip values).lookup name) shape :=
          fun shape => ofParts?_congr fun name _ => rel_lookup (forall₂_zip hvalues _) name
        simp only [ofJson?_array_cons, hj.text, hvalues.length_eq, hparts]
  case clauses => exact ofItems?_eq h

section Objects

variable {fields fields' : List (String × Json)} (hkind : kindOf fields' = kindOf fields)
  (hused : ∀ kind, kindOf fields = some kind → ∀ name ∈ fieldsOf kind,
    Option.Rel ReadAlike (fields.lookup name) (fields'.lookup name))

include hkind hused

theorem term_object_eq :
    Term.ofJson? (.object fields') = Term.ofJson? (.object fields) := by
  rw [Term.ofJson?_object, Term.ofJson?_object, hkind]
  cases hk : kindOf fields with
  | none => rfl
  | some kind =>
      have hvalue : kind = "variable" ∨ kind = "constant" →
          (fields'.lookup "value").bind text? = (fields.lookup "value").bind text? := by
        intro hterm
        refine rel_bind (hused kind hk "value" ?_) fun _ _ hj => hj.text
        rw [fieldsOf, if_pos hterm]
        exact List.mem_singleton_self _
      rw [Option.bind_some, Option.bind_some]
      by_cases hvar : kind = "variable"
      · rw [if_pos hvar, if_pos hvar, hvalue (Or.inl hvar)]
      · rw [if_neg hvar, if_neg hvar]
        by_cases hconst : kind = "constant"
        · rw [if_pos hconst, if_pos hconst, hvalue (Or.inr hconst)]
        · rw [if_neg hconst, if_neg hconst]

theorem result_object_eq :
    Term.ofBindingJson? (.object fields') = Term.ofBindingJson? (.object fields) := by
  rw [Term.ofBindingJson?_object, Term.ofBindingJson?_object, hkind]
  cases hk : kindOf fields with
  | none => rfl
  | some kind =>
      rw [Option.bind_some, Option.bind_some]
      by_cases hscalar : kind = "bind-scalar"
      · rw [if_pos hscalar, if_pos hscalar]
        refine rel_bind (hused kind hk "variable" ?_) fun _ _ hj => hj.term
        rw [hscalar]
        decide
      · rw [if_neg hscalar, if_neg hscalar]

theorem clause_object_eq : ofJson? (.object fields') = ofJson? (.object fields) := by
  rw [ofJson?_object, ofJson?_object, hkind]
  cases hk : kindOf fields with
  | none => rfl
  | some kind =>
      rw [Option.bind_some]
      cases hshape : Shape.ofName? kind with
      | none => rfl
      | some shape =>
          rw [Option.bind_some, Option.bind_some]
          refine ofParts?_congr fun name hname => hused kind hk name ?_
          rwa [fieldsOf_of_shape hshape]

end Objects

theorem readAlike_object (fields fields' : List (String × Json))
    (h : ∀ name ∈ usedNames fields,
      Option.Rel ReadAlike (fields.lookup name) (fields'.lookup name)) :
    ReadAlike (.object fields) (.object fields') := by
  -- both objects have the same shape, wherever its name stands, and so they use the same names
  have hkind : kindOf fields' = kindOf fields :=
    rel_bind (h "type" (List.mem_cons_self ..)) fun _ _ hj => hj.text
  have hused : ∀ kind, kindOf fields = some kind → ∀ name ∈ fieldsOf kind,
      Option.Rel ReadAlike (fields.lookup name) (fields'.lookup name) := by
    intro kind hk name hname
    refine h name (List.mem_cons_of_mem _ ?_)
    rwa [hk]
  constructor
  case text => rfl
  case term => exact term_object_eq hkind hused
  case terms => rfl
  case result => exact result_object_eq hkind hused
  case clause => exact clause_object_eq hkind hused
  case clauses => rfl

theorem passes : Passes usedNames ReadAlike where
  refl _ := ⟨rfl, rfl, rfl, rfl, rfl, rfl⟩
  array := readAlike_array
  object := readAlike_object

end Clause

/-! ## Conditions -/

namespace Condition

/-- Whatever is read from a value, or is not, is read from another one as well. -/
structure ReadAlike (j j' : Json) : Prop where
  text : j'.text? = j.text?
  flag : flag? j' = flag? j
  condition : ofJson? j' = ofJson? j

/-- The fields of a condition decide what is read of them. -/
theorem ofJson?_congr {j j' : Json}
    (h : ∀ name ∈ fieldNames,
      Option.Rel ReadAlike ((j.record fieldNames).field? name)
        ((j'.record fieldNames).field? name)) :
    ofJson? j' = ofJson? j := by
  have htext : ∀ name ∈ fieldNames,
      (j'.record fieldNames).textField? name = (j.record fieldNames).textField? name :=
    fun name hname => rel_bind (h name hname) fun _ _ hj => hj.text
  have hnot : (j'.record fieldNames).fieldD? "not" false flag?
      = (j.record fieldNames).fieldD? "not" false flag? :=
    rel_fieldD? (h "not" (by simp [fieldNames])) fun _ _ hj => hj.flag
  have huid : (j'.record fieldNames).fieldD? "uid" "" text?
      = (j.record fieldNames).fieldD? "uid" "" text? :=
    rel_fieldD? (h "uid" (by simp [fieldNames])) fun _ _ hj => hj.text
  have hsource := htext "source" (by simp [fieldNames])
  have hrelation := htext "relation" (by simp [fieldNames])
  have htarget := htext "target" (by simp [fieldNames])
  simp only [fieldNames] at hsource hrelation htarget hnot huid
  simp only [ofJson?, hsource, hrelation, htarget, hnot, huid]

theorem passes : Passes usedNames ReadAlike where
  refl _ := ⟨rfl, rfl, rfl⟩
  array _ _ h := ⟨rfl, rfl, ofJson?_congr fun name _ => rel_field?_record h _ name⟩
  object _ _ h := ⟨rfl, rfl, ofJson?_congr h⟩

/-! ### Dropped fields -/

variable {c : Condition} {dropped : List String}

theorem mem_implied {name : String} :
    name ∈ c.implied ↔ name = "not" ∧ c.negate = false ∨ name = "uid" ∧ c.uid = "" := by
  simp [implied, and_comm]

theorem textField?_without (h : dropped ⊆ c.implied) (name : String) (hnot : name ≠ "not")
    (huid : name ≠ "uid") :
    (c.toJson.without dropped).textField? name = c.toJson.textField? name := by
  have hname : name ∉ dropped := by
    intro hd
    rcases mem_implied.mp (h hd) with ⟨heq, _⟩ | ⟨heq, _⟩
    · exact hnot heq
    · exact huid heq
  rw [textField?, toJson, field?_without, if_neg hname, textField?]

theorem not_without (h : dropped ⊆ c.implied) :
    (c.toJson.without dropped).fieldD? "not" false flag? = some c.negate := by
  rw [fieldD?, toJson, field?_without]
  by_cases hd : "not" ∈ dropped
  · have hfalse : c.negate = false := by simpa using mem_implied.mp (h hd)
    rw [if_pos hd, hfalse]
  · rw [if_neg hd]
    rfl

theorem uid_without (h : dropped ⊆ c.implied) :
    (c.toJson.without dropped).fieldD? "uid" "" text? = some c.uid := by
  rw [fieldD?, toJson, field?_without]
  by_cases hd : "uid" ∈ dropped
  · have hempty : c.uid = "" := by simpa using mem_implied.mp (h hd)
    rw [if_pos hd, hempty]
  · rw [if_neg hd]
    rfl

/-- The JSON form of a condition is read back as the condition, also without the fields that go
without saying. -/
theorem ofJson?_toJson_without (h : dropped ⊆ c.implied) :
    ofJson? (c.toJson.without dropped) = some c := by
  have hsource := textField?_without h "source" (by decide) (by decide)
  have hrelation := textField?_without h "relation" (by decide) (by decide)
  have htarget := textField?_without h "target" (by decide) (by decide)
  have hrecord : ∀ names, (c.toJson.without dropped).record names = c.toJson.without dropped :=
    fun _ => rfl
  simp only [ofJson?, hrecord, hsource, hrelation, htarget, not_without h, uid_without h]
  rfl

end Condition

/-! ## Exchange -/

/-- A type of values that can be exchanged: what has been written is read back, no matter how the
fields are rearranged, which fields are added that are not used, and which of those that go
without saying are dropped. -/
structure Exchanges {α : Type} (write : α → Json) (read : Json → Option α)
    (uses : List (String × Json) → List String) (implied : α → List String) : Prop where
  read_write : ∀ a, read (write a) = some a
  read_edits : ∀ j j', Edits uses j j' → read j' = read j
  read_without : ∀ a, ∀ dropped ⊆ implied a, read ((write a).without dropped) = some a

/-- Clauses and conditions can be exchanged. In a clause nothing goes without saying. -/
theorem exchanges_clauses_and_conditions :
    Exchanges Clause.toJson Clause.ofJson? Clause.usedNames (fun _ => []) ∧
      Exchanges Condition.toJson Condition.ofJson? Condition.usedNames Condition.implied := by
  constructor
  · constructor
    case read_write => exact Clause.ofJson?_toJson
    case read_edits =>
      intro j j' h
      exact h.read_eq fun i i' hedit => (hedit.rel Clause.passes).clause
    case read_without =>
      intro c dropped hdropped
      rw [List.subset_nil.mp hdropped, without_nil, Clause.ofJson?_toJson]
  · constructor
    case read_write =>
      intro c
      have hwithout := Condition.ofJson?_toJson_without (List.nil_subset c.implied)
      rwa [without_nil] at hwithout
    case read_edits =>
      intro j j' h
      exact h.read_eq fun i i' hedit => (hedit.rel Condition.passes).condition
    case read_without => exact fun _ _ hdropped => Condition.ofJson?_toJson_without hdropped

/-- The name of the shape comes last, and a field is not used. -/
example :
    Clause.ofJson? (.object [("clauses", .array [(Clause.test "true?" []).toJson]),
      ("pred", .null), ("type", .text "not-clause")]) = some (.noneOf [.test "true?" []]) := by
  rfl

end ConditionQuery
