import ConditionQuery.Json.Basic

set_option autoImplicit false

/-! # The lines of a printed value

A value is printed over several lines. Each item of an array and each field of an object starts a
line of its own, and so does the bracket that closes them; a line stands two blanks further to the
right for each bracket that is open around it. `rows` lists the lines with their depths, without a
word on line feeds and blanks, and the printed form is exactly these lines
(`pretty_append_lineFeed`).
-/

namespace ConditionQuery.Json

structure Row where
  /-- The number of brackets that are open around it. -/
  depth : Nat
  text : List Char

/-- A line with two blanks for each bracket around it. -/
def Row.line (r : Row) : String :=
  String.ofList (List.replicate (2 * r.depth) ' ' ++ r.text)

/-- Rows between brackets. If there are none, the brackets stand side by side. -/
def bracketed (depth : Nat) (before after : List Char) (left right : Char) (inner : List Row) :
    List Row :=
  if inner.isEmpty then [⟨depth, before ++ [left, right] ++ after⟩]
  else ⟨depth, before ++ [left]⟩ :: inner ++ [⟨depth, right :: after⟩]

mutual

/-- The rows of a value. What is written before it stands on its first row, and what is written
after it on its last one. -/
def rows (depth : Nat) (before after : List Char) : Json → List Row
  | .null => [⟨depth, before ++ "null".toList ++ after⟩]
  | .bool b => [⟨depth, before ++ (if b then "true" else "false").toList ++ after⟩]
  | .integer i => [⟨depth, before ++ Text.Decimal.write i ++ after⟩]
  | .text s => [⟨depth, before ++ quote s ++ after⟩]
  | .array items => bracketed depth before after '[' ']' (itemRows (depth + 1) items)
  | .object fields => bracketed depth before after '\x7b' '\x7d' (fieldRows (depth + 1) fields)

def itemRows (depth : Nat) : List Json → List Row
  | [] => []
  | j :: rest => rows depth [] (if rest.isEmpty then [] else [',']) j ++ itemRows depth rest

def fieldRows (depth : Nat) : List (String × Json) → List Row
  | [] => []
  | (name, j) :: rest =>
    rows depth (quote name ++ [':', ' ']) (if rest.isEmpty then [] else [',']) j
      ++ fieldRows depth rest

end

def lines (j : Json) : List String :=
  (rows 0 [] [] j).map Row.line

/-! ## The printed form -/

/-- Rows with a line feed before each of them. -/
def unrows (rs : List Row) : List Char :=
  rs.flatMap fun r => newLine r.depth ++ r.text

theorem unrows_append (rs qs : List Row) : unrows (rs ++ qs) = unrows rs ++ unrows qs :=
  List.flatMap_append

theorem unrows_singleton (depth : Nat) (text : List Char) :
    unrows [⟨depth, text⟩] = newLine depth ++ text :=
  List.flatMap_singleton _ _

/-- Brackets around rows that are not empty. -/
theorem unrows_bracketed {inner : List Row} (h : unrows inner ≠ []) (depth : Nat)
    (before after : List Char) (left right : Char) :
    unrows (bracketed depth before after left right inner)
      = newLine depth ++ before ++ left :: unrows inner ++ newLine depth ++ right :: after := by
  have hinner : inner.isEmpty = false := by
    rw [List.isEmpty_eq_false_iff]
    rintro rfl
    exact h rfl
  rw [bracketed, hinner, if_neg (by simp), List.cons_append]
  show newLine depth ++ (before ++ [left]) ++ unrows (inner ++ [⟨depth, right :: after⟩]) = _
  rw [unrows_append, unrows_singleton]
  simp

mutual

/-- The rows of a value are its printed form, with what stands before and after it. -/
theorem unrows_rows (depth : Nat) (before after : List Char) : ∀ j : Json,
    unrows (rows depth before after j) = newLine depth ++ before ++ pretty depth j ++ after
  | .null => by simp [rows, pretty, unrows_singleton]
  | .bool b => by cases b <;> simp [rows, pretty, unrows_singleton]
  | .integer i => by simp [rows, pretty, unrows_singleton]
  | .text s => by simp [rows, pretty, unrows_singleton]
  | .array items => by
      have hitems := comma_unrows_itemRows (depth + 1) items
      cases items with
      | nil => simp [rows, itemRows, bracketed, pretty, unrows_singleton]
      | cons j rest =>
          -- without the first comma, these are the rows between the brackets
          have hrows := List.cons_inj_right _ |>.mp (hitems (List.cons_ne_nil j rest))
          rw [rows, unrows_bracketed (by rw [hrows]; simp [newLine]), hrows, pretty]
          simp
  | .object fields => by
      have hfields := comma_unrows_fieldRows (depth + 1) fields
      cases fields with
      | nil => simp [rows, fieldRows, bracketed, pretty, unrows_singleton]
      | cons field rest =>
          have hrows := List.cons_inj_right _ |>.mp (hfields (List.cons_ne_nil field rest))
          rw [rows, unrows_bracketed (by rw [hrows]; simp [newLine]), hrows, pretty]
          simp

/-- The rows of items, with a comma before the first one too. -/
theorem comma_unrows_itemRows (depth : Nat) : ∀ items : List Json, items ≠ [] →
    ',' :: unrows (itemRows depth items) = prettyItems depth items
  | [], h => absurd rfl h
  | j :: rest, _ => by
      rw [itemRows, unrows_append, unrows_rows depth _ _ j, prettyItems]
      cases rest with
      | nil => simp [itemRows, unrows, prettyItems]
      | cons k rest =>
          rw [← comma_unrows_itemRows depth (k :: rest) (List.cons_ne_nil k rest)]
          simp

/-- The rows of fields, with a comma before the first one too. -/
theorem comma_unrows_fieldRows (depth : Nat) : ∀ fields : List (String × Json), fields ≠ [] →
    ',' :: unrows (fieldRows depth fields) = prettyFields depth fields
  | [], h => absurd rfl h
  | (name, j) :: rest, _ => by
      rw [fieldRows, unrows_append, unrows_rows depth _ _ j, prettyFields]
      cases rest with
      | nil => simp [fieldRows, unrows, prettyFields]
      | cons field rest =>
          rw [← comma_unrows_fieldRows depth (field :: rest) (List.cons_ne_nil field rest)]
          simp

end

/-- A line feed after the last row moves the others to the ends of the rows before. -/
theorem unrows_append_lineFeed (rs : List Row) :
    unrows rs ++ ['\n'] = '\n' :: rs.flatMap fun r => r.line.toList ++ ['\n'] := by
  induction rs with
  | nil => rfl
  | cons r rs ih =>
      show newLine r.depth ++ r.text ++ unrows rs ++ ['\n'] = _
      rw [List.append_assoc, ih, List.flatMap_cons]
      simp [newLine, Row.line]

/-- The printed form of a value and a line feed are its lines, with a line feed after each of
them. -/
theorem pretty_append_lineFeed (j : Json) :
    pretty 0 j ++ ['\n'] = j.lines.flatMap fun line => line.toList ++ ['\n'] := by
  have hrows : unrows (rows 0 [] [] j) = '\n' :: pretty 0 j := by
    rw [unrows_rows]
    simp [newLine]
  have hlines := unrows_append_lineFeed (rows 0 [] [] j)
  rw [hrows] at hlines
  rw [lines, List.flatMap_map]
  exact List.cons_inj_right _ |>.mp hlines

end ConditionQuery.Json
