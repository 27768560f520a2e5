import Rulebook.Expression.Codec
import Rulebook.Expression.Reader
import Rulebook.Proofs.Json.RoundTrip

/-!
# Expressions that are written and read

The text of an expression is always JSON. It is read clause by clause (`Expression.read?_toJson`):
fields, operators, texts and the sources of clauses that were not recognised come back as they were
written, and the operands decide the rest. An expression whose numbers are finite is read from its
texts, as far as each of the numbers is (`Expression.written_read_back`).

The operand of a rule text need not be a finite number: `.` is none, and enough digits are beyond
all doubles. Such an operand is written as null, which is no operand, so the text of the expression
is refused (`Expression.compiled_read_back_iff`).
-/

set_option autoImplicit false

namespace Rulebook

open Json

/-! ## Operands and clauses -/

namespace Operand

/-- The number that an operand is. -/
def number? : Operand → Option Float
  | .number x => some x
  | .text _ => none

/-- What the text of an operand is read as. -/
def reread? (o : Operand) : Option Operand := ofJson? (reread o.toJson)

/-- No operand is an unreadable value. -/
theorem isReadable_of_ofJson? {j : Json} {o : Operand} (h : ofJson? j = some o) :
    j.isReadable = true := by
  cases j with
  | array items => cases h
  | object members => cases h
  | unreadable => cases h
  | _ => rfl

/-- A text never turns into a number, and a number is itself if its text is read as the number. -/
theorem reread?_eq_self {o : Operand} (h : ∀ x ∈ o.number?, ReadsBack x) : o.reread? = some o := by
  cases o with
  | number x =>
      have hread : reread (Operand.number x).toJson = .real x := readsBack_iff.1 (h x rfl)
      rw [reread?, hread]
      rfl
  | text s => rfl

/-- What is no finite number is read as no operand. -/
theorem reread?_eq_none {o : Operand} {x : Float} (hx : x ∈ o.number?) (h : x.isFinite = false) :
    o.reread? = none := by
  cases o with
  | number y =>
      obtain rfl := Option.some.inj hx
      have hread : reread (Operand.number y).toJson = .null := realValue_of_not_isFinite h
      rw [reread?, hread]
      rfl
  | text s => cases hx

end Operand

/-- An operator is read from its name. -/
theorem Operator.ofField?_toJson (op : Operator) : Operator.ofField? op.toJson = some op := by
  cases op <;> rfl

namespace Clause

/-- The number that a clause compares with. -/
def number? (clause : Clause) : Option Float := clause.condition?.bind fun c => c.operand.number?

/-- What the text of a clause is read as: all but the operand stays as it is. -/
def reread? : Clause → Option Clause
  | .condition c => c.operand.reread?.map fun o => .condition ⟨c.field, c.operator, o⟩
  | .never source => some (.never source)

/-- A value that is readable as a whole is read by its tag. -/
theorem ofJson?_of_tagged {j fields : Json} {tag : String} (hreadable : j.isReadable = true)
    (htag : j.tagged? = some (tag, fields)) :
    ofJson? j = if tag = "condition" then (Condition.ofRecord? fields).map .condition
      else if tag = "never" then (sourceOfRecord? fields).map .never
      else none := by
  have hguard : (guard (j.isReadable = true) : Option Unit) = some () := if_pos hreadable
  rw [ofJson?, hguard, htag]
  rfl

/-- A condition is read from its members, if its operand is one. -/
theorem ofJson?_condition (field : String) (op : Operator) (value : Json) :
    ofJson? (.object [("type", .string "condition"), ("field", .string field),
        ("operator", op.toJson), ("value", value)]) =
      (Operand.ofJson? value).map fun o => .condition ⟨field, op, o⟩ := by
  have htag : (Json.object [("type", .string "condition"), ("field", .string field),
      ("operator", op.toJson), ("value", value)]).tagged? = some ("condition",
        .object [("field", .string field), ("operator", op.toJson), ("value", value)]) := by
    simp [tagged?, member?, required?, string?]
  have hrecord : (Json.object [("field", .string field), ("operator", op.toJson),
      ("value", value)]).record? ["field", "operator", "value"] =
        some [some (.string field), some op.toJson, some value] := by
    simp [record?, member?]
  have hcondition : Condition.ofRecord? (.object [("field", .string field),
      ("operator", op.toJson), ("value", value)]) =
        (Operand.ofJson? value).map fun o => ⟨field, op, o⟩ := by
    rw [Condition.ofRecord?, hrecord]
    simp only [Option.bind_eq_bind, Option.bind_some, required?, string?,
      Operator.ofField?_toJson]
    cases Operand.ofJson? value <;> rfl
  -- the value is asked to be readable as a whole, which all operands are
  cases hvalue : Operand.ofJson? value with
  | none =>
      refine Option.bind_eq_none_iff.2 fun _ _ => ?_
      rw [htag, Option.bind_eq_bind, Option.bind_some]
      simp only [if_true, hcondition, hvalue, Option.map_none]
  | some o =>
      have hreadable : (Json.object [("type", .string "condition"), ("field", .string field),
          ("operator", op.toJson), ("value", value)]).isReadable = true := by
        simp [isReadable, membersReadable, Operator.toJson, Operand.isReadable_of_ofJson? hvalue]
      rw [ofJson?_of_tagged hreadable htag, if_pos rfl, hcondition, hvalue]
      rfl

/-- A clause that was not recognised is read from its members. -/
theorem ofJson?_never (source : String) :
    ofJson? (.object [("type", .string "never"), ("source", .string source)]) =
      some (.never source) := by
  have hreadable : (Json.object [("type", .string "never"),
      ("source", .string source)]).isReadable = true := rfl
  have htag : (Json.object [("type", .string "never"), ("source", .string source)]).tagged? =
      some ("never", .object [("source", .string source)]) := by
    simp [tagged?, member?, required?, string?]
  have hrecord : (Json.object [("source", .string source)]).record? ["source"] =
      some [some (.string source)] := by
    simp [record?, member?]
  rw [ofJson?_of_tagged hreadable htag, if_neg (by decide), if_pos rfl, sourceOfRecord?, hrecord]
  rfl

theorem ofJson?_reread (clause : Clause) : ofJson? (reread clause.toJson) = clause.reread? := by
  cases clause with
  | condition c => exact ofJson?_condition c.field c.operator (reread c.operand.toJson)
  | never source => exact ofJson?_never source

theorem reread?_eq_self {clause : Clause} (h : ∀ x ∈ clause.number?, ReadsBack x) :
    clause.reread? = some clause := by
  cases clause with
  | condition c => rw [reread?, Operand.reread?_eq_self h, Option.map_some]
  | never source => rfl

theorem reread?_eq_none {clause : Clause} {x : Float} (hx : x ∈ clause.number?)
    (h : x.isFinite = false) : clause.reread? = none := by
  cases clause with
  | condition c => rw [reread?, Operand.reread?_eq_none hx h, Option.map_none]
  | never source => cases hx

theorem nested_toJson {depth : Nat} (hdepth : depth < maxDepth) (clause : Clause) :
    Nested depth clause.toJson := by
  cases clause with
  | condition c =>
      have hvalue : Nested (depth + 1) c.operand.toJson := by
        cases c.operand with
        | number x => exact .real _ x
        | text s => exact .string _ s
      apply Nested.object hdepth
      simp only [Condition.members, List.forall_mem_cons]
      exact ⟨.string _ _, .string _ _, .string _ _, hvalue, by simp⟩
  | never source =>
      apply Nested.object hdepth
      simp only [List.forall_mem_cons]
      exact ⟨.string _ _, .string _ _, by simp⟩

end Clause

/-! ## Whole expressions -/

/-- A record with one field, which is a list, is read if the items of the list are. -/
theorem listRecord?_object {α : Type} (name : String) (item? : Json → Option α)
    (items : List Json) :
    listRecord? name item? (.object [(name, .array items)]) = items.mapM item? := by
  have hrecord : (Json.object [(name, .array items)]).record? [name] =
      some [some (.array items)] := by
    simp [record?, member?]
  rw [listRecord?, hrecord]
  rfl

/-- A list whose parts are read as themselves is read as itself. -/
theorem mapM_eq_some_self {α : Type} {read : α → Option α} {xs : List α}
    (h : ∀ x ∈ xs, read x = some x) : xs.mapM read = some xs := by
  have hread := mapM_map_eq_some read id h
  rwa [List.map_id] at hread

/-- Parts are read together if each of them is. -/
theorem isSome_mapM_iff {α β : Type} {read : α → Option β} {xs : List α} :
    (xs.mapM read).isSome = true ↔ ∀ x ∈ xs, (read x).isSome = true := by
  induction xs with
  | nil => simp
  | cons x xs ih =>
      rw [List.forall_mem_cons, ← ih, List.mapM_cons]
      cases read x with
      | none => simp
      | some y => cases xs.mapM read <;> simp

namespace Expression

variable {e : Expression}

/-- The numbers among the operands of an expression, in order. -/
def numbers (e : Expression) : List Float := e.groups.flatten.filterMap Clause.number?

theorem mem_numbers_iff {x : Float} :
    x ∈ e.numbers ↔ ∃ group ∈ e.groups, ∃ clause ∈ group, x ∈ clause.number? := by
  simp only [numbers, List.mem_filterMap, List.mem_flatten, Option.mem_def]
  constructor
  · rintro ⟨clause, ⟨group, hgroup, hclause⟩, hx⟩
    exact ⟨group, hgroup, clause, hclause, hx⟩
  · rintro ⟨group, hgroup, clause, hclause, hx⟩
    exact ⟨clause, ⟨group, hgroup, hclause⟩, hx⟩

/-- What the text of an expression is read as, clause by clause. -/
def reread? (e : Expression) : Option Expression :=
  (e.groups.mapM fun group : List Clause => group.mapM Clause.reread?).map Expression.mk

theorem ofJson?_reread (e : Expression) : ofJson? (reread e.toJson) = e.reread? := by
  have hgroup : ∀ group : List Clause, listRecord? "clauses" Clause.ofJson?
      (.object [("clauses", .array (group.map fun clause => reread clause.toJson))]) =
        group.mapM Clause.reread? := by
    intro group
    rw [listRecord?_object, List.mapM_map]
    exact congrArg (group.mapM ·) (funext Clause.ofJson?_reread)
  -- names stay as they are, so only what the clauses hold is read as something else
  have htext : reread e.toJson = .object [("groups", .array (e.groups.map fun group =>
      .object [("clauses", .array (group.map fun clause => reread clause.toJson))]))] := by
    simp [toJson, reread, rereadMembers, rereadItems_eq_map, Function.comp_def]
  rw [htext, ofJson?, listRecord?_object, List.mapM_map, reread?]
  simp only [Function.comp_def, hgroup]

/-- The JSON value of an expression is nested five deep. -/
theorem nested_toJson {depth : Nat} (hdepth : depth + 4 < maxDepth) (e : Expression) :
    Nested depth e.toJson := by
  have hgroup : ∀ group ∈ e.groups, Nested (depth + 2)
      (.object [("clauses", .array (group.map Clause.toJson))]) := by
    intro group _
    apply Nested.object (by omega)
    rw [List.forall_mem_singleton]
    apply Nested.array (by omega)
    rw [List.forall_mem_map]
    intro clause _
    exact clause.nested_toJson hdepth
  apply Nested.object (by omega)
  rw [List.forall_mem_singleton]
  apply Nested.array (by omega)
  rw [List.forall_mem_map]
  exact hgroup

/-- The texts of an expression are JSON, and both are read clause by clause. -/
theorem read?_toJson (e : Expression) :
    (read? e.toJson.compact).bind ofJson? = e.reread? ∧
      (read? e.toJson.pretty).bind ofJson? = e.reread? := by
  have hnested : Nested 0 e.toJson := e.nested_toJson (by decide)
  obtain ⟨hcompact, hpretty⟩ := hnested.read?_eq
  rw [hcompact, hpretty, Option.bind_some, ofJson?_reread]
  exact ⟨rfl, rfl⟩

/-- An expression is read from its text if each of its numbers is. -/
theorem reread?_eq_self (h : ∀ x ∈ e.numbers, ReadsBack x) : e.reread? = some e := by
  have hclauses : ∀ group ∈ e.groups, group.mapM Clause.reread? = some group := by
    intro group hgroup
    apply mapM_eq_some_self
    intro clause hclause
    apply Clause.reread?_eq_self
    intro x hx
    exact h x (mem_numbers_iff.2 ⟨group, hgroup, clause, hclause, hx⟩)
  rw [reread?, mapM_eq_some_self hclauses, Option.map_some]

/-- An expression with an operand that is no finite number is not read from its text. -/
theorem reread?_eq_none {x : Float} (hx : x ∈ e.numbers) (h : x.isFinite = false) :
    e.reread? = none := by
  obtain ⟨group, hgroup, clause, hclause, hnumber⟩ := mem_numbers_iff.1 hx
  -- were all groups read, so would be the clause with this operand
  rw [reread?, Option.map_eq_none_iff, ← Option.not_isSome_iff_eq_none, isSome_mapM_iff]
  intro hgroups
  have hsome := isSome_mapM_iff.1 (hgroups group hgroup) clause hclause
  rw [Clause.reread?_eq_none hnumber h] at hsome
  cases hsome

/-- An expression whose numbers are finite is read from its compact and from its indented text with
the same groups, clauses, fields, operators and operands. Of the texts of the numbers it is assumed
that each is read as the number. -/
theorem written_read_back (e : Expression) (hfinite : ∀ x ∈ e.numbers, x.isFinite = true)
    (hback : ∀ x ∈ e.numbers, x.isFinite = true → ReadsBack x) :
    (read? e.toJson.compact).bind ofJson? = some e ∧
      (read? e.toJson.pretty).bind ofJson? = some e := by
  have hsame : e.reread? = some e := reread?_eq_self fun x hx => hback x hx (hfinite x hx)
  rw [e.read?_toJson.1, e.read?_toJson.2, hsame]
  exact ⟨rfl, rfl⟩

/-- Groups without clauses, fields that no rule text has, texts that look like numbers. -/
def strange : Expression :=
  ⟨[[], [.condition ⟨"", .equal, .text "12.50"⟩, .never "\"\\\n"],
    [.condition ⟨"Σ", .notEqual, .number (-0.1)⟩, .condition ⟨"n", .less, .number 1e300⟩]]⟩

theorem written_read_back_strange :
    (∀ x ∈ strange.numbers, x.isFinite = true) ∧
      (∀ x ∈ strange.numbers, x.isFinite = true → ReadsBack x) ∧
      (read? strange.toJson.compact).bind ofJson? = some strange ∧
      (read? strange.toJson.pretty).bind ofJson? = some strange := by
  have hfinite : ∀ x ∈ strange.numbers, x.isFinite = true := by decide +kernel
  have hback : ∀ x ∈ strange.numbers, x.isFinite = true → ReadsBack x := by decide +kernel
  exact ⟨hfinite, hback, written_read_back strange hfinite hback⟩

/-! ## Rule texts -/

/-- The text of the expression of a rule text is read again exactly if all numbers in it are finite;
what is read then holds of the same rows. Of the texts of finite numbers it is assumed that each is
read as the number. -/
theorem compiled_read_back_iff (text : String)
    (hback : ∀ x ∈ (Expression.read text.toList).numbers, x.isFinite = true → ReadsBack x) :
    (((read? (Expression.read text.toList).toJson.compact).bind ofJson?).isSome = true ↔
        ∀ x ∈ (Expression.read text.toList).numbers, x.isFinite = true) ∧
      ∀ e, (read? (Expression.read text.toList).toJson.compact).bind ofJson? = some e →
        ∀ row, e.holds row = (Expression.read text.toList).holds row := by
  -- of a rule text no more is used than that it has an expression
  generalize Expression.read text.toList = compiled at hback ⊢
  rw [compiled.read?_toJson.1]
  by_cases hfinite : ∀ x ∈ compiled.numbers, x.isFinite = true
  · have hsame : compiled.reread? = some compiled :=
      reread?_eq_self fun x hx => hback x hx (hfinite x hx)
    refine ⟨iff_of_true (by rw [hsame]; rfl) hfinite, ?_⟩
    intro e he row
    rw [hsame] at he
    obtain rfl := Option.some.inj he
    rfl
  · have hnone : compiled.reread? = none := by
      simp only [Classical.not_forall, Bool.not_eq_true] at hfinite
      obtain ⟨x, hx, hinfinite⟩ := hfinite
      exact reread?_eq_none hx hinfinite
    refine ⟨iff_of_false (by rw [hnone]; decide) hfinite, ?_⟩
    intro e he
    rw [hnone] at he
    cases he

theorem compiled_read_back_iff_sales :
    (∀ x ∈ (Expression.read "Sales > 1000 or Sales ~ x".toList).numbers,
        x.isFinite = true → ReadsBack x) ∧
      ((read? (Expression.read "Sales > 1000 or Sales ~ x".toList).toJson.compact).bind
        ofJson?).isSome = true := by
  have hback : ∀ x ∈ (Expression.read "Sales > 1000 or Sales ~ x".toList).numbers,
      x.isFinite = true → ReadsBack x := by
    decide +kernel
  refine ⟨hback, (compiled_read_back_iff _ hback).1.2 ?_⟩
  decide +kernel

/-- A point is taken for an operand, though it is no number, and the text of such an expression is
refused. -/
theorem point_not_read_back :
    (read? (Expression.read "Sales > .".toList).toJson.compact).bind ofJson? = none := by
  have hpoint : ∃ x ∈ (Expression.read "Sales > .".toList).numbers, x.isFinite = false := by
    decide +kernel
  obtain ⟨x, hx, hinfinite⟩ := hpoint
  rw [(Expression.read "Sales > .".toList).read?_toJson.1, reread?_eq_none hx hinfinite]

end Expression

end Rulebook
