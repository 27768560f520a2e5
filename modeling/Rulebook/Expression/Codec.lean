import Rulebook.Expression
import Rulebook.Json.Record

/-!
# Expressions in JSON

An expression is a record with the list `groups`, a group a record with the list `clauses`, a clause
a record of the variant that its member `type` names. An operand is a number or a string as it
stands; what is no finite number has no JSON form and is written as null, which is no operand.
Operators and connectives are stored as strings, and a variant of theirs may also be given as an
object whose only member bears its name and no content.
-/

set_option autoImplicit false

namespace Rulebook

open Json

/-! ## Operators and connectives -/

/-- The operator as a JSON string. -/
def Operator.toJson (op : Operator) : Json := .string op.name

/-- The operator that a JSON value names. -/
def Operator.ofJson? (j : Json) : Option Operator := (j.plainTag? Json.isNull).bind ofName?

/-- The operator named within a record that has been read before its variant was known; there an
object without members counts as no content, too. -/
def Operator.ofField? (j : Json) : Option Operator := (j.plainTag? Json.isBare).bind ofName?

/-- The connective as a JSON string. -/
def Connective.toJson (c : Connective) : Json := .string c.name

/-- The connective that a JSON value names. -/
def Connective.ofJson? (j : Json) : Option Connective := (j.plainTag? Json.isNull).bind ofName?

/-! ## Operands, conditions and clauses -/

/-- The operand as a JSON value. -/
def Operand.toJson : Operand → Json
  | .number x => .real x
  | .text s => .string s

/-- The operand that a JSON value is. -/
def Operand.ofJson? (j : Json) : Option Operand :=
  (j.float?.map .number).or (j.string?.map .text)

namespace Condition

/-- The members of a condition. -/
def members (c : Condition) : List (String × Json) :=
  [("field", .string c.field), ("operator", c.operator.toJson), ("value", c.operand.toJson)]

/-- The condition of a record. -/
def ofRecord? (j : Json) : Option Condition := do
  match ← j.record? ["field", "operator", "value"] with
  | [field, operator, operand] =>
      let field ← required? string? field
      let operator ← required? Operator.ofField? operator
      let operand ← required? Operand.ofJson? operand
      return ⟨field, operator, operand⟩
  | _ => none

end Condition

namespace Clause

/-- The clause as a JSON value. -/
def toJson : Clause → Json
  | .condition c => .object (("type", .string "condition") :: c.members)
  | .never source => .object [("type", .string "never"), ("source", .string source)]

/-- The text of a record of a clause that was not recognised. -/
def sourceOfRecord? (j : Json) : Option String := do
  match ← j.record? ["source"] with
  | [source] => required? string? source
  | _ => none

/-- The clause that a JSON value is. All of the value has to be readable, since its variant may be
named last. -/
def ofJson? (j : Json) : Option Clause := do
  guard j.isReadable
  let (tag, fields) ← j.tagged?
  if tag = "condition" then (Condition.ofRecord? fields).map .condition
  else if tag = "never" then (sourceOfRecord? fields).map .never
  else none

end Clause

/-- A list that is the only field of a record. -/
def listRecord? {α : Type} (name : String) (item? : Json → Option α) (j : Json) :
    Option (List α) := do
  match ← j.record? [name] with
  | [items] => required? (list? item?) items
  | _ => none

namespace Expression

/-- The expression as a JSON value. -/
def toJson (e : Expression) : Json :=
  .object [("groups", .array (e.groups.map fun group =>
    .object [("clauses", .array (group.map Clause.toJson))]))]

/-- The expression that a JSON value is. -/
def ofJson? (j : Json) : Option Expression :=
  (listRecord? "groups" (listRecord? "clauses" Clause.ofJson?) j).map Expression.mk

end Expression

end Rulebook
