import Rulebook.Expression.Codec
import Rulebook.RuleSet

/-!
# Rules in JSON

A rule is written with its expression, but only name and text are read: the expression is made from
the text again. A direction in which a rule is moved is stored as a string, like an operator.
-/

set_option autoImplicit false

namespace Rulebook

open Json

/-- The draft as a JSON value. -/
def Draft.toJson (d : Draft) : Json := .object [("name", .string d.name), ("text", .string d.text)]

/-- The draft that a JSON value is. -/
def Draft.ofJson? (j : Json) : Option Draft := do
  match ← j.record? ["name", "text"] with
  | [name, text] =>
      let name ← required? string? name
      let text ← required? string? text
      return ⟨name, text⟩
  | _ => none

/-- The rule as a JSON value. -/
def Rule.toJson (rule : Rule) : Json :=
  .object [("name", .string rule.name), ("text", .string rule.text),
    ("expression", rule.expression.toJson)]

/-- The rule that a JSON value is. -/
def Rule.ofJson? (j : Json) : Option Rule := (Draft.ofJson? j).map Rule.ofDraft

/-- The direction as a JSON string. -/
def Direction.toJson (d : Direction) : Json := .string d.name

/-- The direction that a JSON value names. -/
def Direction.ofJson? (j : Json) : Option Direction := (j.plainTag? Json.isNull).bind ofName?

end Rulebook
