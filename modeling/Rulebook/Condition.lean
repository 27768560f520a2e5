import Rulebook.Decimal.Layout
import Rulebook.Operator
import Rulebook.Text.Quoted

/-!
# Conditions

A `Condition` compares a field of a row with an operand. A rule text may also hold parts that are no
condition; such a part becomes the clause `Clause.never`, which remembers the text and holds of no
row, so that a rule with a mistake in it fails closed.
-/

set_option autoImplicit false

namespace Rulebook

/-- What a cell is compared with. -/
inductive Operand where
  | number (value : Float)
  | text (value : String)

/-- How an operand is shown. -/
def Operand.render : Operand → String
  | .number x => String.ofList (plainNumber x)
  | .text s => s

/-- A comparison of a field with an operand. -/
structure Condition where
  field : String
  operator : Operator
  operand : Operand

/-- How a condition is shown: field, spelling of the operator and operand. -/
def Condition.render (c : Condition) : String :=
  c.field ++ " " ++ c.operator.symbol ++ " " ++ c.operand.render

/-- One part of a conjunction. -/
inductive Clause where
  | condition (c : Condition)
  | never (source : String)

namespace Clause

/-- The condition of a clause that was recognised. -/
def condition? : Clause → Option Condition
  | .condition c => some c
  | .never _ => none

/-- The text of a clause that was not recognised. -/
def source? : Clause → Option String
  | .condition _ => none
  | .never source => some source

/-- Whether the clause holds of no row whatever. -/
def isNever (clause : Clause) : Bool := clause.source?.isSome

/-- How a clause is shown. -/
def render : Clause → String
  | .condition c => c.render
  | .never source =>
      "<unrecognized: " ++ String.ofList (Text.quote source.toList) ++ ">"

end Clause

end Rulebook
