import Rulebook.Condition
import Rulebook.Row

/-!
# When a condition holds

`holdsOfCell` compares a cell with an operand, `Clause.holds` does so for the cell that the field of
a condition stands for. Every comparison is total: a cell that is not there counts as empty text and
as no number, and what is no number is neither greater nor less than anything.
-/

set_option autoImplicit false

namespace Rulebook

open Text

/-- Whether the needle occurs in a text as it is. -/
def occurs (needle : List Char) : List Char → Bool
  | [] => needle.isEmpty
  | c :: text => needle.isPrefixOf (c :: text) || occurs needle text

/-- The characters of a cell. -/
def cellText (cell : Option String) : List Char := (cell.getD "").toList

namespace Operand

/-- The operand as a number. -/
def toNumber : Operand → Float
  | .number x => x
  | .text s => parseNumber s.toList

/-- Equality up to case and white space at either end. -/
def equalsCell (operand : Operand) (cell : Option String) : Bool :=
  lower (trim (cellText cell)) = lower (trim operand.render.toList)

/-- Containment up to case. -/
def withinCell (operand : Operand) (cell : Option String) : Bool :=
  occurs (lower operand.render.toList) (lower (cellText cell))

end Operand

/-- Whether a cell stands in the given relation to an operand. -/
def holdsOfCell (operator : Operator) (operand : Operand) (cell : Option String) : Bool :=
  match operator with
  | .equal => operand.equalsCell cell
  | .notEqual => !operand.equalsCell cell
  | .greater => decide (Row.cellNumber cell > operand.toNumber)
  | .greaterOrEqual => decide (Row.cellNumber cell ≥ operand.toNumber)
  | .less => decide (Row.cellNumber cell < operand.toNumber)
  | .lessOrEqual => decide (Row.cellNumber cell ≤ operand.toNumber)
  | .contains => operand.withinCell cell
  | .notContains => !operand.withinCell cell

/-- Whether a condition holds of a row. -/
def Condition.holds (c : Condition) (row : Row) : Bool :=
  holdsOfCell c.operator c.operand (row.lookup? c.field)

/-- Whether a clause holds of a row. -/
def Clause.holds (row : Row) : Clause → Bool
  | .condition c => c.holds row
  | .never _ => false

end Rulebook
