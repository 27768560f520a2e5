/-!
# Operators of conditions

`Operator` compares a cell with an operand, `Connective` joins conditions. Both have a name for
storage and a spelling for rule texts.
-/

set_option autoImplicit false

namespace Rulebook

/-- How a condition compares a cell with its operand. -/
inductive Operator where
  | equal
  | notEqual
  | greater
  | greaterOrEqual
  | less
  | lessOrEqual
  | contains
  | notContains
deriving DecidableEq, Repr

namespace Operator

/-- All operators. -/
def all : List Operator :=
  [equal, notEqual, greater, greaterOrEqual, less, lessOrEqual, contains, notContains]

/-- The operators that compare numbers. -/
def isRelational : Operator → Bool
  | greater | greaterOrEqual | less | lessOrEqual => true
  | equal | notEqual | contains | notContains => false

/-- The spelling in which a condition is shown. -/
def symbol : Operator → String
  | equal => "is"
  | notEqual => "is not"
  | greater => ">"
  | greaterOrEqual => ">="
  | less => "<"
  | lessOrEqual => "<="
  | contains => "contains"
  | notContains => "does not contain"

/-- The name under which an operator is stored. -/
def name : Operator → String
  | equal => "eq"
  | notEqual => "neq"
  | greater => "gt"
  | greaterOrEqual => "gte"
  | less => "lt"
  | lessOrEqual => "lte"
  | contains => "contains"
  | notContains => "not_contains"

/-- The operator of a name. -/
def ofName? (s : String) : Option Operator := all.find? fun op => op.name = s

end Operator

/-- What joins the conditions of a rule text. -/
inductive Connective where
  | and
  | or
deriving DecidableEq, Repr

namespace Connective

/-- The word that joins conditions in a rule text. -/
def keyword : Connective → String
  | and => "and"
  | or => "or"

/-- The name under which a connective is shown and stored. -/
def name : Connective → String
  | and => "AND"
  | or => "OR"

/-- The connective of a name. -/
def ofName? (s : String) : Option Connective := [and, or].find? fun c => c.name = s

end Connective

end Rulebook
