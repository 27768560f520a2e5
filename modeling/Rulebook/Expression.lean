import Rulebook.Condition.Evaluation

/-!
# Expressions

An `Expression` is a disjunction of conjunctions. It holds of a row if all clauses of one of its
groups do: no group at all holds of no row, an empty group of every row.
-/

set_option autoImplicit false

namespace Rulebook

open Text

/-- Alternatives, each a list of clauses that have to hold together. -/
structure Expression where
  groups : List (List Clause)

/-- Puts a text into ascending texts unless it is there. -/
def insertDistinct (s : String) : List String → List String
  | [] => [s]
  | t :: rest =>
      if s < t then s :: t :: rest else if s = t then t :: rest else t :: insertDistinct s rest

namespace Expression

/-- Whether the expression holds of a row. -/
def holds (e : Expression) (row : Row) : Bool :=
  e.groups.any fun group => group.all (Clause.holds row)

/-- The conditions that were recognised, in order. -/
def conditions (e : Expression) : List Condition := e.groups.flatten.filterMap Clause.condition?

/-- The texts that were not recognised, in order. -/
def unrecognized (e : Expression) : List String := e.groups.flatten.filterMap Clause.source?

/-- Whether every group has a clause that was not recognised. -/
def isNever (e : Expression) : Bool := e.groups.all fun group => group.any Clause.isNever

/-- The fields of the conditions in lower case, each once, ascending. -/
def fields (e : Expression) : List String :=
  (e.conditions.map fun c => lowerString c.field).foldr insertDistinct []

/-- Whether a condition is about the field given, in whatever case. -/
def references (e : Expression) (field : String) : Bool := e.fields.contains (lowerString field)

/-- Texts with a connective between them. -/
def joined (connective : Connective) (texts : List String) : String :=
  (" " ++ connective.name ++ " ").intercalate texts

/-- How a group is shown. -/
def renderGroup (group : List Clause) : String := joined .and (group.map Clause.render)

/-- How an expression is shown. A group of several clauses is put in parentheses if it is not the
only group. -/
def render (e : Expression) : String :=
  if e.groups.isEmpty then "<never>"
  else
    joined .or (e.groups.map fun group =>
      if 1 < group.length ∧ 1 < e.groups.length then "(" ++ renderGroup group ++ ")"
      else renderGroup group)

end Expression

end Rulebook
