import Rulebook.Rule
import Rulebook.Text.Word

/-!
# Reports on rules

`Rule.report` evaluates a rule on a row and says why it applies: it lists the conditions of the
first group that holds and, if asked, a trace of all clauses that were looked at. Evaluation goes
group by group and stops at the first group that holds; within a group it stops at the first clause
that does not.
-/

set_option autoImplicit false

namespace Rulebook

open Text

/-- What is found when a rule is evaluated on a row. -/
structure Report where
  applied : Bool
  ruleName : String
  conditions : List String
  trace : List String
deriving DecidableEq, Repr

namespace Report

/-- The place of a group. -/
def groupPath (g : Nat) : String := "groups[" ++ numeral g ++ "]"

/-- The place of a clause. -/
def clausePath (g i : Nat) : String := groupPath g ++ ".clauses[" ++ numeral i ++ "]"

/-- A clause with its place. -/
def located (g i : Nat) (clause : Clause) : String := clausePath g i ++ ": " ++ clause.render

/-- The line of a clause that was looked at. -/
def outcomeLine (g i : Nat) (clause : Clause) (held : Bool) : String :=
  located g i clause ++ " => " ++ (if held then "MATCHED" else "NOT_MATCHED")

/-- The line of a group that fails at a clause. -/
def failedLine (g i : Nat) : String :=
  groupPath g ++ ": AND 短路 - 子句 " ++ numeral i ++ " 不匹配"

/-- The line of a group that holds. -/
def heldLine (g : Nat) : String := groupPath g ++ ": OR 短路 - 合取组匹配"

/-- The line of a rule of which no group holds. -/
def noneLine : String := "OR 组无匹配"

/-- A line of the trace, if there is to be one. -/
def noted (traced : Bool) (line : String) : List String := if traced then [line] else []

/-- What is found when a group is evaluated: whether it holds, its clauses as far as they hold, and
the trace. -/
structure GroupReport where
  held : Bool
  conditions : List String
  trace : List String
deriving DecidableEq, Repr

/-- The report on a group from clause number `i` on. -/
def ofClauses (traced : Bool) (row : Row) (g : Nat) : Nat → List Clause → GroupReport
  | _, [] => ⟨true, [], noted traced (heldLine g)⟩
  | i, clause :: clauses =>
      let held := clause.holds row
      let line := noted traced (outcomeLine g i clause held)
      if held then
        let rest := ofClauses traced row g (i + 1) clauses
        ⟨rest.held, located g i clause :: rest.conditions, line ++ rest.trace⟩
      else ⟨false, [], line ++ noted traced (failedLine g i)⟩

/-- The report on the groups of a rule from number `g` on. -/
def ofGroups (traced : Bool) (name : String) (row : Row) : Nat → List (List Clause) → Report
  | _, [] => ⟨false, name, [], noted traced noneLine⟩
  | g, group :: groups =>
      let found := ofClauses traced row g 0 group
      if found.held then ⟨true, name, found.conditions, found.trace⟩
      else
        let rest := ofGroups traced name row (g + 1) groups
        { rest with trace := found.trace ++ rest.trace }

end Report

/-- The report on a rule and a row. Without `traced` it has no trace. -/
def Rule.report (traced : Bool) (rule : Rule) (row : Row) : Report :=
  Report.ofGroups traced rule.name row 0 rule.expression.groups

end Rulebook
