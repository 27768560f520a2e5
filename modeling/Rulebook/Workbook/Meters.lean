import Rulebook.Workbook

/-!
# Meters

`Meters` count what is done to a workbook: the passes that label rows, the rows that got a label and
those that did not, the rules that were refused, and the number of groups of the latest summary.
-/

set_option autoImplicit false

namespace Rulebook

/-- What is done to a rule set when a rule is refused. -/
inductive RuleOperation where
  | add
  | edit
deriving DecidableEq, Repr

/-- The name of an operation. -/
def RuleOperation.name : RuleOperation → String
  | .add => "add"
  | .edit => "edit"

/-- The counts since the beginning. Refusals are kept in order with the kind of reason. -/
structure Meters where
  passes : Nat
  labelled : Nat
  unlabelled : Nat
  groups : Option Nat
  refusals : List (RuleOperation × String)
deriving DecidableEq, Repr

namespace Meters

/-- Nothing has been counted. -/
def zero : Meters := ⟨0, 0, 0, none, []⟩

/-- The number of rows to which some rule applies. -/
def matchCount (rules : RuleSet) (rows : List Row) : Nat :=
  rows.countP fun row => (rules.firstMatch? row).isSome

/-- After a pass that labels the rows of a workbook, which is given as it was before. -/
def countPass (before : Workbook) (m : Meters) : Meters :=
  let found := matchCount before.rules before.rows
  { m with
    passes := m.passes + 1
    labelled := m.labelled + found
    unlabelled := m.unlabelled + (before.rows.length - found) }

/-- After the summary of a workbook was made. -/
def countSummary (wb : Workbook) (m : Meters) : Meters :=
  { m with groups := some wb.summary.length }

/-- After a pass that labels and summarizes. -/
def countRecompute (before : Workbook) (m : Meters) : Meters :=
  (m.countPass before).countSummary before.recompute

/-- After a change that went through; `amended` is the workbook before the pass. -/
def countChange (c : Change) (amended : Workbook) (m : Meters) : Meters :=
  if c.relabels then m.countRecompute amended else m.countSummary amended.resummarize

/-- The operation by which a change puts a rule in. -/
def operation? : Change → Option RuleOperation
  | .addRule _ _ => some .add
  | .editRule _ _ _ => some .edit
  | _ => none

/-- After a change that was refused. Only what is wrong with a rule itself counts. -/
def countRefusal (c : Change) (fault : Fault) (m : Meters) : Meters :=
  match operation? c, fault with
  | some op, .rejected rejection => { m with refusals := m.refusals ++ [(op, rejection.kind)] }
  | _, _ => m

/-- How often an operation was refused for a kind of reason. -/
def refused (m : Meters) (op : RuleOperation) (kind : String) : Nat := m.refusals.count (op, kind)

end Meters

end Rulebook
