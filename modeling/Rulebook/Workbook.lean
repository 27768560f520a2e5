import Rulebook.Rule.Report
import Rulebook.RuleSet
import Rulebook.Summary

/-!
# Workbooks

A `Workbook` holds rows, rules, a group key and a field to add up, and with them the labels of the
rows and the summary. A `Change` is amended into it first (`Workbook.amend`); then a pass puts
labels and summary right (`Workbook.refresh`). A change that is refused leaves no trace.
-/

set_option autoImplicit false

namespace Rulebook

/-- A table with its rules and its summary. -/
structure Workbook where
  rows : List Row
  rules : RuleSet
  groupKey : GroupKey
  sumField : Option String
  summary : List SummaryRow

/-- What may be changed in a workbook. -/
inductive Change where
  | importRows (rows : List Row)
  | addRule (name text : String)
  | editRule (slot : Nat) (name text : String)
  | deleteRule (slot : Nat)
  | moveRule (slot : Nat) (direction : Direction)
  | group (fields : List String)
  | regroup (selection : List String)
  | sum (field : Option String)
  | recompute
deriving DecidableEq, Repr

/-- What a change gives back. -/
inductive Effect where
  | done
  | added (slot : Nat)
  | removed (rule : Rule)
  | moved (changed : Bool)

/-- Whether labels have to be put right after a change. -/
def Change.relabels : Change → Bool
  | .group _ | .regroup _ | .sum _ => false
  | .importRows _ | .addRule _ _ | .editRule _ _ _ | .deleteRule _ | .moveRule _ _ => true
  | .recompute => true

/-- A field that is given and not blank, trimmed. -/
def namedField (field : Option String) : Option String :=
  field.bind fun s => if Text.trimString s = "" then none else some (Text.trimString s)

/-- The label of a row under a rule set: the name of the first rule that applies, or nothing. -/
def RuleSet.labelOf (set : RuleSet) (row : Row) : String :=
  (set.firstMatch? row).elim "" Rule.name

/-- The rows with their labels. Rules that ask for the label see the one that a row had before. -/
def RuleSet.labelRows (set : RuleSet) (rows : List Row) : List Row :=
  rows.map fun row => row.withLabel (set.labelOf row)

namespace Workbook

/-- The workbook without rows and rules. -/
def empty : Workbook := ⟨[], .empty, .standard, none, []⟩

/-! ## Passes -/

/-- The workbook with its summary put right. -/
def resummarize (wb : Workbook) : Workbook :=
  { wb with summary := summarize wb.rows wb.groupKey wb.sumField }

/-- The workbook with labels and summary put right. -/
def recompute (wb : Workbook) : Workbook :=
  resummarize { wb with rows := wb.rules.labelRows wb.rows }

/-- The pass that follows a change. -/
def refresh (change : Change) (wb : Workbook) : Workbook :=
  if change.relabels then wb.recompute else wb.resummarize

/-! ## Changes -/

/-- The workbook with a change in its data, before any pass. -/
def amend (wb : Workbook) : Change → Except Fault (Effect × Workbook)
  | .importRows rows => .ok (.done, { wb with rows := rows })
  | .addRule name text => do
      let (slot, rules) ← (wb.rules.add name text).mapError .rejected
      return (.added slot, { wb with rules := rules })
  | .editRule slot name text => do
      let rules ← wb.rules.edit slot name text
      return (.done, { wb with rules := rules })
  | .deleteRule slot => do
      let (rule, rules) ← wb.rules.delete slot
      return (.removed rule, { wb with rules := rules })
  | .moveRule slot direction =>
      let (changed, rules) := wb.rules.move slot direction
      .ok (.moved changed, { wb with rules := rules })
  | .group fields => do
      let key ← (GroupKey.ofFields fields).mapError .rejected
      return (.done, { wb with groupKey := key })
  | .regroup selection => do
      let key ← (wb.groupKey.reselect selection).mapError .rejected
      return (.done, { wb with groupKey := key })
  | .sum field => .ok (.done, { wb with sumField := namedField field })
  | .recompute => .ok (.done, wb)

/-- The workbook after a change, or why it is refused. -/
def change (wb : Workbook) (c : Change) : Except Fault (Effect × Workbook) :=
  (wb.amend c).map fun amended => (amended.1, amended.2.refresh c)

/-- The workbook after a change; a change that is refused is passed over. -/
def after (wb : Workbook) (c : Change) : Workbook :=
  match wb.change c with
  | .ok (_, next) => next
  | .error _ => wb

/-! ## Questions -/

/-- The columns of the first row. -/
def columns (wb : Workbook) : List String := wb.rows.head?.elim [] Row.columns

/-- The reports on the rules given, up to the first one that applies. -/
def reportsUpTo (row : Row) : List Rule → List Report
  | [] => []
  | rule :: rules =>
      let found := rule.report true row
      if found.applied then [found] else found :: reportsUpTo row rules

/-- Why a row bears its label: the reports on the rules by priority, up to the first that
applies. -/
def explain (wb : Workbook) (index : Nat) : Option (List Report) :=
  wb.rows[index]?.map fun row => reportsUpTo row wb.rules.ordered

end Workbook

end Rulebook
