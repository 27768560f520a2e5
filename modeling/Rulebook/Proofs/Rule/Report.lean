import Rulebook.Rule.Report

/-!
# What a report says

A report is made group by group and clause by clause, and stops as soon as the outcome is settled;
`Expression.holds` asks at once whether some group holds altogether. Both come to the same:
according to its report a rule applies exactly if it does (`Rule.applied_report`), whatever is
traced, and the report bears the name of the rule (`Rule.ruleName_report`). Lines are kept along the
way or not; nothing else in the report depends on it (`Rule.report_false`).
-/

set_option autoImplicit false

namespace Rulebook

namespace Report

variable (traced : Bool) (name : String) (row : Row)

/-! ## Outcomes -/

/-- A group is found to hold if all of its clauses do, wherever the numbering begins. -/
theorem held_ofClauses (g i : Nat) (clauses : List Clause) :
    (ofClauses traced row g i clauses).held = clauses.all (Clause.holds row) := by
  induction clauses generalizing i with
  | nil => rfl
  | cons clause clauses ih =>
      by_cases h : clause.holds row
      · simp [ofClauses, h, ih]
      · -- the clauses behind the first that fails are not looked at
        simp [ofClauses, h]

theorem applied_ofGroups (g : Nat) (groups : List (List Clause)) :
    (ofGroups traced name row g groups).applied =
      groups.any fun group => group.all (Clause.holds row) := by
  induction groups generalizing g with
  | nil => rfl
  | cons group groups ih =>
      rw [List.any_cons, ← held_ofClauses traced row g 0 group]
      cases h : (ofClauses traced row g 0 group).held with
      | true => simp [ofGroups, h]
      | false => simp [ofGroups, h, ih]

theorem ruleName_ofGroups (g : Nat) (groups : List (List Clause)) :
    (ofGroups traced name row g groups).ruleName = name := by
  induction groups generalizing g with
  | nil => rfl
  | cons group groups ih =>
      cases h : (ofClauses traced row g 0 group).held with
      | true => simp [ofGroups, h]
      | false => simp [ofGroups, h, ih]

/-! ## Without a trace -/

/-- A group is evaluated in the same way whether its lines are kept or not. -/
theorem ofClauses_false (g i : Nat) (clauses : List Clause) :
    ofClauses false row g i clauses = { ofClauses true row g i clauses with trace := [] } := by
  induction clauses generalizing i with
  | nil => rfl
  | cons clause clauses ih =>
      by_cases h : clause.holds row
      · simp [ofClauses, noted, h, ih]
      · simp [ofClauses, noted, h]

theorem ofGroups_false (g : Nat) (groups : List (List Clause)) :
    ofGroups false name row g groups = { ofGroups true name row g groups with trace := [] } := by
  induction groups generalizing g with
  | nil => rfl
  | cons group groups ih =>
      cases h : (ofClauses true row g 0 group).held with
      | true => simp [ofGroups, ofClauses_false, h]
      | false => simp [ofGroups, ofClauses_false, h, ih]

end Report

namespace Rule

/-- A report says that the rule applies exactly if it does. -/
@[simp] theorem applied_report (traced : Bool) (rule : Rule) (row : Row) :
    (rule.report traced row).applied = rule.applies row :=
  Report.applied_ofGroups traced rule.name row 0 rule.expression.groups

@[simp] theorem ruleName_report (traced : Bool) (rule : Rule) (row : Row) :
    (rule.report traced row).ruleName = rule.name :=
  Report.ruleName_ofGroups traced rule.name row 0 rule.expression.groups

/-- Without a trace a report says the same but for the trace. -/
theorem report_false (rule : Rule) (row : Row) :
    rule.report false row = { rule.report true row with trace := [] } :=
  Report.ofGroups_false rule.name row 0 rule.expression.groups

end Rule

end Rulebook
