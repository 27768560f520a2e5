import Rulebook.Proofs.Rule.Report
import Rulebook.Proofs.UpToFirst
import Rulebook.Proofs.Workbook.Runs

/-!
# Explanations

`Workbook.explain` goes through the rules by priority with the evaluation that keeps reports, while
labels come from the evaluation that only asks whether a rule applies.
`Reached.explain_agrees` says that both tell the same story: the reports are those on the rules up
to the first that applies, only the last of them can say that its rule applies, and if no rule asks
for labels, the row bears the label to which the reports lead.
-/

set_option autoImplicit false

namespace Rulebook

/-- The label to which reports lead: the name of the rule that applies according to the last one,
or nothing. -/
def Report.verdict (reports : List Report) : String :=
  (reports.getLast?.filter Report.applied).elim "" Report.ruleName

namespace Workbook

/-- The rules that are reported on are those up to the first that applies. -/
theorem exists_reportsUpTo_eq (row : Row) (rules : List Rule) :
    ∃ seen, UpToFirst (fun rule => rule.applies row) rules seen ∧
      reportsUpTo row rules = seen.map fun rule => rule.report true row := by
  induction rules with
  | nil => exact ⟨[], .none (by simp), rfl⟩
  | cons rule rules ih =>
      cases h : rule.applies row with
      | true =>
          refine ⟨[] ++ [rule], .found rfl (by simp) h, ?_⟩
          simp [reportsUpTo, h]
      | false =>
          obtain ⟨seen, hseen, hreports⟩ := ih
          refine ⟨rule :: seen, hseen.cons h, ?_⟩
          simp [reportsUpTo, h, hreports]

/-- The last report, if it says that its rule applies, is the one on the first rule that does. -/
theorem filter_getLast?_reports {row : Row} {rules seen : List Rule}
    (h : UpToFirst (fun rule => rule.applies row) rules seen) :
    (seen.map fun rule => rule.report true row).getLast?.filter Report.applied =
      (rules.find? fun rule => rule.applies row).map fun rule => rule.report true row := by
  have happlied : Report.applied ∘ (fun rule : Rule => rule.report true row) =
      fun rule => rule.applies row :=
    funext fun rule => rule.applied_report true row
  rw [List.getLast?_map, Option.filter_map, happlied, h.filter_getLast?]

/-- A row that is not there has no explanation. For every other row the explanation holds one report
for each rule by priority, up to the first that applies or to the end. No report but the last says
that its rule applies; the last one does exactly if some rule applies, and then it is on the first
that does. If no rule asks for labels, the row bears the name in that report, or an empty label if
there is none. -/
theorem Reached.explain_agrees {imported : List Row} {wb : Workbook} (h : Reached imported wb)
    (index : Nat) :
    (wb.explain index = none ↔ wb.rows.length ≤ index) ∧
    ∀ row, wb.rows[index]? = some row → ∃ seen reports,
      UpToFirst (fun rule => rule.applies row) wb.rules.ordered seen ∧
      wb.explain index = some reports ∧
      reports = (seen.map fun rule => rule.report true row) ∧
      (∀ report ∈ reports.dropLast, report.applied = false) ∧
      ((∃ last ∈ reports.getLast?, last.applied = true) ↔
        (wb.rules.firstMatch? row).isSome = true) ∧
      (∀ rule ∈ wb.rules.firstMatch? row, ∀ last ∈ reports.getLast?, last.ruleName = rule.name) ∧
      (wb.rules.LabelFree → row.label? = some (Report.verdict reports)) := by
  refine ⟨?_, ?_⟩
  · rw [explain, Option.map_eq_none_iff, List.getElem?_eq_none_iff]
  · intro row hrow
    obtain ⟨seen, hseen, hreports⟩ := exists_reportsUpTo_eq row wb.rules.ordered
    -- both the outcome and the label are read off the last report, which this describes
    have hlast : (seen.map fun rule => rule.report true row).getLast?.filter Report.applied =
        (wb.rules.firstMatch? row).map fun rule => rule.report true row :=
      filter_getLast?_reports hseen
    refine ⟨seen, _, hseen, by rw [explain, hrow, Option.map_some, hreports], rfl, ?_, ?_, ?_, ?_⟩
    · intro report hreport
      rw [← List.map_dropLast] at hreport
      obtain ⟨rule, hrule, rfl⟩ := List.mem_map.1 hreport
      rw [Rule.applied_report]
      exact hseen.dropLast rule hrule
    · rw [← Option.isSome_map (f := fun rule => rule.report true row), ← hlast,
        Option.isSome_filter, Option.any_eq_true]
      exact exists_congr fun last => and_congr_left fun _ => Option.mem_def
    · intro rule hrule last hmem
      rw [Option.mem_def.1 hrule, Option.map_some, Option.filter_eq_some_iff] at hlast
      obtain rfl := Option.some.inj (hmem.symm.trans hlast.1)
      exact rule.ruleName_report true row
    · intro hfree
      rw [h.settled.label?_eq hfree (List.mem_of_getElem? hrow), Report.verdict, hlast,
        RuleSet.labelOf]
      cases wb.rules.firstMatch? row with
      | none => rfl
      | some rule => simp

theorem explain_agrees_arranged :
    (∃ row reports, arranged.rows[0]? = some row ∧ arranged.explain 0 = some reports ∧
      reports.map Report.ruleName = ["south", "north"] ∧
      row.label? = some (Report.verdict reports) ∧ Report.verdict reports = "north") ∧
    arranged.explain 2 = none := by
  have hfree : arranged.rules.LabelFree :=
    (by decide : ∀ rule ∈ arranged.rules.rules, rule.expression.references Row.ruleColumn = false)
  obtain ⟨-, hexplained⟩ := reached_arranged.explain_agrees 0
  obtain ⟨seen, reports, -, hreports, -, -, -, -, hlabel⟩ := hexplained _ rfl
  refine ⟨⟨_, reports, rfl, hreports, ?_, hlabel hfree, ?_⟩,
    (reached_arranged.explain_agrees 2).1.2 (by decide)⟩
  · obtain rfl := Option.some.inj hreports
    decide
  · obtain rfl := Option.some.inj hreports
    decide

end Workbook

end Rulebook
