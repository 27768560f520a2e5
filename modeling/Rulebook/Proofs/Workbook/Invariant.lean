import Rulebook.Proofs.Workbook.Runs

/-!
# The invariant of workbooks

Every workbook that a run leads to satisfies `Workbook.Invariant`: its rule set is valid, its group
key has distinct fields, no row has a column twice, every row bears a label that is empty or names a
rule that is there now, and the summary is that of the rows. A run may hold any changes in any
order, and those that are refused are passed over.
-/

set_option autoImplicit false

namespace Rulebook

namespace Workbook

/-- What is true of a workbook however it came about. -/
structure Invariant (wb : Workbook) : Prop where
  /-- The order names every slot once, names differ, and all rules are sound. -/
  rules_valid : wb.rules.Valid
  /-- The rules by priority are all rules, each once. -/
  ordered_perm : wb.rules.ordered.Perm wb.rules.rules
  /-- There is a field to group by, and none twice. -/
  groupKey_valid : wb.groupKey.Valid
  /-- A field that is added up is trimmed and not empty. -/
  sumField_named : Named wb.sumField
  columns_nodup : ∀ row ∈ wb.rows, row.columns.Nodup
  /-- Every row has a label, and a label that is not empty is the name of a rule. -/
  labelled : ∀ row ∈ wb.rows, ∃ label, row.label? = some label ∧
    (label = "" ∨ ∃ rule ∈ wb.rules.rules, rule.name = label)
  summary_eq : wb.summary = summarize wb.rows wb.groupKey wb.sumField

/-- The invariant holds after every run, if the rows that came in had no column twice. No row that
is read has one twice (`Row.nodup_of_ofJson?`). -/
theorem Reached.invariant {imported : List Row} {wb : Workbook} (h : Reached imported wb)
    (hrows : ∀ row ∈ imported, row.columns.Nodup) : wb.Invariant := by
  have hvalid := h.rules.valid
  obtain ⟨hkey, hfield⟩ := h.view
  obtain ⟨⟨before, hbefore, hlabelled⟩, hsummary⟩ := h.settled
  -- both facts about rows come from the row that a labelled row was when it came in
  have horigin : ∀ row ∈ wb.rows, ∃ original ∈ imported, ∃ label,
      row = original.withLabel label ∧
        (label = "" ∨ ∃ rule ∈ wb.rules.rules, rule.name = label) := by
    intro row hrow
    rw [hlabelled] at hrow
    exact wb.rules.exists_of_mem_labelRows hbefore hrow
  refine ⟨hvalid, hvalid.ordered_perm, hkey, hfield, ?_, ?_, hsummary⟩
  · intro row hrow
    obtain ⟨original, horiginal, label, rfl, -⟩ := horigin row hrow
    exact Row.nodup_insert (hrows original horiginal) Row.ruleColumn label
  · intro row hrow
    obtain ⟨original, -, label, rfl, hlabel⟩ := horigin row hrow
    exact ⟨label, Row.label?_withLabel original label, hlabel⟩

theorem invariant_relabelled :
    (∀ row ∈ regions, row.columns.Nodup) ∧ relabelled.Invariant ∧
      relabelled.rows.map Row.label? = [some "cold", some ""] ∧
      relabelled.sumField = some "Sales" := by
  have hregions : ∀ row ∈ regions, row.columns.Nodup := by
    simp only [regions, List.mem_cons, List.not_mem_nil, or_false, forall_eq_or_imp, forall_eq]
    exact ⟨Row.nodup_ofCells _, Row.nodup_ofCells _⟩
  exact ⟨hregions, reached_relabelled.invariant hregions, by decide, by decide⟩

end Workbook

end Rulebook
