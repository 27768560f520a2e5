import Rulebook.Proofs.Workbook.Runs

/-!
# Changes one by one and all at once

A workbook is kept up to date change by change: labels are written over the labels of earlier passes
under earlier rules. `Reached.restore_snapshot` says that nothing of this is left behind. If no rule
asks for labels now, the workbook is the one that is made at once from the rows as they came in, the
rules, the group key and the field to add up. Rules that asked for labels earlier do not matter.
-/

set_option autoImplicit false

namespace Rulebook

namespace Workbook

/-- A full pass over rows that differ from the ones put in at most in their labels gives a settled
workbook again, whatever these labels and the summary were. -/
theorem Settled.recompute_eq {imported : List Row} {wb : Workbook} (h : Settled imported wb)
    (hfree : wb.rules.LabelFree) {rows : List Row}
    (hrows : List.Forall₂ Row.SameData imported rows) (summary : List SummaryRow) :
    recompute ⟨rows, wb.rules, wb.groupKey, wb.sumField, summary⟩ = wb := by
  obtain ⟨⟨before, hbefore, hlabelled⟩, hsummary⟩ := h
  -- both ways the labels are those that the rules give to the rows as they were put in
  have hlabels : wb.rules.labelRows rows = wb.rows := by
    rw [hlabelled, ← RuleSet.labelRows_congr hfree hrows, RuleSet.labelRows_congr hfree hbefore]
  calc recompute ⟨rows, wb.rules, wb.groupKey, wb.sumField, summary⟩
      = ⟨wb.rows, wb.rules, wb.groupKey, wb.sumField,
          summarize wb.rows wb.groupKey wb.sumField⟩ := by
        rw [recompute, resummarize, hlabels]
    _ = wb := by rw [← hsummary]

/-- If no rule asks for labels, a workbook is restored from the rows that were put in last and what
is stored of everything else, and a full pass changes nothing in it. -/
theorem Reached.restore_snapshot {imported : List Row} {wb : Workbook} (h : Reached imported wb)
    (hfree : wb.rules.LabelFree) :
    restore { wb.snapshot with rows := imported } = .ok wb ∧ wb.recompute = wb := by
  obtain ⟨hkey, hfield⟩ := h.view
  have hsame : List.Forall₂ Row.SameData imported imported :=
    List.forall₂_same.2 fun row _ => Row.SameData.refl row
  refine ⟨restore_eq_ok_iff.2 ⟨wb.rules, wb.groupKey, h.rules.valid.restore_drafts,
    storedKey_fields hkey, ?_⟩, h.settled.recompute_eq hfree h.settled.sameData wb.summary⟩
  change wb = recompute ⟨imported, wb.rules, wb.groupKey, namedField wb.sumField, []⟩
  rw [hfield.namedField_eq]
  exact (h.settled.recompute_eq hfree hsame []).symm

theorem restore_snapshot_relabelled :
    relabelled.rules.LabelFree ∧
      restore { relabelled.snapshot with rows := regions } = .ok relabelled ∧
      relabelled.recompute = relabelled := by
  have hfree : relabelled.rules.LabelFree :=
    (by decide : ∀ rule ∈ relabelled.rules.rules, rule.expression.references Row.ruleColumn = false)
  exact ⟨hfree, reached_relabelled.restore_snapshot hfree⟩

end Workbook

end Rulebook
