import Rulebook.Proofs.Workbook.Incremental

/-!
# Restoring what was stored

What is stored of a workbook is accepted again, whatever run led to the workbook, and gives the
workbook after a full pass (`Reached.restore_eq_recompute`). The pass matters only if rules ask for
labels; otherwise a workbook is restored as it was.
-/

set_option autoImplicit false

namespace Rulebook

namespace Workbook

variable {imported : List Row} {wb : Workbook}

/-- The snapshot of a workbook passes every check: names are trimmed, not empty and different from
each other, no text is blank, the order names every slot once, and the fields of the group key and
the field to add up are as they would be put right. -/
theorem Reached.restore_eq_recompute (h : Reached imported wb) :
    restore wb.snapshot = .ok wb.recompute := by
  obtain ⟨hkey, hfield⟩ := h.view
  have hrules : RuleSet.restore wb.rules.drafts wb.rules.order = .ok wb.rules :=
    h.rules.valid.restore_drafts
  refine restore_eq_ok_iff.2 ⟨wb.rules, wb.groupKey, hrules, storedKey_fields hkey, ?_⟩
  -- the summary is made anew by the pass, so it does not matter that it was not stored
  change wb.recompute = recompute ⟨wb.rows, wb.rules, wb.groupKey, namedField wb.sumField, []⟩
  rw [hfield.namedField_eq]
  rfl

/-- A full pass over a workbook whose rules do not ask for labels changes nothing. -/
theorem Reached.recompute_eq (h : Reached imported wb) (hfree : wb.rules.LabelFree) :
    wb.recompute = wb :=
  h.settled.recompute_eq hfree h.settled.sameData wb.summary

/-- A snapshot restores the workbook it was made of, with a full pass made on it. If no rule asks
for labels, this is the workbook itself, and it has the same snapshot again. -/
theorem Reached.restore_own_snapshot (h : Reached imported wb) :
    restore wb.snapshot = .ok wb.recompute ∧
      (wb.rules.LabelFree → restore wb.snapshot = .ok wb ∧
        (restore wb.snapshot).map snapshot = .ok wb.snapshot) := by
  have hrestore : restore wb.snapshot = .ok wb.recompute := h.restore_eq_recompute
  refine ⟨hrestore, fun hfree => ?_⟩
  have hsame : restore wb.snapshot = .ok wb := by rw [hrestore, h.recompute_eq hfree]
  refine ⟨hsame, ?_⟩
  rw [hsame]
  rfl

/-- A rule that applies to rows with the label `old`, and then a row that comes with it. -/
def askedOnce : Workbook :=
  [.addRule "kept" "Rule is old", .importRows [.ofCells [("Rule", "old")]]].foldl after empty

theorem reached_askedOnce : Reached [.ofCells [("Rule", "old")]] askedOnce :=
  Reached.empty.foldl [.addRule "kept" "Rule is old", .importRows [.ofCells [("Rule", "old")]]]

theorem restore_own_snapshot_askedOnce :
    restore askedOnce.snapshot = .ok askedOnce.recompute ∧
      askedOnce.rows.map Row.label? = [some "kept"] ∧
      askedOnce.recompute.rows.map Row.label? = [some ""] ∧
      restore relabelled.snapshot = .ok relabelled := by
  have hfree : relabelled.rules.LabelFree :=
    (by decide : ∀ rule ∈ relabelled.rules.rules, rule.expression.references Row.ruleColumn = false)
  exact ⟨reached_askedOnce.restore_own_snapshot.1, by decide, by decide,
    (reached_relabelled.restore_own_snapshot.2 hfree).1⟩

end Workbook

end Rulebook
