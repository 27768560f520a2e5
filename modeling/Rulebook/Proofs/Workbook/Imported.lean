import Rulebook.Proofs.Workbook.Runs

/-!
# Imported rows

To write a cell leaves everything else of a row where and as it is: the column keeps its place if it
is there, and comes last if it is not (`WritesCell`, `writesCell_putCell`). Labels are all that a
workbook ever writes, and each pass writes over those of the pass before. So after any run the rows
are the ones that were put in last, in the same order, each with one cell written
(`Reached.rows_imported`).
-/

set_option autoImplicit false

namespace Rulebook

/-- Cells before and after one column is written: the cells around it are the same, and a column
that was not there is added at the end. -/
inductive WritesCell (column : String) :
    List (String × String) → List (String × String) → Prop where
  | inPlace {front : List (String × String)} (old new : String) (back : List (String × String)) :
      column ∉ front.map Prod.fst →
      WritesCell column (front ++ (column, old) :: back) (front ++ (column, new) :: back)
  | atEnd {cells : List (String × String)} (new : String) : column ∉ cells.map Prod.fst →
      WritesCell column cells (cells ++ [(column, new)])

namespace WritesCell

variable {column : String} {cells after : List (String × String)}

/-- A cell of another column in front does not matter. -/
theorem cons {cell : String × String} (hcell : cell.1 ≠ column)
    (h : WritesCell column cells after) :
    WritesCell column (cell :: cells) (cell :: after) := by
  have hfront : ∀ front : List (String × String), column ∉ front.map Prod.fst →
      column ∉ (cell :: front).map Prod.fst := by
    intro front hnew hmem
    rcases List.mem_cons.1 hmem with heq | hmem
    · exact hcell heq.symm
    · exact hnew hmem
  cases h with
  | inPlace old new back hnew => exact .inPlace old new back (hfront _ hnew)
  | atEnd new hnew => exact .atEnd new (hfront _ hnew)

end WritesCell

/-- To put a value to its name writes one cell. -/
theorem writesCell_putCell (column value : String) (cells : List (String × String)) :
    WritesCell column cells (putCell column value cells) := by
  induction cells with
  | nil => exact .atEnd value (by simp)
  | cons cell cells ih =>
      rw [putCell]
      split
      · -- the search ends here, with nothing of the column in front
        rename_i hcell
        obtain ⟨name, old⟩ := cell
        obtain rfl : name = column := hcell
        have hfront : name ∉ ([] : List (String × String)).map Prod.fst := by simp
        exact .inPlace old value cells hfront
      · -- the cell in front is one of another column
        rename_i hcell
        exact ih.cons hcell

/-- A label that is written over another one is written over the cells that the row came with. -/
theorem Row.SameData.writesCell {row other : Row} (h : row.SameData other) (label : String) :
    WritesCell ruleColumn row.cells (other.withLabel label).cells := by
  rw [← h.withLabel_eq label]
  exact writesCell_putCell ruleColumn label row.cells

namespace Workbook

/-- After every run the rows are the ones that were put in last, as many and in the same order. Each
has its label written, at the place where it came with one or else at the end, and all its other
cells are as they came: the same columns in the same order with the same texts. -/
theorem Reached.rows_imported {imported : List Row} {wb : Workbook} (h : Reached imported wb) :
    List.Forall₂ (fun original row => WritesCell Row.ruleColumn original.cells row.cells)
      imported wb.rows := by
  obtain ⟨before, hbefore, hrows⟩ := h.settled.labelled
  rw [hrows]
  apply List.forall₂_map_right_iff.2
  refine hbefore.imp ?_
  -- whatever labels earlier passes wrote are gone once the row is labelled again
  intro original row hsame
  exact hsame.writesCell (wb.rules.labelOf row)

theorem rows_imported_relabelled :
    regions.map Row.cells =
        [[("Region", "North"), ("Sales", "10")], [("Rule", "old"), ("Region", "South")]] ∧
      relabelled.rows.map Row.cells =
        [[("Region", "North"), ("Sales", "10"), ("Rule", "cold")],
          [("Rule", ""), ("Region", "South")]] ∧
      List.Forall₂ (fun original row => WritesCell Row.ruleColumn original.cells row.cells)
        regions relabelled.rows :=
  ⟨by decide, by decide, reached_relabelled.rows_imported⟩

end Workbook

end Rulebook
