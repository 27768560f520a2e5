import Rulebook.Proofs.Summary.FirstRows
import Rulebook.Proofs.Workbook.Runs

/-!
# Columns that are added up

The name of a field to add up is trimmed, and the columns of the rows are not. So a column is added
up if its name has no white space around it; otherwise the column with the trimmed name is added up
in its place, and if there is none, every sum is zero (`Workbook.change_sum`).
-/

set_option autoImplicit false

namespace Rulebook

open Text

variable {rows : List Row} {key : GroupKey} {field : String}

/-! ## Sums under two fields -/

/-- Summaries that differ in the field that is added up are the same if no sum differs. -/
theorem summarize_eq_iff {a b : Option String} :
    summarize rows key a = summarize rows key b ↔
      ∀ row ∈ rows, (groupOf rows key a row).sum = (groupOf rows key b row).sum := by
  rw [summarize_eq_map_firstOf, summarize_eq_map_firstOf, List.map_inj_left]
  constructor
  · intro hfirst row hrow
    -- the sum is that of the first row of the group
    obtain ⟨first, hfilter⟩ := exists_filter_firstOf_eq (groupValues key) hrow
    have hmem := List.mem_filter.1 (hfilter ▸ List.mem_singleton_self first)
    have hsame : groupValues key first = groupValues key row := eq_of_beq hmem.2
    have hgroup := hfirst first hmem.1
    rw [groupOf, groupOf, hsame] at hgroup
    exact congrArg SummaryRow.sum hgroup
  · intro hsums first hfirst
    have hsum := hsums first (mem_of_mem_firstOf hfirst)
    simp only [groupOf, Tally.toRow, SummaryRow.mk.injEq] at hsum ⊢
    exact ⟨rfl, rfl, hsum⟩

/-- A column that no row has adds up to zero. -/
theorem columnTotal_of_missing (h : ∀ row ∈ rows, row.get? field = none) :
    columnTotal field rows = 0.0 := by
  have hcells : rows.filterMap (fun row => row.get? field) = [] :=
    List.filterMap_eq_nil_iff.2 h
  rw [columnTotal, columnNumbers, hcells]
  rfl

/-- A row has no cell of a column that it has not. -/
theorem Row.get?_eq_none {row : Row} (h : field ∉ row.columns) : row.get? field = none := by
  rw [get?, Option.map_eq_none_iff, List.find?_eq_none]
  intro cell hcell hname
  exact h (of_decide_eq_true hname ▸ List.mem_map_of_mem hcell)

theorem sum_of_missing (h : ∀ row ∈ rows, field ∉ row.columns) :
    ∀ group ∈ summarize rows key (some field), group.sum = some 0.0 := by
  intro group hgroup
  obtain ⟨row, -, rfl⟩ := exists_groupOf_eq hgroup
  have htotal : columnTotal field (rowsWith key (groupValues key row) rows) = 0.0 := by
    apply columnTotal_of_missing
    intro other hother
    exact Row.get?_eq_none (h other (List.mem_of_mem_filter hother))
  have hzero : roundHalfUp 0.0 = 0.0 := by decide
  simp only [groupOf, Tally.toRow, tallyOver, Option.elim_some, Option.map_some, htotal, hzero]

namespace Workbook

/-- A workbook takes any column that is not blank to be added up, and its summary is then that of
its rows under the trimmed name. So the column itself is added up if its name is trimmed; otherwise
the summary is that of the column exactly if in each group its sum is that of the trimmed name, and
a trimmed name that no row has adds up to zero in all groups. -/
theorem change_sum (wb : Workbook) {column : String} (hblank : trimString column ≠ "") :
    ∃ next, wb.change (.sum (some column)) = .ok (.done, next) ∧
      next = { wb with
        sumField := some (trimString column)
        summary := summarize wb.rows wb.groupKey (some (trimString column)) } ∧
      (trimString column = column →
        next.summary = summarize wb.rows wb.groupKey (some column)) ∧
      (next.summary = summarize wb.rows wb.groupKey (some column) ↔ ∀ row ∈ wb.rows,
        (groupOf wb.rows wb.groupKey (some (trimString column)) row).sum =
          (groupOf wb.rows wb.groupKey (some column) row).sum) ∧
      ((∀ row ∈ wb.rows, trimString column ∉ row.columns) →
        ∀ group ∈ next.summary, group.sum = some 0.0) := by
  have hfield : namedField (some column) = some (trimString column) := by
    rw [namedField, Option.bind_some, if_neg hblank]
  have hnext : wb.change (.sum (some column)) = .ok (.done, { wb with
      sumField := some (trimString column)
      summary := summarize wb.rows wb.groupKey (some (trimString column)) }) := by
    rw [← hfield]
    rfl
  refine ⟨_, hnext, rfl, ?_, summarize_eq_iff, sum_of_missing⟩
  intro htrimmed
  simp only [htrimmed]

theorem change_sum_relabelled :
    trimString "Sales" ≠ "" ∧ (∃ row ∈ relabelled.rows, "Sales" ∈ row.columns) ∧
      ∃ next, relabelled.change (.sum (some "Sales")) = .ok (.done, next) ∧
        next.summary = summarize relabelled.rows relabelled.groupKey (some "Sales") ∧
        next.summary.map SummaryRow.sum = [some 10.0, some 0.0] := by
  have hblank : trimString "Sales" ≠ "" := by decide
  obtain ⟨next, hnext, -, hsummed, -, -⟩ := change_sum relabelled hblank
  have hsummary := hsummed (by decide)
  refine ⟨hblank, by decide, next, hnext, hsummary, ?_⟩
  rw [hsummary]
  decide

/-- Rows with a column whose name has white space around it. -/
def spacing : List Change := [.importRows [.ofCells [(" Sales ", "5")]]]

/-- The workbook of these rows. -/
def spaced : Workbook := spacing.foldl after empty

theorem reached_spaced : Reached [.ofCells [(" Sales ", "5")]] spaced :=
  Reached.empty.foldl spacing

/-- A column whose name has white space around it is not added up, though a row has a number in
it. -/
theorem spaced_not_summed :
    Reached [.ofCells [(" Sales ", "5")]] spaced ∧ (∃ row ∈ spaced.rows, " Sales " ∈ row.columns) ∧
      trimString " Sales " ≠ "" ∧
      (spaced.after (.sum (some " Sales "))).summary.map SummaryRow.sum = [some 0.0] ∧
      (summarize spaced.rows spaced.groupKey (some " Sales ")).map SummaryRow.sum = [some 5.0] ∧
      (spaced.after (.sum (some " Sales "))).summary ≠
        summarize spaced.rows spaced.groupKey (some " Sales ") := by
  have hzero : (spaced.after (.sum (some " Sales "))).summary.map SummaryRow.sum = [some 0.0] := by
    decide
  have hfive : (summarize spaced.rows spaced.groupKey (some " Sales ")).map SummaryRow.sum =
      [some 5.0] := by decide
  refine ⟨reached_spaced, by decide, by decide, hzero, hfive, ?_⟩
  intro hsame
  rw [hsame, hfive] at hzero
  exact absurd hzero (by decide)

end Workbook

end Rulebook
