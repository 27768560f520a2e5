import Rulebook.Row.Codec
import Mathlib.Data.List.Nodup

/-!
# Cells of a row

Writing a cell changes nothing but that cell: a search that passes over its column finds the same
cell as before (`find?_putCell`), and a field that does not stand for the column stands for the same
cell as before (`Row.lookup?_insert`). Column names stay different from each other
(`Row.nodup_insert`), and of two values written to a column the second remains
(`Row.insert_insert`).
-/

set_option autoImplicit false

namespace Rulebook

open Text

section Cells

variable {column : String}

theorem putCell_putCell (v w : String) (cells : List (String × String)) :
    putCell column w (putCell column v cells) = putCell column w cells := by
  induction cells with
  | nil => simp [putCell]
  | cons cell cells ih =>
      by_cases h : cell.1 = column
      · simp [putCell, h]
      · simp [putCell, h, ih]

/-- A search that never takes a cell of the column does not see what is written there. -/
theorem find?_putCell {p : String × String → Bool} (h : ∀ v, p (column, v) = false) (v : String)
    (cells : List (String × String)) : (putCell column v cells).find? p = cells.find? p := by
  induction cells with
  | nil => simp [putCell, h]
  | cons cell cells ih =>
      obtain ⟨name, w⟩ := cell
      by_cases hname : name = column
      · subst hname
        simp [putCell, h]
      · simp [putCell, hname, List.find?_cons, ih]

theorem find?_putCell_self (v : String) (cells : List (String × String)) :
    (putCell column v cells).find? (fun cell => cell.1 = column) = some (column, v) := by
  induction cells with
  | nil => simp [putCell]
  | cons cell cells ih =>
      by_cases h : cell.1 = column
      · simp [putCell, h]
      · simp [putCell, h, ih]

/-- The column is added at the end if it is not there. -/
theorem map_fst_putCell (v : String) (cells : List (String × String)) :
    (putCell column v cells).map Prod.fst =
      if column ∈ cells.map Prod.fst then cells.map Prod.fst
      else cells.map Prod.fst ++ [column] := by
  induction cells with
  | nil => simp [putCell]
  | cons cell cells ih =>
      by_cases h : cell.1 = column
      · simp [putCell, h]
      · simp only [putCell, h, if_false, List.map_cons, ih, List.mem_cons, Ne.symm h, false_or]
        split <;> simp

end Cells

theorem sameColumn_self (column : String) : sameColumn column column = true := by
  simp [sameColumn]

namespace Row

variable {row : Row} {column field : String}

theorem insert_insert (row : Row) (column v w : String) :
    (row.insert column v).insert column w = row.insert column w := by
  simp [insert, putCell_putCell]

@[simp] theorem get?_insert_self (row : Row) (column v : String) :
    (row.insert column v).get? column = some v := by
  simp [get?, insert, find?_putCell_self]

theorem get?_insert_of_ne (h : column ≠ field) (v : String) :
    (row.insert column v).get? field = row.get? field := by
  rw [get?, insert, find?_putCell fun _ => by simpa using h, get?]

theorem nodup_insert (h : row.columns.Nodup) (column v : String) :
    (row.insert column v).columns.Nodup := by
  rw [columns, insert, map_fst_putCell]
  split
  · exact h
  · rename_i hnew
    exact List.nodup_append.2 ⟨h, List.nodup_singleton column, fun a ha b hb =>
      ne_of_mem_of_not_mem ha (List.mem_singleton.1 hb ▸ hnew)⟩

/-- A row that is made cell by cell has no column twice. -/
theorem nodup_ofCells (cells : List (String × String)) : (ofCells cells).columns.Nodup := by
  -- the induction is on the cells still to come, over any row made so far
  have key : ∀ row : Row, row.columns.Nodup →
      (cells.foldl (fun row cell => row.insert cell.1 cell.2) row).columns.Nodup := by
    induction cells with
    | nil => exact fun _ h => h
    | cons cell cells ih => exact fun row h => ih _ (nodup_insert h cell.1 cell.2)
  exact key empty List.nodup_nil

/-- Rows are read cell by cell, so no row that is read has a column twice. -/
theorem nodup_of_ofJson? {j : Json} (h : ofJson? j = some row) : row.columns.Nodup := by
  cases j with
  | object members =>
      obtain ⟨cells, -, rfl⟩ := Option.map_eq_some_iff.1 h
      exact nodup_ofCells cells
  | _ => cases h

/-- A field that does not stand for a column stands for the same column whatever is written
there. -/
theorem column_insert (h : sameColumn column field = false) (v : String) :
    (row.insert column v).column field = row.column field := by
  rw [Row.column, insert, find?_putCell fun _ => h, Row.column]

/-- The column that a field stands for is not one that differs from the field in more than case. -/
theorem column_ne (h : sameColumn column field = false) (row : Row) :
    column ≠ row.column field := by
  rintro rfl
  rw [Row.column] at h
  -- the column that is found differs in case only, and without one the field is its own column
  cases hfound : row.cells.find? fun cell => sameColumn cell.1 field with
  | none => simp [hfound, sameColumn_self] at h
  | some cell =>
      have hcell := List.find?_some hfound
      simp [hfound, hcell] at h

/-- What is written to a column is not seen by fields that do not stand for it. -/
theorem lookup?_insert (h : sameColumn column field = false) (v : String) :
    (row.insert column v).lookup? field = row.lookup? field := by
  rw [lookup?, column_insert h, get?_insert_of_ne (column_ne h row), lookup?]

/-! ## Labels -/

theorem withLabel_withLabel (row : Row) (a b : String) :
    (row.withLabel a).withLabel b = row.withLabel b :=
  insert_insert row ruleColumn a b

@[simp] theorem label?_withLabel (row : Row) (label : String) :
    (row.withLabel label).label? = some label :=
  get?_insert_self row ruleColumn label

/-- Two rows that differ at most in their label. -/
def SameData (row other : Row) : Prop := row.withLabel "" = other.withLabel ""

theorem SameData.refl (row : Row) : row.SameData row := rfl

theorem sameData_withLabel (row : Row) (label : String) : row.SameData (row.withLabel label) :=
  (withLabel_withLabel row label "").symm

theorem SameData.trans {a b c : Row} (hab : a.SameData b) (hbc : b.SameData c) : a.SameData c :=
  Eq.trans hab hbc

/-- Once they get the same label, rows that differ at most in their label are the same. -/
theorem SameData.withLabel_eq {other : Row} (h : row.SameData other) (label : String) :
    row.withLabel label = other.withLabel label := by
  rw [← withLabel_withLabel row "", ← withLabel_withLabel other "", show _ = _ from h]

end Row

end Rulebook
