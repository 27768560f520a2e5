import Rulebook.Proofs.Json.RoundTrip
import Rulebook.Proofs.Row.Cells

/-!
# Rows that are written and read

A row that has no column twice is the row of its cells (`Row.ofCells_cells`), so it is read from its
JSON object with the same columns in the same order (`Row.ofJson?_toJson`).
-/

set_option autoImplicit false

namespace Rulebook

open Json

/-- A new column is written at the end. -/
theorem putCell_of_not_mem {column : String} (v : String) {cells : List (String × String)}
    (h : column ∉ cells.map Prod.fst) : putCell column v cells = cells ++ [(column, v)] := by
  induction cells with
  | nil => rfl
  | cons cell cells ih =>
      rw [List.map_cons, List.mem_cons, not_or] at h
      rw [putCell, if_neg (Ne.symm h.1), ih h.2, List.cons_append]

namespace Row

variable {row : Row}

/-- Put in one after the other, the cells of a row make the row again. -/
theorem ofCells_cells (h : row.columns.Nodup) : ofCells row.cells = row := by
  -- the induction is on the cells still to come; those before them do not hold their columns
  have key : ∀ behind front : List (String × String), ((front ++ behind).map Prod.fst).Nodup →
      behind.foldl (fun row cell => row.insert cell.1 cell.2) (⟨front⟩ : Row) =
        ⟨front ++ behind⟩ := by
    intro behind
    induction behind with
    | nil =>
        intro front _
        rw [List.foldl_nil, List.append_nil]
    | cons cell behind ih =>
        intro front hnodup
        have hnew : cell.1 ∉ front.map Prod.fst := by
          rw [List.map_append, List.map_cons] at hnodup
          exact fun hmem => (List.nodup_append.1 hnodup).2.2 _ hmem _ List.mem_cons_self rfl
        rw [List.append_cons] at hnodup ⊢
        rw [List.foldl_cons, insert, putCell_of_not_mem cell.2 hnew]
        exact ih _ hnodup
  exact key row.cells [] h

/-- A row is read from its JSON object. -/
theorem ofJson?_toJson (h : row.columns.Nodup) : ofJson? row.toJson = some row := by
  have hcells : (row.cells.map fun cell => (cell.1, Json.string cell.2)).mapM
      (fun m => (cellOfJson? m.2).map fun cell => (m.1, cell)) = some row.cells :=
    mapM_map_eq_some _ _ fun _ _ => rfl
  rw [toJson, ofJson?, ofMembers?, hcells, Option.map_some, ofCells_cells h]

theorem writable_toJson {depth : Nat} (hdepth : depth < maxDepth) (row : Row) :
    Writable depth row.toJson :=
  .object hdepth (List.forall_mem_map.2 fun cell _ => .string (depth + 1) cell.2)

end Row

end Rulebook
