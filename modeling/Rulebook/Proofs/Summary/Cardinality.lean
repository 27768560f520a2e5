import Rulebook.Proofs.GroupKey
import Rulebook.Proofs.Summary.OneField

/-!
# Different values and groups

The values of a field are counted with missing cells as empty ones, and rows are grouped with empty
cells as "Unmatched". So a summary by one field has one row for each different value, unless the
field also has cells with this very text: these share their group with the empty ones
(`length_summarize_field`).
-/

set_option autoImplicit false

namespace Rulebook

variable {rows : List Row} {field : String}

/-- A row is grouped by its cell, and one without a cell as one with an empty cell. -/
theorem groupValue_eq_ite (row : Row) (field : String) :
    groupValue row field =
      if (row.get? field).getD "" = "" then unmatched else (row.get? field).getD "" := by
  rw [groupValue]
  cases row.get? field with
  | none => rfl
  | some value => rfl

/-- Under a key of one field there are as many groups as values by which rows are grouped. -/
theorem length_summarize_single {key : GroupKey} (hkey : key.fields = [field]) (rows : List Row)
    (sumField : Option String) :
    (summarize rows key sumField).length =
      (rows.map fun row => groupValue row field).eraseDups.length := by
  have hkinds : ∀ a b : Row, groupValues key a = groupValues key b ↔
      groupValue a field = groupValue b field := by
    intro a b
    simp [groupValues_single hkey]
  rw [summarize_eq_map_firstOf, List.length_map, firstOf_congr hkinds, ← map_firstOf,
    List.length_map]

/-- The empty values of a field are its missing and its empty cells. -/
theorem empty_mem_cells_iff :
    ("" ∈ rows.map fun row => (row.get? field).getD "") ↔
      ∃ row ∈ rows, row.get? field = none ∨ row.get? field = some "" := by
  rw [List.mem_map]
  refine exists_congr fun row => and_congr_right fun _ => ?_
  cases row.get? field with
  | none => simp
  | some value => simp

/-- The other values of a field are texts of its cells. -/
theorem mem_cells_iff {value : String} (h : value ≠ "") :
    (value ∈ rows.map fun row => (row.get? field).getD "") ↔
      ∃ row ∈ rows, row.get? field = some value := by
  rw [List.mem_map]
  refine exists_congr fun row => and_congr_right fun _ => ?_
  cases row.get? field with
  | none => simp [h.symm]
  | some cell => simp

/-- A summary by one field has as many rows as the field has different values, where a missing cell
counts as an empty one; it has just one less if there are both a missing or empty cell and a cell
with the text under which such cells are grouped. -/
theorem length_summarize_field (rows : List Row) (field : String) (sumField : Option String) :
    ∃ key, GroupKey.ofFields [field] = .ok key ∧
      (summarize rows key sumField).length +
          (if (∃ row ∈ rows, row.get? field = none ∨ row.get? field = some "") ∧
            ∃ row ∈ rows, row.get? field = some unmatched then 1 else 0) =
        cardinality rows field := by
  have hgrouped : (rows.map fun row => groupValue row field) =
      (rows.map fun row => (row.get? field).getD "").map
        fun value => if value = "" then unmatched else value := by
    rw [List.map_map]
    exact List.map_congr_left fun row _ => groupValue_eq_ite row field
  have hne : "" ≠ unmatched := by decide
  refine ⟨⟨[field]⟩, GroupKey.ofFields_eq_ok_iff.2 ⟨⟨by simp, by simp⟩, rfl⟩, ?_⟩
  rw [length_summarize_single rfl, hgrouped, cardinality]
  simp only [← empty_mem_cells_iff, ← mem_cells_iff hne.symm]
  exact length_eraseDups_replaced hne _

/-- A summary has fewer rows than its field has values. -/
example : (summarize [.ofCells [("Region", "Unmatched")], .ofCells [("Region", "")], .empty]
    ⟨["Region"]⟩ none).length = 1 ∧
    cardinality [.ofCells [("Region", "Unmatched")], .ofCells [("Region", "")], .empty] "Region" =
      2 := by
  decide

end Rulebook
