import Rulebook.Proofs.Summary.FirstRows

/-!
# Summaries by one field

Under a key of one field the rows of a summary are told apart by their values: a row of the table
belongs to the one row of the summary that has its value (`exists_filter_value_eq`), and a row of
the summary counts the rows of the table with its value (`count_of_mem_summarize`).
-/

set_option autoImplicit false

namespace Rulebook

variable {key : GroupKey} {field : String} {rows : List Row} {sumField : Option String}

theorem groupValues_single (hkey : key.fields = [field]) (row : Row) :
    groupValues key row = [groupValue row field] := by
  rw [groupValues, hkey, List.map_singleton]

theorem exists_filter_value_eq (hkey : key.fields = [field]) (sumField : Option String) {row : Row}
    (hrow : row ∈ rows) :
    ∃ group, (summarize rows key sumField).filter
      (fun group => group.value? field = some (groupValue row field)) = [group] := by
  obtain ⟨group, hgroup⟩ := exists_filter_summarize_eq key sumField hrow
  simp only [hkey, List.forall_mem_singleton] at hgroup
  exact ⟨group, hgroup⟩

/-- A row of a summary counts the rows with its value. -/
theorem count_of_mem_summarize (hkey : key.fields = [field]) {group : SummaryRow}
    (hgroup : group ∈ summarize rows key sumField) {value : String}
    (hvalue : group.value? field = some value) :
    group.count = rows.countP fun row => groupValue row field = value := by
  have hfield : field ∈ key.fields := by
    rw [hkey]
    exact List.mem_singleton_self field
  obtain ⟨row, -, rfl⟩ := exists_groupOf_eq hgroup
  rw [value?_groupOf rows sumField row hfield] at hvalue
  obtain rfl := Option.some.inj hvalue
  rw [count_groupOf]
  apply List.countP_congr
  intro other _
  simp [groupValues_single hkey]

end Rulebook
