import Rulebook.Proofs.Summary.Groups

/-!
# Rows of a summary by the first row of each group

A row of a summary is that of the first row of the table in its group (`summarize_eq_map_firstOf`):
it shows the values of that row (`value?_groupOf`) and counts the rows that are grouped together
with it (`count_groupOf`). So every row of the table belongs to one row of the summary
(`exists_filter_summarize_eq`).
-/

set_option autoImplicit false

namespace Rulebook

variable {key : GroupKey} {rows : List Row} {sumField : Option String}

/-- The row of a summary for the group of a row. -/
def groupOf (rows : List Row) (key : GroupKey) (sumField : Option String) (row : Row) :
    SummaryRow :=
  Tally.toRow key sumField (tallyOver key sumField rows (groupValues key row))

theorem summarize_eq_map_firstOf (rows : List Row) (key : GroupKey) (sumField : Option String) :
    summarize rows key sumField =
      (firstOf (groupValues key) rows).map (groupOf rows key sumField) := by
  rw [summarize_eq, ← map_firstOf, List.map_map]
  rfl

/-- Every row of a summary is that of a row of the table. -/
theorem exists_groupOf_eq {group : SummaryRow} (h : group ∈ summarize rows key sumField) :
    ∃ row ∈ rows, groupOf rows key sumField row = group := by
  rw [summarize_eq_map_firstOf] at h
  obtain ⟨row, hrow, hgroup⟩ := List.mem_map.1 h
  exact ⟨row, mem_of_mem_firstOf hrow, hgroup⟩

/-- Rows are grouped together if they have the same value of every field of the key. -/
theorem groupValues_eq_iff {a b : Row} :
    groupValues key a = groupValues key b ↔
      ∀ field ∈ key.fields, groupValue a field = groupValue b field :=
  List.map_inj_left

/-- A row of a summary has the values of the rows of its group. -/
theorem value?_groupOf (rows : List Row) (sumField : Option String) (row : Row) {field : String}
    (hfield : field ∈ key.fields) :
    (groupOf rows key sumField row).value? field = some (groupValue row field) := by
  have hkeys : (groupOf rows key sumField row).keys =
      key.fields.map fun name => (name, groupValue row name) := by
    calc (groupOf rows key sumField row).keys
        = (key.fields.map id).zip (key.fields.map (groupValue row)) := by
          rw [List.map_id]
          rfl
      _ = key.fields.map fun name => (name, groupValue row name) := List.zip_map'
  have hfound : key.fields.find? (fun name => name = field) = some field := by
    have hsome : (key.fields.find? fun name => name = field).isSome :=
      List.find?_isSome.2 ⟨field, hfield, decide_eq_true rfl⟩
    obtain ⟨name, hname⟩ := Option.isSome_iff_exists.1 hsome
    have hself : name = field := by simpa using List.find?_some hname
    rw [hname, hself]
  rw [SummaryRow.value?, hkeys, List.find?_map]
  change ((key.fields.find? fun name => name = field).map _).map _ = _
  rw [hfound]
  rfl

theorem count_groupOf (rows : List Row) (key : GroupKey) (sumField : Option String) (row : Row) :
    (groupOf rows key sumField row).count =
      rows.countP fun other => groupValues key other == groupValues key row := by
  change (rowsWith key (groupValues key row) rows).length = _
  rw [length_rowsWith, List.count, List.countP_map]
  rfl

/-- The row of a summary shows the values of every row of its group and of no other. -/
theorem shows_groupOf_iff (rows : List Row) (sumField : Option String) (a b : Row) :
    (∀ field ∈ key.fields,
        (groupOf rows key sumField a).value? field = some (groupValue b field)) ↔
      groupValues key a = groupValues key b := by
  rw [groupValues_eq_iff]
  refine forall₂_congr fun field hfield => ?_
  rw [value?_groupOf rows sumField a hfield, Option.some_inj]

/-- Every row of the table belongs to one row of a summary. -/
theorem exists_filter_summarize_eq (key : GroupKey) (sumField : Option String) {row : Row}
    (hrow : row ∈ rows) :
    ∃ group, (summarize rows key sumField).filter (fun group => ∀ field ∈ key.fields,
      group.value? field = some (groupValue row field)) = [group] := by
  have hshows : ∀ a, decide (∀ field ∈ key.fields,
      (groupOf rows key sumField a).value? field = some (groupValue row field)) =
        (groupValues key a == groupValues key row) := by
    intro a
    rw [Bool.eq_iff_iff, decide_eq_true_iff, beq_iff_eq, shows_groupOf_iff]
  obtain ⟨first, hfirst⟩ := exists_filter_firstOf_eq (groupValues key) hrow
  refine ⟨groupOf rows key sumField first, ?_⟩
  rw [summarize_eq_map_firstOf, List.filter_map]
  simp only [Function.comp_def, hshows, hfirst, List.map_singleton]

end Rulebook
