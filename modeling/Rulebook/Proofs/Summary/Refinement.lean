import Rulebook.Proofs.Summary.FirstRows

/-!
# Keys that refine one another

Which rows of a table are grouped together depends on the fields of the key only as a set. So the
order of the fields is seen in nothing but the order of the columns (`summarize_perm`). With more
fields the groups become smaller: those of the smaller key are put together from those of the larger
one, and are first seen in the same order (`summarize_drill_down`).
-/

set_option autoImplicit false

namespace Rulebook

variable {key other : GroupKey}

/-! ## The order of the fields -/

section Permuted

variable (h : key.fields.Perm other.fields)

include h

theorem groupValues_eq_iff_of_perm {a b : Row} :
    groupValues key a = groupValues key b ↔ groupValues other a = groupValues other b := by
  rw [groupValues_eq_iff, groupValues_eq_iff]
  constructor
  · intro hsame field hfield
    exact hsame field (h.mem_iff.2 hfield)
  · intro hsame field hfield
    exact hsame field (h.mem_iff.1 hfield)

theorem rowsWith_of_perm (rows : List Row) (row : Row) :
    rowsWith key (groupValues key row) rows = rowsWith other (groupValues other row) rows := by
  apply List.filter_congr
  intro candidate _
  rw [decide_eq_decide]
  exact groupValues_eq_iff_of_perm h

/-- The group of a row has the same rows in both summaries, in the same order, and so the same sum
to the last bit. -/
theorem sum_groupOf_of_perm (rows : List Row) (sumField : Option String) (row : Row) :
    (groupOf rows key sumField row).sum = (groupOf rows other sumField row).sum := by
  simp only [groupOf, Tally.toRow, tallyOver, rowsWith_of_perm h]

/-- Keys with the same fields in whatever order give summaries of the same length, which have row by
row the same count, the same sum and the same value of each field. -/
theorem summarize_perm (rows : List Row) (sumField : Option String) :
    (summarize rows key sumField).length = (summarize rows other sumField).length ∧
    List.Forall₂ (fun a b => a.count = b.count ∧ a.sum = b.sum ∧
        ∀ field ∈ key.fields, ∃ value, a.value? field = some value ∧ b.value? field = some value)
      (summarize rows key sumField) (summarize rows other sumField) := by
  -- both summaries are made of the same rows, the first ones of the same groups
  have hfirst : firstOf (groupValues key) rows = firstOf (groupValues other) rows :=
    firstOf_congr (fun _ _ => groupValues_eq_iff_of_perm h) rows
  rw [summarize_eq_map_firstOf, summarize_eq_map_firstOf, ← hfirst]
  refine ⟨by rw [List.length_map, List.length_map], ?_⟩
  rw [List.forall₂_map_left_iff, List.forall₂_map_right_iff]
  apply List.forall₂_same.2
  intro row _
  refine ⟨?_, sum_groupOf_of_perm h rows sumField row, ?_⟩
  · change (rowsWith key _ rows).length = (rowsWith other _ rows).length
    rw [rowsWith_of_perm h]
  · intro field hfield
    exact ⟨groupValue row field, value?_groupOf rows sumField row hfield,
      value?_groupOf rows sumField row (h.mem_iff.1 hfield)⟩

end Permuted

/-- Two groups have a product in common, and one row has no region. -/
def sales : List Row :=
  [.ofCells [("Region", "N"), ("Product", "a"), ("Sales", "2.5")],
    .ofCells [("Region", ""), ("Product", "b"), ("Sales", "1")],
    .ofCells [("Region", "N"), ("Product", "a"), ("Sales", "x")],
    .ofCells [("Region", "N"), ("Product", "b")]]

theorem summarize_perm_sales :
    ["Region", "Product"].Perm ["Product", "Region"] ∧
    (summarize sales ⟨["Region", "Product"]⟩ (some "Sales")).map SummaryRow.count = [2, 1, 1] ∧
    List.Forall₂ (fun a b => a.count = b.count ∧ a.sum = b.sum ∧
        ∀ field ∈ ["Region", "Product"],
          ∃ value, a.value? field = some value ∧ b.value? field = some value)
      (summarize sales ⟨["Region", "Product"]⟩ (some "Sales"))
      (summarize sales ⟨["Product", "Region"]⟩ (some "Sales")) := by
  have hperm : ["Region", "Product"].Perm ["Product", "Region"] := by decide
  exact ⟨hperm, by decide, (summarize_perm hperm sales (some "Sales")).2⟩

/-! ## More fields -/

section Refined

variable (h : key.fields ⊆ other.fields)

include h

/-- Rows that are grouped together by more fields are so by fewer. -/
theorem groupValues_eq_of_subset {a b : Row} (hsame : groupValues other a = groupValues other b) :
    groupValues key a = groupValues key b := by
  rw [groupValues_eq_iff] at hsame ⊢
  intro field hfield
  exact hsame field (h hfield)

/-- A row of the larger key shows on the fields of the smaller one what the row of the table shows
that it is for. -/
theorem value?_groupOf_of_subset (rows : List Row) (otherSum : Option String) (row : Row)
    {field : String} (hfield : field ∈ key.fields) :
    (groupOf rows other otherSum row).value? field = some (groupValue row field) :=
  value?_groupOf rows otherSum row (h hfield)

/-- What a row of the larger key counts is part of what the row that agrees with it counts. -/
theorem count_groupOf_eq_sum (rows : List Row) (sumField otherSum : Option String) (row : Row) :
    (groupOf rows key sumField row).count =
      (((summarize rows other otherSum).filter fun b => ∀ field ∈ key.fields,
        (groupOf rows key sumField row).value? field = b.value? field).map
          SummaryRow.count).sum := by
  have hagrees : ∀ b, decide (∀ field ∈ key.fields, (groupOf rows key sumField row).value? field =
      (groupOf rows other otherSum b).value? field) =
        (groupValues key b == groupValues key row) := by
    intro b
    rw [Bool.eq_iff_iff, decide_eq_true_iff, beq_iff_eq, eq_comm,
      ← shows_groupOf_iff rows sumField row b]
    refine forall₂_congr fun field hfield => ?_
    rw [value?_groupOf_of_subset h rows otherSum b hfield]
  -- the larger key tells apart whatever the smaller one does
  have hfiner : ∀ a b, groupValues other a = groupValues other b →
      (groupValues key a == groupValues key row) = (groupValues key b == groupValues key row) := by
    intro a b hsame
    rw [groupValues_eq_of_subset h hsame]
  rw [summarize_eq_map_firstOf, List.filter_map, List.map_map, count_groupOf,
    ← sum_countP_firstOf hfiner]
  simp only [Function.comp_def, hagrees, count_groupOf]

/-- The values of a row of the larger key on the fields of the smaller one. -/
theorem map_value?_groupOf (rows : List Row) (otherSum : Option String) (row : Row) :
    key.fields.map (groupOf rows other otherSum row).value? =
      (groupValues key row).map some := by
  rw [groupValues, List.map_map]
  apply List.map_congr_left
  intro field hfield
  exact value?_groupOf_of_subset h rows otherSum row hfield

/-- If the fields of a key are among those of another one, every row of its summary counts what the
rows of the other summary count that agree with it on its fields; every row of the other summary
agrees with exactly one of its rows; and its rows stand in the order in which their values are first
seen in the other summary. -/
theorem summarize_drill_down (rows : List Row) (sumField otherSum : Option String) :
    (∀ a ∈ summarize rows key sumField, a.count =
      (((summarize rows other otherSum).filter fun b =>
        ∀ field ∈ key.fields, a.value? field = b.value? field).map SummaryRow.count).sum) ∧
    (∀ b ∈ summarize rows other otherSum, ∃ a,
      (summarize rows key sumField).filter (fun a =>
        ∀ field ∈ key.fields, a.value? field = b.value? field) = [a]) ∧
    (summarize rows key sumField).map (fun a => key.fields.map a.value?) =
      ((summarize rows other otherSum).map fun b => key.fields.map b.value?).eraseDups := by
  refine ⟨?_, ?_, ?_⟩
  · intro a ha
    obtain ⟨row, -, rfl⟩ := exists_groupOf_eq ha
    exact count_groupOf_eq_sum h rows sumField otherSum row
  · intro b hb
    obtain ⟨row, hrow, rfl⟩ := exists_groupOf_eq hb
    obtain ⟨a, ha⟩ := exists_filter_summarize_eq key sumField hrow
    refine ⟨a, Eq.trans (List.filter_congr fun c _ => ?_) ha⟩
    rw [decide_eq_decide]
    refine forall₂_congr fun field hfield => ?_
    rw [value?_groupOf_of_subset h rows otherSum row hfield]
  · have hself : key.fields ⊆ key.fields := List.Subset.refl _
    have hkinds : ∀ a b, groupValues key a = groupValues key b ↔
        (groupValues key a).map some = (groupValues key b).map some := by
      intro a b
      exact (List.map_inj_right fun _ _ => Option.some.inj).symm
    have hfiner : ∀ a b, groupValues other a = groupValues other b →
        (groupValues key a).map some = (groupValues key b).map some := by
      intro a b hsame
      rw [groupValues_eq_of_subset h hsame]
    rw [summarize_eq_map_firstOf, summarize_eq_map_firstOf, List.map_map, List.map_map]
    simp only [Function.comp_def, map_value?_groupOf hself, map_value?_groupOf h]
    -- both sides list what is seen of the values in the table itself
    rw [eraseDups_map_firstOf hfiner, ← map_firstOf, firstOf_congr hkinds]

end Refined

theorem summarize_drill_down_sales :
    ["Region"] ⊆ ["Product", "Region"] ∧
    (summarize sales ⟨["Region"]⟩ none).map SummaryRow.count = [3, 1] ∧
    (summarize sales ⟨["Product", "Region"]⟩ (some "Sales")).map SummaryRow.count = [2, 1, 1] ∧
    (∀ a ∈ summarize sales ⟨["Region"]⟩ none, a.count =
      (((summarize sales ⟨["Product", "Region"]⟩ (some "Sales")).filter fun b =>
        ∀ field ∈ ["Region"], a.value? field = b.value? field).map SummaryRow.count).sum) ∧
    (summarize sales ⟨["Region"]⟩ none).map (fun a => ["Region"].map a.value?) =
      [[some "N"], [some unmatched]] := by
  have hsubset : ["Region"] ⊆ ["Product", "Region"] := by decide
  obtain ⟨hcounts, -, horder⟩ := summarize_drill_down hsubset sales none (some "Sales")
  refine ⟨hsubset, by decide, by decide, hcounts, horder.trans ?_⟩
  decide

end Rulebook
