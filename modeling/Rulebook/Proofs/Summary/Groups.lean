import Rulebook.Proofs.FirstSeen
import Rulebook.Proofs.Summary.Rounding
import Rulebook.Summary

/-!
# Summaries as partitions

A summary has one row for each tuple of group values that is there, in the order in which the tuples
are first seen, with the count of the rows that have the tuple and the rounded sum over them
(`summarize_partition`).

The run over the rows keeps one tally a group. After any rows, the tallies are those of the tuples
first seen so far, each taken over all rows so far that have the tuple (`tallies_eq`); one more row
changes just the tally of its tuple, or adds one at the end (`enter_tallies`).
-/

set_option autoImplicit false

namespace Rulebook

/-! ## What belongs to a group -/

/-- The rows that have a tuple of group values, in order. -/
def rowsWith (key : GroupKey) (values : List String) (rows : List Row) : List Row :=
  rows.filter fun row => groupValues key row = values

/-- The numbers of a column in row order. Rows without the cell and cells that hold no number are
passed over. -/
def columnNumbers (field : String) (rows : List Row) : List Float :=
  ((rows.filterMap fun row => row.get? field).map fun s => parseNumber s.toList).filter
    fun x => !x.isNaN

/-- The sum of a column, added up from the first row to the last. -/
def columnTotal (field : String) (rows : List Row) : Float :=
  (columnNumbers field rows).foldl (· + ·) 0.0

/-- What a row of a summary has to say of the rows with a tuple of group values. -/
structure IsGroup (rows : List Row) (key : GroupKey) (sumField : Option String)
    (values : List String) (group : SummaryRow) : Prop where
  keys_eq : group.keys = key.fields.zip values
  count_eq : group.count = (rowsWith key values rows).length
  sum_none : sumField = none → group.sum = none
  sum_some : ∀ field ∈ sumField, ∃ sum, group.sum = some sum ∧
    RoundedHalfUp (columnTotal field (rowsWith key values rows)) sum

/-- A missing cell and an empty one stand for the same value. -/
theorem groupValue_eq (row : Row) (field : String) :
    groupValue row field = ((row.get? field).filter (· ≠ "")).getD unmatched := by
  rw [groupValue]
  cases row.get? field with
  | none => rfl
  | some value =>
      by_cases h : value = ""
      · simp [h, Option.filter]
      · simp [h, Option.filter]

section Tallies

variable {rows : List Row} {row : Row} {key : GroupKey} {sumField : Option String}
  {values : List String}

theorem rowsWith_concat_self (rows : List Row) (row : Row) (key : GroupKey) :
    rowsWith key (groupValues key row) (rows ++ [row]) =
      rowsWith key (groupValues key row) rows ++ [row] := by
  simp [rowsWith]

theorem rowsWith_concat_of_ne (h : groupValues key row ≠ values) (rows : List Row) :
    rowsWith key values (rows ++ [row]) = rowsWith key values rows := by
  simp [rowsWith, h]

/-- No row has a tuple that was not seen. -/
theorem rowsWith_eq_nil (h : values ∉ rows.map (groupValues key)) :
    rowsWith key values rows = [] := by
  refine List.filter_eq_nil_iff.2 ?_
  intro row hrow hvalues
  exact h (List.mem_map.2 ⟨row, hrow, of_decide_eq_true hvalues⟩)

/-- A cell is added as the numbers of its column are. -/
theorem addCell_eq_foldl (total : Float) (row : Row) (field : String) :
    Tally.addCell total (row.get? field) = (columnNumbers field [row]).foldl (· + ·) total := by
  have hmissing : notANumber.isNaN = true := by decide
  cases h : row.get? field with
  | none =>
      have hnumbers : columnNumbers field [row] = [] := by
        simp only [columnNumbers, List.filterMap_cons, h, List.filterMap_nil, List.map_nil,
          List.filter_nil]
      rw [hnumbers, Tally.addCell]
      exact if_pos hmissing
  | some s =>
      have hnumbers : columnNumbers field [row] =
          [parseNumber s.toList].filter fun x => !x.isNaN := by
        simp only [columnNumbers, List.filterMap_cons, h, List.filterMap_nil, List.map_cons,
          List.map_nil]
      rw [hnumbers, Tally.addCell, Row.cellNumber, Option.elim_some]
      cases hnan : (parseNumber s.toList).isNaN with
      | true => simp only [hnan, if_true, List.filter, Bool.not_true, List.foldl_nil]
      | false =>
          simp only [hnan, Bool.false_eq_true, if_false, List.filter, Bool.not_false,
            List.foldl_cons, List.foldl_nil]

theorem columnTotal_concat (field : String) (rows : List Row) (row : Row) :
    columnTotal field (rows ++ [row]) = Tally.addCell (columnTotal field rows) (row.get? field) := by
  rw [addCell_eq_foldl, columnTotal, columnTotal, ← List.foldl_append]
  simp only [columnNumbers, List.filterMap_append, List.map_append, List.filter_append]

/-- The tally of a tuple over the rows that have it. -/
def tallyOver (key : GroupKey) (sumField : Option String) (rows : List Row)
    (values : List String) : Tally :=
  ⟨values, (rowsWith key values rows).length,
    sumField.elim 0.0 fun field => columnTotal field (rowsWith key values rows)⟩

/-- One more row with the tuple is added to its tally. -/
theorem add_tallyOver (key : GroupKey) (sumField : Option String) (rows : List Row) (row : Row) :
    Tally.add sumField row (tallyOver key sumField rows (groupValues key row)) =
      tallyOver key sumField (rows ++ [row]) (groupValues key row) := by
  simp only [Tally.add, tallyOver, rowsWith_concat_self, List.length_append, List.length_singleton]
  cases sumField with
  | none => rfl
  | some field => simp only [Option.elim_some, columnTotal_concat]

/-- A row with another tuple leaves a tally as it is. -/
theorem tallyOver_concat_of_ne (h : groupValues key row ≠ values) (sumField : Option String)
    (rows : List Row) :
    tallyOver key sumField (rows ++ [row]) values = tallyOver key sumField rows values := by
  simp only [tallyOver, rowsWith_concat_of_ne h]

/-- The tally of a tuple that was not seen is the one that a new group starts with. -/
theorem tallyOver_of_unseen (h : values ∉ rows.map (groupValues key)) (sumField : Option String) :
    tallyOver key sumField rows values = ⟨values, 0, 0.0⟩ := by
  cases sumField with
  | none => simp [tallyOver, rowsWith_eq_nil h]
  | some field => simp [tallyOver, rowsWith_eq_nil h, columnTotal, columnNumbers]

/-- A row is entered into the tally of its tuple, or into a new one behind all others. -/
theorem enter_tallies {tuples : List (List String)} (hnodup : tuples.Nodup)
    (hseen : groupValues key row ∈ rows.map (groupValues key) → groupValues key row ∈ tuples) :
    Tally.enter sumField row (groupValues key row) (tuples.map (tallyOver key sumField rows)) =
      (if groupValues key row ∈ tuples then tuples else tuples ++ [groupValues key row]).map
        (tallyOver key sumField (rows ++ [row])) := by
  -- the induction is on the tuples that the search passes over
  induction tuples with
  | nil =>
      have hunseen : groupValues key row ∉ rows.map (groupValues key) := fun h => by
        simpa using hseen h
      simp only [List.map_nil, Tally.enter, List.not_mem_nil, if_false, List.nil_append,
        List.map_singleton]
      rw [← tallyOver_of_unseen hunseen sumField, add_tallyOver]
  | cons values tuples ih =>
      obtain ⟨hvalues, hnodup⟩ := List.nodup_cons.1 hnodup
      have hstart : (tallyOver key sumField rows values).values = values := rfl
      rw [List.map_cons, Tally.enter, hstart]
      by_cases h : values = groupValues key row
      · -- the tally is found here, and no other tuple is that of the row
        subst h
        have hothers : tuples.map (tallyOver key sumField (rows ++ [row])) =
            tuples.map (tallyOver key sumField rows) := by
          refine List.map_congr_left ?_
          intro other hother
          exact tallyOver_concat_of_ne (ne_of_mem_of_not_mem hother hvalues).symm sumField rows
        rw [if_pos rfl, if_pos List.mem_cons_self, List.map_cons, hothers, add_tallyOver]
      · have hrest : groupValues key row ∈ rows.map (groupValues key) →
            groupValues key row ∈ tuples := fun hrow =>
          (List.mem_cons.1 (hseen hrow)).resolve_left (Ne.symm h)
        have hmem : groupValues key row ∈ values :: tuples ↔ groupValues key row ∈ tuples := by
          simp [Ne.symm h]
        rw [if_neg h, ih hnodup hrest, ← tallyOver_concat_of_ne (Ne.symm h) sumField rows]
        simp only [hmem]
        split <;> rfl

/-- After any rows there is one tally for each tuple seen so far, in the order of first sight. -/
theorem tallies_eq (rows : List Row) (key : GroupKey) (sumField : Option String) :
    rows.foldl (fun ts row => Tally.enter sumField row (groupValues key row) ts) [] =
      (rows.map (groupValues key)).eraseDups.map (tallyOver key sumField rows) := by
  -- the induction is on the rows gone through, the latest of them last
  induction rows using List.reverseRecOn with
  | nil => simp
  | append_singleton rows row ih =>
      rw [List.foldl_concat, ih, enter_tallies (nodup_eraseDups _) List.mem_eraseDups.2,
        List.map_append, List.map_singleton, eraseDups_concat]
      simp only [List.mem_eraseDups]

end Tallies

/-! ## The groups of a summary -/

/-- The row made of the tally of a tuple says what it has to. -/
theorem isGroup_toRow (rows : List Row) (key : GroupKey) (sumField : Option String)
    (values : List String) :
    IsGroup rows key sumField values
      (Tally.toRow key sumField (tallyOver key sumField rows values)) := by
  refine ⟨rfl, rfl, ?_, ?_⟩
  · rintro rfl
    rfl
  · rintro field hfield
    obtain rfl := Option.mem_def.1 hfield
    exact ⟨_, rfl, roundedHalfUp_roundHalfUp _⟩

/-- The rows of a summary by the tuples first seen. -/
theorem summarize_eq (rows : List Row) (key : GroupKey) (sumField : Option String) :
    summarize rows key sumField =
      (rows.map (groupValues key)).eraseDups.map fun values =>
        Tally.toRow key sumField (tallyOver key sumField rows values) := by
  rw [summarize, tallies_eq, List.map_map]
  rfl

theorem length_rowsWith (rows : List Row) (key : GroupKey) (values : List String) :
    (rowsWith key values rows).length = (rows.map (groupValues key)).count values := by
  rw [rowsWith, ← List.countP_eq_length_filter, List.count_eq_countP, List.countP_map]
  refine List.countP_congr ?_
  simp

/-- A summary is the partition of the rows by their group values: there is one row for each tuple of
values that some row has, these tuples are different from each other and stand in the order of the
first rows that have them, and each row of the summary says what it has to of the rows with its
tuple. So no group is empty, and the groups have all rows between them. -/
theorem summarize_partition (rows : List Row) (key : GroupKey) (sumField : Option String) :
    (∀ row, groupValues key row =
      key.fields.map fun field => ((row.get? field).filter (· ≠ "")).getD unmatched) ∧
    ∃ tuples : List (List String),
      List.Forall₂ (IsGroup rows key sumField) tuples (summarize rows key sumField) ∧
      tuples.Nodup ∧
      (∀ values, values ∈ tuples ↔ ∃ row ∈ rows, groupValues key row = values) ∧
      (tuples.Pairwise fun a b => (rows.map (groupValues key)).idxOf a <
        (rows.map (groupValues key)).idxOf b) ∧
      (∀ group ∈ summarize rows key sumField, 1 ≤ group.count) ∧
      ((summarize rows key sumField).map SummaryRow.count).sum = rows.length := by
  have hcounts : (summarize rows key sumField).map SummaryRow.count =
      (rows.map (groupValues key)).eraseDups.map (rows.map (groupValues key)).count := by
    rw [summarize_eq, List.map_map]
    exact List.map_congr_left fun values _ => length_rowsWith rows key values
  refine ⟨fun row => List.map_congr_left fun field _ => groupValue_eq row field,
    (rows.map (groupValues key)).eraseDups, ?_, nodup_eraseDups _, ?_,
    pairwise_idxOf_eraseDups _, ?_, ?_⟩
  · rw [summarize_eq, List.forall₂_map_right_iff]
    exact List.forall₂_same.2 fun values _ => isGroup_toRow rows key sumField values
  · intro values
    rw [List.mem_eraseDups, List.mem_map]
  · intro group hgroup
    have hcount : group.count ∈ (summarize rows key sumField).map SummaryRow.count :=
      List.mem_map_of_mem hgroup
    rw [hcounts, List.mem_map] at hcount
    obtain ⟨values, hmem, hcount⟩ := hcount
    rw [← hcount]
    exact List.count_pos_iff.2 (List.mem_eraseDups.1 hmem)
  · rw [hcounts, sum_count_eraseDups, List.length_map]

end Rulebook
