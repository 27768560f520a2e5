import Rulebook.Proofs.RuleSet.Validity
import Rulebook.Proofs.Workbook.Labels

/-!
# Passes

A pass labels every row by the first rule that applies to it. No valid rule has an empty name, so an
empty label says that no rule applies (`RuleSet.Valid.labelOf_eq_empty_iff`), and to count labels
after the pass is to count matches in it (`RuleSet.Valid.countP_isLabelled`,
`RuleSet.Valid.countP_isUnlabelled`).
-/

set_option autoImplicit false

namespace Rulebook

/-- The row bears a label that is not empty. -/
def Row.isLabelled (row : Row) : Bool := row.label?.any fun label => label ≠ ""

/-- The row bears the empty label. -/
def Row.isUnlabelled (row : Row) : Bool := row.label? = some ""

namespace RuleSet

/-- What is asked of the labels after a pass is asked of what the rules say of the rows before. -/
theorem countP_labelRows (set : RuleSet) (asked : Option String → Bool) (rows : List Row) :
    ((set.labelRows rows).countP fun row => asked row.label?) =
      rows.countP fun row => asked (some (set.labelOf row)) := by
  rw [labelRows, List.countP_map]
  apply List.countP_congr
  intro row _
  simp

/-- After a pass every row has a label, if only the empty one. -/
theorem countP_isLabelled_add_countP_isUnlabelled (set : RuleSet) (rows : List Row) :
    (set.labelRows rows).countP Row.isLabelled + (set.labelRows rows).countP Row.isUnlabelled =
      (set.labelRows rows).length := by
  rw [List.length_eq_countP_add_countP Row.isLabelled, Nat.add_left_cancel_iff]
  apply List.countP_congr
  intro row hrow
  obtain ⟨original, -, rfl⟩ := List.mem_map.1 hrow
  simp [Row.isLabelled, Row.isUnlabelled]

variable {set : RuleSet} {row : Row}

/-- A row has an empty label exactly if no rule applies to it. -/
theorem Valid.labelOf_eq_empty_iff (h : set.Valid) :
    set.labelOf row = "" ↔ set.firstMatch? row = none := by
  rw [labelOf]
  cases hfirst : set.firstMatch? row with
  | none => simp
  | some rule =>
      have hrule : rule ∈ set.rules := mem_rules_of_firstMatch? hfirst
      simp [(h.rules_sound rule hrule).name_ne_empty]

/-- The rows that bear a label after a pass are as many as there were matches. -/
theorem Valid.countP_isLabelled (h : set.Valid) (rows : List Row) :
    (set.labelRows rows).countP Row.isLabelled =
      rows.countP fun row => (set.firstMatch? row).isSome := by
  refine (countP_labelRows set (fun label => label.any fun s => s ≠ "") rows).trans ?_
  apply List.countP_congr
  intro row _
  simp [h.labelOf_eq_empty_iff, Option.isSome_iff_ne_none]

/-- The rows with an empty label after a pass are as many as matched no rule. -/
theorem Valid.countP_isUnlabelled (h : set.Valid) (rows : List Row) :
    (set.labelRows rows).countP Row.isUnlabelled =
      rows.countP fun row => (set.firstMatch? row).isNone := by
  refine (countP_labelRows set (fun label => label = some "") rows).trans ?_
  apply List.countP_congr
  intro row _
  simp [h.labelOf_eq_empty_iff]

end RuleSet

end Rulebook
