import Rulebook.Workbook
import Rulebook.Proofs.Expression.References
import Mathlib.Data.List.Find

/-!
# Labels

The label that a rule set gives a row is empty or the name of one of its rules
(`RuleSet.labelOf_mem`). If no rule references the column of the labels, it does not depend on the
label that the row has, so rows that differ at most in their labels get the same ones
(`RuleSet.labelRows_congr`).
-/

set_option autoImplicit false

namespace Rulebook

open Text

/-- What is written to the label column does not change whether a rule applies that does not
reference it. -/
theorem Rule.applies_withLabel {rule : Rule}
    (h : rule.expression.references Row.ruleColumn = false) (row : Row) (label : String) :
    rule.applies (row.withLabel label) = rule.applies row :=
  Expression.holds_insert h (by decide) row label

theorem Rule.applies_of_sameData {rule : Rule}
    (h : rule.expression.references Row.ruleColumn = false) {row other : Row}
    (hdata : row.SameData other) : rule.applies row = rule.applies other := by
  rw [← applies_withLabel h row "", ← applies_withLabel h other "", show _ = _ from hdata]

namespace RuleSet

/-- No rule asks for the label of a row. -/
def LabelFree (set : RuleSet) : Prop :=
  ∀ rule ∈ set.rules, rule.expression.references Row.ruleColumn = false

variable {set : RuleSet}

theorem mem_rules_of_mem_ordered {rule : Rule} (h : rule ∈ set.ordered) : rule ∈ set.rules := by
  obtain ⟨slot, -, hslot⟩ := List.mem_filterMap.1 h
  exact List.mem_of_getElem? hslot

theorem mem_rules_of_firstMatch? {row : Row} {rule : Rule} (h : set.firstMatch? row = some rule) :
    rule ∈ set.rules :=
  mem_rules_of_mem_ordered (List.mem_of_find?_eq_some h)

/-- A label is empty or the name of a rule. -/
theorem labelOf_mem (set : RuleSet) (row : Row) :
    set.labelOf row = "" ∨ ∃ rule ∈ set.rules, rule.name = set.labelOf row := by
  cases h : set.firstMatch? row with
  | none => exact .inl (by rw [labelOf, h, Option.elim_none])
  | some rule =>
      refine .inr ⟨rule, mem_rules_of_firstMatch? h, ?_⟩
      rw [labelOf, h, Option.elim_some]

theorem labelOf_of_sameData (hfree : set.LabelFree) {row other : Row}
    (hdata : row.SameData other) : set.labelOf row = set.labelOf other := by
  -- each rule applies to both rows or to neither, so the first that applies is the same
  have hfind : set.firstMatch? row = set.firstMatch? other :=
    List.find?_congr fun rule hrule =>
      Rule.applies_of_sameData (hfree rule (mem_rules_of_mem_ordered hrule)) hdata
  rw [labelOf, labelOf, hfind]

/-- Labelling changes nothing but labels. -/
theorem forall₂_labelRows (set : RuleSet) {rows others : List Row}
    (hdata : List.Forall₂ Row.SameData rows others) :
    List.Forall₂ Row.SameData rows (set.labelRows others) := by
  induction hdata with
  | nil => exact .nil
  | @cons row other rows others hrow _ ih =>
      exact .cons (hrow.trans (Row.sameData_withLabel other (set.labelOf other))) ih

/-- A labelled row is a row that came in with an empty label or the name of a rule. -/
theorem exists_of_mem_labelRows (set : RuleSet) {rows others : List Row}
    (hdata : List.Forall₂ Row.SameData rows others) {row : Row}
    (hrow : row ∈ set.labelRows others) :
    ∃ original ∈ rows, ∃ label, row = original.withLabel label ∧
      (label = "" ∨ ∃ rule ∈ set.rules, rule.name = label) := by
  induction hdata with
  | nil => cases hrow
  | @cons original other rows others hsame _ ih =>
      rcases List.mem_cons.1 hrow with rfl | hrow
      · exact ⟨original, List.mem_cons_self, set.labelOf other, (hsame.withLabel_eq _).symm,
          set.labelOf_mem other⟩
      · obtain ⟨found, hfound, label, hlabel⟩ := ih hrow
        exact ⟨found, List.mem_cons_of_mem original hfound, label, hlabel⟩

/-- Under rules that do not ask for labels, rows that differ at most in their labels get the same
labels. -/
theorem labelRows_congr (hfree : set.LabelFree) {rows others : List Row}
    (hdata : List.Forall₂ Row.SameData rows others) :
    set.labelRows rows = set.labelRows others := by
  induction hdata with
  | nil => rfl
  | @cons row other rows others hrow _ ih =>
      simp only [labelRows, List.map_cons, List.cons.injEq] at ih ⊢
      refine ⟨?_, ih⟩
      rw [labelOf_of_sameData hfree hrow, hrow.withLabel_eq]

end RuleSet

end Rulebook
