import Rulebook.Proofs.Summary.OneField
import Rulebook.Proofs.Workbook.Passes
import Rulebook.Proofs.Workbook.Runs

/-!
# Summaries by label

When rows are grouped by their labels, each rule that labels a row has its own row in the summary.
The rows that matched no rule are grouped as "Unmatched". No rule has an empty name, so no rule can
share their label, but a rule may have the name "Unmatched", and then its rows and theirs are
counted together (`RuleSet.Valid.countP_groupValue`). Apart from this rule the summary says of each
rule how many rows it labelled (`Reached.summary_by_label`).
-/

set_option autoImplicit false

namespace Rulebook

/-- A labelled row is grouped by its label, and as unmatched if the label is empty. -/
theorem groupValue_withLabel (row : Row) (label : String) :
    groupValue (row.withLabel label) Row.ruleColumn = if label = "" then unmatched else label := by
  have hlabel : (row.withLabel label).get? Row.ruleColumn = some label :=
    Row.label?_withLabel row label
  rw [groupValue, hlabel]

namespace RuleSet

variable {set : RuleSet}

/-- A row has the name of a rule for its label exactly if the rule is the first to apply to it. -/
theorem Valid.labelOf_eq_name_iff (h : set.Valid) {rule : Rule} (hrule : rule ∈ set.rules)
    {row : Row} : set.labelOf row = rule.name ↔ set.firstMatch? row = some rule := by
  rw [labelOf]
  cases hfirst : set.firstMatch? row with
  | none => simp [(h.rules_sound rule hrule).name_ne_empty.symm]
  | some found =>
      have hfound : found ∈ set.rules := mem_rules_of_firstMatch? hfirst
      rw [Option.elim_some, Option.some.injEq]
      constructor
      · -- no other rule has this name
        intro hname
        exact List.inj_on_of_nodup_map h.names_nodup hfound hrule hname
      · rintro rfl
        rfl

/-- The rows of a group after a pass: those that got its value for their label, and in the group of
unmatched rows also those that got none. -/
theorem Valid.countP_groupValue (h : set.Valid) {value : String} (hvalue : value ≠ "")
    (rows : List Row) :
    ((set.labelRows rows).countP fun row => groupValue row Row.ruleColumn = value) =
      (rows.countP fun row => set.labelOf row = value) +
        if value = unmatched then rows.countP fun row => (set.firstMatch? row).isNone else 0 := by
  have hgrouped : ((set.labelRows rows).countP fun row => groupValue row Row.ruleColumn = value) =
      rows.countP fun row =>
        (if set.labelOf row = "" then unmatched else set.labelOf row) = value := by
    rw [labelRows, List.countP_map]
    apply List.countP_congr
    intro row _
    simp [groupValue_withLabel]
  have hnone : ∀ row, (set.firstMatch? row).isNone = decide (set.labelOf row = "") := by
    intro row
    rw [Bool.eq_iff_iff, decide_eq_true_eq, h.labelOf_eq_empty_iff, Option.isNone_iff_eq_none]
  simp only [hnone]
  -- the rows without a label are counted apart from the others
  rw [hgrouped, List.countP_eq_countP_filter_add rows _ fun row => set.labelOf row = "",
    List.countP_filter, List.countP_filter, Nat.add_comm]
  congr 1
  · apply List.countP_congr
    intro row _
    by_cases hempty : set.labelOf row = ""
    · simp [hempty, Ne.symm hvalue]
    · simp [hempty]
  · -- they stand in the group of unmatched rows, and in no other
    split
    · rename_i hunmatched
      apply List.countP_congr
      intro row _
      by_cases hempty : set.labelOf row = ""
      · simp [hempty, hunmatched]
      · simp [hempty]
    · rename_i hunmatched
      apply List.countP_eq_zero.2
      intro row _
      by_cases hempty : set.labelOf row = ""
      · simp [hempty, Ne.symm hunmatched]
      · simp [hempty]

section Summary

variable {key : GroupKey} {rows : List Row} {sumField : Option String}

/-- A row of a summary by labels counts the rows that got its value for their label, and the row of
unmatched rows also those that matched no rule. -/
theorem Valid.count_of_mem_summarize (h : set.Valid) (hkey : key.fields = [Row.ruleColumn])
    {group : SummaryRow} (hgroup : group ∈ summarize (set.labelRows rows) key sumField)
    {value : String} (hne : value ≠ "") (hvalue : group.value? Row.ruleColumn = some value) :
    group.count = (rows.countP fun row => set.labelOf row = value) +
      if value = unmatched then rows.countP fun row => (set.firstMatch? row).isNone else 0 := by
  rw [Rulebook.count_of_mem_summarize hkey hgroup hvalue]
  exact h.countP_groupValue hne rows

/-- A rule that is the first to apply to a row has a row of its own in a summary by labels. -/
theorem Valid.exists_filter_summarize (h : set.Valid) (hkey : key.fields = [Row.ruleColumn])
    {rule : Rule} (hrule : rule ∈ set.rules)
    (hfirst : ∃ row ∈ rows, set.firstMatch? row = some rule) :
    ∃ group ∈ summarize (set.labelRows rows) key sumField,
      group.value? Row.ruleColumn = some rule.name ∧
      (summarize (set.labelRows rows) key sumField).filter
        (fun group => group.value? Row.ruleColumn = some rule.name) = [group] := by
  obtain ⟨row, hrow, hfirst⟩ := hfirst
  have hname : rule.name ≠ "" := (h.rules_sound rule hrule).name_ne_empty
  have hlabel : set.labelOf row = rule.name := (h.labelOf_eq_name_iff hrule).2 hfirst
  have hlabelled : row.withLabel (set.labelOf row) ∈ set.labelRows rows := List.mem_map_of_mem hrow
  -- the value is there, so one row of the summary has it and no other
  obtain ⟨group, hfilter⟩ := exists_filter_value_eq hkey sumField hlabelled
  rw [groupValue_withLabel, hlabel, if_neg hname] at hfilter
  have hmem := List.mem_filter.1 (hfilter ▸ List.mem_singleton_self _)
  exact ⟨group, hmem.1, of_decide_eq_true hmem.2, hfilter⟩

end Summary

end RuleSet

namespace Workbook

/-- What a workbook grouped by labels says of its rules. Its rows are labelled as the rules say of
rows that differ from the ones put in at most in labels; let `seen` be any rows of which this is
true, such as those that the last pass saw. A rule that is the first to apply to one of them has one
row in the summary with its name, which counts the rows labelled by it; for a rule named "Unmatched"
the rows that matched no rule are added. The row "Unmatched" counts just these. -/
theorem Reached.summary_by_label {imported : List Row} {wb : Workbook} (h : Reached imported wb)
    (hkey : wb.groupKey.fields = [Row.ruleColumn]) :
    (∃ seen, List.Forall₂ Row.SameData imported seen ∧ wb.rows = wb.rules.labelRows seen) ∧
      ∀ seen, wb.rows = wb.rules.labelRows seen →
        (∀ rule ∈ wb.rules.rules,
          (∀ row, wb.rules.labelOf row = rule.name ↔ wb.rules.firstMatch? row = some rule) ∧
          ((∃ row ∈ seen, wb.rules.firstMatch? row = some rule) →
            ∃ group, wb.summary.filter (fun group =>
                group.value? Row.ruleColumn = some rule.name) = [group] ∧
              group.count = (seen.countP fun row => wb.rules.labelOf row = rule.name) +
                if rule.name = unmatched then
                  seen.countP fun row => (wb.rules.firstMatch? row).isNone
                else 0)) ∧
        ∀ group ∈ wb.summary, group.value? Row.ruleColumn = some unmatched →
          group.count = (seen.countP fun row => wb.rules.labelOf row = unmatched) +
            seen.countP fun row => (wb.rules.firstMatch? row).isNone := by
  have hvalid : wb.rules.Valid := h.rules.valid
  refine ⟨h.settled.labelled, ?_⟩
  intro seen hrows
  rw [h.settled.summary_eq, hrows]
  refine ⟨?_, ?_⟩
  · intro rule hrule
    refine ⟨fun row => hvalid.labelOf_eq_name_iff hrule, ?_⟩
    intro hfirst
    have hname : rule.name ≠ "" := (hvalid.rules_sound rule hrule).name_ne_empty
    obtain ⟨group, hgroup, hvalue, hfilter⟩ := hvalid.exists_filter_summarize hkey hrule hfirst
    exact ⟨group, hfilter, hvalid.count_of_mem_summarize hkey hgroup hname hvalue⟩
  · intro group hgroup hvalue
    rw [hvalid.count_of_mem_summarize hkey hgroup (by decide) hvalue, if_pos rfl]

theorem summary_by_label_arranged :
    arranged.groupKey.fields = [Row.ruleColumn] ∧
      arranged.rules.rules.map Rule.name = ["south", "widgets", "north"] ∧
      arranged.rows.map Row.label? = [some "north", some ""] ∧
      (arranged.summary.map fun group => (group.value? Row.ruleColumn, group.count)) =
        [(some "north", 1), (some "Unmatched", 1)] ∧
      ∃ seen : List Row, List.Forall₂ Row.SameData sold seen ∧
        arranged.rows = arranged.rules.labelRows seen ∧
        ∀ group ∈ arranged.summary, group.value? Row.ruleColumn = some unmatched →
          group.count = (seen.countP fun row => arranged.rules.labelOf row = unmatched) +
            seen.countP fun row => (arranged.rules.firstMatch? row).isNone := by
  obtain ⟨⟨seen, hseen, hrows⟩, hcounts⟩ := reached_arranged.summary_by_label rfl
  exact ⟨by decide, by decide, by decide, by decide, seen, hseen, hrows, (hcounts seen hrows).2⟩

/-- A rule that applies to one of two rows and has the name by which unmatched rows are grouped. -/
def mixing : List Change := [.importRows sold, .addRule "Unmatched" "Region is North"]

/-- The workbook that these changes lead to. -/
def mixed : Workbook := mixing.foldl after empty

theorem reached_mixed : Reached sold mixed := Reached.empty.foldl mixing

/-- A row that a rule labelled and a row that matched no rule are counted together if the rule is
named "Unmatched": the count is neither that of the one nor that of the other. -/
theorem labels_mixed :
    Reached sold mixed ∧ mixed.groupKey.fields = [Row.ruleColumn] ∧
      mixed.rows = mixed.rules.labelRows sold ∧
      mixed.rows.map Row.label? = [some "Unmatched", some ""] ∧
      (¬ ∀ rule ∈ mixed.rules.rules, (∃ row ∈ sold, mixed.rules.firstMatch? row = some rule) →
        ∃ group, mixed.summary.filter (fun group =>
            group.value? Row.ruleColumn = some rule.name) = [group] ∧
          group.count = sold.countP fun row => mixed.rules.labelOf row = rule.name) ∧
      ¬ ∀ group ∈ mixed.summary, group.value? Row.ruleColumn = some unmatched →
        group.count = sold.countP fun row => (mixed.rules.firstMatch? row).isNone := by
  have hsummary : mixed.summary = [⟨[("Rule", "Unmatched")], 2, none⟩] := rfl
  refine ⟨reached_mixed, rfl, by decide +kernel, by decide +kernel, ?_, ?_⟩
  · intro hrules
    obtain ⟨rule, hrule, hname⟩ : ∃ rule ∈ mixed.rules.rules, rule.name = "Unmatched" := by decide
    have hfirst : ∃ row ∈ sold, mixed.rules.firstMatch? row = some rule := by
      simp only [← reached_mixed.rules.valid.labelOf_eq_name_iff hrule, hname]
      decide
    obtain ⟨group, hgroup, hcount⟩ := hrules rule hrule hfirst
    rw [hname] at hgroup hcount
    have hfound : group ∈ mixed.summary.filter
        fun group => group.value? Row.ruleColumn = some "Unmatched" := by
      rw [hgroup]
      exact List.mem_singleton_self group
    have hone : (sold.countP fun row => mixed.rules.labelOf row = "Unmatched") = 1 := by decide
    obtain rfl := List.mem_singleton.1 (hsummary ▸ (List.mem_filter.1 hfound).1)
    exact absurd (hcount.trans hone) (by decide)
  · intro hunmatched
    have hcount := hunmatched ⟨[("Rule", "Unmatched")], 2, none⟩ (hsummary ▸ List.mem_cons_self) rfl
    have hone : (sold.countP fun row => (mixed.rules.firstMatch? row).isNone) = 1 := by decide
    exact absurd (hcount.trans hone) (by decide)

end Workbook

end Rulebook
