import Rulebook.Proofs.Rule.Report
import Rulebook.Proofs.UpToFirst
import Mathlib.Data.List.Forall2

/-!
# What a report lists

Conditions and trace of a report are put together while groups and clauses are gone through, and
this stops in two places: in a group at the first clause that fails, and altogether at the first
group that holds. Here both are described without the run. `Report.Lists` says which conditions are
listed, `Report.Follows` which lines there are on one group, with their texts;
`Rule.report_faithful` says that every report is described by them, whatever the expression of the
rule.

The run is taken apart at the entries that it goes over: clauses that hold leave their lines in
front of those of the clauses behind them (`ofClauses_append`), and groups that fail leave their
lines and nothing else (`ofGroups_append`).
-/

set_option autoImplicit false

namespace Rulebook

namespace Report

/-! ## What has to be listed -/

/-- Whether all clauses of a group hold. -/
def groupHolds (row : Row) (group : List Clause) : Bool := group.all (Clause.holds row)

/-- Clause number `i` of group number `g` as it is listed: its place, and how it is shown. -/
def entry (g i : Nat) (clause : Clause) : String :=
  "groups[" ++ toString g ++ "].clauses[" ++ toString i ++ "]: " ++ clause.render

/-- The clauses of a group with their places. -/
def entries (g : Nat) (group : List Clause) : List String := group.mapIdx (entry g)

/-- The lines of clauses at the front of group number `g`, each with its outcome. -/
def outcomeLines (row : Row) (g : Nat) (clauses : List Clause) : List String :=
  clauses.mapIdx fun i clause =>
    entry g i clause ++ (if clause.holds row then " => MATCHED" else " => NOT_MATCHED")

/-- The conditions that a report on groups lists: all clauses of the first group that holds, none if
no group does. -/
inductive Lists (row : Row) (groups : List (List Clause)) : List String → Prop where
  | first {front back : List (List Clause)} {group : List Clause} :
      groups = front ++ group :: back → (∀ earlier ∈ front, groupHolds row earlier = false) →
      groupHolds row group = true → Lists row groups (entries front.length group)
  | none : (∀ group ∈ groups, groupHolds row group = false) → Lists row groups []

/-- The lines on group number `g`: one for each clause up to the first that fails, and one that says
at which clause the group fails, or that it holds. -/
inductive Follows (row : Row) (g : Nat) (group : List Clause) : List String → Prop where
  | failed {front back : List Clause} {clause : Clause} : group = front ++ clause :: back →
      (∀ earlier ∈ front, earlier.holds row = true) → clause.holds row = false →
      Follows row g group (outcomeLines row g (front ++ [clause]) ++
        ["groups[" ++ toString g ++ "]: AND 短路 - 子句 " ++ toString front.length ++ " 不匹配"])
  | held : (∀ clause ∈ group, clause.holds row = true) →
      Follows row g group (outcomeLines row g group ++
        ["groups[" ++ toString g ++ "]: OR 短路 - 合取组匹配"])

/-! ## Texts of lines -/

theorem located_eq (g i : Nat) (clause : Clause) : located g i clause = entry g i clause := by
  have hbetween : "].clauses[" = "]" ++ ".clauses[" := rfl
  have hbehind : "]: " = "]" ++ ": " := rfl
  rw [entry, hbetween, hbehind]
  simp only [located, clausePath, groupPath, String.append_assoc]
  rfl

theorem outcomeLine_eq (g i : Nat) (clause : Clause) (held : Bool) :
    outcomeLine g i clause held =
      entry g i clause ++ (if held then " => MATCHED" else " => NOT_MATCHED") := by
  rw [outcomeLine, located_eq, String.append_assoc]
  cases held with
  | true => rfl
  | false => rfl

theorem failedLine_eq (g i : Nat) : failedLine g i =
    "groups[" ++ toString g ++ "]: AND 短路 - 子句 " ++ toString i ++ " 不匹配" := by
  have hbehind : "]: AND 短路 - 子句 " = "]" ++ ": AND 短路 - 子句 " := rfl
  rw [hbehind]
  simp only [failedLine, groupPath, String.append_assoc]
  rfl

theorem heldLine_eq (g : Nat) :
    heldLine g = "groups[" ++ toString g ++ "]: OR 短路 - 合取组匹配" := by
  have hbehind : "]: OR 短路 - 合取组匹配" = "]" ++ ": OR 短路 - 合取组匹配" := rfl
  rw [hbehind]
  simp only [heldLine, groupPath, String.append_assoc]
  rfl

/-! ## Clauses -/

/-- Clauses that hold are gone over, each with its place and its line. -/
theorem ofClauses_append {row : Row} {front : List Clause}
    (hfront : ∀ clause ∈ front, clause.holds row = true) (g i : Nat) (back : List Clause) :
    ofClauses true row g i (front ++ back) =
      ⟨(ofClauses true row g (i + front.length) back).held,
        (front.mapIdx fun j => entry g (i + j)) ++
          (ofClauses true row g (i + front.length) back).conditions,
        (front.mapIdx fun j clause => entry g (i + j) clause ++
            (if clause.holds row then " => MATCHED" else " => NOT_MATCHED")) ++
          (ofClauses true row g (i + front.length) back).trace⟩ := by
  -- the induction is on the clauses gone over; each moves the numbering on by one
  induction front generalizing i with
  | nil => rfl
  | cons clause front ih =>
      obtain ⟨hclause, hfront⟩ := List.forall_mem_cons.1 hfront
      have hnumber : ∀ j, i + 1 + j = i + (j + 1) := by
        intro j
        omega
      rw [List.cons_append, ofClauses, if_pos hclause, ih hfront (i + 1)]
      simp only [List.mapIdx_cons, List.length_cons, hnumber, hclause, Nat.add_zero, noted,
        located_eq, outcomeLine_eq, if_true, List.cons_append, List.nil_append]

/-- What is found of a group of which all clauses hold. -/
theorem ofClauses_of_held {row : Row} {group : List Clause}
    (hgroup : ∀ clause ∈ group, clause.holds row = true) (g : Nat) :
    ofClauses true row g 0 group =
      ⟨true, entries g group, outcomeLines row g group ++ [heldLine g]⟩ := by
  have happend := ofClauses_append hgroup g 0 []
  simp only [List.append_nil, Nat.zero_add, ofClauses] at happend
  exact happend

/-- The lines on a group, whether it holds or not. -/
theorem follows_ofClauses (row : Row) (g : Nat) (group : List Clause) :
    Follows row g group (ofClauses true row g 0 group).trace := by
  obtain ⟨seen, hseen⟩ := exists_upToFirst (fun clause => !clause.holds row) group
  cases hseen with
  | @found front back clause hsplit hfront hclause =>
      have hfront : ∀ earlier ∈ front, earlier.holds row = true := by simpa using hfront
      have hclause : clause.holds row = false := by simpa using hclause
      have htrace : (ofClauses true row g 0 group).trace =
          outcomeLines row g (front ++ [clause]) ++ [failedLine g front.length] := by
        rw [hsplit, ofClauses_append hfront]
        simp [ofClauses, noted, hclause, outcomeLines, outcomeLine_eq]
      rw [htrace, failedLine_eq]
      exact .failed hsplit hfront hclause
  | none hall =>
      have hgroup : ∀ clause ∈ group, clause.holds row = true := by simpa using hall
      rw [ofClauses_of_held hgroup, heldLine_eq]
      exact .held hgroup

/-! ## Groups -/

/-- The lines on groups, the first of them number `g`. -/
def groupTraces (row : Row) (g : Nat) (groups : List (List Clause)) : List (List String) :=
  (groups.zipIdx g).map fun numbered => (ofClauses true row numbered.2 0 numbered.1).trace

theorem follows_groupTraces (row : Row) (g : Nat) (groups : List (List Clause)) :
    List.Forall₂ (fun numbered lines => Follows row numbered.2 numbered.1 lines) (groups.zipIdx g)
      (groupTraces row g groups) := by
  rw [groupTraces, List.forall₂_map_right_iff]
  exact List.forall₂_same.2 fun numbered _ => follows_ofClauses row numbered.2 numbered.1

/-- Of groups that fail only the lines are left. -/
theorem ofGroups_append {row : Row} {front : List (List Clause)}
    (hfront : ∀ group ∈ front, groupHolds row group = false) (name : String) (g : Nat)
    (back : List (List Clause)) :
    ofGroups true name row g (front ++ back) =
      { ofGroups true name row (g + front.length) back with
        trace := (groupTraces row g front).flatten ++
          (ofGroups true name row (g + front.length) back).trace } := by
  -- the induction is on the groups gone over
  induction front generalizing g with
  | nil => rfl
  | cons group front ih =>
      obtain ⟨hgroup, hfront⟩ := List.forall_mem_cons.1 hfront
      have hfails : ¬ (ofClauses true row g 0 group).held = true := by
        rw [held_ofClauses]
        simpa [groupHolds] using hgroup
      have hnumber : g + 1 + front.length = g + (front.length + 1) := by omega
      rw [List.cons_append, ofGroups, if_neg hfails, ih hfront (g + 1)]
      simp [groupTraces, hnumber]

/-- What is found if the groups in front of one that holds fail. -/
theorem ofGroups_of_first {row : Row} {front back : List (List Clause)} {group : List Clause}
    (hfront : ∀ earlier ∈ front, groupHolds row earlier = false)
    (hgroup : groupHolds row group = true) (name : String) :
    ofGroups true name row 0 (front ++ group :: back) =
      ⟨true, name, entries front.length group,
        (groupTraces row 0 (front ++ [group])).flatten⟩ := by
  have hclauses : ∀ clause ∈ group, clause.holds row = true := List.all_eq_true.1 hgroup
  rw [ofGroups_append hfront, ofGroups, ofClauses_of_held hclauses]
  simp [groupTraces, List.zipIdx_append, ofClauses_of_held hclauses]

/-- What is found if all groups fail. -/
theorem ofGroups_of_none {row : Row} {groups : List (List Clause)}
    (hgroups : ∀ group ∈ groups, groupHolds row group = false) (name : String) :
    ofGroups true name row 0 groups =
      ⟨false, name, [], (groupTraces row 0 groups).flatten ++ [noneLine]⟩ := by
  have happend := ofGroups_append hgroups name 0 []
  rw [List.append_nil] at happend
  rw [happend, ofGroups]
  rfl

/-- No line on a group is the one that says that no group holds. -/
theorem heldLine_ne_noneLine (g : Nat) : heldLine g ≠ noneLine := by
  intro h
  have hhead : (heldLine g).toList.head? = noneLine.toList.head? := by rw [h]
  simp [heldLine, groupPath, noneLine] at hhead

/-- The conditions that are listed, whatever name the report bears. -/
theorem lists_ofGroups (name : String) (row : Row) (groups : List (List Clause)) :
    Lists row groups (ofGroups true name row 0 groups).conditions := by
  obtain ⟨seen, hseen⟩ := exists_upToFirst (groupHolds row) groups
  cases hseen with
  | found hsplit hfront hgroup =>
      rw [hsplit, ofGroups_of_first hfront hgroup]
      exact .first rfl hfront hgroup
  | none hall =>
      rw [ofGroups_of_none hall]
      exact .none hall

/-- The lines are those on the groups that are seen, and one more if none of them holds. -/
theorem exists_trace_ofGroups (name : String) (row : Row) (groups : List (List Clause)) :
    ∃ seen, UpToFirst (groupHolds row) groups seen ∧
      (ofGroups true name row 0 groups).trace = (groupTraces row 0 seen).flatten ++
        (if groups.any (groupHolds row) then [] else [noneLine]) := by
  obtain ⟨seen, hseen⟩ := exists_upToFirst (groupHolds row) groups
  refine ⟨seen, hseen, ?_⟩
  cases hseen with
  | found hsplit hfront hgroup =>
      have hany : groups.any (groupHolds row) = true := by
        rw [hsplit]
        simp [hgroup]
      rw [if_pos hany, List.append_nil, hsplit, ofGroups_of_first hfront hgroup]
  | none hall =>
      have hnone : ¬ groups.any (groupHolds row) = true := by simpa using hall
      rw [if_neg hnone, ofGroups_of_none hall]

/-- The last line tells whether a group holds. -/
theorem getLast?_trace_ofGroups (name : String) (row : Row) (groups : List (List Clause)) :
    (ofGroups true name row 0 groups).trace.getLast? = some noneLine ↔
      ∀ group ∈ groups, groupHolds row group = false := by
  obtain ⟨seen, hseen⟩ := exists_upToFirst (groupHolds row) groups
  cases hseen with
  | @found front back group hsplit hfront hgroup =>
      have hmem : group ∈ groups := by
        rw [hsplit]
        exact List.mem_append_right front List.mem_cons_self
      have hclauses : ∀ clause ∈ group, clause.holds row = true := List.all_eq_true.1 hgroup
      have hlast : (ofGroups true name row 0 groups).trace.getLast? =
          some (heldLine front.length) := by
        rw [hsplit, ofGroups_of_first hfront hgroup]
        simp [groupTraces, List.zipIdx_append, ofClauses_of_held hclauses]
      rw [hlast]
      constructor
      · intro hline
        exact absurd (Option.some.inj hline) (heldLine_ne_noneLine front.length)
      · intro hall
        rw [hall group hmem] at hgroup
        cases hgroup
  | none hall =>
      rw [ofGroups_of_none hall, List.getLast?_concat]
      exact ⟨fun _ => hall, fun _ => rfl⟩

end Report

/-- A report says that its rule applies exactly if it does, and lists the conditions of the first
group that holds, whether it is traced or not. Without a trace there is no line. With a trace there
are, for each group up to the first that holds, the lines that follow its clauses, and behind all of
them, exactly if no group holds, one that says so. -/
theorem Rule.report_faithful (rule : Rule) (row : Row) :
    (∀ traced, (rule.report traced row).applied = rule.applies row ∧
      (rule.report traced row).ruleName = rule.name ∧
      Report.Lists row rule.expression.groups (rule.report traced row).conditions) ∧
    (rule.report false row).conditions = (rule.report true row).conditions ∧
    (rule.report false row).trace = [] ∧
    ∃ seen blocks, UpToFirst (Report.groupHolds row) rule.expression.groups seen ∧
      List.Forall₂ (fun numbered lines => Report.Follows row numbered.2 numbered.1 lines)
        seen.zipIdx blocks ∧
      (rule.report true row).trace =
        blocks.flatten ++ (if rule.applies row then [] else ["OR 组无匹配"]) ∧
      ((rule.report true row).trace.getLast? = some "OR 组无匹配" ↔
        ∀ group ∈ rule.expression.groups, Report.groupHolds row group = false) := by
  have hlists := Report.lists_ofGroups rule.name row rule.expression.groups
  obtain ⟨seen, hseen, htrace⟩ :=
    Report.exists_trace_ofGroups rule.name row rule.expression.groups
  refine ⟨?_, ?_, ?_, seen, Report.groupTraces row 0 seen, hseen,
    Report.follows_groupTraces row 0 seen, htrace,
    Report.getLast?_trace_ofGroups rule.name row rule.expression.groups⟩
  · intro traced
    refine ⟨rule.applied_report traced row, rule.ruleName_report traced row, ?_⟩
    cases traced with
    | true => exact hlists
    | false =>
        rw [rule.report_false]
        exact hlists
  · rw [rule.report_false]
  · rw [rule.report_false]

/-- The first group fails at its second clause and leaves no condition behind; the second, which has
no clause, holds. -/
example :
    (Rule.report true ⟨"any", "", ⟨[[.condition ⟨"Region", .equal, .text "North"⟩,
        .never "Sales ~~ 5"], []]⟩⟩ (Row.ofCells [("Region", "north")])) =
      ⟨true, "any", [],
        ["groups[0].clauses[0]: Region is North => MATCHED",
          "groups[0].clauses[1]: <unrecognized: \"Sales ~~ 5\"> => NOT_MATCHED",
          "groups[0]: AND 短路 - 子句 1 不匹配", "groups[1]: OR 短路 - 合取组匹配"]⟩ := by
  decide

end Rulebook
