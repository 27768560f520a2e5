import Rulebook.Proofs.GroupKey
import Rulebook.Proofs.RuleSet.Validity
import Rulebook.Proofs.Workbook.Labels
import Rulebook.Workbook.Snapshot

/-!
# Runs of a workbook

`Workbook.Reached rows wb` says that a run of changes, accepted or refused, leads to the workbook
`wb`, and that `rows` are the rows that were put in last: by an import, by the snapshot with which
the run began, or none at all.

What one change can do is said once, by `amend_cases` for the data and by `after_cases` for the pass
that follows. From it comes the invariant that carries all statements about runs, `Settled`: the
rows are the last ones put in, labelled by the rules that are there now on whatever labels they had
before, and the summary is that of these rows (`Reached.settled`).
-/

set_option autoImplicit false

namespace Rulebook

open Text

/-- The rows that were put in last once a change is made, `rows` being those before it. -/
def Change.imported (rows : List Row) : Change → List Row
  | .importRows new => new
  | .addRule _ _ | .editRule _ _ _ | .deleteRule _ | .moveRule _ _ => rows
  | .group _ | .regroup _ | .sum _ | .recompute => rows

/-- The field that is added up is the one that is given, trimmed, unless there is nothing else in
it. -/
theorem namedField_eq (field : Option String) :
    namedField field = (field.map trimString).filter (· ≠ "") := by
  cases field with
  | none => rfl
  | some name => by_cases h : trimString name = "" <;> simp [namedField, h, Option.filter]

/-- A field to add up is trimmed and not empty. -/
def Named (field : Option String) : Prop := ∀ s ∈ field, s ≠ "" ∧ trimString s = s

theorem named_namedField (field : Option String) : Named (namedField field) := by
  intro s hs
  cases field with
  | none => simp [namedField] at hs
  | some t =>
      by_cases h : trimString t = ""
      · simp [namedField, h] at hs
      · simp only [namedField, Option.bind_some, h, if_false, Option.mem_def,
          Option.some.injEq] at hs
        exact hs ▸ ⟨h, trimString_trimString t⟩

theorem Named.namedField_eq {field : Option String} (h : Named field) :
    namedField field = field := by
  cases field with
  | none => rfl
  | some s =>
      obtain ⟨hne, htrim⟩ := h s rfl
      simp [namedField, htrim, hne]

namespace Workbook

/-! ## One change -/

/-- What a change does to the data: it puts rows in, or it changes the rules by one step or not at
all, or it changes what is summarized, and then no labels are made. -/
theorem amend_cases {wb amended : Workbook} {c : Change} {effect : Effect}
    (h : wb.amend c = .ok (effect, amended)) :
    (∃ rows, c = .importRows rows ∧ amended = { wb with rows := rows }) ∨
    (c.relabels = true ∧ (∀ rows, c.imported rows = rows) ∧
      ∃ rules, (rules = wb.rules ∨ RuleSet.Step wb.rules rules) ∧
        amended = { wb with rules := rules }) ∨
    (c.relabels = false ∧ (∀ rows, c.imported rows = rows) ∧
      ∃ key field, (key = wb.groupKey ∨ key.Valid) ∧ (field = wb.sumField ∨ Named field) ∧
        amended = { wb with groupKey := key, sumField := field }) := by
  cases c with
  | importRows rows =>
      simp only [amend, Except.ok.injEq, Prod.mk.injEq] at h
      exact .inl ⟨rows, rfl, h.2.symm⟩
  | addRule name text =>
      obtain ⟨added, hadd, hnext⟩ := bind_eq_ok_iff.1 h
      exact .inr (.inl ⟨rfl, fun _ => rfl, added.2, .inr (.add (mapError_eq_ok_iff.1 hadd)),
        (Prod.mk.inj (pure_eq_ok_iff.1 hnext)).2.symm⟩)
  | editRule slot name text =>
      obtain ⟨rules, hedit, hnext⟩ := bind_eq_ok_iff.1 h
      exact .inr (.inl ⟨rfl, fun _ => rfl, rules, .inr (.edit hedit),
        (Prod.mk.inj (pure_eq_ok_iff.1 hnext)).2.symm⟩)
  | deleteRule slot =>
      obtain ⟨deleted, hdelete, hnext⟩ := bind_eq_ok_iff.1 h
      exact .inr (.inl ⟨rfl, fun _ => rfl, deleted.2, .inr (.delete hdelete),
        (Prod.mk.inj (pure_eq_ok_iff.1 hnext)).2.symm⟩)
  | moveRule slot direction =>
      simp only [amend, Except.ok.injEq, Prod.mk.injEq] at h
      exact .inr (.inl ⟨rfl, fun _ => rfl, _, .inr (.move slot direction), h.2.symm⟩)
  | group fields =>
      obtain ⟨key, hkey, hnext⟩ := bind_eq_ok_iff.1 h
      exact .inr (.inr ⟨rfl, fun _ => rfl, key, wb.sumField,
        .inr (GroupKey.ofFields_eq_ok_iff.1 (mapError_eq_ok_iff.1 hkey)).1, .inl rfl,
        (Prod.mk.inj (pure_eq_ok_iff.1 hnext)).2.symm⟩)
  | regroup selection =>
      obtain ⟨key, hkey, hnext⟩ := bind_eq_ok_iff.1 h
      exact .inr (.inr ⟨rfl, fun _ => rfl, key, wb.sumField,
        .inr (GroupKey.ofFields_eq_ok_iff.1 (mapError_eq_ok_iff.1 hkey)).1, .inl rfl,
        (Prod.mk.inj (pure_eq_ok_iff.1 hnext)).2.symm⟩)
  | sum field =>
      simp only [amend, Except.ok.injEq, Prod.mk.injEq] at h
      exact .inr (.inr ⟨rfl, fun _ => rfl, wb.groupKey, namedField field, .inl rfl,
        .inr (named_namedField field), h.2.symm⟩)
  | recompute =>
      simp only [amend, Except.ok.injEq, Prod.mk.injEq] at h
      exact .inr (.inl ⟨rfl, fun _ => rfl, wb.rules, .inl rfl, h.2.symm⟩)

/-! A pass leaves alone what is not made by it. -/

@[simp] theorem refresh_rules (c : Change) (wb : Workbook) : (wb.refresh c).rules = wb.rules := by
  unfold refresh
  split <;> rfl

@[simp] theorem refresh_groupKey (c : Change) (wb : Workbook) :
    (wb.refresh c).groupKey = wb.groupKey := by
  unfold refresh
  split <;> rfl

@[simp] theorem refresh_sumField (c : Change) (wb : Workbook) :
    (wb.refresh c).sumField = wb.sumField := by
  unfold refresh
  split <;> rfl

/-- A change is refused and does nothing, or its pass follows on the changed data. -/
theorem after_cases (wb : Workbook) (c : Change) :
    ((∃ fault, wb.amend c = .error fault) ∧ wb.after c = wb) ∨
      ∃ effect amended, wb.amend c = .ok (effect, amended) ∧ wb.after c = amended.refresh c := by
  cases h : wb.amend c with
  | error fault => exact .inl ⟨⟨fault, rfl⟩, by simp [after, change, h, Except.map]⟩
  | ok amended => exact .inr ⟨amended.1, amended.2, rfl, by simp [after, change, h, Except.map]⟩

/-- An import is never refused. -/
theorem imported_eq_of_refused {wb : Workbook} {c : Change} {fault : Fault}
    (h : wb.amend c = .error fault) (rows : List Row) : c.imported rows = rows := by
  cases c with
  | importRows new => simp [amend] at h
  | addRule _ _ | editRule _ _ _ | deleteRule _ | moveRule _ _ => rfl
  | group _ | regroup _ | sum _ | recompute => rfl

/-! ## Restoring -/

/-- Stored fields make a key unless one is there twice; none at all make the usual key. -/
theorem storedKey_eq_ok_iff {fields : List String} {key : GroupKey} :
    storedKey fields = .ok key ↔
      fields.Nodup ∧ key.fields = if fields = [] then [Row.ruleColumn] else fields := by
  by_cases hnone : fields = []
  · have hkey : key.fields = [Row.ruleColumn] ↔ GroupKey.standard = key :=
      ⟨fun h => congrArg GroupKey.mk h.symm, fun h => h ▸ rfl⟩
    simp [storedKey, hnone, hkey]
  · rw [storedKey, if_neg hnone, if_neg hnone, GroupKey.ofFields_eq_ok_iff]
    constructor
    · rintro ⟨hvalid, rfl⟩
      exact ⟨hvalid.fields_nodup, rfl⟩
    · rintro ⟨hnodup, rfl⟩
      exact ⟨⟨hnone, hnodup⟩, rfl⟩

theorem storedKey_valid {fields : List String} {key : GroupKey}
    (h : storedKey fields = .ok key) : key.Valid := by
  unfold storedKey at h
  split at h
  · cases h
    exact GroupKey.valid_standard
  · exact (GroupKey.ofFields_eq_ok_iff.1 h).1

theorem storedKey_fields {key : GroupKey} (h : key.Valid) : storedKey key.fields = .ok key := by
  rw [storedKey_eq_ok_iff, if_neg h.fields_ne_nil]
  exact ⟨h.fields_nodup, rfl⟩

/-- What a restored workbook is made of. -/
theorem restore_eq_ok_iff {s : Snapshot} {wb : Workbook} :
    restore s = .ok wb ↔ ∃ rules key, RuleSet.restore s.drafts s.order = .ok rules ∧
      storedKey s.groupFields = .ok key ∧
      wb = recompute ⟨s.rows, rules, key, namedField s.sumField, []⟩ := by
  simp only [restore, assemble, map_eq_ok_iff, bind_eq_ok_iff, mapError_eq_ok_iff, pure_eq_ok_iff]
  constructor
  · rintro ⟨assembled, ⟨rules, hrules, key, hkey, rfl⟩, rfl⟩
    exact ⟨rules, key, hrules, hkey, rfl⟩
  · rintro ⟨rules, key, hrules, hkey, rfl⟩
    exact ⟨_, ⟨rules, hrules, key, hkey, rfl⟩, rfl⟩

/-! ## Runs -/

/-- The workbooks that runs lead to, each with the rows that were put in last. -/
inductive Reached : List Row → Workbook → Prop where
  | empty : Reached [] .empty
  | restored {s : Snapshot} {wb : Workbook} : restore s = .ok wb → Reached s.rows wb
  | changed {rows : List Row} {wb : Workbook} (c : Change) :
      Reached rows wb → Reached (c.imported rows) (wb.after c)

/-- Any changes one after the other belong to a run. -/
theorem Reached.foldl {rows : List Row} {wb : Workbook} (h : Reached rows wb)
    (changes : List Change) :
    Reached (changes.foldl (fun rows c => c.imported rows) rows) (changes.foldl after wb) := by
  induction changes generalizing rows wb with
  | nil => exact h
  | cons c changes ih => exact ih (h.changed c)

/-- The rows are the ones put in, labelled under the rules that are there now after whatever labels
they had before, and the summary is that of the rows. -/
structure Settled (imported : List Row) (wb : Workbook) : Prop where
  labelled : ∃ before, List.Forall₂ Row.SameData imported before ∧
    wb.rows = wb.rules.labelRows before
  summary_eq : wb.summary = summarize wb.rows wb.groupKey wb.sumField

/-- The rows differ from the ones put in at most in their labels. -/
theorem Settled.sameData {imported : List Row} {wb : Workbook} (h : Settled imported wb) :
    List.Forall₂ Row.SameData imported wb.rows := by
  obtain ⟨before, hbefore, hrows⟩ := h.labelled
  rw [hrows]
  exact wb.rules.forall₂_labelRows hbefore

/-- If no rule asks for labels, every row bears the label that the rules give it as it stands. -/
theorem Settled.label?_eq {imported : List Row} {wb : Workbook} (h : Settled imported wb)
    (hfree : wb.rules.LabelFree) {row : Row} (hrow : row ∈ wb.rows) :
    row.label? = some (wb.rules.labelOf row) := by
  obtain ⟨before, -, hrows⟩ := h.labelled
  rw [hrows] at hrow
  obtain ⟨original, -, rfl⟩ := List.mem_map.1 hrow
  -- the label was given to the row as it was before, which differs in its label only
  have hsame : wb.rules.labelOf original =
      wb.rules.labelOf (original.withLabel (wb.rules.labelOf original)) :=
    RuleSet.labelOf_of_sameData hfree (Row.sameData_withLabel original _)
  rw [Row.label?_withLabel, ← hsame]

/-- A full pass settles a workbook whose rows differ from the ones put in at most in labels. -/
theorem settled_recompute {imported : List Row} {wb : Workbook}
    (h : List.Forall₂ Row.SameData imported wb.rows) : Settled imported wb.recompute :=
  ⟨⟨wb.rows, h, rfl⟩, rfl⟩

/-- A change keeps a workbook settled. -/
theorem Settled.after {imported : List Row} {wb : Workbook} (h : Settled imported wb)
    (c : Change) : Settled (c.imported imported) (wb.after c) := by
  rcases after_cases wb c with ⟨⟨fault, hrefused⟩, hafter⟩ | ⟨effect, amended, hamend, hafter⟩
  · rw [hafter, imported_eq_of_refused hrefused]
    exact h
  · rw [hafter]
    rcases amend_cases hamend with ⟨rows, rfl, rfl⟩ | ⟨hc, himported, rules, -, rfl⟩ |
      ⟨hc, himported, key, field, -, -, rfl⟩
    · exact settled_recompute (List.forall₂_same.2 fun row _ => Row.SameData.refl row)
    · -- the rows are labelled anew, whatever labels they have
      rw [himported, refresh, if_pos hc]
      exact settled_recompute h.sameData
    · -- without a pass over the rows they stay labelled, since the rules are the same
      rw [himported, refresh, hc]
      exact ⟨h.labelled, rfl⟩

/-- Every workbook that a run leads to is settled. -/
theorem Reached.settled {imported : List Row} {wb : Workbook} (h : Reached imported wb) :
    Settled imported wb := by
  induction h with
  | empty => exact ⟨⟨[], .nil, rfl⟩, rfl⟩
  | restored hrestore =>
      obtain ⟨rules, key, -, -, rfl⟩ := restore_eq_ok_iff.1 hrestore
      exact settled_recompute (List.forall₂_same.2 fun row _ => Row.SameData.refl row)
  | changed c _ ih => exact ih.after c

/-- The rules of a workbook change by steps of its rule set only. -/
theorem Reached.rules {imported : List Row} {wb : Workbook} (h : Reached imported wb) :
    RuleSet.Reached wb.rules := by
  induction h with
  | empty => exact .empty
  | restored hrestore =>
      obtain ⟨rules, key, hrules, -, rfl⟩ := restore_eq_ok_iff.1 hrestore
      exact .restore hrules
  | @changed rows wb c _ ih =>
      rcases after_cases wb c with ⟨-, hafter⟩ | ⟨effect, amended, hamend, hafter⟩
      · rw [hafter]
        exact ih
      · -- the pass leaves the rules alone, so the change in the data decides
        rw [hafter, refresh_rules]
        rcases amend_cases hamend with ⟨rows, rfl, rfl⟩ | ⟨-, -, rules, rfl | hstep, rfl⟩ |
          ⟨-, -, key, field, -, -, rfl⟩
        · exact ih
        · exact ih
        · exact .step ih hstep
        · exact ih

/-- The group key always has a field and none twice, and a field to add up is always trimmed. -/
theorem Reached.view {imported : List Row} {wb : Workbook} (h : Reached imported wb) :
    wb.groupKey.Valid ∧ Named wb.sumField := by
  induction h with
  | empty => exact ⟨GroupKey.valid_standard, by simp [Named, Workbook.empty]⟩
  | restored hrestore =>
      obtain ⟨rules, key, -, hkey, rfl⟩ := restore_eq_ok_iff.1 hrestore
      exact ⟨storedKey_valid hkey, named_namedField _⟩
  | @changed rows wb c _ ih =>
      rcases after_cases wb c with ⟨-, hafter⟩ | ⟨effect, amended, hamend, hafter⟩
      · rw [hafter]
        exact ih
      · rw [hafter, refresh_groupKey, refresh_sumField]
        rcases amend_cases hamend with ⟨rows, rfl, rfl⟩ | ⟨-, -, rules, -, rfl⟩ |
          ⟨-, -, key, field, hkey, hfield, rfl⟩
        · exact ih
        · exact ih
        · refine ⟨?_, ?_⟩
          · rcases hkey with rfl | hkey
            · exact ih.1
            · exact hkey
          · rcases hfield with rfl | hfield
            · exact ih.2
            · exact hfield

/-! ## Runs to look at -/

/-- Two rows, of which one comes with a label. -/
def regions : List Row :=
  [.ofCells [("Region", "North"), ("Sales", "10")], .ofCells [("Rule", "old"), ("Region", "South")]]

/-- Rules are added, moved, edited and deleted; one of them asks for labels as long as it is there,
and one is refused because its name is taken. -/
def relabelling : List Change :=
  [.importRows regions, .addRule " north " "Region is North", .addRule "kept" "Rule is old",
    .addRule "north" "Region is South", .moveRule 1 .up, .editRule 0 "cold" "Region is North",
    .deleteRule 1, .group ["Region", "Rule"], .sum (some " Sales ")]

/-- The workbook that these changes lead to. -/
def relabelled : Workbook := relabelling.foldl after empty

theorem reached_relabelled : Reached regions relabelled :=
  Reached.empty.foldl relabelling

/-- Two rows without labels. -/
def sold : List Row :=
  [.ofCells [("Region", "North"), ("Product", "Widget")],
    .ofCells [("Region", "East"), ("Product", "Gizmo")]]

/-- Rules of which two apply to the first row and none to the second. -/
def arranging : List Change :=
  [.importRows sold, .addRule "south" "Region is South",
    .addRule "widgets" "Product contains widget", .addRule "north" "Region is North",
    .moveRule 2 .up]

/-- The workbook that these changes lead to. -/
def arranged : Workbook := arranging.foldl after empty

theorem reached_arranged : Reached sold arranged := Reached.empty.foldl arranging

end Workbook

end Rulebook
