import Rulebook.Proofs.GroupKey.Selection
import Rulebook.Proofs.RuleSet.Refusals
import Rulebook.Proofs.Workbook.Runs
import Rulebook.Workbook.Session

/-!
# Refused changes

`Workbook.Refuses` lists the changes that a workbook refuses, each with the fault that is reported.
Everything else goes through (`Reached.change_refused_iff`): to put rows in, to move a rule, to
choose a field to add up and to make a full pass are never refused. A refused change leaves the
workbook and the saved file as they were; no pass follows it, so not even a label changes that a
full pass would change.
-/

set_option autoImplicit false

namespace Rulebook

namespace Workbook

/-- The changes that a workbook refuses, and why. -/
inductive Refuses (wb : Workbook) : Change → Fault → Prop where
  | add {name text : String} {rejection : Rejection} :
      wb.rules.Unfit none name text rejection →
      Refuses wb (.addRule name text) (.rejected rejection)
  | editMissing {slot : Nat} {name text : String} : wb.rules.size ≤ slot →
      Refuses wb (.editRule slot name text) (.ruleNotFound slot wb.rules.size)
  | edit {slot : Nat} {name text : String} {rejection : Rejection} : slot < wb.rules.size →
      wb.rules.Unfit (some slot) name text rejection →
      Refuses wb (.editRule slot name text) (.rejected rejection)
  | deleteMissing {slot : Nat} : wb.rules.size ≤ slot →
      Refuses wb (.deleteRule slot) (.ruleNotFound slot wb.rules.size)
  | groupNothing : Refuses wb (.group []) (.rejected .emptyGroupKey)
  /-- The field is the first that repeats an earlier one. -/
  | groupTwice {front back : List String} {field : String} : front.Nodup → field ∈ front →
      Refuses wb (.group (front ++ field :: back)) (.rejected (.duplicateGroupField field))
  | regroupNothing : Refuses wb (.regroup []) (.rejected .emptyGroupKey)

variable {imported : List Row} {wb : Workbook}

/-- What goes on with the rest of a change after a check fails as the check does. -/
theorem refused_of_check {ε α β : Type} {check : Except ε α} {f : ε → Fault} {g : α → β}
    {fault : Fault} :
    (check.mapError f >>= fun a => pure (g a)) = .error fault ↔
      ∃ e, check = .error e ∧ f e = fault := by
  rw [bind_eq_error_iff, mapError_eq_error_iff]
  constructor
  · rintro (h | ⟨a, -, h⟩)
    · exact h
    · exact absurd h pure_ne_error
  · exact .inl

theorem amend_eq_error_iff (hkey : wb.groupKey.Valid) {c : Change} {fault : Fault} :
    wb.amend c = .error fault ↔ wb.Refuses c fault := by
  cases c with
  | importRows rows => exact ⟨fun h => (by cases h), fun h => (by cases h)⟩
  | addRule name text =>
      rw [amend, refused_of_check]
      simp only [RuleSet.add_eq_error_iff]
      constructor
      · rintro ⟨rejection, hunfit, rfl⟩
        exact .add hunfit
      · intro h
        cases h with
        | add hunfit => exact ⟨_, hunfit, rfl⟩
  | editRule slot name text =>
      rw [amend, bind_eq_error_iff, RuleSet.edit_eq_error_iff]
      constructor
      · rintro ((⟨hslot, rfl⟩ | ⟨hslot, rejection, hunfit, rfl⟩) | ⟨rules, -, h⟩)
        · exact .editMissing hslot
        · exact .edit hslot hunfit
        · exact absurd h pure_ne_error
      · intro h
        cases h with
        | editMissing hslot => exact .inl (.inl ⟨hslot, rfl⟩)
        | edit hslot hunfit => exact .inl (.inr ⟨hslot, _, hunfit, rfl⟩)
  | deleteRule slot =>
      rw [amend, bind_eq_error_iff, RuleSet.delete_eq_error_iff]
      constructor
      · rintro (⟨hslot, rfl⟩ | ⟨removed, -, h⟩)
        · exact .deleteMissing hslot
        · exact absurd h pure_ne_error
      · intro h
        cases h with
        | deleteMissing hslot => exact .inl ⟨hslot, rfl⟩
  | moveRule slot direction => exact ⟨fun h => (by cases h), fun h => (by cases h)⟩
  | group fields =>
      rw [amend, refused_of_check]
      simp only [GroupKey.ofFields_eq_error_iff]
      constructor
      · rintro ⟨_, ⟨rfl, rfl⟩ | ⟨front, field, back, rfl, hnodup, hfield, rfl⟩, rfl⟩
        · exact .groupNothing
        · exact .groupTwice hnodup hfield
      · intro h
        cases h with
        | groupNothing => exact ⟨_, .inl ⟨rfl, rfl⟩, rfl⟩
        | groupTwice hnodup hfield => exact ⟨_, .inr ⟨_, _, _, rfl, hnodup, hfield, rfl⟩, rfl⟩
  | regroup selection =>
      rw [amend, refused_of_check]
      simp only [GroupKey.reselect_eq_error_iff hkey]
      constructor
      · rintro ⟨_, ⟨rfl, rfl⟩, rfl⟩
        exact .regroupNothing
      · intro h
        cases h with
        | regroupNothing => exact ⟨_, ⟨rfl, rfl⟩, rfl⟩
  | sum field => exact ⟨fun h => (by cases h), fun h => (by cases h)⟩
  | recompute => exact ⟨fun h => (by cases h), fun h => (by cases h)⟩

end Workbook

end Rulebook
