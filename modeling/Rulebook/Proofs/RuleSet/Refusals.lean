import Rulebook.Proofs.RuleSet.Validity

/-!
# Refused rules

`RuleSet.Unfit` says why a rule is refused, and for which of several reasons: an empty name counts
before a name that is taken, and that before a blank text. Adding asks about all rules, editing
about all but the one in the slot. Each operation has one lemma that says when it fails and how
(`add_eq_error_iff`, `edit_eq_error_iff`, `delete_eq_error_iff`).
-/

set_option autoImplicit false

namespace Rulebook

open Text

namespace RuleSet

/-- A rule bears the name; the rule in the slot `except` is left out of account. -/
def Taken (set : RuleSet) (except : Option Nat) (name : String) : Prop :=
  ∃ slot rule, set.get? slot = some rule ∧ some slot ≠ except ∧ rule.name = name

/-- Why a rule with a name and a text is refused beside the rules of a set, of which one may be left
out of account. A reason counts only if none before it does. -/
inductive Unfit (set : RuleSet) (except : Option Nat) (name text : String) : Rejection → Prop where
  | emptyName : trimString name = "" → Unfit set except name text .emptyName
  | duplicateName : trimString name ≠ "" → set.Taken except (trimString name) →
      Unfit set except name text (.duplicateName (trimString name))
  | emptyText : trimString name ≠ "" → ¬ set.Taken except (trimString name) →
      trimString text = "" → Unfit set except name text .emptyText

variable {set : RuleSet} {slot : Nat} {name text : String}

/-! ## Names that are taken -/

theorem mem_names_iff : name ∈ set.rules.map Rule.name ↔ set.Taken none name := by
  rw [List.mem_map]
  constructor
  · rintro ⟨rule, hrule, hname⟩
    obtain ⟨other, hother⟩ := List.mem_iff_getElem?.1 hrule
    exact ⟨other, rule, hother, by simp, hname⟩
  · rintro ⟨other, rule, hother, -, hname⟩
    exact ⟨rule, List.mem_of_getElem? hother, hname⟩

/-- The rules but for one slot bear the names that are taken in other slots. -/
theorem mem_names_eraseIdx_iff :
    name ∈ (set.rules.eraseIdx slot).map Rule.name ↔ set.Taken (some slot) name := by
  simp only [List.mem_map, List.mem_eraseIdx_iff_getElem?]
  constructor
  · rintro ⟨rule, ⟨other, hne, hother⟩, hname⟩
    exact ⟨other, rule, hother, fun h => hne (Option.some.inj h), hname⟩
  · rintro ⟨other, rule, hother, hne, hname⟩
    exact ⟨rule, ⟨other, fun h => hne (congrArg some h), hother⟩, hname⟩

/-! ## What the operations refuse -/

/-- What is refused beside rules that bear the names taken. -/
theorem accept_eq_error_iff {except : Option Nat} {others : List Rule}
    (hothers : ∀ n, n ∈ others.map Rule.name ↔ set.Taken except n) {rejection : Rejection} :
    accept others name text = .error rejection ↔ set.Unfit except name text rejection := by
  have htaken : others.any (fun rule => rule.name = trimString name) = true ↔
      set.Taken except (trimString name) := by
    rw [← hothers]
    simp
  simp only [accept]
  constructor
  · intro h
    split at h
    · rename_i hname
      cases h
      exact .emptyName hname
    · rename_i hname
      split at h
      · rename_i hsome
        cases h
        exact .duplicateName hname (htaken.1 hsome)
      · rename_i hnone
        split at h
        · rename_i htext
          cases h
          exact .emptyText hname (fun hsome => hnone (htaken.2 hsome)) htext
        · cases h
  · intro h
    cases h with
    | emptyName hname => rw [if_pos hname]
    | duplicateName hname hsome => rw [if_neg hname, if_pos (htaken.2 hsome)]
    | emptyText hname hnone htext =>
        rw [if_neg hname, if_neg fun hsome => hnone (htaken.1 hsome), if_pos htext]

theorem require_eq_error_iff {fault : Fault} :
    set.require slot = .error fault ↔ set.size ≤ slot ∧ fault = .ruleNotFound slot set.size := by
  have hslot : set.get? slot = none ↔ set.size ≤ slot := List.getElem?_eq_none_iff
  rw [← hslot]
  cases h : set.get? slot with
  | none => simp [require, h, eq_comm (b := fault)]
  | some rule => simp [require, h]

theorem add_eq_error_iff {rejection : Rejection} :
    set.add name text = .error rejection ↔ set.Unfit none name text rejection := by
  rw [add, bind_eq_error_iff, accept_eq_error_iff fun _ => mem_names_iff]
  constructor
  · rintro (h | ⟨accepted, -, h⟩)
    · exact h
    · exact absurd h pure_ne_error
  · exact .inl

/-- A slot that is not there counts before anything that is wrong with the rule. -/
theorem edit_eq_error_iff {fault : Fault} :
    set.edit slot name text = .error fault ↔
      (set.size ≤ slot ∧ fault = .ruleNotFound slot set.size) ∨
      slot < set.size ∧ ∃ rejection, set.Unfit (some slot) name text rejection ∧
        fault = .rejected rejection := by
  have hrule : (∃ rule, set.require slot = .ok rule) ↔ slot < set.size := by
    simp only [require_eq_ok_iff, get?, List.getElem?_eq_some_iff]
    exact ⟨fun ⟨_, h, _⟩ => h, fun h => ⟨_, h, rfl⟩⟩
  simp only [edit, bind_eq_error_iff, mapError_eq_error_iff, require_eq_error_iff,
    accept_eq_error_iff fun _ => mem_names_eraseIdx_iff]
  rw [← hrule]
  constructor
  · rintro (h | ⟨rule, hrule, ⟨rejection, hunfit, rfl⟩ | ⟨accepted, -, h⟩⟩)
    · exact .inl h
    · exact .inr ⟨⟨rule, hrule⟩, rejection, hunfit, rfl⟩
    · exact absurd h pure_ne_error
  · rintro (h | ⟨⟨rule, hrule⟩, rejection, hunfit, rfl⟩)
    · exact .inl h
    · exact .inr ⟨rule, hrule, .inl ⟨rejection, hunfit, rfl⟩⟩

theorem delete_eq_error_iff {fault : Fault} :
    set.delete slot = .error fault ↔
      set.size ≤ slot ∧ fault = .ruleNotFound slot set.size := by
  rw [delete, bind_eq_error_iff, require_eq_error_iff]
  constructor
  · rintro (h | ⟨rule, -, h⟩)
    · exact h
    · exact absurd h pure_ne_error
  · exact .inl

end RuleSet

end Rulebook
