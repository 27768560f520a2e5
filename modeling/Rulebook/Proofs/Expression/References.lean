import Rulebook.Expression
import Rulebook.Proofs.Row.Cells
import Rulebook.Proofs.Text.Lowering

/-!
# Columns that an expression does not ask for

`Expression.references` compares lower cases of whole names, while a row finds the column of a field
character by character. An expression sees no more of a row than the cells that its fields stand for
(`Expression.holds_congr`). Where the column holds no sigma, a column that an expression does not
reference is none that one of its fields stands for, and what is written there does not change
whether the expression holds (`Expression.holds_insert`).
-/

set_option autoImplicit false

namespace Rulebook

open Text

theorem mem_insertDistinct_iff {s t : String} {texts : List String} :
    s ∈ insertDistinct t texts ↔ s = t ∨ s ∈ texts := by
  induction texts with
  | nil => simp [insertDistinct]
  | cons u texts ih =>
      unfold insertDistinct
      split
      · simp
      · split
        · rename_i h
          simp [h]
        · simp only [List.mem_cons, ih]
          exact or_left_comm

namespace Expression

/-- The fields of an expression are the lower cases of the fields of its conditions. -/
theorem mem_fields_iff {e : Expression} {s : String} :
    s ∈ e.fields ↔ ∃ c ∈ e.conditions, lowerString c.field = s := by
  have key : ∀ texts : List String, s ∈ texts.foldr insertDistinct [] ↔ s ∈ texts := by
    intro texts
    induction texts with
    | nil => simp
    | cons t texts ih => simp [mem_insertDistinct_iff, ih]
  rw [fields, key, List.mem_map]

theorem references_iff {e : Expression} {field : String} :
    e.references field = true ↔ ∃ c ∈ e.conditions, lowerString c.field = lowerString field := by
  rw [references, List.contains_iff_mem, mem_fields_iff]

/-- A column for which a field without sigma stands is referenced. -/
theorem references_of_sameColumn {e : Expression} {column : String} {c : Condition}
    (hc : c ∈ e.conditions) (hsame : sameColumn column c.field = true)
    (hsigma : 'σ' ∉ foldChars c.field.toList) : e.references column = true := by
  -- names that are the same character by character have the same lower case
  have hfold : foldChars column.toList = foldChars c.field.toList := by
    simpa [sameColumn] using hsame
  have hlower : lowerString c.field = lowerString column := by
    rw [lowerString, lowerString, lower_eq_of_foldChars_eq hfold hsigma]
  exact references_iff.2 ⟨c, hc, hlower⟩

/-- A column without sigma that an expression does not reference is none that a field of it stands
for. -/
theorem not_sameColumn {e : Expression} {column : String} (h : e.references column = false)
    (hsigma : 'σ' ∉ foldChars column.toList) {c : Condition} (hc : c ∈ e.conditions) :
    sameColumn column c.field = false := by
  by_contra hsame
  rw [Bool.not_eq_false] at hsame
  have hfold : foldChars column.toList = foldChars c.field.toList := by
    simpa [sameColumn] using hsame
  have href := references_of_sameColumn hc hsame (hfold ▸ hsigma)
  rw [h] at href
  cases href

/-- Of a row, a clause sees no more than the cell that its field stands for. -/
theorem clause_holds_congr {clause : Clause} {row other : Row}
    (h : ∀ c, clause.condition? = some c → other.lookup? c.field = row.lookup? c.field) :
    clause.holds other = clause.holds row := by
  cases clause with
  | condition c => rw [Clause.holds, Clause.holds, Condition.holds, Condition.holds, h c rfl]
  | never source => rfl

/-- Of a row, an expression sees no more than the cells that its fields stand for. -/
theorem holds_congr {e : Expression} {row other : Row}
    (h : ∀ c ∈ e.conditions, other.lookup? c.field = row.lookup? c.field) :
    e.holds other = e.holds row := by
  have hclause : ∀ group ∈ e.groups, ∀ clause ∈ group,
      clause.holds other = clause.holds row := by
    intro group hgroup clause hmem
    refine clause_holds_congr fun c hc => h c ?_
    exact List.mem_filterMap.2 ⟨clause, List.mem_flatten.2 ⟨group, hgroup, hmem⟩, hc⟩
  rw [Bool.eq_iff_iff, holds, holds, List.any_eq_true, List.any_eq_true]
  refine exists_congr fun group => and_congr_right fun hgroup => ?_
  rw [List.all_eq_true, List.all_eq_true]
  exact forall₂_congr fun clause hmem => by rw [hclause group hgroup clause hmem]

/-- What is written to a column that is not referenced does not change whether an expression
holds. -/
theorem holds_insert {e : Expression} {column : String} (h : e.references column = false)
    (hsigma : 'σ' ∉ foldChars column.toList) (row : Row) (v : String) :
    e.holds (row.insert column v) = e.holds row :=
  holds_congr fun _ hc => Row.lookup?_insert (not_sameColumn h hsigma hc) v

end Expression

end Rulebook
