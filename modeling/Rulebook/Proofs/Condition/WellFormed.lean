import Rulebook.Proofs.Condition.Display

/-!
# Clauses of parts of rule texts

What is read as a condition has a word for its field and an operand of the kind that its operator
compares. What is no condition is kept, trimmed. Both are said by `Clause.WellFormed`, and every
clause that is read is well formed (`Clause.wellFormed_read`).
-/

set_option autoImplicit false

namespace Rulebook

open Text

/-- The field is a word, and the operand is a number exactly if the operator compares numbers. Else
it is a text that is not empty, trimmed, and of the characters of textual operands. -/
structure Condition.WellFormed (c : Condition) : Prop where
  field_ne_empty : c.field ≠ ""
  field_word : ∀ d ∈ c.field.toList, isWordChar d = true
  number_iff : (∃ x, c.operand = .number x) ↔ c.operator.isRelational = true
  text_of_not : c.operator.isRelational = false → ∃ s, c.operand = .text s ∧ s ≠ "" ∧
    trimString s = s ∧ ∀ d ∈ s.toList, Operand.isPlain d = true

/-- A condition is well formed, and the text of what is no condition is trimmed. -/
def Clause.WellFormed : Clause → Prop
  | .condition c => c.WellFormed
  | .never source => trimString source = source

theorem ofList_ne_empty {text : List Char} (h : text ≠ []) : String.ofList text ≠ "" := by
  intro hempty
  have hnil := congrArg String.toList hempty
  rw [String.toList_ofList] at hnil
  exact h hnil

theorem trimString_ofList {text : List Char} (h : trim text = text) :
    trimString (String.ofList text) = String.ofList text := by
  rw [trimString, String.toList_ofList, h]

theorem Condition.wellFormed_of_read? {text : List Char} {c : Condition}
    (h : Condition.read? text = some c) : c.WellFormed := by
  obtain ⟨field, v, hfield, hne, hword, hv⟩ := exists_writes_of_read? h
  obtain ⟨cField, op, operand⟩ := c
  obtain rfl : cField = String.ofList field := hfield
  have hchars : ∀ d ∈ (String.ofList field).toList, isWordChar d = true := by
    rwa [String.toList_ofList]
  cases hv with
  | number minus relational _ _ =>
      refine ⟨ofList_ne_empty hne, hchars, iff_of_true ⟨_, rfl⟩ relational, fun hplain => ?_⟩
      rw [relational] at hplain
      cases hplain
  | text plain ne_nil trimmed chars =>
      refine ⟨ofList_ne_empty hne, hchars, iff_of_false ?_ (Bool.eq_false_iff.1 plain), fun _ => ?_⟩
      · rintro ⟨x, hx⟩
        cases hx
      · exact ⟨_, rfl, ofList_ne_empty ne_nil, trimString_ofList trimmed, by
          rwa [String.toList_ofList]⟩

/-- Every clause that is read is well formed. -/
theorem Clause.wellFormed_read (text : List Char) : (Clause.read text).WellFormed := by
  rw [Clause.read]
  cases h : Condition.read? text with
  | some c => exact Condition.wellFormed_of_read? h
  | none => exact trimString_ofList (trim_trim text)

end Rulebook
