import Rulebook.Proofs.Expression.Codec
import Rulebook.Proofs.Expression.Fields
import Rulebook.Proofs.Row.Columns

/-!
# References and the columns of fields

Whether an expression references a column is told by lower cases of whole names, while the column of
a field is found character by character. For the expression of a rule text both say the same, since
its fields hold no sigma. In general they do as long as no capital sigma ends a word in a name
(`Expression.references_iff_lookup`). Otherwise neither implies the other
(`Expression.final_sigma_apart`).
-/

set_option autoImplicit false

namespace Rulebook

open Text

namespace Row

/-- The row of a single column. -/
def single (column v : String) : Row := ofCells [(column, v)]

theorem isSome_lookup?_single (column v field : String) :
    ((single column v).lookup? field).isSome = sameColumn column field := by
  rw [lookup?_eq_find?, Option.isSome_map]
  change ([(column, v)].find? fun cell => sameColumn cell.1 field).isSome = _
  rw [List.find?_singleton]
  cases sameColumn column field with
  | true => rfl
  | false => rfl

end Row

theorem sameColumn_iff {a b : String} :
    sameColumn a b = true ↔ foldChars a.toList = foldChars b.toList := by
  rw [sameColumn, decide_eq_true_iff]

theorem lowerString_eq_iff {a b : String} :
    lowerString a = lowerString b ↔ lower a.toList = lower b.toList := by
  rw [lowerString, lowerString, String.ofList_inj]

/-- Names in which no capital sigma ends a word are the same in lower case exactly if they are the
same character by character. -/
theorem lowerString_eq_iff_sameColumn {column field : String} (hcolumn : NoFinalSigma column.toList)
    (hfield : NoFinalSigma field.toList) :
    lowerString field = lowerString column ↔ sameColumn column field = true := by
  rw [lowerString_eq_iff, sameColumn_iff, hfield.lower_eq, hcolumn.lower_eq, eq_comm]

/-- A name that has the lower case of a word of ASCII letters and digits holds no capital sigma. -/
theorem not_mem_of_lower_eq {word text : List Char} (hword : ∀ c ∈ word, isWordChar c = true)
    (h : lower word = lower text) : 'Σ' ∉ text := by
  intro hmem
  rw [lower_eq_foldChars (sigma_not_mem_foldChars hword)] at h
  have hascii : ∀ d ∈ lower text, d.toNat < 128 := by
    intro d hd
    exact toNat_lt_of_mem_foldChars hword (h ▸ hd)
  rcases exists_sigma_of_mem hmem [] with hsigma | hsigma
  · exact absurd (hascii _ hsigma) (by decide)
  · exact absurd (hascii _ hsigma) (by decide)

namespace Expression

/-- A field of a rule text has the lower case of a column exactly if it stands for it, whatever the
name of the column. -/
theorem lowerString_field_iff {text : List Char} {c : Condition}
    (hc : c ∈ (Expression.read text).conditions) (column : String) :
    lowerString c.field = lowerString column ↔ sameColumn column c.field = true := by
  obtain ⟨part, hread⟩ := exists_read?_of_mem_conditions hc
  have hword := Condition.isWordChar_of_read? hread
  have hsigma := sigma_not_mem_foldChars hword
  constructor
  · intro h
    have hcolumn := not_mem_of_lower_eq hword (lowerString_eq_iff.1 h)
    have hfield := not_mem_of_lower_eq hword (rfl : lower c.field.toList = _)
    exact (lowerString_eq_iff_sameColumn (noFinalSigma_of_not_mem hcolumn)
      (noFinalSigma_of_not_mem hfield)).1 h
  · intro h
    rw [lowerString_eq_iff, lower_eq_of_foldChars_eq (sameColumn_iff.1 h) hsigma]

/-- **References agree with the columns of fields.** The expression of a rule text references a
column exactly if one of its fields stands for it in a row that has no other column. So does any
expression, provided that no capital sigma ends a word in the name of the column or in a field. -/
theorem references_iff_lookup (column v : String) :
    (∀ text : String, (Expression.read text.toList).references column = true ↔
      ∃ c ∈ (Expression.read text.toList).conditions,
        ((Row.single column v).lookup? c.field).isSome = true) ∧
    ∀ e : Expression, NoFinalSigma column.toList →
      (∀ c ∈ e.conditions, NoFinalSigma c.field.toList) →
      (e.references column = true ↔
        ∃ c ∈ e.conditions, ((Row.single column v).lookup? c.field).isSome = true) := by
  simp only [references_iff, Row.isSome_lookup?_single]
  constructor
  · intro text
    refine exists_congr fun c => and_congr_right fun hc => ?_
    exact lowerString_field_iff hc column
  · intro e hcolumn hfields
    refine exists_congr fun c => and_congr_right fun hc => ?_
    exact lowerString_eq_iff_sameColumn hcolumn (hfields c hc)

/-- The expression with one condition on the field given. -/
def onField (field : String) : Expression := ⟨[[.condition ⟨field, .equal, .text "x"⟩]]⟩

theorem noFinalSigma_initial : NoFinalSigma ['Σ', 'Α'] := by
  intro front back htext
  cases front with
  | nil =>
      obtain rfl : ['Α'] = back := (List.cons.inj htext).2
      decide
  | cons c front =>
      -- there is no other sigma behind the first character
      have hmem : 'Σ' ∈ ['Α'] := by
        rw [show ['Α'] = front ++ 'Σ' :: back from (List.cons.inj htext).2]
        exact List.mem_append_right front List.mem_cons_self
      exact absurd hmem (by decide)

/-- A rule text in mixed case, and a field with a capital sigma that does not end its word. -/
theorem references_iff_lookup_salary :
    ((Expression.read "If sALARY is 7".toList).references "Salary" = true ↔
      ∃ c ∈ (Expression.read "If sALARY is 7".toList).conditions,
        ((Row.single "Salary" "7").lookup? c.field).isSome = true) ∧
    NoFinalSigma "σα".toList ∧ (∀ c ∈ (onField "ΣΑ").conditions, NoFinalSigma c.field.toList) ∧
    (onField "ΣΑ").references "σα" = true ∧
    ((onField "ΣΑ").references "σα" = true ↔
      ∃ c ∈ (onField "ΣΑ").conditions, ((Row.single "σα" "x").lookup? c.field).isSome = true) := by
  have hcolumn : NoFinalSigma "σα".toList := noFinalSigma_of_not_mem (by decide)
  have hfields : ∀ c ∈ (onField "ΣΑ").conditions, NoFinalSigma c.field.toList := by
    intro c hc
    obtain rfl := List.mem_singleton.1 hc
    exact noFinalSigma_initial
  exact ⟨(references_iff_lookup "Salary" "7").1 "If sALARY is 7", hcolumn, hfields,
    by decide +kernel, (references_iff_lookup "σα" "x").2 (onField "ΣΑ") hcolumn hfields⟩

/-- An expression that is read from a text, on a field with a capital sigma at the end. It does not
reference the column for which its field stands, and it references one for which it does not. -/
theorem final_sigma_apart :
    (Json.read? (onField "ΑΣ").toJson.compact).bind ofJson? = some (onField "ΑΣ") ∧
    ¬ ((onField "ΑΣ").references "ασ" = true ↔
      ∃ c ∈ (onField "ΑΣ").conditions, ((Row.single "ασ" "x").lookup? c.field).isSome = true) ∧
    ¬ ((onField "ΑΣ").references "ας" = true ↔
      ∃ c ∈ (onField "ΑΣ").conditions, ((Row.single "ας" "x").lookup? c.field).isSome = true) := by
  refine ⟨?_, by decide +kernel, by decide +kernel⟩
  rw [(onField "ΑΣ").read?_toJson.1]
  exact reread?_eq_self nofun

end Expression

end Rulebook
