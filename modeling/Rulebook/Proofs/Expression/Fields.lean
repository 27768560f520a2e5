import Rulebook.Expression.Reader
import Rulebook.Proofs.Expression.References
import Rulebook.Proofs.Text.Classes
import Mathlib.Data.List.TakeWhile

/-!
# Fields of rule texts

The field of a condition that is read from a text is a word of ASCII letters, digits and underscores
(`Condition.isWordChar_of_read?`), and such a word has no sigma in lower case. For the expression of
a rule text the two ways to compare names therefore agree: every column that one of its fields
stands for is referenced. So a column that is not referenced, whatever its name, has no influence on
whether the expression holds (`Expression.read_holds_insert`).
-/

set_option autoImplicit false

namespace Rulebook

open Text

namespace Text

/-- In lower case a word character stays within ASCII. -/
theorem toNat_lt_of_mem_lowerChar {c d : Char} (h : isWordChar c = true) (hd : d ∈ lowerChar c) :
    d.toNat < 128 := by
  -- there are too many characters to look at each of them, but a word character is an ASCII one
  have hascii : ∀ n < 128, (lowerChar (Char.ofNat n)).all (fun d => d.toNat < 128) = true := by
    decide +kernel
  have hlt : c.toNat < 128 := by
    simp only [isWordChar, isAsciiDigit, Bool.or_eq_true, Bool.and_eq_true, decide_eq_true_eq] at h
    rcases h with ((⟨-, h⟩ | ⟨-, h⟩) | ⟨-, h⟩) | rfl
    · exact Nat.lt_of_le_of_lt h (by decide)
    · exact Nat.lt_of_le_of_lt h (by decide)
    · exact Nat.lt_of_le_of_lt h (by decide)
    · decide
  have hc := forall_ascii (p := fun c => (lowerChar c).all (fun d => d.toNat < 128) = true)
    hascii hlt
  exact of_decide_eq_true (List.all_eq_true.1 hc d hd)

theorem toNat_lt_of_mem_foldChars {word : List Char} (h : ∀ c ∈ word, isWordChar c = true)
    {d : Char} (hd : d ∈ foldChars word) : d.toNat < 128 := by
  obtain ⟨c, hc, hmem⟩ := List.mem_flatMap.1 hd
  exact toNat_lt_of_mem_lowerChar (h c hc) hmem

theorem sigma_not_mem_foldChars {word : List Char} (h : ∀ c ∈ word, isWordChar c = true) :
    'σ' ∉ foldChars word :=
  fun hmem => absurd (toNat_lt_of_mem_foldChars h hmem) (by decide)

end Text

/-- The field of a condition that is read consists of word characters. -/
theorem Condition.isWordChar_of_read? {text : List Char} {c : Condition}
    (h : Condition.read? text = some c) : ∀ ch ∈ c.field.toList, isWordChar ch = true := by
  -- whatever the operator and the operand, the field is the word at the front of the text
  rw [Condition.read?, Condition.readWith?] at h
  split at h
  · cases h
  · obtain ⟨spelled, -, hread⟩ := List.exists_of_findSome?_eq_some h
    rw [Condition.readAs?] at hread
    obtain ⟨behind, -, hread⟩ := Option.bind_eq_some_iff.1 hread
    obtain ⟨operand, -, hread⟩ := Option.bind_eq_some_iff.1 hread
    obtain rfl := Option.some.inj hread
    intro ch hch
    rw [String.toList_ofList] at hch
    exact List.mem_takeWhile_imp hch

namespace Expression

variable {text : List Char} {c : Condition}

/-- Each condition of a rule text is read from a part of it. -/
theorem exists_read?_of_mem_conditions (h : c ∈ (Expression.read text).conditions) :
    ∃ part, Condition.read? part = some c := by
  obtain ⟨clause, hclause, hcondition⟩ := List.mem_filterMap.1 h
  obtain ⟨group, hgroup, hmem⟩ := List.mem_flatten.1 hclause
  obtain ⟨groupText, -, rfl⟩ := List.mem_map.1 hgroup
  obtain ⟨part, -, rfl⟩ := List.mem_map.1 hmem
  refine ⟨part, ?_⟩
  rw [Clause.read] at hcondition
  cases hread : Condition.read? part with
  | none =>
      rw [hread] at hcondition
      cases hcondition
  | some found =>
      rw [hread] at hcondition
      exact hcondition

/-- A column that a rule text does not reference is none that one of its fields stands for. -/
theorem read_not_sameColumn {column : String}
    (h : (Expression.read text).references column = false)
    (hc : c ∈ (Expression.read text).conditions) : sameColumn column c.field = false := by
  obtain ⟨part, hread⟩ := exists_read?_of_mem_conditions hc
  have hsigma := sigma_not_mem_foldChars (Condition.isWordChar_of_read? hread)
  by_contra hsame
  rw [Bool.not_eq_false] at hsame
  rw [references_of_sameColumn hc hsame hsigma] at h
  cases h

/-- A column that a rule text does not reference cannot influence it: the expression holds of a row
if and only if it holds once any value has been written to the column, be it there already, be it
new, or be there another one that differs from it only in case. -/
theorem read_holds_insert (text : String) {column : String}
    (h : (Expression.read text.toList).references column = false) (row : Row) (v : String) :
    (Expression.read text.toList).holds (row.insert column v) =
      (Expression.read text.toList).holds row := by
  apply holds_congr
  intro c hc
  exact Row.lookup?_insert (read_not_sameColumn h hc) v

/-- A rule on `id`. A dotted capital I is no form of its letter, so `İD` is not referenced, though a
column that differs from it only in case stands in front of the one that the rule asks for. -/
theorem read_holds_insert_dotted :
    (Expression.read "If id is 7 then keep".toList).references "İD" = false ∧
      (Expression.read "If id is 7 then keep".toList).holds
          ((Row.ofCells [("İd", "8"), ("ID", "7")]).insert "İD" "9") =
        (Expression.read "If id is 7 then keep".toList).holds
          (Row.ofCells [("İd", "8"), ("ID", "7")]) ∧
      (Expression.read "If id is 7 then keep".toList).holds
        (Row.ofCells [("İd", "8"), ("ID", "7")]) = true := by
  have href : (Expression.read "If id is 7 then keep".toList).references "İD" = false := by
    decide +kernel
  refine ⟨href, read_holds_insert _ href _ _, ?_⟩
  decide +kernel

end Expression

end Rulebook
