import Rulebook.Condition.Evaluation
import Rulebook.Proofs.Condition.Display
import Rulebook.Proofs.Text.Sigma

/-!
# Containment

A cell contains an operand if the lower case of the one is part of that of the other
(`withinCell_iff`). Lower case is that of whole texts, so an operand that occurs in a cell as it is
written is contained in it if no capital sigma ends a word in one of them and not in the other
(`contains_of_occurrence`). `ΑΣΑ` does not contain `ΑΣ`. An operand without white space at its ends
is contained in every cell that equals it (`contains_of_equal`).
-/

set_option autoImplicit false

namespace Rulebook

open Text

theorem occurs_iff_infix {needle text : List Char} : occurs needle text = true ↔ needle <:+: text := by
  induction text with
  | nil => rw [occurs, List.isEmpty_iff, List.infix_nil]
  | cons c text ih =>
      rw [occurs, Bool.or_eq_true, List.isPrefixOf_iff_prefix, ih, List.infix_cons_iff]

/-- A cell contains an operand if the lower case of the operand is part of that of the cell. -/
theorem withinCell_iff {operand : Operand} {cell : Option String} :
    operand.withinCell cell = true ↔ lower operand.render.toList <:+: lower (cellText cell) :=
  occurs_iff_infix

/-- `Contains` and its negation of a cell that contains the operand. -/
theorem holds_of_withinCell {operand : Operand} {cell : Option String}
    (h : operand.withinCell cell = true) :
    holdsOfCell .contains operand cell = true ∧ holdsOfCell .notContains operand cell = false := by
  refine ⟨h, ?_⟩
  rw [holdsOfCell, h, Bool.not_true]

/-! ## Operands that occur in a cell -/

/-- An operand that occurs in a cell as it is written is contained in it, if each capital sigma of
the operand ends a word in the cell exactly if it does in the operand. -/
theorem contains_of_occurrence {cell s : String} {before after : List Char}
    (hcell : cell.toList = before ++ (s.toList ++ after))
    (hsigmas : KeepsSigmas before s.toList after) :
    holdsOfCell .contains (.text s) (some cell) = true ∧
      holdsOfCell .notContains (.text s) (some cell) = false := by
  apply holds_of_withinCell
  rw [withinCell_iff, cellText, Option.getD_some, hcell]
  exact lower_infix hsigmas

/-- The operand is a word of the cell, and its sigma ends the word in both. -/
theorem contains_of_occurrence_word :
    "οδός ΟΔΟΣ 5".toList = "οδός ".toList ++ ("ΟΔΟΣ".toList ++ " 5".toList) ∧
      KeepsSigmas "οδός ".toList "ΟΔΟΣ".toList " 5".toList ∧
        holdsOfCell .contains (.text "ΟΔΟΣ") (some "οδός ΟΔΟΣ 5") = true ∧
          holdsOfCell .notContains (.text "ΟΔΟΣ") (some "οδός ΟΔΟΣ 5") = false := by
  have hcell : "οδός ΟΔΟΣ 5".toList = "οδός ".toList ++ ("ΟΔΟΣ".toList ++ " 5".toList) := by decide
  have hsigmas : KeepsSigmas "οδός ".toList "ΟΔΟΣ".toList " 5".toList :=
    keepsSigmas_of_uncased rfl rfl
  exact ⟨hcell, hsigmas, contains_of_occurrence hcell hsigmas⟩

/-- Without a capital sigma, an operand that occurs in a cell is contained in it. -/
theorem contains_of_no_sigma {cell s : String} (hcell : s.toList <:+: cell.toList)
    (hsigma : 'Σ' ∉ s.toList) : holdsOfCell .contains (.text s) (some cell) = true ∧
      holdsOfCell .notContains (.text s) (some cell) = false := by
  obtain ⟨before, after, hcell⟩ := hcell
  apply holds_of_withinCell
  rw [withinCell_iff, cellText, Option.getD_some, ← hcell, List.append_assoc]
  exact lower_infix (keepsSigmas_of_no_sigma hsigma)

/-- The sigma ends a word in the operand and none in the cell. -/
theorem sigma_not_contained :
    "ΑΣ".toList <:+: "ΑΣΑ".toList ∧ holdsOfCell .contains (.text "ΑΣ") (some "ΑΣΑ") = false ∧
      holdsOfCell .notContains (.text "ΑΣ") (some "ΑΣΑ") = true := by
  have hcontains : holdsOfCell .contains (.text "ΑΣ") (some "ΑΣΑ") = false := rfl
  have hnot : holdsOfCell .notContains (.text "ΑΣ") (some "ΑΣΑ") = true := rfl
  exact ⟨⟨[], ['Α'], by decide⟩, hcontains, hnot⟩

/-! ## Cells that equal an operand -/

theorem withinCell_of_equalsCell {operand : Operand} {cell : Option String}
    (htrim : trim operand.render.toList = operand.render.toList)
    (h : operand.equalsCell cell = true) : operand.withinCell cell = true := by
  have hsame : lower (trim (cellText cell)) = lower operand.render.toList := by
    rw [Operand.equalsCell, decide_eq_true_eq] at h
    rw [h, htrim]
  rw [withinCell_iff, ← hsame]
  exact lower_trim_infix (cellText cell)

/-- The text operand of a condition that was read has no white space at its ends. -/
theorem Condition.trimString_of_read? {text : List Char} {c : Condition} {s : String}
    (h : read? text = some c) (hs : c.operand = .text s) : trimString s = s := by
  obtain ⟨field, v, -, -, -, hv⟩ := exists_writes_of_read? h
  have hbare := hv.bare
  rw [hs] at hv
  cases hv with
  | text => rw [trimString, String.toList_ofList, (trim_eq_self_iff v).2 hbare]

/-- A text operand without white space at its ends, as every one that is read, is contained in every
cell that equals it, whether or not there is a cell. -/
theorem contains_of_equal :
    (∀ text c s, Condition.read? text = some c → c.operand = .text s → trimString s = s) ∧
      ∀ s, trimString s = s → ∀ cell : Option String,
        (holdsOfCell .equal (.text s) cell = true → holdsOfCell .contains (.text s) cell = true) ∧
          (holdsOfCell .notContains (.text s) cell = true →
            holdsOfCell .notEqual (.text s) cell = true) := by
  constructor
  · intro text c s h hs
    exact Condition.trimString_of_read? h hs
  · intro s hs cell
    have hwithin : (Operand.text s).equalsCell cell = true →
        (Operand.text s).withinCell cell = true := withinCell_of_equalsCell (trim_toList hs)
    refine ⟨hwithin, ?_⟩
    intro hnot
    cases hequal : (Operand.text s).equalsCell cell with
    | false => rw [holdsOfCell, hequal, Bool.not_false]
    | true =>
        -- a cell that equals the operand would contain it
        rw [holdsOfCell, hwithin hequal] at hnot
        cases hnot

theorem contains_of_equal_street :
    Condition.read? "Street contains ΟΔΟΣ".toList = some ⟨"Street", .contains, .text "ΟΔΟΣ"⟩ ∧
      trimString "ΟΔΟΣ" = "ΟΔΟΣ" ∧
        holdsOfCell .equal (.text "ΟΔΟΣ") (some "\u00a0οδος ") = true ∧
          holdsOfCell .contains (.text "ΟΔΟΣ") (some "\u00a0οδος ") = true ∧
            holdsOfCell .notContains (.text "ΟΔΟΣ") none = true ∧
              holdsOfCell .notEqual (.text "ΟΔΟΣ") none = true := by
  have hread : Condition.read? "Street contains ΟΔΟΣ".toList =
      some ⟨"Street", .contains, .text "ΟΔΟΣ"⟩ := rfl
  have hbare : trimString "ΟΔΟΣ" = "ΟΔΟΣ" := contains_of_equal.1 _ _ _ hread rfl
  have hequal : holdsOfCell .equal (.text "ΟΔΟΣ") (some "\u00a0οδος ") = true := rfl
  have hnot : holdsOfCell .notContains (.text "ΟΔΟΣ") none = true := rfl
  exact ⟨hread, hbare, hequal, (contains_of_equal.2 _ hbare _).1 hequal, hnot,
    (contains_of_equal.2 _ hbare _).2 hnot⟩

end Rulebook
