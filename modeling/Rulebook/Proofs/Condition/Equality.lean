import Rulebook.Proofs.Condition.Reading

/-!
# Operands that begin with `not`

An operand may begin with the letters of `not` without being negated: `nothing` is one. The word
ends, however, before any character that is no ASCII word character, while an operand may go on with
a point, a minus sign or a letter beyond ASCII. There `is` with the operand is read as `is not`
(`Condition.equality_read`): a status `not-applicable` turns into a status other than
`-applicable`.
-/

set_option autoImplicit false

namespace Rulebook

open Text

namespace Operand

/-- The only white space in a textual operand are spaces. -/
theorem eq_space_of_isPlain {c : Char} (h : isPlain c = true) (hblank : isBlank c = true) :
    c = ' ' := by
  have hcodes : ∀ n ∈ blankCodes, isPlain (Char.ofNat n) = true → Char.ofNat n = ' ' := by
    decide +kernel
  exact forall_isBlank (p := fun c => isPlain c = true → c = ' ') hcodes hblank h

end Operand

/-- An equality with single spaces between its parts. -/
def equalityText (field v : List Char) : List Char := field ++ (" is ".toList ++ v)

variable {field v : List Char}

/-- Where the first word of an operand is longer than `not`, no space follows the letters of it. -/
theorem bare_of_longer_word {negated rest : List Char}
    (hv : Operand.Writes .equal (negated ++ rest) (.text (String.ofList (negated ++ rest))))
    (hnegated : Spells negation negated) (hrest : rest ≠ [])
    (hfirst : ¬ Spells negation ((negated ++ rest).takeWhile (· ≠ ' '))) : Bare rest := by
  obtain ⟨c, more, rfl⟩ := List.exists_cons_of_ne_nil hrest
  have hspaces : ∀ d ∈ negated, (decide (d ≠ ' ')) = true := by
    intro d hd
    have hblank := hnegated.no_blank (no_blank_of_any (by decide)) d hd
    refine decide_eq_true ?_
    rintro rfl
    exact absurd hblank (by decide)
  constructor
  · rintro d ⟨⟩
    rw [← Bool.not_eq_true]
    intro hblank
    have hplain : Operand.isPlain c = true :=
      hv.isPlain rfl c (List.mem_append_right _ List.mem_cons_self)
    obtain rfl := Operand.eq_space_of_isPlain hplain hblank
    refine hfirst ?_
    rw [List.takeWhile_append_of_pos hspaces]
    simpa using hnegated
  · intro d hd
    refine hv.bare.2 d ?_
    rw [List.getLast?_append_of_ne_nil _ hrest]
    exact hd

namespace Condition

/-- An operand whose first word is not `not` makes `is` an equality with it, unless its first word
begins with `not` and goes on with a character that ends a word. Then the condition is that the
field is not what stands behind these letters. -/
theorem equality_read (hne : field ≠ []) (hword : ∀ c ∈ field, isWordChar c = true)
    (hv : Operand.Writes .equal v (.text (String.ofList v)))
    (hfirst : ¬ Spells negation (v.takeWhile (· ≠ ' '))) :
    (read? (equalityText field v) = some ⟨String.ofList field, .equal, .text (String.ofList v)⟩ ↔
        ¬ StartsNot v) ∧
      ∀ negated rest, v = negated ++ rest → Spells negation negated → rest ≠ [] →
        startsWord rest = false → read? (equalityText field v) =
          some ⟨String.ofList field, .notEqual, .text (String.ofList rest)⟩ := by
  have htext : (WrittenCondition.plain hne hword hv).text = equalityText field v :=
    WrittenCondition.text_plain hne hword hv
  have hiff := (WrittenCondition.plain hne hword hv).read?_eq_iff
  rw [htext] at hiff
  refine ⟨hiff.trans (not_congr ⟨And.right, fun h => ⟨rfl, h⟩⟩), ?_⟩
  rintro negated rest rfl hnegated hrest hstarts
  have hread := (WrittenCondition.plain hne hword hv).read?_of_negated rfl rfl hnegated hrest
    hstarts
  have hbare := bare_of_longer_word hv hnegated hrest hfirst
  rwa [htext, (trim_eq_self_iff rest).2 hbare] at hread

theorem equality_read_status :
    read? (equalityText "Status".toList "nothing".toList) =
        some ⟨"Status", .equal, .text "nothing"⟩ ∧
      read? (equalityText "Status".toList "Noté 2".toList) =
        some ⟨"Status", .notEqual, .text "é 2"⟩ := by
  have hword : ∀ c ∈ "Status".toList, isWordChar c = true := List.all_eq_true.1 (by decide)
  constructor
  · refine (equality_read (by decide) hword
      (.text rfl (by decide) (by decide) (List.all_eq_true.1 (by decide))) (by decide)).1.2 ?_
    decide
  · exact (equality_read (by decide) hword
      (.text rfl (by decide) (by decide) (List.all_eq_true.1 (by decide))) (by decide)).2
        "Not".toList "é 2".toList rfl (by decide) (by decide) (by decide)

/-- The first word of the operand is not `not`, yet the condition is negated. -/
theorem not_applicable_negated :
    (∀ c ∈ "Status".toList, isWordChar c = true) ∧
      Operand.Writes .equal "not-applicable".toList (.text "not-applicable") ∧
      ¬ Spells negation ("not-applicable".toList.takeWhile (· ≠ ' ')) ∧
      read? "Status is not-applicable".toList = some ⟨"Status", .notEqual, .text "-applicable"⟩ ∧
      read? "Status is not-applicable".toList ≠
        some ⟨"Status", .equal, .text "not-applicable"⟩ := by
  have hread : read? "Status is not-applicable".toList =
      some ⟨"Status", .notEqual, .text "-applicable"⟩ := rfl
  refine ⟨List.all_eq_true.1 (by decide), .text rfl (by decide) (by decide)
    (List.all_eq_true.1 (by decide)), by decide, hread, ?_⟩
  rw [hread]
  intro h
  cases congrArg Condition.operator (Option.some.inj h)

end Condition

end Rulebook
