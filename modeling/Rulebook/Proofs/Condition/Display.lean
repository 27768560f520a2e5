import Rulebook.Proofs.Condition.Relational
import Rulebook.Proofs.Decimal.ReadBack

/-!
# Conditions that are shown and read

A condition is shown with single spaces between its field, one spelling of its operator and its
operand. For a condition that was read, this is a way to write it, as long as the operand is a text
or a finite number (`Operand.Writes.render`). So the condition is read back from it, however it was
written at first (`Condition.displayed_read_back`). There are two exceptions:

* a number that is not finite is shown as a word, which is no operand of a comparison;
* an equality is shown with `is`, so an operand that begins with the word `not` makes it `is not`.
-/

set_option autoImplicit false

namespace Rulebook

open Text

/-! ## Operands that are shown -/

namespace Operand

variable {op : Operator} {v : List Char} {o : Operand}

/-- Whether an operand is a text or a finite number. -/
def isFinite : Operand → Bool
  | .number x => x.isFinite
  | .text _ => true

/-- The operand of an operator that compares texts is a text. -/
theorem Writes.isFinite (h : Writes op v o) (hop : op.isRelational = false) :
    o.isFinite = true := by
  cases h with
  | number _ relational _ _ =>
      rw [relational] at hop
      cases hop
  | text => rfl

/-- What shows an operand is one way to write it, unless it is a number that is not finite. -/
theorem Writes.render (h : Writes op v o) (hfinite : o.isFinite = true) :
    Writes op o.render.toList o := by
  cases h with
  | number minus relational ne_nil numeric =>
      generalize parseNumber _ = x at hfinite ⊢
      obtain ⟨negative, d, hplain, -⟩ := exists_plainNumber_eq hfinite
      have hwrites : Writes op (signText negative ++ d.plain)
          (.number (parseNumber (signText negative ++ d.plain))) :=
        .number negative relational d.plain_ne_nil fun c hc => Decimal.isNumeric_of_mem_plain hc
      rw [← hplain, parseNumber_plainNumber hfinite] at hwrites
      rwa [Operand.render, String.toList_ofList]
  | text plain ne_nil trimmed chars =>
      rw [Operand.render, String.toList_ofList]
      exact .text plain ne_nil trimmed chars

end Operand

/-- What is no finite number is shown as a word. -/
theorem plainNumber_mem_of_not_isFinite {x : Float} (h : x.isFinite = false) :
    plainNumber x ∈ ["NaN".toList, "inf".toList, "-inf".toList] := by
  have hfinite : x.isFinite = x.toModel.unpack.isFinite := rfl
  rw [hfinite] at h
  rw [plainNumber, Binary.ofFloat]
  generalize x.toModel.unpack = u at h ⊢
  cases u with
  | notANumber => decide
  | infinity s => cases s <;> decide
  | zero s => cases h
  | finite s m e hpos => cases h

/-- No comparison has one of these words as its operand. -/
theorem Operand.read?_plainNumber {op : Operator} (hop : op.isRelational = true) {x : Float}
    (h : x.isFinite = false) : Operand.read? op (trim (plainNumber x)) = none := by
  have hwords : ∀ word ∈ ["NaN".toList, "inf".toList, "-inf".toList],
      ¬ (unsigned (trim word)).all isNumeric = true := by decide
  rw [Operand.read?, if_pos hop]
  exact if_neg fun hall => hwords _ (plainNumber_mem_of_not_isFinite h) hall.2

namespace Condition

variable {text : List Char} {c : Condition}

/-! ## Conditions that are shown -/

/-- The field of a condition that was read is a word, and its operand was written as one of its
operator. -/
theorem exists_writes_of_read? (h : read? text = some c) : ∃ field v,
    c.field = String.ofList field ∧ field ≠ [] ∧ (∀ d ∈ field, isWordChar d = true) ∧
      Operand.Writes c.operator v c.operand := by
  obtain ⟨field, rest, hne, hword, -, entry, -, hread⟩ := exists_readAs?_of_read? h
  obtain ⟨behind, -, operand, hoperand, rfl⟩ := readAs?_eq_some_iff.1 hread
  exact ⟨field, trim behind, rfl, hne, hword,
    (Operand.read?_eq_some_iff (trim_trim behind)).1 hoperand⟩

theorem toList_render (c : Condition) : c.render.toList =
    c.field.toList ++ (' ' :: (c.operator.symbol.toList ++ (' ' :: c.operand.render.toList))) := by
  simp [render]

/-- A condition that was read is shown as a written condition, unless its operand is a number that
is not finite. -/
theorem exists_shown (h : read? text = some c) (hfinite : c.operand.isFinite = true) :
    ∃ w : WrittenCondition, w.text = c.render.toList ∧ w.condition = c ∧
      w.spelling = c.operator.spelling ∧ w.value = c.operand.render.toList := by
  obtain ⟨field, v, hfield, hne, hword, hv⟩ := exists_writes_of_read? h
  refine ⟨.plain hne hword (hv.render hfinite), ?_, ?_, rfl, rfl⟩
  · rw [WrittenCondition.text_plain, toList_render, hfield, String.toList_ofList]
  · rw [WrittenCondition.condition, WrittenCondition.plain, ← hfield]

/-- The operand of an equality is a text. -/
theorem isFinite_of_equal (h : read? text = some c) (hequal : c.operator = .equal) :
    c.operand.isFinite = true := by
  obtain ⟨field, v, -, -, -, hv⟩ := exists_writes_of_read? h
  exact hv.isFinite (hequal ▸ rfl)

/-- A comparison with a number that is not finite is shown as what is no condition. -/
theorem read?_render_of_not_isFinite (h : read? text = some c)
    (hfinite : c.operand.isFinite = false) : read? c.render.toList = none := by
  obtain ⟨field, v, hfield, hne, hword, hv⟩ := exists_writes_of_read? h
  obtain ⟨_, op, operand⟩ := c
  cases hv with
  | text => cases hfinite
  | number minus relational _ _ =>
      generalize parseNumber _ = x at hfinite
      have hwords : ∀ word ∈ ["NaN".toList, "inf".toList, "-inf".toList],
          word ≠ [] ∧ word.any isBlank = false := by decide
      obtain ⟨hplain, hblank⟩ := hwords _ (plainNumber_mem_of_not_isFinite hfinite)
      have hends : ∀ d ∈ (op.symbol.toList ++ ' ' :: plainNumber x).getLast?,
          isBlank d = false := by
        rw [← List.singleton_append, ← List.append_assoc, List.getLast?_append_of_ne_nil _ hplain]
        exact (bare_of_no_blank (no_blank_of_any hblank)).2
      rw [toList_render, Operand.render, String.toList_ofList, hfield, String.toList_ofList,
        read?_relational relational hne hword (by simp) hends, trim_cons (by decide),
        Operand.read?_plainNumber relational hfinite]
      rfl

/-- A condition that was read is read back from what shows it, unless its operand is a number that
is not finite, which is shown as no condition at all, or the operand of an equality goes on behind a
word `not`. If a space follows the word, such an equality is shown as the condition that the field
is not what comes then. -/
theorem displayed_read_back (h : read? text = some c) :
    (c.operand.isFinite = true → ¬ (c.operator = .equal ∧ StartsNot c.operand.render.toList) →
        read? c.render.toList = some c) ∧
      (c.operand.isFinite = false → read? c.render.toList = none) ∧
      ∀ negated rest, c.operator = .equal → c.operand.render.toList = negated ++ ' ' :: rest →
        Spells negation negated → read? c.render.toList =
          some ⟨c.field, .notEqual, .text (String.ofList (trim rest))⟩ := by
  refine ⟨fun hfinite hnot => ?_, read?_render_of_not_isFinite h, ?_⟩
  · obtain ⟨w, htext, hcondition, hspelling, hvalue⟩ := exists_shown h hfinite
    rw [← htext, ← hcondition]
    refine w.read?_of_not_negated fun hnegated => hnot ⟨?_, hvalue ▸ hnegated.2⟩
    rw [← Operator.spelling_eq_is_iff, ← hspelling]
    exact hnegated.1
  · intro negated rest hequal hshown hnegated
    obtain ⟨w, htext, hcondition, hspelling, hvalue⟩ := exists_shown h (isFinite_of_equal h hequal)
    have hread := w.read?_of_negated (hspelling.trans ((Operator.spelling_eq_is_iff _).2 hequal))
      (hvalue.trans hshown) hnegated (List.cons_ne_nil _ _) rfl
    have hfield : String.ofList w.field = c.field := congrArg field hcondition
    rwa [htext, trim_cons (by decide), hfield] at hread

theorem displayed_read_back_sales :
    read? "Sales>=-0.10".toList =
        some ⟨"Sales", .greaterOrEqual, .number (parseNumber "-0.10".toList)⟩ ∧
      read? "Sales >= -0.1".toList =
        some ⟨"Sales", .greaterOrEqual, .number (parseNumber "-0.10".toList)⟩ ∧
      read? "Status == Not  open".toList = some ⟨"Status", .equal, .text "Not  open"⟩ ∧
      read? "Status is Not  open".toList = some ⟨"Status", .notEqual, .text "open"⟩ := by
  have hsales : read? "Sales>=-0.10".toList =
      some ⟨"Sales", .greaterOrEqual, .number (parseNumber "-0.10".toList)⟩ := rfl
  have hstatus : read? "Status == Not  open".toList =
      some ⟨"Status", .equal, .text "Not  open"⟩ := rfl
  have hshown : render ⟨"Sales", .greaterOrEqual, .number (parseNumber "-0.10".toList)⟩ =
      "Sales >= -0.1" := by decide
  have hback := (displayed_read_back hsales).1 (by decide) fun h => by cases h.1
  rw [hshown] at hback
  exact ⟨hsales, hback, hstatus,
    (displayed_read_back hstatus).2.2 "Not".toList " open".toList rfl rfl rfl⟩

/-- What shows a condition that was read may be no condition, or another one. -/
theorem displayed_not_read_back :
    (∃ c, read? "Sales > .".toList = some c ∧ c.render = "Sales > NaN" ∧
        read? c.render.toList = none) ∧
      ∃ c, read? "Status = not open".toList = some c ∧ c.render = "Status is not open" ∧
        read? c.render.toList ≠ some c := by
  constructor
  · have hread : read? "Sales > .".toList =
        some ⟨"Sales", .greater, .number (parseNumber ".".toList)⟩ := rfl
    have hshown : render ⟨"Sales", .greater, .number (parseNumber ".".toList)⟩ = "Sales > NaN" := by
      decide
    refine ⟨_, hread, hshown, ?_⟩
    rw [hshown]
    rfl
  · have hread : read? "Status = not open".toList =
        some ⟨"Status", .equal, .text "not open"⟩ := rfl
    have hagain : read? "Status is not open".toList =
        some ⟨"Status", .notEqual, .text "open"⟩ := rfl
    have hshown : render ⟨"Status", .equal, .text "not open"⟩ = "Status is not open" := rfl
    refine ⟨_, hread, hshown, ?_⟩
    rw [hshown, hagain]
    intro h
    cases congrArg operator (Option.some.inj h)

end Condition

end Rulebook
