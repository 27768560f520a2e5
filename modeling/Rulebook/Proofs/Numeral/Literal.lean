import Rulebook.Decimal.Literal
import Rulebook.Proofs.Decimal.ReadBack

/-!
# Decimals as literals

A written decimal is a literal, and as such it is read as the nearest double
(`WrittenDecimal.real?_text`). So is the decimal with a digit on either side of a point
(`WrittenDecimal.normalized`), and it has the same value (`WrittenDecimal.real?_normalized`).
-/

set_option autoImplicit false

namespace Rulebook

open Text Decimal

/-! ## A digit on either side of a point -/

/-- The digits given, or a zero if there are none. -/
def orZero : List Char → List Char
  | [] => ['0']
  | c :: digits => c :: digits

theorem orZero_ne_nil (digits : List Char) : orZero digits ≠ [] := by
  cases digits <;> simp [orZero]

theorem isAsciiDigit_of_mem_orZero {digits : List Char}
    (h : ∀ c ∈ digits, isAsciiDigit c = true) : ∀ c ∈ orZero digits, isAsciiDigit c = true := by
  cases digits with
  | nil => simp [orZero, isAsciiDigit]
  | cons c digits => exact h

/-- The exponent with a small letter. -/
def WrittenExponent.normalized (e : WrittenExponent) : WrittenExponent :=
  { e with mark := 'e', mark_eq := .inl rfl }

theorem exponentValue_normalized (exponent : Option WrittenExponent) :
    exponentValue (exponent.map WrittenExponent.normalized) = exponentValue exponent := by
  cases exponent <;> rfl

/-- A zero in front of the places, where there is no other digit, does not matter. -/
theorem digitsValue_orZero_append (whole digits : List Char) :
    digitsValue (orZero whole ++ digits) = digitsValue (whole ++ digits) := by
  cases whole with
  | nil => exact digitsValue_zeros_append 1 digits
  | cons c whole => rfl

/-- A zero behind the point, where there is no other digit, does not matter. -/
theorem value_append_orZero (whole places : List Char) (n : Int) :
    Decimal.value ⟨digitsValue (whole ++ orZero places), n - (orZero places).length⟩ =
      Decimal.value ⟨digitsValue (whole ++ places), n - places.length⟩ := by
  cases places with
  | cons c places => rfl
  | nil =>
      have hdigits : digitsValue (whole ++ orZero []) = 10 ^ 1 * digitsValue whole :=
        digitsValue_append_zeros 1 whole
      rw [hdigits, List.append_nil]
      simp only [value, orZero, List.length_cons, List.length_nil]
      push_cast
      rw [zpow_sub₀ (by norm_num)]
      norm_num
      ring

namespace WrittenDecimal

/-- The decimal with a digit on either side of a point and a small letter for the exponent. -/
def normalized (w : WrittenDecimal) : WrittenDecimal where
  whole := orZero w.whole
  fraction := some (orZero (w.fraction.getD []))
  exponent := w.exponent.map WrittenExponent.normalized
  whole_digit := isAsciiDigit_of_mem_orZero w.whole_digit
  fraction_digit := isAsciiDigit_of_mem_orZero w.fraction_digit
  some_digit := .inl (orZero_ne_nil w.whole)

theorem value_normalized (w : WrittenDecimal) :
    w.normalized.decimal.value = w.decimal.value := by
  simp only [decimal, normalized, Option.getD_some, digitsValue_orZero_append,
    exponentValue_normalized]
  exact value_append_orZero _ _ _

/-! ## Reading literals -/

/-- A decimal begins with a digit or a point. -/
theorem exists_text_eq_cons (w : WrittenDecimal) :
    ∃ c more, w.text = c :: more ∧ Operand.isNumeric c = true := by
  obtain ⟨whole, fraction, exponent, hwhole, hfraction, hsome⟩ := w
  cases whole with
  | cons c more =>
      exact ⟨c, _, rfl, isNumeric_of_isAsciiDigit (hwhole c List.mem_cons_self)⟩
  | nil =>
      cases fraction with
      | none => exact absurd rfl (hsome.resolve_left (absurd rfl))
      | some digits => exact ⟨'.', _, rfl, rfl⟩

theorem isNumeric_head (w : WrittenDecimal) (more : List Char) :
    ∀ c ∈ (w.text ++ more).head?, Operand.isNumeric c = true := by
  obtain ⟨d, rest, htext, hd⟩ := w.exists_text_eq_cons
  intro c hc
  rw [htext, List.cons_append, List.head?_cons, Option.mem_some_iff] at hc
  rwa [← hc]

/-- A decimal has no sign in front. -/
theorem scanSign_text (w : WrittenDecimal) : scanSign w.text = (false, w.text) := by
  rw [← List.append_nil w.text]
  exact scanSign_append .absent fun c hc => ne_sign_of_isNumeric (w.isNumeric_head [] c hc)

/-- A decimal is no word, in any case of its letters. -/
theorem ofList_foldAscii_ne (w : WrittenDecimal) {word : String}
    (hword : ∀ c ∈ word.toList.head?, Operand.isNumeric c = false) :
    String.ofList (w.text.map foldAscii) ≠ word := by
  obtain ⟨d, more, htext, hd⟩ := w.exists_text_eq_cons
  rintro rfl
  have hfirst : Operand.isNumeric (foldAscii d) = false := by
    apply hword
    rw [String.toList_ofList, htext, List.map_cons, List.head?_cons, Option.mem_some_iff]
  rw [foldAscii_of_isNumeric hd, hd] at hfirst
  cases hfirst

/-- A decimal is read as the nearest double. -/
theorem real?_text (w : WrittenDecimal) : real? w.text = some w.decimal.toFloat := by
  have hinf : String.ofList (w.text.map foldAscii) ≠ "inf" :=
    w.ofList_foldAscii_ne (by simp [Operand.isNumeric, isAsciiDigit])
  have hinfinity : String.ofList (w.text.map foldAscii) ≠ "infinity" :=
    w.ofList_foldAscii_ne (by simp [Operand.isNumeric, isAsciiDigit])
  have hnan : String.ofList (w.text.map foldAscii) ≠ "nan" :=
    w.ofList_foldAscii_ne (by simp [Operand.isNumeric, isAsciiDigit])
  have hmagnitude : magnitude? w.text = some w.decimal.toFloat := by
    simp only [magnitude?, hinf, hinfinity, hnan, or_self, if_false, w.scan?_text]
  simp only [real?, w.scanSign_text, hmagnitude, Option.map_some, Bool.false_eq_true, if_false]

/-- With a digit on either side of a point, a decimal is read as the same double. -/
theorem real?_normalized (w : WrittenDecimal) :
    real? w.normalized.text = some w.decimal.toFloat := by
  rw [real?_text, toFloat_congr w.value_normalized]

end WrittenDecimal

end Rulebook
