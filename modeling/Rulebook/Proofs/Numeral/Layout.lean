import Rulebook.Numeral
import Rulebook.Proofs.Json.Number
import Rulebook.Proofs.Text.Trimming

/-!
# How numbers are written

A `WrittenNumber` is an optional sign and a magnitude: the word `Infinity`, or a `WrittenDecimal`.
That is digits with an optional point and digits behind it, or a point and digits, and an optional
`WrittenExponent`. The scanner of decimals takes a written decimal as a whole
(`WrittenDecimal.scan?_text`), and whatever it takes is written so (`exists_written_of_scan?`).
-/

set_option autoImplicit false

namespace Rulebook

open Text Decimal Json

/-! ## The parts of a number -/

/-- What may stand in front of a number or of the digits of an exponent. -/
inductive WrittenSign where
  | absent
  | plus
  | minus
deriving DecidableEq, Repr

namespace WrittenSign

/-- The sign as it is written. -/
def text : WrittenSign → List Char
  | absent => []
  | plus => ['+']
  | minus => ['-']

/-- Whether the sign turns a number into its negative. -/
def isMinus : WrittenSign → Bool
  | minus => true
  | absent | plus => false

end WrittenSign

/-- An exponent as it is written: `e` in either case, an optional sign and digits. -/
structure WrittenExponent where
  mark : Char
  sign : WrittenSign
  digits : List Char
  mark_eq : mark = 'e' ∨ mark = 'E'
  ne_nil : digits ≠ []
  digit : ∀ c ∈ digits, isAsciiDigit c = true

namespace WrittenExponent

def text (e : WrittenExponent) : List Char := e.mark :: (e.sign.text ++ e.digits)

def value (e : WrittenExponent) : Int :=
  if e.sign.isMinus then -(digitsValue e.digits : Int) else digitsValue e.digits

end WrittenExponent

/-- A point with the digits behind it, if there is a point. -/
def pointText : Option (List Char) → List Char
  | none => []
  | some digits => '.' :: digits

/-- An exponent, if there is one. -/
def exponentText : Option WrittenExponent → List Char
  | none => []
  | some e => e.text

/-- The value of an exponent, zero if there is none. -/
def exponentValue : Option WrittenExponent → Int
  | none => 0
  | some e => e.value

/-- A decimal as it is written, without a sign: digits with an optional point and digits behind it,
or a point and digits, and an optional exponent. -/
structure WrittenDecimal where
  whole : List Char
  fraction : Option (List Char)
  exponent : Option WrittenExponent
  whole_digit : ∀ c ∈ whole, isAsciiDigit c = true
  fraction_digit : ∀ c ∈ fraction.getD [], isAsciiDigit c = true
  some_digit : whole ≠ [] ∨ fraction.getD [] ≠ []

namespace WrittenDecimal

def text (w : WrittenDecimal) : List Char :=
  w.whole ++ (pointText w.fraction ++ exponentText w.exponent)

/-- The decimal that is meant. -/
def decimal (w : WrittenDecimal) : Decimal :=
  ⟨digitsValue (w.whole ++ w.fraction.getD []),
    exponentValue w.exponent - (w.fraction.getD []).length⟩

end WrittenDecimal

/-- What stands behind the sign of a number. -/
inductive WrittenMagnitude where
  | infinity
  | decimal (w : WrittenDecimal)

namespace WrittenMagnitude

def text : WrittenMagnitude → List Char
  | infinity => "Infinity".toList
  | decimal w => w.text

def value : WrittenMagnitude → Float
  | infinity => positiveInfinity
  | decimal w => w.decimal.toFloat

end WrittenMagnitude

/-- A number as it is written. -/
structure WrittenNumber where
  sign : WrittenSign
  magnitude : WrittenMagnitude

namespace WrittenNumber

def text (n : WrittenNumber) : List Char := n.sign.text ++ n.magnitude.text

def value (n : WrittenNumber) : Float :=
  if n.sign.isMinus then -n.magnitude.value else n.magnitude.value

end WrittenNumber

/-! ## Scanning what is written -/

variable {text rest tail : List Char}

/-- A sign is taken as it is written, if no second one stands behind it. -/
theorem scanSign_append (sign : WrittenSign) (h : ∀ c ∈ text.head?, c ≠ '-' ∧ c ≠ '+') :
    scanSign (sign.text ++ text) = (sign.isMinus, text) := by
  cases sign with
  | plus | minus => rfl
  | absent =>
      change scanSign text = (false, text)
      rw [scanSign.eq_def]
      split
      · exact absurd rfl (h '-' rfl).1
      · exact absurd rfl (h '+' rfl).2
      · rfl

/-- What is taken for a sign is one. -/
theorem exists_written_sign (text : List Char) : ∃ sign : WrittenSign,
    text = sign.text ++ (scanSign text).2 ∧ (scanSign text).1 = sign.isMinus := by
  rw [scanSign.eq_def]
  split
  · exact ⟨.minus, rfl, rfl⟩
  · exact ⟨.plus, rfl, rfl⟩
  · exact ⟨.absent, rfl, rfl⟩

theorem spanDigits_digits_append {digits : List Char}
    (hdigits : ∀ c ∈ digits, isAsciiDigit c = true) (rest : List Char) :
    spanDigits (digits ++ rest) = (digits ++ (spanDigits rest).1, (spanDigits rest).2) := by
  rw [spanDigits, List.takeWhile_append_of_pos hdigits, List.dropWhile_append_of_pos hdigits]
  rfl

/-- What is taken for digits consists of digits. -/
theorem spanDigits_spec (text : List Char) : text = (spanDigits text).1 ++ (spanDigits text).2 ∧
    ∀ c ∈ (spanDigits text).1, isAsciiDigit c = true :=
  ⟨List.takeWhile_append_dropWhile.symm, fun _ hc => List.mem_takeWhile_imp hc⟩

/-- Digits do not begin with a sign. -/
theorem no_sign_of_digits {digits : List Char} (hne : digits ≠ [])
    (hdigits : ∀ c ∈ digits, isAsciiDigit c = true) (rest : List Char) :
    ∀ c ∈ (digits ++ rest).head?, c ≠ '-' ∧ c ≠ '+' := by
  intro c hc
  rw [List.head?_append_of_ne_nil _ hne] at hc
  have hdigit := hdigits c (List.mem_of_head? hc)
  constructor <;> (rintro rfl; exact absurd hdigit (by decide))

/-- Behind an exponent that is written, further digits are taken too. -/
theorem WrittenExponent.scanExponent_append (e : WrittenExponent) (rest : List Char) :
    ∃ n, scanExponent (e.text ++ rest) = (n, (spanDigits rest).2) ∧
      (EndsDigits rest → n = e.value) := by
  have hsign : scanSign (e.sign.text ++ (e.digits ++ rest)) = (e.sign.isMinus, e.digits ++ rest) :=
    scanSign_append e.sign (no_sign_of_digits e.ne_nil e.digit rest)
  have hne : e.digits ++ (spanDigits rest).1 ≠ [] := List.append_ne_nil_of_left_ne_nil e.ne_nil _
  have hscan := scanExponent_of_scans e.mark_eq hsign (spanDigits_digits_append e.digit rest) hne
  rw [← List.append_assoc, ← List.cons_append] at hscan
  refine ⟨_, hscan, fun hrest => ?_⟩
  have hnone : (spanDigits rest).1 = [] := by
    have hspan : spanDigits ([] ++ rest) = ([], rest) := spanDigits_append (by simp) hrest
    exact congrArg Prod.fst hspan
  rw [hnone, List.append_nil]
  rfl

/-- What is taken for an exponent is one, or nothing is taken. -/
theorem exists_written_exponent (text : List Char) : ∃ exponent : Option WrittenExponent,
    text = exponentText exponent ++ (scanExponent text).2 ∧
      (scanExponent text).1 = exponentValue exponent := by
  cases text with
  | nil => exact ⟨none, rfl, rfl⟩
  | cons mark signed =>
      obtain ⟨sign, hsigned, hminus⟩ := exists_written_sign signed
      obtain ⟨hspan, hdigit⟩ := spanDigits_spec (scanSign signed).2
      by_cases hmark : (mark = 'e' ∨ mark = 'E') ∧ (spanDigits (scanSign signed).2).1 ≠ []
      · refine ⟨some ⟨mark, sign, _, hmark.1, hmark.2, hdigit⟩, ?_, ?_⟩
        · simp only [scanExponent, if_pos hmark, exponentText, WrittenExponent.text,
            List.cons_append, List.append_assoc]
          rw [← hspan, ← hsigned]
        · simp only [scanExponent, if_pos hmark, hminus, exponentValue, WrittenExponent.value]
      · refine ⟨none, ?_, ?_⟩
        · simp only [scanExponent, if_neg hmark, exponentText, List.nil_append]
        · simp only [scanExponent, if_neg hmark, exponentValue]

/-- What is taken for a fraction is a point and digits, or nothing is taken. -/
theorem exists_written_fraction (text : List Char) : ∃ fraction : Option (List Char),
    text = pointText fraction ++ (scanFraction text).2 ∧
      (scanFraction text).1 = fraction.getD [] ∧
        ∀ c ∈ fraction.getD [], isAsciiDigit c = true := by
  rw [scanFraction.eq_def]
  split
  · rename_i digits
    obtain ⟨hspan, hdigit⟩ := spanDigits_spec digits
    exact ⟨some _, congrArg ('.' :: ·) hspan, rfl, hdigit⟩
  · exact ⟨none, rfl, rfl, by simp⟩

/-- Whatever is taken for a decimal is written as one. -/
theorem exists_written_of_scan? {d : Decimal} (h : scan? text = some (d, rest)) :
    ∃ w : WrittenDecimal, text = w.text ++ rest ∧ w.decimal = d := by
  obtain ⟨hspan, hwhole⟩ := spanDigits_spec text
  obtain ⟨fraction, hfraction, hplaces, hdigit⟩ := exists_written_fraction (spanDigits text).2
  obtain ⟨exponent, hexponent, hvalue⟩ :=
    exists_written_exponent (scanFraction (spanDigits text).2).2
  simp only [scan?] at h
  split at h
  · cases h
  · rename_i hsome
    rw [hplaces, not_and_or] at hsome
    obtain ⟨rfl, rfl⟩ := Prod.mk.inj (Option.some.inj h)
    refine ⟨⟨_, fraction, exponent, hwhole, hdigit, hsome⟩, ?_, ?_⟩
    · simp only [WrittenDecimal.text, List.append_assoc]
      rw [← hexponent, ← hfraction, ← hspan]
    · simp only [WrittenDecimal.decimal, hplaces, hvalue]

/-- Digits, or digits and a point with digits, are taken as they are written, if what follows does
not carry them on. -/
theorem scan?_parts {whole : List Char} {fraction : Option (List Char)} {n : Int}
    (hwhole : ∀ c ∈ whole, isAsciiDigit c = true)
    (hfraction : ∀ c ∈ fraction.getD [], isAsciiDigit c = true)
    (hsome : whole ≠ [] ∨ fraction.getD [] ≠ []) (htail : EndsDigits tail)
    (hpoint : fraction = none → tail.head? ≠ some '.') (hexponent : scanExponent tail = (n, rest)) :
    scan? (whole ++ (pointText fraction ++ tail)) =
      some (⟨digitsValue (whole ++ fraction.getD []), n - (fraction.getD []).length⟩, rest) := by
  have hends : EndsDigits (pointText fraction ++ tail) := by
    cases fraction with
    | none => exact htail
    | some digits => exact endsDigits_cons (by decide) _
  have hplaces : scanFraction (pointText fraction ++ tail) = (fraction.getD [], tail) := by
    cases fraction with
    | some digits => exact spanDigits_append hfraction htail
    | none =>
        change scanFraction tail = ([], tail)
        rw [scanFraction.eq_def]
        split
        · exact absurd rfl (hpoint rfl)
        · rfl
  have hnot : ¬ (whole = [] ∧ fraction.getD [] = []) := not_and_or.2 hsome
  simp only [scan?, spanDigits_append hwhole hends, hplaces, hexponent, if_neg hnot]

/-- An exponent is no part of the digits in front of it. -/
theorem WrittenExponent.head?_append (e : WrittenExponent) (rest : List Char) :
    EndsDigits (e.text ++ rest) ∧ (e.text ++ rest).head? ≠ some '.' := by
  rcases e.mark_eq with hmark | hmark
  · rw [text, hmark]
    exact ⟨endsDigits_cons (by decide) _, by simp⟩
  · rw [text, hmark]
    exact ⟨endsDigits_cons (by decide) _, by simp⟩

/-- A written decimal is taken as a whole. -/
theorem WrittenDecimal.scan?_text (w : WrittenDecimal) :
    scan? w.text = some (w.decimal, []) := by
  obtain ⟨whole, fraction, exponent, hwhole, hfraction, hsome⟩ := w
  cases exponent with
  | none => exact scan?_parts hwhole hfraction hsome endsDigits_nil (by simp [exponentText]) rfl
  | some e =>
      obtain ⟨n, hscan, hn⟩ := e.scanExponent_append []
      obtain ⟨hends, hpoint⟩ := e.head?_append []
      rw [hn endsDigits_nil, List.append_nil] at hscan
      rw [List.append_nil] at hends hpoint
      exact scan?_parts hwhole hfraction hsome hends (fun _ => hpoint) hscan

end Rulebook
