import Rulebook.Proofs.Condition.Reading
import Rulebook.Proofs.Numeral.Layout

/-!
# Numbers in digits and points

A numeric operand consists of digits and points behind an optional minus sign. It is a decimal
literal (`IsDecimal`) if there is a digit and at most one point. What is none is either no number
at all or goes on with a second point behind a literal (`parseNumber_of_not_isDecimal`), and then it
is read as that literal (`parseNumber_of_overruns`).
-/

set_option autoImplicit false

namespace Rulebook

open Text Decimal Json

/-! ## Literals at the front of a text -/

section Scanning

variable {whole fraction rest : List Char}

theorem scanExponent_point (text : List Char) : scanExponent ('.' :: text) = (0, '.' :: text) := by
  simp [scanExponent]

/-- A literal with a point. -/
theorem scan?_point (hwhole : ∀ c ∈ whole, isAsciiDigit c = true)
    (hfraction : ∀ c ∈ fraction, isAsciiDigit c = true) (hrest : EndsDigits rest)
    (hexponent : scanExponent rest = (0, rest)) (hne : whole ≠ [] ∨ fraction ≠ []) :
    scan? (whole ++ '.' :: (fraction ++ rest)) =
      some (⟨digitsValue (whole ++ fraction), -fraction.length⟩, rest) := by
  have hparts : scan? (whole ++ (pointText (some fraction) ++ rest)) =
      some (⟨digitsValue (whole ++ fraction), 0 - fraction.length⟩, rest) :=
    scan?_parts hwhole hfraction hne hrest (fun hnone => by cases hnone) hexponent
  rwa [Int.zero_sub] at hparts

/-- A literal without a point. -/
theorem scan?_whole (hwhole : ∀ c ∈ whole, isAsciiDigit c = true) (hne : whole ≠ []) :
    scan? whole = some (⟨digitsValue whole, 0⟩, []) := by
  let w : WrittenDecimal := ⟨whole, none, none, hwhole, by simp, .inl hne⟩
  have hscan := w.scan?_text
  simpa [WrittenDecimal.text, WrittenDecimal.decimal, w, pointText, exponentText, exponentValue]
    using hscan

/-- A point without digits around it begins no literal. -/
theorem scan?_point_eq_none (hrest : EndsDigits rest) : scan? ('.' :: rest) = none := by
  have hnone : ∀ c ∈ ([] : List Char), isAsciiDigit c = true := by simp
  have hspan : spanDigits rest = ([], rest) := spanDigits_append hnone hrest
  have hpoint : spanDigits ('.' :: rest) = ([], '.' :: rest) :=
    spanDigits_append hnone (endsDigits_cons (by decide) rest)
  simp [scan?, hpoint, scanFraction, hspan]

end Scanning

/-! ## Digits and points -/

/-- A decimal literal: digits with at most one point, and an optional minus sign in front. -/
def IsDecimal (v : List Char) : Prop :=
  ∃ minus digits, v = signText minus ++ digits ∧ (∀ c ∈ digits, Operand.isNumeric c = true) ∧
    digits.count '.' ≤ 1 ∧ ∃ c ∈ digits, isAsciiDigit c = true

/-- The text goes on with a second point, and with digits and points only, behind a literal that has
one. -/
def Overruns (literal v : List Char) : Prop :=
  IsDecimal literal ∧ '.' ∈ literal ∧
    ∃ more, v = literal ++ '.' :: more ∧ ∀ c ∈ more, Operand.isNumeric c = true

variable {digits : List Char}

theorem isNumeric_of_isAsciiDigit {c : Char} (h : isAsciiDigit c = true) :
    Operand.isNumeric c = true := by
  rw [Operand.isNumeric, h, Bool.true_or]

/-- A digit or a point is no letter in any case. -/
theorem foldAscii_of_isNumeric {c : Char} (h : Operand.isNumeric c = true) : foldAscii c = c := by
  refine if_neg ?_
  rintro ⟨hlow, -⟩
  rw [Operand.isNumeric, Bool.or_eq_true, decide_eq_true_eq] at h
  rcases h with hdigit | rfl
  · rw [isAsciiDigit, Bool.and_eq_true, decide_eq_true_eq, decide_eq_true_eq] at hdigit
    exact absurd (Char.le_trans hlow hdigit.2) (by decide)
  · exact absurd hlow (by decide)

/-- A digit or a point is no sign. -/
theorem ne_sign_of_isNumeric {c : Char} (h : Operand.isNumeric c = true) : c ≠ '-' ∧ c ≠ '+' := by
  constructor <;> (rintro rfl; exact absurd h (by decide))

/-- Digits and points around a point are digits and points. -/
theorem isNumeric_append_point {front behind : List Char}
    (hfront : ∀ c ∈ front, Operand.isNumeric c = true)
    (hbehind : ∀ c ∈ behind, Operand.isNumeric c = true) :
    ∀ c ∈ front ++ '.' :: behind, Operand.isNumeric c = true := by
  intro c hc
  rcases List.mem_append.1 hc with hc | hc
  · exact hfront c hc
  · rcases List.mem_cons.1 hc with rfl | hc
    · rfl
    · exact hbehind c hc

theorem isDecimal_iff {v : List Char} : IsDecimal v ↔
    (∀ c ∈ Operand.unsigned v, Operand.isNumeric c = true) ∧
      (Operand.unsigned v).count '.' ≤ 1 ∧ ∃ c ∈ Operand.unsigned v, isAsciiDigit c = true := by
  constructor
  · rintro ⟨minus, digits, rfl, hnumeric, hrest⟩
    rw [Operand.unsigned_signText minus hnumeric]
    exact ⟨hnumeric, hrest⟩
  · intro h
    obtain ⟨minus, hsigned⟩ := Operand.exists_eq_signText v
    exact ⟨minus, _, hsigned, h⟩

instance (v : List Char) : Decidable (IsDecimal v) :=
  decidable_of_iff ((Operand.unsigned v).all Operand.isNumeric = true ∧
      (Operand.unsigned v).count '.' ≤ 1 ∧ (Operand.unsigned v).any isAsciiDigit = true)
    (by rw [isDecimal_iff, List.all_eq_true, List.any_eq_true])

/-- Digits and points are digits, or digits in front of a point and what stands behind it. -/
theorem exists_eq_digits (h : ∀ c ∈ digits, Operand.isNumeric c = true) :
    ∃ whole, (∀ c ∈ whole, isAsciiDigit c = true) ∧ (digits = whole ∨
      ∃ behind, digits = whole ++ '.' :: behind ∧ ∀ c ∈ behind, Operand.isNumeric c = true) := by
  refine ⟨digits.takeWhile isAsciiDigit, fun c hc => List.mem_takeWhile_imp hc, ?_⟩
  have hsplit : digits.takeWhile isAsciiDigit ++ digits.dropWhile isAsciiDigit = digits :=
    List.takeWhile_append_dropWhile
  cases hbehind : digits.dropWhile isAsciiDigit with
  | nil =>
      rw [hbehind, List.append_nil] at hsplit
      exact .inl hsplit.symm
  | cons c behind =>
      have hmem : ∀ d ∈ c :: behind, Operand.isNumeric d = true := fun d hd =>
        h d ((List.dropWhile_sublist isAsciiDigit).mem (hbehind ▸ hd))
      obtain ⟨hc, hmore⟩ := List.forall_mem_cons.1 hmem
      have hdigit : isAsciiDigit c = false := by
        have hhead := List.head?_dropWhile_not isAsciiDigit digits
        rw [hbehind] at hhead
        simpa using hhead
      rw [Operand.isNumeric, hdigit, Bool.false_or, decide_eq_true_eq] at hc
      rw [hbehind, hc] at hsplit
      exact .inr ⟨behind, hsplit.symm, hmore⟩

/-- Where no letter stands in front, a magnitude is a decimal. -/
theorem scanMagnitude?_of_numeric {text : List Char}
    (h : ∀ c ∈ text.head?, Operand.isNumeric c = true) :
    scanMagnitude? text = (scan? text).map fun found => found.1.toFloat := by
  have hword : dropLiteral? "Infinity".toList text = none := by
    cases text with
    | nil => rfl
    | cons c text =>
        refine if_neg ?_
        rintro rfl
        exact absurd (h _ rfl) (by decide)
  rw [scanMagnitude?, hword]

/-- Digits and points behind a sign are read as the literal at their front. -/
theorem parseNumber_signed (minus : Bool) (h : ∀ c ∈ digits, Operand.isNumeric c = true) :
    parseNumber (signText minus ++ digits) =
      match scan? digits with
      | none => notANumber
      | some found => if minus then -found.1.toFloat else found.1.toFloat := by
  have hstart : trimStart (signText minus ++ digits) = signText minus ++ digits := by
    rw [trimStart_eq_self_iff]
    exact fun c hc => Operand.no_blank_signed minus h c (List.mem_of_head? hc)
  have hfirst : ∀ c ∈ digits.head?, Operand.isNumeric c = true :=
    fun c hc => h c (List.mem_of_head? hc)
  have hnone : ∀ c ∈ digits.head?, c ≠ '-' ∧ c ≠ '+' :=
    fun c hc => ne_sign_of_isNumeric (hfirst c hc)
  have hsign : scanSign (signText minus ++ digits) = (minus, digits) := by
    cases minus with
    | true => exact scanSign_append .minus hnone
    | false => exact scanSign_append .absent hnone
  simp only [parseNumber, hstart, hsign, scanMagnitude?_of_numeric hfirst]
  cases scan? digits <;> rfl

theorem count_point_of_digits (h : ∀ c ∈ digits, isAsciiDigit c = true) : digits.count '.' = 0 :=
  List.count_eq_zero.2 fun hmem => absurd (h '.' hmem) (by decide)

/-- Digits and points without a point are digits. -/
theorem digits_of_count_point (h : ∀ c ∈ digits, Operand.isNumeric c = true)
    (hcount : digits.count '.' = 0) : ∀ c ∈ digits, isAsciiDigit c = true := by
  intro c hc
  have hne : c ≠ '.' := fun hpoint => List.count_eq_zero.1 hcount (hpoint ▸ hc)
  simpa [Operand.isNumeric, hne] using h c hc

section Literals

variable {whole fraction : List Char}

/-- Digits are a literal. -/
theorem isDecimal_whole (minus : Bool) (hwhole : ∀ c ∈ whole, isAsciiDigit c = true)
    (hne : whole ≠ []) : IsDecimal (signText minus ++ whole) := by
  obtain ⟨d, more, rfl⟩ := List.exists_cons_of_ne_nil hne
  refine ⟨minus, _, rfl, fun c hc => isNumeric_of_isAsciiDigit (hwhole c hc), ?_,
    d, List.mem_cons_self, hwhole d List.mem_cons_self⟩
  rw [count_point_of_digits hwhole]
  exact Nat.zero_le 1

/-- Digits around a point are a literal. -/
theorem isDecimal_point (minus : Bool) (hwhole : ∀ c ∈ whole, isAsciiDigit c = true)
    (hfraction : ∀ c ∈ fraction, isAsciiDigit c = true) (hne : whole ≠ [] ∨ fraction ≠ []) :
    IsDecimal (signText minus ++ (whole ++ '.' :: fraction)) := by
  refine ⟨minus, _, rfl, isNumeric_append_point (fun c hc => isNumeric_of_isAsciiDigit (hwhole c hc))
    fun c hc => isNumeric_of_isAsciiDigit (hfraction c hc), ?_, ?_⟩
  · rw [List.count_append, List.count_cons_self, count_point_of_digits hwhole,
      count_point_of_digits hfraction]
  · rcases hne with hne | hne
    · obtain ⟨d, more, rfl⟩ := List.exists_cons_of_ne_nil hne
      exact ⟨d, List.mem_append_left _ List.mem_cons_self, hwhole d List.mem_cons_self⟩
    · obtain ⟨d, more, rfl⟩ := List.exists_cons_of_ne_nil hne
      exact ⟨d, List.mem_append_right _ (List.mem_cons_of_mem _ List.mem_cons_self),
        hfraction d List.mem_cons_self⟩

/-- A literal with a point in it has digits around the point. -/
theorem IsDecimal.exists_eq_point {v : List Char} (h : IsDecimal v) (hpoint : '.' ∈ v) :
    ∃ minus whole fraction, v = signText minus ++ (whole ++ '.' :: fraction) ∧
      (∀ c ∈ whole, isAsciiDigit c = true) ∧ (∀ c ∈ fraction, isAsciiDigit c = true) ∧
        (whole ≠ [] ∨ fraction ≠ []) := by
  obtain ⟨minus, digits, rfl, hnumeric, hcount, d, hd, hdigit⟩ := h
  obtain ⟨whole, hwhole, rfl | ⟨behind, rfl, hbehind⟩⟩ := exists_eq_digits hnumeric
  · -- neither the sign nor a digit is a point
    rcases List.mem_append.1 hpoint with hsign | hmem
    · cases minus with
      | true => exact absurd (List.mem_singleton.1 hsign) (by decide)
      | false => cases hsign
    · exact absurd (hwhole '.' hmem) (by decide)
  · rw [List.count_append, List.count_cons_self] at hcount
    refine ⟨minus, whole, behind, rfl, hwhole, digits_of_count_point hbehind (by omega), ?_⟩
    rw [← not_and_or]
    rintro ⟨rfl, rfl⟩
    obtain rfl := List.mem_singleton.1 hd
    exact absurd hdigit (by decide)

end Literals

/-- Digits and points that are no decimal literal are no number, unless they go on with a second
point behind a literal. -/
theorem parseNumber_of_not_isDecimal (minus : Bool) (hne : digits ≠ [])
    (h : ∀ c ∈ digits, Operand.isNumeric c = true) (hnot : ¬ IsDecimal (signText minus ++ digits))
    (hover : ∀ literal, ¬ Overruns literal (signText minus ++ digits)) :
    parseNumber (signText minus ++ digits) = notANumber := by
  rw [parseNumber_signed minus h]
  suffices hscan : scan? digits = none by rw [hscan]
  obtain ⟨whole, hwhole, rfl | ⟨behind, rfl, hbehind⟩⟩ := exists_eq_digits h
  · exact absurd (isDecimal_whole minus hwhole hne) hnot
  · obtain ⟨fraction, hfraction, hsplit⟩ := exists_eq_digits hbehind
    -- there is no digit on either side of the first point
    have hnone : whole = [] ∧ fraction = [] := by
      rw [← not_not (a := _ ∧ _), not_and_or]
      intro hsome
      have hliteral := isDecimal_point minus hwhole hfraction hsome
      rcases hsplit with rfl | ⟨more, rfl, hmore⟩
      · exact hnot hliteral
      · refine hover _ ⟨hliteral, by simp, more, ?_, hmore⟩
        simp only [List.append_assoc, List.cons_append]
    obtain ⟨rfl, rfl⟩ := hnone
    refine scan?_point_eq_none ?_
    rcases hsplit with rfl | ⟨more, rfl, -⟩
    · exact endsDigits_nil
    · exact endsDigits_cons (by decide) more

/-- What goes on with a second point behind a literal is read as the literal. -/
theorem parseNumber_of_overruns {literal v : List Char} (h : Overruns literal v) :
    parseNumber v = parseNumber literal := by
  obtain ⟨hliteral, hpoint, more, rfl, hmore⟩ := h
  obtain ⟨minus, whole, fraction, rfl, hwhole, hfraction, hne⟩ := hliteral.exists_eq_point hpoint
  have hfront : ∀ c ∈ whole, Operand.isNumeric c = true :=
    fun c hc => isNumeric_of_isAsciiDigit (hwhole c hc)
  have hbehind : ∀ c ∈ fraction, Operand.isNumeric c = true :=
    fun c hc => isNumeric_of_isAsciiDigit (hfraction c hc)
  have hshort := parseNumber_signed minus (isNumeric_append_point hfront hbehind)
  have hlong := parseNumber_signed minus
    (isNumeric_append_point hfront (isNumeric_append_point hbehind hmore))
  have hscan := scan?_point hwhole hfraction endsDigits_nil rfl hne
  rw [List.append_nil] at hscan
  rw [hscan] at hshort
  rw [scan?_point hwhole hfraction (endsDigits_cons (by decide) more) (scanExponent_point more)
    hne] at hlong
  rw [hshort, ← hlong]
  simp only [List.append_assoc, List.cons_append]

end Rulebook
