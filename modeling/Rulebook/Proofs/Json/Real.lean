import Rulebook.Proofs.Decimal.Shortest
import Rulebook.Proofs.Json.Reading

/-!
# Doubles that are written

The text of a finite double is a number literal: a whole part, and behind it a point with digits, an
exponent, or both (`exists_literal_realText`). What it is read as need not be the double again, for
reading rounds more than once; it may even lie beyond all doubles. But it is read, and so is the
null that stands for any other double (`reads_real`).
-/

set_option autoImplicit false

namespace Rulebook

namespace Json

open Text Decimal

variable {rest : List Char}

/-! ## The parts of a literal -/

theorem scanPlaces_point {fraction : List Char} (hne : fraction ≠ [])
    (hdigits : ∀ c ∈ fraction, isAsciiDigit c = true) (hrest : EndsDigits rest) :
    scanPlaces ('.' :: (fraction ++ rest)) = (fraction, rest) := by
  simp only [scanPlaces, spanDigits_append hdigits hrest, if_neg hne]

/-- An exponent as it is written, with its sign in any case. -/
def exponentText (n : Int) : List Char :=
  'e' :: (if n < 0 then '-' else '+') :: Nat.toDigits 10 n.natAbs

theorem scanExponent_exponentText (n : Int) (hrest : EndsDigits rest) :
    scanExponent (exponentText n ++ rest) = (n, rest) := by
  have hspan : spanDigits (Nat.toDigits 10 n.natAbs ++ rest) = (Nat.toDigits 10 n.natAbs, rest) :=
    spanDigits_append (fun c hc => isAsciiDigit_of_mem_toDigits hc) hrest
  by_cases hn : n < 0
  · have hsign : ∀ text, scanSign ('-' :: text) = (true, text) := fun _ => rfl
    have habs : -(n.natAbs : Int) = n := by omega
    rw [exponentText, if_pos hn, List.cons_append, List.cons_append,
      scanExponent_of_scans (.inl rfl) (hsign _) hspan Nat.toDigits_ne_nil, if_pos rfl,
      digitsValue_toDigits, habs]
  · have hsign : ∀ text, scanSign ('+' :: text) = (false, text) := fun _ => rfl
    have habs : (n.natAbs : Int) = n := by omega
    rw [exponentText, if_neg hn, List.cons_append, List.cons_append,
      scanExponent_of_scans (.inl rfl) (hsign _) hspan Nat.toDigits_ne_nil,
      if_neg Bool.false_ne_true, digitsValue_toDigits, habs]

/-- A whole part with a sign in front and something behind it that makes it no whole number is a
literal. -/
theorem literal_signed {whole behind fraction : List Char} {exponent : Int} (minus : Bool)
    (hwhole : Whole whole) (hne : behind ≠ []) (hdigit : ∀ rest, EndsDigits (behind ++ rest))
    (hbehind : ∀ rest, EndsNumber rest → ∃ afterFraction,
      scanPlaces (behind ++ rest) = (fraction, afterFraction) ∧
        scanExponent afterFraction = (exponent, rest)) :
    Literal (literalReal minus whole fraction exponent) (signText minus ++ (whole ++ behind)) := by
  refine ⟨?_, fun rest hrest => ?_⟩
  · obtain ⟨d, more, rfl⟩ := List.exists_cons_of_ne_nil hwhole.ne_nil
    cases minus with
    | true => exact ⟨'-', _, rfl, .inl rfl⟩
    | false => exact ⟨d, _, rfl, .inr (hwhole.digit d List.mem_cons_self)⟩
  · obtain ⟨afterFraction, hplaces, hexponent⟩ := hbehind rest hrest
    -- the scanner tells whole numbers apart by whether anything was taken behind the whole part
    have hlength : rest.length ≠ (behind ++ rest).length := by
      have hpos := List.length_pos_iff.2 hne
      rw [List.length_append]
      omega
    rw [List.append_assoc, List.append_assoc, scanNumber?_signed minus
      (scanWhole?_append hwhole (hdigit rest)) hplaces hexponent, if_neg hlength]

variable {whole fraction : List Char}

/-- A literal with a point. -/
theorem literal_point (minus : Bool) (hwhole : Whole whole) (hne : fraction ≠ [])
    (hdigits : ∀ c ∈ fraction, isAsciiDigit c = true) :
    Literal (literalReal minus whole fraction 0)
      (signText minus ++ (whole ++ '.' :: fraction)) := by
  refine literal_signed minus hwhole (List.cons_ne_nil _ _)
    (fun rest => endsDigits_cons (by decide) _) fun rest hrest => ⟨rest, ?_, ?_⟩
  · exact scanPlaces_point hne hdigits hrest.endsDigits
  · exact scanExponent_of_ends hrest

/-- A literal with an exponent. -/
theorem literal_exponent (minus : Bool) (hwhole : Whole whole) (n : Int) :
    Literal (literalReal minus whole [] n) (signText minus ++ (whole ++ exponentText n)) := by
  refine literal_signed minus hwhole (List.cons_ne_nil _ _)
    (fun rest => endsDigits_cons (by decide) _) fun rest hrest => ⟨exponentText n ++ rest, ?_, ?_⟩
  · exact scanPlaces_of_no_point (by simp [exponentText])
  · exact scanExponent_exponentText n hrest.endsDigits

/-- A literal with a point and an exponent. -/
theorem literal_point_exponent (minus : Bool) (hwhole : Whole whole) (hne : fraction ≠ [])
    (hdigits : ∀ c ∈ fraction, isAsciiDigit c = true) (n : Int) :
    Literal (literalReal minus whole fraction n)
      (signText minus ++ (whole ++ '.' :: (fraction ++ exponentText n))) := by
  refine literal_signed minus hwhole (List.cons_ne_nil _ _)
    (fun rest => endsDigits_cons (by decide) _) fun rest hrest => ⟨exponentText n ++ rest, ?_, ?_⟩
  · rw [List.cons_append, List.append_assoc]
    exact scanPlaces_point hne hdigits (endsDigits_cons (by decide) _)
  · exact scanExponent_exponentText n hrest.endsDigits

/-! ## The text of a decimal -/

variable {d : Decimal}

theorem isAsciiDigit_of_mem_digitChars {c : Char} (h : c ∈ d.digitChars) :
    isAsciiDigit c = true :=
  isAsciiDigit_of_mem_toDigits h

/-- Only zero begins with a zero. -/
theorem digits_eq_zero_of_head? (h : d.digitChars.head? = some '0') : d.digits = 0 := by
  rcases Nat.eq_zero_or_pos d.digits with hzero | hpos
  · exact hzero
  · exact absurd h (head?_toDigits hpos)

/-- One digit is a whole part. -/
theorem whole_singleton {c : Char} (h : isAsciiDigit c = true) : Whole [c] := by
  refine ⟨fun d hd => ?_, List.cons_ne_nil _ _, fun hzero => ?_⟩
  · rwa [List.mem_singleton.1 hd]
  · rw [Option.some.inj hzero]

/-- Digits with zeros behind them are a whole part, if zero stays alone. -/
theorem whole_digitChars_zeros (hd : ZeroUnscaled d) (hexponent : 0 ≤ d.exponent) :
    Whole (d.digitChars ++ List.replicate d.exponent.toNat '0') := by
  refine ⟨fun c hc => ?_, ?_, fun hzero => ?_⟩
  · rcases List.mem_append.1 hc with hc | hc
    · exact isAsciiDigit_of_mem_digitChars hc
    · rw [List.eq_of_mem_replicate hc]
      rfl
  · exact List.append_ne_nil_of_left_ne_nil Nat.toDigits_ne_nil _
  · obtain ⟨first, more, hfirst, -⟩ := exists_toDigits_eq_cons d.digits
    rw [digitChars, hfirst] at hzero
    have hdigits : d.digits = 0 := digits_eq_zero_of_head? (by rw [digitChars, hfirst]; exact hzero)
    -- a zero is not scaled, so no zeros stand behind it
    have hnone : d.exponent = 0 := by
      rcases Int.lt_or_eq_of_le hexponent with hpos | hnone
      · exact absurd hdigits (hd hpos)
      · exact hnone.symm
    rw [digitChars, hdigits, hnone]
    rfl

/-- Digits in front of a point are a whole part, for a number with further digits is not zero. -/
theorem whole_take {k : Nat} (hpos : 0 < k) (hk : k < d.digitChars.length) :
    Whole (d.digitChars.take k) := by
  refine ⟨fun c hc => isAsciiDigit_of_mem_digitChars (List.mem_of_mem_take hc), ?_, fun hzero => ?_⟩
  · intro hnil
    have hlength := congrArg List.length hnil
    rw [List.length_take, List.length_nil] at hlength
    omega
  · rw [List.head?_take, if_neg (Nat.ne_of_gt hpos)] at hzero
    rw [digitChars, digits_eq_zero_of_head? hzero] at hk
    have hone : (Nat.toDigits 10 0).length = 1 := rfl
    omega

/-- A decimal written without an exponent is a literal. -/
theorem exists_literal_plain (minus : Bool) (hd : ZeroUnscaled d) :
    ∃ j, Literal j (signText minus ++
      if 0 ≤ d.exponent then d.plain ++ ['.', '0'] else d.plain) := by
  by_cases hexponent : 0 ≤ d.exponent
  · rw [if_pos hexponent, plain, if_pos hexponent]
    exact ⟨_, literal_point minus (whole_digitChars_zeros hd hexponent) (List.cons_ne_nil _ _)
      (whole_singleton (c := '0') rfl).digit⟩
  · rw [if_neg hexponent, plain, if_neg hexponent]
    simp only
    split
    · -- the point stands between two digits
      rename_i hplaces
      refine ⟨_, literal_point minus (whole_take (by omega) (by omega)) ?_ ?_⟩
      · intro hnil
        have hlength := congrArg List.length hnil
        rw [List.length_drop, List.length_nil] at hlength
        omega
      · exact fun c hc => isAsciiDigit_of_mem_digitChars (List.mem_of_mem_drop hc)
    · -- a zero stands in front of the point, and more of them may stand behind it
      refine ⟨_, literal_point minus (whole_singleton (c := '0') rfl) ?_ ?_⟩
      · exact List.append_ne_nil_of_right_ne_nil _ Nat.toDigits_ne_nil
      · intro c hc
        rcases List.mem_append.1 hc with hc | hc
        · rw [List.eq_of_mem_replicate hc]
          rfl
        · exact isAsciiDigit_of_mem_digitChars hc

/-- Digits written with an exponent are a literal. -/
theorem exists_literal_scientific (minus : Bool) {digits : List Char} (hne : digits ≠ [])
    (hdigits : ∀ c ∈ digits, isAsciiDigit c = true) (leading : Int) :
    ∃ j, Literal j (signText minus ++ scientific digits leading) := by
  obtain ⟨first, behind, rfl⟩ := List.exists_cons_of_ne_nil hne
  obtain ⟨hfirst, hbehind⟩ := List.forall_mem_cons.1 hdigits
  cases behind with
  | nil => exact ⟨_, literal_exponent minus (whole_singleton hfirst) leading⟩
  | cons second more =>
      exact ⟨_, literal_point_exponent minus (whole_singleton hfirst) (List.cons_ne_nil _ _)
        hbehind leading⟩

/-! ## Doubles -/

/-- The text of a finite double is a literal, that of any other one is null. -/
theorem exists_literal_realText (x : Float) :
    (x.isFinite = true ∧ ∃ j, Literal j (realText x)) ∨
      (x.isFinite = false ∧ realText x = compactChars .null) := by
  have hdecimal : ∀ (negative : Bool) (mantissa : Nat) (exponent : Int),
      ∃ j, Literal j (signText negative ++ decimalText (ofFinite .toEven mantissa exponent)) := by
    intro negative mantissa exponent
    rw [decimalText]
    split
    · exact exists_literal_plain negative (zeroUnscaled_ofFinite _ _ _)
    · exact exists_literal_scientific negative Nat.toDigits_ne_nil
        (fun c hc => isAsciiDigit_of_mem_digitChars hc) _
  have hfinite : x.isFinite = x.toModel.unpack.isFinite := rfl
  rw [hfinite, realText, Binary.ofFloat]
  cases x.toModel.unpack with
  | notANumber => exact .inr ⟨rfl, rfl⟩
  | infinity sign => exact .inr ⟨rfl, rfl⟩
  | zero sign => exact .inl ⟨rfl, hdecimal _ _ _⟩
  | finite sign mantissa exponent _ => exact .inl ⟨rfl, hdecimal _ _ _⟩

/-- What the text of a double is read as. -/
def realValue (x : Float) : Json := ((scanNumber? (realText x)).map Prod.fst).getD .null

theorem literal_realValue {x : Float} {j : Json} (h : Literal j (realText x)) :
    realValue x = j := by
  have hscan := h.scan [] endsNumber_nil
  rw [List.append_nil] at hscan
  rw [realValue, hscan]
  rfl

theorem realValue_of_not_isFinite {x : Float} (h : x.isFinite = false) : realValue x = .null := by
  rcases exists_literal_realText x with ⟨hfinite, -⟩ | ⟨-, htext⟩
  · rw [h] at hfinite
    cases hfinite
  · rw [realValue, htext]
    rfl

/-- Every double has a text that is read, wherever it stands. -/
theorem reads_real {depth : Nat} (x : Float) : Reads depth (realValue x) (realText x) := by
  rcases exists_literal_realText x with ⟨-, j, hliteral⟩ | ⟨hfinite, htext⟩
  · rw [literal_realValue hliteral]
    exact reads_literal hliteral
  · rw [realValue_of_not_isFinite hfinite, htext]
    exact reads_null

end Json

end Rulebook
