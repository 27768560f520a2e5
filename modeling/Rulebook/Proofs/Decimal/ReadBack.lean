import Rulebook.Decimal.Layout
import Rulebook.Proofs.Decimal.Nearest
import Rulebook.Proofs.Numeral

/-!
# Numbers that are shown and read

The decimal that is found for a double becomes that double again (`toFloat_ofFinite`): a decimal on
a grid is taken only if it does, and the exact value does in any case. Its positional text is a
decimal literal of the same value (`exists_scan?_plain`). So a finite number is read back from the
text that shows it, with its sign (`parseNumber_plainNumber`).
-/

set_option autoImplicit false

namespace Rulebook

open Text Decimal Double Json

namespace Decimal

variable {d : Decimal} {tie : Tie} {x : Float} {num den : Nat} {exponent : Int}

/-! ## The fewest digits -/

/-- A decimal on a grid is taken only if it becomes the double. -/
theorem beq_of_neighbour? (h : neighbour? tie x num den exponent = some d) :
    (d.toFloat == x) = true := by
  simp only [neighbour?] at h
  generalize compare (_ : Nat) _ = order at h
  split at h
  · cases h
  · rename_i hbelow _
    exact Option.some.inj h ▸ hbelow
  · rename_i habove
    exact Option.some.inj h ▸ habove
  · rename_i hbelow habove
    cases order with
    | lt => exact Option.some.inj h ▸ hbelow
    | gt => exact Option.some.inj h ▸ habove
    | eq =>
        cases tie with
        | upward => exact Option.some.inj h ▸ habove
        | toEven =>
            simp only at h
            split at h
            · exact Option.some.inj h ▸ hbelow
            · exact Option.some.inj h ▸ habove

/-- Zeros at the end of the digits do not matter to the value. -/
theorem value_stripZeros (limit : Nat) (d : Decimal) : (stripZeros limit d).value = d.value := by
  induction limit generalizing d with
  | zero => rfl
  | succ limit ih =>
      rw [stripZeros]
      split
      · rename_i hzero
        rw [ih]
        have hdigits : (d.digits : ℚ) = (d.digits / 10 : Nat) * 10 := by
          exact_mod_cast (Nat.div_mul_cancel (Nat.dvd_of_mod_eq_zero hzero.1)).symm
        rw [value, value, hdigits, zpow_add_one₀ (by norm_num)]
        ring
      · rfl

/-- The exact value of a finite double, as it stands in where no grid serves. -/
theorem value_exact (m : Nat) (e : Int) :
    value ⟨m * Nat.pow 2 e.toNat * Nat.pow 5 (-e).toNat, if e < 0 then e else 0⟩ = m * 2 ^ e := by
  rw [value, Nat.pow_eq, Nat.pow_eq]
  by_cases he : e < 0
  · obtain ⟨n, rfl⟩ : ∃ n : Nat, e = -n := ⟨(-e).toNat, by omega⟩
    have hnone : (-(n : Int)).toNat = 0 := by omega
    have hplaces : (- -(n : Int)).toNat = n := by omega
    have hten : (10 : ℚ) ^ n = 5 ^ n * 2 ^ n := by
      rw [← mul_pow]
      norm_num
    rw [if_pos he, hnone, hplaces, zpow_neg, zpow_neg, zpow_natCast, zpow_natCast, hten]
    push_cast
    field_simp
  · obtain ⟨n, rfl⟩ : ∃ n : Nat, e = n := ⟨e.toNat, by omega⟩
    have hnone : (-(n : Int)).toNat = 0 := by omega
    rw [if_neg he, hnone, Int.toNat_natCast, zpow_zero, zpow_natCast]
    push_cast
    ring

/-- The decimal of a finite double becomes the double again. -/
theorem toFloat_ofFinite (tie : Tie) {m : Nat} {e : Int} (h : Canonical m e) :
    (ofFinite tie m e).toFloat = ofUnpacked (.finite .positive m e h.pos) := by
  have hpos := h.pos
  have hexact : toFloat ⟨m * Nat.pow 2 e.toNat * Nat.pow 5 (-e).toNat, if e < 0 then e else 0⟩ =
      ofUnpacked (.finite .positive m e hpos) := by
    have hdigits : m * Nat.pow 2 e.toNat * Nat.pow 5 (-e).toNat ≠ 0 :=
      (Nat.mul_pos (Nat.mul_pos hpos (Nat.pow_pos (by decide))) (Nat.pow_pos (by decide))).ne'
    rw [toFloat_eq_nearest hdigits, value_exact, nearest_of_canonical _ h]
  rw [ofFinite, if_neg hpos.ne']
  simp only
  split
  · rename_i d hfound
    obtain ⟨n, -, hneighbour⟩ := List.exists_of_findSome?_eq_some hfound
    have hbeq := beq_of_neighbour? hneighbour
    rw [hexact] at hbeq
    rw [toFloat_congr (value_stripZeros 17 d)]
    exact eq_of_beq_finite (unpack_ofUnpacked_finite h hpos) hbeq
  · exact hexact

/-! ## Positional text -/

theorem digitsValue_eq (digits : List Char) : digitsValue digits = Nat.ofDigitChars 10 digits 0 :=
  Nat.ofDigitChars_eq_foldl.symm

/-- Zeros in front of digits do not matter. -/
theorem digitsValue_zeros_append (n : Nat) (digits : List Char) :
    digitsValue (List.replicate n '0' ++ digits) = digitsValue digits := by
  simp only [digitsValue_eq, Nat.ofDigitChars_append, Nat.ofDigitChars_replicate_zero, Nat.mul_zero]

/-- Zeros behind digits multiply by a power of ten. -/
theorem digitsValue_append_zeros (n : Nat) (digits : List Char) :
    digitsValue (digits ++ List.replicate n '0') = 10 ^ n * digitsValue digits := by
  simp only [digitsValue_eq, Nat.ofDigitChars_append, Nat.ofDigitChars_replicate_zero]

theorem isAsciiDigit_of_mem_zeros {n : Nat} {c : Char} (h : c ∈ List.replicate n '0') :
    isAsciiDigit c = true := by
  rw [List.eq_of_mem_replicate h]
  rfl

theorem digitsValue_digitChars (d : Decimal) : digitsValue d.digitChars = d.digits :=
  digitsValue_toDigits d.digits

/-- The positional text of a decimal is digits, or digits around a point. -/
theorem exists_plain_eq (d : Decimal) : ∃ whole fraction,
    (∀ c ∈ whole, isAsciiDigit c = true) ∧ (∀ c ∈ fraction, isAsciiDigit c = true) ∧ whole ≠ [] ∧
      (d.plain = whole ∧ fraction = [] ∨ d.plain = whole ++ '.' :: fraction) ∧
        value ⟨digitsValue (whole ++ fraction), -fraction.length⟩ = d.value := by
  have hdigit : ∀ c ∈ d.digitChars, isAsciiDigit c = true :=
    fun c hc => isAsciiDigit_of_mem_toDigits hc
  have hne : d.digitChars ≠ [] := Nat.toDigits_ne_nil
  by_cases hexponent : 0 ≤ d.exponent
  · refine ⟨d.digitChars ++ List.replicate d.exponent.toNat '0', [], ?_, by simp,
      List.append_ne_nil_of_left_ne_nil hne _, .inl ⟨?_, rfl⟩, ?_⟩
    · intro c hc
      exact (List.mem_append.1 hc).elim (hdigit c) isAsciiDigit_of_mem_zeros
    · rw [plain, if_pos hexponent]
    · obtain ⟨digits, exponent⟩ := d
      obtain ⟨n, rfl⟩ : ∃ n : Nat, exponent = n := ⟨exponent.toNat, by simpa using hexponent⟩
      rw [value, value, List.append_nil, digitsValue_append_zeros, digitsValue_digitChars]
      simp [mul_comm]
  · have hvalue : (-(-d.exponent).toNat : Int) = d.exponent := by omega
    by_cases hplaces : (-d.exponent).toNat < d.digitChars.length
    · -- the point stands between two digits
      let cut := d.digitChars.length - (-d.exponent).toNat
      refine ⟨d.digitChars.take cut, d.digitChars.drop cut,
        fun c hc => hdigit c (List.mem_of_mem_take hc),
        fun c hc => hdigit c (List.mem_of_mem_drop hc), ?_, .inr ?_, ?_⟩
      · rw [← List.length_pos_iff, List.length_take]
        omega
      · rw [plain, if_neg hexponent]
        exact if_pos hplaces
      · have hlength : (d.digitChars.drop cut).length = (-d.exponent).toNat := by
          rw [List.length_drop]
          omega
        rw [List.take_append_drop, digitsValue_digitChars, hlength, hvalue]
    · -- zeros fill the places in front of the digits
      let zeros := List.replicate ((-d.exponent).toNat - d.digitChars.length) '0'
      refine ⟨['0'], zeros ++ d.digitChars, by simp [isAsciiDigit], ?_, by simp, .inr ?_, ?_⟩
      · intro c hc
        exact (List.mem_append.1 hc).elim isAsciiDigit_of_mem_zeros (hdigit c)
      · rw [plain, if_neg hexponent]
        exact if_neg hplaces
      · have hlength : (zeros ++ d.digitChars).length = (-d.exponent).toNat := by
          rw [List.length_append, List.length_replicate]
          omega
        have hdigits : digitsValue (['0'] ++ (zeros ++ d.digitChars)) = d.digits := by
          rw [← List.append_assoc, show ['0'] ++ zeros = List.replicate _ '0' from
            List.replicate_succ.symm, digitsValue_zeros_append, digitsValue_digitChars]
        rw [hdigits, hlength, hvalue]

theorem isNumeric_of_mem_plain {c : Char} (h : c ∈ d.plain) : Operand.isNumeric c = true := by
  obtain ⟨whole, fraction, hwhole, hfraction, -, hplain, -⟩ := exists_plain_eq d
  rcases hplain with ⟨hplain, -⟩ | hplain
  · exact isNumeric_of_isAsciiDigit (hwhole c (hplain ▸ h))
  · exact isNumeric_append_point (fun c hc => isNumeric_of_isAsciiDigit (hwhole c hc))
      (fun c hc => isNumeric_of_isAsciiDigit (hfraction c hc)) c (hplain ▸ h)

theorem plain_ne_nil (d : Decimal) : d.plain ≠ [] := by
  obtain ⟨whole, fraction, -, -, hne, hplain, -⟩ := exists_plain_eq d
  rcases hplain with ⟨hplain, -⟩ | hplain
  · rwa [hplain]
  · rw [hplain]
    exact List.append_ne_nil_of_left_ne_nil hne _

/-- The positional text of a decimal is a literal of the same value. -/
theorem exists_scan?_plain (d : Decimal) :
    ∃ found : Decimal, scan? d.plain = some (found, []) ∧ found.value = d.value := by
  obtain ⟨whole, fraction, hwhole, hfraction, hne, hplain, hvalue⟩ := exists_plain_eq d
  refine ⟨_, ?_, hvalue⟩
  rcases hplain with ⟨hplain, rfl⟩ | hplain
  · rw [hplain, scan?_whole hwhole hne, List.append_nil]
    rfl
  · have hscan := scan?_point hwhole hfraction endsDigits_nil rfl (.inl hne)
    rwa [List.append_nil, ← hplain] at hscan

end Decimal

/-! ## Doubles -/

/-- A signed decimal is read as its double with the sign. -/
theorem parseNumber_signed_plain (negative : Bool) (d : Decimal) :
    parseNumber (signText negative ++ d.plain) = if negative then -d.toFloat else d.toFloat := by
  obtain ⟨found, hscan, hvalue⟩ := exists_scan?_plain d
  have hread := parseNumber_signed negative fun c hc => isNumeric_of_mem_plain (d := d) hc
  simp only [hscan, toFloat_congr hvalue] at hread
  exact hread

/-- What shows a finite number is a decimal with its sign, and that is the number. -/
theorem exists_plainNumber_eq {x : Float} (h : x.isFinite = true) :
    ∃ (negative : Bool) (d : Decimal), plainNumber x = signText negative ++ d.plain ∧
      (if negative then -d.toFloat else d.toFloat) = x := by
  have hfinite : x.isFinite = x.toModel.unpack.isFinite := rfl
  rw [hfinite] at h
  have hx := ofUnpacked_unpack x
  rw [plainNumber, Binary.ofFloat]
  generalize hunpack : x.toModel.unpack = u at h hx ⊢
  cases u with
  | notANumber => cases h
  | infinity s => cases h
  | zero s =>
      refine ⟨_, _, rfl, ?_⟩
      rw [ofFinite, if_pos rfl, toFloat_of_zero rfl, ← hx]
      cases s <;> rfl
  | finite s m e hpos =>
      have hcanonical := canonical_of_finite hunpack
      refine ⟨_, _, rfl, ?_⟩
      rw [toFloat_ofFinite _ hcanonical, neg_ofUnpacked_finite hcanonical, ← hx]
      cases s <;> rfl

/-- A finite number is read back from the text that shows it. -/
theorem parseNumber_plainNumber {x : Float} (h : x.isFinite = true) :
    parseNumber (plainNumber x) = x := by
  obtain ⟨negative, d, hplain, hvalue⟩ := exists_plainNumber_eq h
  rw [hplain, parseNumber_signed_plain, hvalue]

end Rulebook
