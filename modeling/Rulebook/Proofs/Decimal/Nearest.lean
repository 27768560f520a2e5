import Rulebook.Decimal
import Rulebook.Proofs.Double.Rounding

/-!
# Decimals as doubles

A decimal becomes the double nearest to its value (`toFloat_eq_nearest`), whether the digits and the
power of ten are doubles themselves, so that one product or quotient does it, or not. So decimals of
the same value become the same double (`toFloat_congr`), and that is a number (`isNaN_toFloat`).
-/

set_option autoImplicit false

namespace Rulebook.Decimal

open Float.Model Float.Model.UnpackedFloat Double

/-- The number that a decimal stands for. -/
def value (d : Decimal) : ℚ := d.digits * 10 ^ d.exponent

/-! ## Any decimal -/

section Scientific

variable {m : ℕ} {e : ℤ}

/-- Shifting a mantissa to the left makes up for the lower exponent. -/
theorem natCast_shifted (m k : ℕ) : ((m * 2 ^ k : ℕ) : ℚ) * 2 ^ (-(k : ℤ)) = m := by
  rw [Nat.cast_mul, Nat.cast_pow, Nat.cast_ofNat, zpow_neg, zpow_natCast,
    mul_inv_cancel_right₀ (by positivity)]

theorem value_of_large (hm : m ≠ 0) (he : 1024 ≤ e) : (2 : ℚ) ^ 1024 ≤ m * 10 ^ e := by
  have hone : (1 : ℚ) ≤ m := by exact_mod_cast Nat.one_le_iff_ne_zero.2 hm
  have hscale : (2 : ℚ) ^ e ≤ 10 ^ e := zpow_le_zpow_left₀ (by omega) (by norm_num) (by norm_num)
  calc (2 : ℚ) ^ 1024 = 2 ^ (1024 : ℤ) := rfl
    _ ≤ 2 ^ e := zpow_le_zpow_right₀ (by norm_num) he
    _ ≤ 1 * 10 ^ e := by rwa [one_mul]
    _ ≤ m * 10 ^ e := by gcongr

theorem value_of_small (he : e + m.log2 < -1076) :
    (m * 10 ^ e : ℚ) < 2 ^ (-1075 : ℤ) := by
  have hdigits : (m : ℚ) < 2 ^ (m.log2 + 1) := by exact_mod_cast Nat.lt_log2_self
  have hscale : (10 : ℚ) ^ e ≤ 2 ^ e := by
    obtain ⟨n, rfl⟩ : ∃ n : ℕ, e = -n := ⟨(-e).toNat, by omega⟩
    rw [zpow_neg, zpow_neg, zpow_natCast, zpow_natCast]
    gcongr
    norm_num
  calc (m * 10 ^ e : ℚ) < 2 ^ (m.log2 + 1) * 10 ^ e := by gcongr
    _ ≤ 2 ^ (m.log2 + 1) * 2 ^ e := by gcongr
    _ = 2 ^ (((m.log2 + 1 : ℕ) : ℤ) + e) := by rw [zpow_add₀ two_ne_zero, zpow_natCast]
    _ ≤ 2 ^ (-1075 : ℤ) := zpow_le_zpow_right₀ (by norm_num) (by push_cast; omega)

/-- Digits with a power of ten become the nearest double. -/
theorem ofUnpacked_ofScientific (hm : m ≠ 0) :
    ofUnpacked (UnpackedFloat.ofScientific .binary64 m e) =
      ofUnpacked (nearest .positive (m * 10 ^ e)) := by
  have hpos : 0 < m := Nat.pos_of_ne_zero hm
  rw [UnpackedFloat.ofScientific, dif_neg hm]
  by_cases hlarge : e > 2 ^ Format.binary64.exponentBits
  · have he : (2 : ℤ) ^ 11 < e := hlarge
    rw [if_pos hlarge, ofUnpacked_nearest_of_large .positive (value_of_large hm (by omega))]
  rw [if_neg hlarge]
  by_cases hsmall : e < -((2 ^ Format.binary64.exponentBits : ℤ) + m.log2)
  · have he : e < -((2 : ℤ) ^ 11 + m.log2) := hsmall
    rw [if_pos hsmall, nearest_of_small .positive (by positivity) (value_of_small (by omega))]
  rw [if_neg hsmall]
  by_cases he : 0 ≤ e
  · -- the digits get 53 more bits, so that none is dropped
    have hpower : (10 : ℚ) ^ e = (10 ^ e.toNat : ℕ) := by
      rw [Nat.cast_pow, Nat.cast_ofNat, ← zpow_natCast, Int.toNat_of_nonneg he]
    have hdigits : ((m <<< Format.binary64.mantissaBits : ℕ) : ℚ) *
        2 ^ (-(Format.binary64.mantissaBits : ℤ)) = m := by
      rw [Nat.shiftLeft_eq, natCast_shifted]
    have hvalue : ((m <<< Format.binary64.mantissaBits : ℕ) : ℚ) *
        2 ^ (-(Format.binary64.mantissaBits : ℤ)) * ((10 ^ e.toNat : ℕ) * 2 ^ (0 : ℤ)) =
          m * 10 ^ e := by
      rw [hdigits, zpow_zero, mul_one, hpower]
    have hbits : (2 : ℚ) ^ (-(Format.binary64.mantissaBits : ℤ) + 0 + 52) ≤
        (m <<< Format.binary64.mantissaBits : ℕ) * 2 ^ (-(Format.binary64.mantissaBits : ℤ)) *
          ((10 ^ e.toNat : ℕ) * 2 ^ (0 : ℤ)) := by
      rw [hvalue, hpower]
      have hone : 1 ≤ m * 10 ^ e.toNat := Nat.mul_pos hpos (by positivity)
      calc (2 : ℚ) ^ (-(53 : ℤ) + 0 + 52) ≤ 1 := by norm_num
        _ ≤ m * (10 ^ e.toNat : ℕ) := by exact_mod_cast hone
    rw [if_pos he, mul_finite _ _ _ _ hbits, hvalue]
    rfl
  · have hpower : (10 : ℚ) ^ e = ((10 ^ (-e).toNat : ℕ) : ℚ)⁻¹ := by
      rw [Nat.cast_pow, Nat.cast_ofNat, ← zpow_natCast, Int.toNat_of_nonneg (by omega), zpow_neg,
        inv_inv]
    have hvalue : (m : ℚ) * 2 ^ (0 : ℤ) / ((10 ^ (-e).toNat : ℕ) * 2 ^ (0 : ℤ)) = m * 10 ^ e := by
      rw [hpower, zpow_zero, mul_one, mul_one, div_eq_mul_inv]
    rw [if_neg he, div_finite, hvalue]
    rfl

end Scientific

/-! ## Decimals of few digits -/

/-- A positive double with a full mantissa, as it is unpacked, and its value. -/
def HasValue (x : Float) (value : ℚ) : Prop :=
  ∃ (m : ℕ) (e : ℤ) (hm : 0 < m), x.toModel.unpack = .finite .positive m e hm ∧ 2 ^ 52 ≤ m ∧
    (m * 2 ^ e : ℚ) = value

theorem HasValue.mul {x y : Float} {a b : ℚ} (hx : HasValue x a) (hy : HasValue y b) :
    x * y = ofUnpacked (nearest .positive (a * b)) := by
  obtain ⟨m₁, e₁, hm₁, hunpack₁, hfull₁, rfl⟩ := hx
  obtain ⟨m₂, e₂, hm₂, hunpack₂, hfull₂, rfl⟩ := hy
  have hbits : (2 : ℚ) ^ (e₁ + e₂ + 52) ≤ (m₁ * 2 ^ e₁) * (m₂ * 2 ^ e₂) := by
    have hfirst : (2 : ℚ) ^ (52 : ℤ) ≤ m₁ := by exact_mod_cast hfull₁
    have hsecond : (1 : ℚ) ≤ m₂ := by exact_mod_cast hm₂
    calc (2 : ℚ) ^ (e₁ + e₂ + 52) = (2 ^ (52 : ℤ) * 2 ^ e₁) * (1 * 2 ^ e₂) := by
          rw [zpow_add₀ two_ne_zero, zpow_add₀ two_ne_zero]
          ring
      _ ≤ (m₁ * 2 ^ e₁) * (m₂ * 2 ^ e₂) := by gcongr
  have hproduct := mul_finite .positive .positive hm₁ hm₂ hbits
  show ofUnpacked (UnpackedFloat.mul .binary64 x.toModel.unpack y.toModel.unpack) = _
  rw [hunpack₁, hunpack₂, hproduct]
  rfl

theorem HasValue.div {x y : Float} {a b : ℚ} (hx : HasValue x a) (hy : HasValue y b) :
    x / y = ofUnpacked (nearest .positive (a / b)) := by
  obtain ⟨m₁, e₁, hm₁, hunpack₁, -, rfl⟩ := hx
  obtain ⟨m₂, e₂, hm₂, hunpack₂, -, rfl⟩ := hy
  have hquotient := @div_finite m₁ m₂ e₁ e₂ .positive .positive hm₁ hm₂
  show ofUnpacked (UnpackedFloat.div .binary64 x.toModel.unpack y.toModel.unpack) = _
  rw [hunpack₁, hunpack₂, hquotient]
  rfl

theorem HasValue.zero_mul {x y : Float} {b : ℚ} (hy : HasValue y b)
    (hx : x.toModel.unpack = .zero .positive) : x * y = ofUnpacked (.zero .positive) := by
  obtain ⟨m, e, hm, hunpack, -⟩ := hy
  show ofUnpacked (UnpackedFloat.mul .binary64 x.toModel.unpack y.toModel.unpack) = _
  rw [hx, hunpack]
  rfl

theorem HasValue.zero_div {x y : Float} {b : ℚ} (hy : HasValue y b)
    (hx : x.toModel.unpack = .zero .positive) : x / y = ofUnpacked (.zero .positive) := by
  obtain ⟨m, e, hm, hunpack, -⟩ := hy
  show ofUnpacked (UnpackedFloat.div .binary64 x.toModel.unpack y.toModel.unpack) = _
  rw [hx, hunpack]
  rfl

/-- A count of at most 53 bits is rounded as any number is: its mantissa is shifted to the left
until it has 53 bits. -/
theorem round_natCast {m : ℕ} (hm : 0 < m) (hlog : m.log2 < 53) :
    UnpackedFloat.round .binary64 .positive m 0 = nearest .positive m := by
  let k := 52 - m.log2
  have htarget : Format.binary64.targetExponent (totalExponent m 0) = -k := by
    rw [targetExponent_eq]
    omega
  have hdecrease : decreaseExponent m 0 (-k) = (m * 2 ^ k, -(k : ℤ)) := by
    have hamount : (- -(k : ℤ)).toNat = k := by omega
    simp only [decreaseExponent, Int.zero_sub, hamount, Nat.shiftLeft_eq]
  have hplace : -(k : ℤ) ≤ place m := by
    refine le_place ?_
    have hexponent : -(k : ℤ) + 52 = (m.log2 : ℕ) := by omega
    rw [hexponent, zpow_natCast]
    exact_mod_cast Nat.log2_self_le hm.ne'
  have hstands : (m : ℚ) / 2 ^ (-(k : ℤ)) = (m * 2 ^ k : ℕ) := by
    rw [div_eq_iff (by positivity), natCast_shifted]
  simp only [UnpackedFloat.round, htarget, hdecrease]
  refine roundWithAccuracy_eq_nearest _ (by exact_mod_cast hm) hplace ?_
  rw [hstands, ofMantissa_exact]

/-- A count of at most 53 bits is the value of a full mantissa. -/
theorem exists_canonical_natCast {m : ℕ} (hm : 0 < m) (hlt : m < 2 ^ 53) :
    ∃ (m' : ℕ) (e : ℤ), Canonical m' e ∧ 2 ^ 52 ≤ m' ∧ (m' * 2 ^ e : ℚ) = m := by
  have hlow : 2 ^ m.log2 ≤ m := Nat.log2_self_le hm.ne'
  have hhigh : m < 2 ^ (m.log2 + 1) := Nat.lt_log2_self
  have hlog : m.log2 < 53 := (Nat.log2_lt hm.ne').2 hlt
  let k := 52 - m.log2
  have hfull : 2 ^ 52 ≤ m * 2 ^ k := by
    calc 2 ^ 52 = 2 ^ m.log2 * 2 ^ k := by rw [← Nat.pow_add]; congr 1; omega
      _ ≤ m * 2 ^ k := by gcongr
  have hfits : m * 2 ^ k < 2 ^ 53 := by
    calc m * 2 ^ k < 2 ^ (m.log2 + 1) * 2 ^ k := by gcongr
      _ = 2 ^ 53 := by rw [← Nat.pow_add]; congr 1; omega
  have hpos : 0 < m * 2 ^ k := by positivity
  exact ⟨m * 2 ^ k, -k, ⟨hpos, hfits, by omega, by omega, fun _ => hfull⟩, hfull,
    natCast_shifted m k⟩

/-- A count of at most 53 bits is a double. -/
theorem hasValue_natCast {m : ℕ} (hm : 0 < m) (hlt : m < 2 ^ 53) :
    HasValue m.toUInt64.toFloat m := by
  obtain ⟨m', e, hcanonical, hfull, hvalue⟩ := exists_canonical_natCast hm hlt
  have hlog : m.log2 < 53 := (Nat.log2_lt hm.ne').2 hlt
  have hnearest : nearest .positive (m : ℚ) = .finite .positive m' e hcanonical.pos := by
    rw [← hvalue, nearest_of_canonical _ hcanonical]
  have hcount : m.toUInt64.toFloat = ofUnpacked (.finite .positive m' e hcanonical.pos) := by
    have hword : m.toUInt64.toNat = m := Nat.mod_eq_of_lt (lt_trans hlt (by norm_num))
    have hsign : compare (m : ℤ) 0 = .gt := compare_gt_iff_gt.2 (by omega)
    show ofUnpacked (UnpackedFloat.normalize .binary64 m.toUInt64.toNat 0 .positive) = _
    simp only [hword, UnpackedFloat.normalize, hsign, Int.toNat_natCast, round_natCast hm hlog,
      hnearest]
  refine ⟨m', e, hcanonical.pos, ?_, hfull, hvalue⟩
  rw [hcount, unpack_ofUnpacked_finite hcanonical]

/-- Whether a double is the power of ten with the exponent given. -/
def isPower (exponent : ℕ) (x : Float) : Bool :=
  match x.toModel.unpack with
  | .finite .positive m e _ =>
      decide (2 ^ 52 ≤ m ∧ m * 2 ^ e.toNat = 10 ^ exponent * 2 ^ (-e).toNat)
  | _ => false

theorem hasValue_of_isPower {exponent : ℕ} {x : Float} (h : isPower exponent x = true) :
    HasValue x (10 ^ exponent) := by
  rw [isPower] at h
  split at h
  · rename_i m e hm hunpack
    obtain ⟨hfull, hequal⟩ := of_decide_eq_true h
    refine ⟨m, e, hm, hunpack, hfull, ?_⟩
    have hcast : (m : ℚ) * 2 ^ e.toNat = 10 ^ exponent * 2 ^ (-e).toNat := by exact_mod_cast hequal
    have hsplit : (2 : ℚ) ^ e = 2 ^ e.toNat / 2 ^ (-e).toNat := by
      rw [← zpow_natCast, ← zpow_natCast, ← zpow_sub₀ two_ne_zero]
      congr 1
      omega
    rw [hsplit, mul_div_assoc', hcast, mul_div_cancel_right₀ _ (by positivity)]
  · cases h

theorem isPower_powers : ∀ exponent : Fin Float.exactlyRepresentablePowersOfTen.size,
    isPower exponent Float.exactlyRepresentablePowersOfTen[exponent] = true := by
  decide

/-- The powers of ten up to the twenty-second are doubles. -/
theorem hasValue_power {exponent : ℕ} (h : exponent < Float.exactlyRepresentablePowersOfTen.size) :
    HasValue Float.exactlyRepresentablePowersOfTen[exponent] (10 ^ exponent) :=
  hasValue_of_isPower (isPower_powers ⟨exponent, h⟩)

/-! ## Every decimal -/

/-- A decimal that is not zero becomes the double nearest to it. -/
theorem toFloat_eq_nearest {d : Decimal} (hd : d.digits ≠ 0) :
    d.toFloat = ofUnpacked (nearest .positive d.value) := by
  obtain ⟨m, e⟩ := d
  rw [toFloat, Float.ofScientific]
  split
  · rename_i hfew
    have hpower := hasValue_power (Nat.lt_succ_of_le hfew.2)
    have hm := hasValue_natCast (Nat.pos_of_ne_zero hd) hfew.1
    by_cases he : e < 0
    · have hvalue : (m : ℚ) / 10 ^ e.natAbs = m * 10 ^ e := by
        rw [div_eq_mul_inv, ← zpow_natCast, ← zpow_neg, show -(e.natAbs : ℤ) = e by omega]
      rw [if_pos (decide_eq_true he), value, ← hvalue]
      exact hm.div hpower
    · have hvalue : (m : ℚ) * 10 ^ e.natAbs = m * 10 ^ e := by
        rw [← zpow_natCast, show (e.natAbs : ℤ) = e by omega]
      rw [if_neg (by simpa using he), value, ← hvalue]
      exact hm.mul hpower
  · have hexponent : (if decide (e < 0) = true then Int.negOfNat e.natAbs
        else Int.ofNat e.natAbs) = e := by
      by_cases he : e < 0
      · rw [if_pos (decide_eq_true he), Int.negOfNat_eq]
        exact (Int.eq_neg_natAbs_of_nonpos he.le).symm
      · rw [if_neg (by simpa using he)]
        exact Int.natAbs_of_nonneg (by omega)
    show ofUnpacked (UnpackedFloat.ofScientific .binary64 m _) = _
    rw [hexponent, ofUnpacked_ofScientific hd, value]

/-- Zero becomes zero, whatever its exponent. -/
theorem toFloat_of_zero {d : Decimal} (hd : d.digits = 0) :
    d.toFloat = ofUnpacked (.zero .positive) := by
  obtain ⟨m, e⟩ := d
  obtain rfl : m = 0 := hd
  rw [toFloat, Float.ofScientific]
  split
  · rename_i hfew
    have hpower := hasValue_power (Nat.lt_succ_of_le hfew.2)
    have hzero : (0 : ℕ).toUInt64.toFloat.toModel.unpack = .zero .positive := rfl
    split
    · exact hpower.zero_div hzero
    · exact hpower.zero_mul hzero
  · rfl

/-- A decimal becomes a number. -/
theorem isNaN_toFloat (d : Decimal) : d.toFloat.isNaN = false := by
  by_cases hd : d.digits = 0
  · rw [toFloat_of_zero hd]
    exact isNaN_ofUnpacked rfl
  · rw [toFloat_eq_nearest hd]
    apply isNaN_ofUnpacked
    rw [nearest, settle, ofMantissa]
    split <;> rfl

/-- Decimals of the same value become the same double. -/
theorem toFloat_congr {d d' : Decimal} (h : d.value = d'.value) : d.toFloat = d'.toFloat := by
  have hzero : ∀ {d : Decimal}, d.value = 0 ↔ d.digits = 0 := by
    intro d
    rw [value, mul_eq_zero, Nat.cast_eq_zero, or_iff_left (by positivity)]
  by_cases hd : d.digits = 0
  · have hd' : d'.digits = 0 := by rwa [← hzero, ← h, hzero]
    rw [toFloat_of_zero hd, toFloat_of_zero hd']
  · have hd' : d'.digits ≠ 0 := by rwa [Ne, ← hzero, ← h, hzero]
    rw [toFloat_eq_nearest hd, toFloat_eq_nearest hd', h]

end Rulebook.Decimal
