import Rulebook.Proofs.Double.Bits

/-!
# Rounding to the nearest double

What arithmetic does with a mantissa, an exponent and an accuracy depends only on the number these
stand for (`roundWithAccuracy_eq_nearest`), as long as no bits of it were dropped too early. So the
products and quotients of doubles are `nearest` to the products and quotients of their values
(`mul_finite`, `div_finite`). The nearest double to a value that is one is that double
(`nearest_of_canonical`); beyond all doubles it is infinite, and far below all of them it is zero.
-/

set_option autoImplicit false

namespace Rulebook.Double

open Float.Model Float.Model.UnpackedFloat

/-! ## Mantissas with residual bits -/

/-- The mantissa below a number, and the two bits that say where above it the number lies. -/
def extended (y : ℚ) : ExtendedMantissa where
  mantissa := ⌊y⌋₊
  roundBit := ⌊2 * y⌋₊ % 2 != 0
  stickyBit := decide (2 * y ≠ ⌊2 * y⌋₊)

/-- A number is whole exactly if its double is, and is even. -/
theorem eq_floor_iff {y : ℚ} :
    y = ⌊y⌋₊ ↔ ⌊2 * y⌋₊ % 2 = 0 ∧ 2 * y = ⌊2 * y⌋₊ := by
  constructor
  · intro h
    have hdouble : 2 * y = (2 * ⌊y⌋₊ : ℕ) := by
      rw [h]
      push_cast
      rw [Nat.floor_natCast]
    rw [hdouble, Nat.floor_natCast]
    exact ⟨by omega, rfl⟩
  · rintro ⟨heven, hdouble⟩
    obtain ⟨k, hk⟩ : ∃ k, ⌊2 * y⌋₊ = 2 * k := ⟨⌊2 * y⌋₊ / 2, by omega⟩
    have hwhole : y = k := by
      rw [hk] at hdouble
      push_cast at hdouble
      linarith
    rw [hwhole, Nat.floor_natCast]

/-- Dropping the last bit of a mantissa halves the number. -/
theorem shiftRightOne_extended (y : ℚ) :
    (extended y).shiftRightOne = extended (y / 2) := by
  have htwice : 2 * (y / 2) = y := by ring
  have hmantissa : ⌊y / 2⌋₊ = ⌊y⌋₊ / 2 := Nat.floor_div_natCast y 2
  have hsticky : ((⌊2 * y⌋₊ % 2 != 0) || decide (2 * y ≠ ⌊2 * y⌋₊)) = decide (y ≠ ⌊y⌋₊) := by
    have hwhole := @eq_floor_iff y
    grind
  simp only [extended, ExtendedMantissa.shiftRightOne, htwice, hmantissa, hsticky]

/-- Dropping bits of a mantissa divides the number by a power of two. -/
theorem shift_extended (y : ℚ) (n : ℕ) : extended y >>> n = extended (y / 2 ^ n) := by
  induction n with
  | zero => rw [pow_zero, div_one]; rfl
  | succ n ih =>
      show (extended y >>> n).shiftRightOne = _
      rw [ih, shiftRightOne_extended, div_div, ← pow_succ]

/-- A mantissa that is exact stands for itself. -/
theorem ofMantissa_exact (m : ℕ) :
    ExtendedMantissa.ofMantissaAndAccuracy m .exact = extended m := by
  have hdouble : (2 * m : ℚ) = (2 * m : ℕ) := by push_cast; rfl
  have heven : 2 * m % 2 = 0 := by omega
  simp only [extended, hdouble, Nat.floor_natCast, heven, ExtendedMantissa.ofMantissaAndAccuracy,
    ne_eq, not_true_eq_false, decide_false]
  rfl

/-- A quotient with its remainder stands for the fraction. -/
theorem ofMantissa_fraction {num den : ℕ} (hden : 0 < den) :
    ExtendedMantissa.ofMantissaAndAccuracy (num / den) (accuracyOfFraction (num % den) den) =
      extended (num / den) := by
  have hne : (den : ℚ) ≠ 0 := by positivity
  have hdouble : 2 * ((num : ℚ) / den) = (2 * num : ℕ) / (den : ℕ) := by
    push_cast
    ring
  have hfloor : ⌊((2 * num : ℕ) : ℚ) / (den : ℕ)⌋₊ = 2 * num / den := Nat.floor_div_eq_div _ _
  have hwhole : ((2 * num : ℕ) : ℚ) / (den : ℕ) = (2 * num / den : ℕ) ↔ 2 * num % den = 0 := by
    rw [div_eq_iff hne, ← Nat.cast_mul, Nat.cast_inj, ← Nat.dvd_iff_mod_eq_zero,
      Nat.dvd_iff_div_mul_eq, eq_comm]
  have hdecompose := Nat.div_add_mod num den
  have hlt := Nat.mod_lt num hden
  have hextended : extended (num / den) =
      ⟨num / den, 2 * num / den % 2 != 0, decide (2 * num % den ≠ 0)⟩ := by
    simp only [extended, hdouble, hfloor, Nat.floor_div_eq_div, hwhole, ne_eq]
  rw [hextended]
  generalize num % den = r at hdecompose hlt ⊢
  generalize num / den = q at hdecompose ⊢
  obtain ⟨hquotient, hremainder⟩ : 2 * num / den = 2 * q + (if den ≤ 2 * r then 1 else 0) ∧
      2 * num % den = if den ≤ 2 * r then 2 * r - den else 2 * r := by
    rw [Nat.div_mod_unique hden, ← hdecompose]
    split
    · exact ⟨by rw [Nat.mul_add, Nat.mul_one, Nat.mul_left_comm]; omega, by omega⟩
    · exact ⟨by rw [Nat.add_zero, Nat.mul_left_comm]; omega, by omega⟩
  rw [hquotient, hremainder, accuracyOfFraction]
  rcases Nat.lt_trichotomy (2 * r) den with hbelow | hhalf | habove
  · rw [if_neg (Nat.not_le.2 hbelow), if_neg (Nat.not_le.2 hbelow), Nat.compare_eq_lt.2 hbelow]
    by_cases hr : r = 0 <;> simp [ExtendedMantissa.ofMantissaAndAccuracy, hr]
  · rw [if_pos hhalf.ge, if_pos hhalf.ge, Nat.compare_eq_eq.2 hhalf, if_neg (by omega)]
    simp [ExtendedMantissa.ofMantissaAndAccuracy, Nat.add_mod, hhalf]
  · rw [if_pos habove.le, if_pos habove.le, Nat.compare_eq_gt.2 habove, if_neg (by omega)]
    have hsticky : 2 * r - den ≠ 0 := by omega
    simp [ExtendedMantissa.ofMantissaAndAccuracy, Nat.add_mod, hsticky]

/-! ## The place of the last bit -/

/-- The exponent of the last bit of the double nearest to a number. -/
def place (x : ℚ) : ℤ := Format.binary64.targetExponent (Int.log 2 x + 1)

theorem place_eq (x : ℚ) : place x = max (Int.log 2 x - 52) (-1074) := by
  show max (Int.log 2 x + 1 - (53 : ℕ)) (-1074) = _
  omega

theorem targetExponent_eq (m : ℕ) (e : ℤ) :
    Format.binary64.targetExponent (totalExponent m e) = max (m.log2 + e - 52) (-1074) := by
  show max ((m.log2 : ℤ) + 1 + e - (53 : ℕ)) (-1074) = _
  omega

theorem log_eq {x : ℚ} {k : ℤ} (hlow : (2 : ℚ) ^ k ≤ x) (hhigh : x < 2 ^ (k + 1)) :
    Int.log 2 x = k := by
  have hx : 0 < x := lt_of_lt_of_le (by positivity) hlow
  have hle : k ≤ Int.log 2 x := (Int.zpow_le_iff_le_log (by decide) hx).1 (by exact_mod_cast hlow)
  have hlt : Int.log 2 x < k + 1 :=
    (Int.lt_zpow_iff_log_lt (by decide) hx).1 (by exact_mod_cast hhigh)
  omega

/-- The leading bit of a number stands where that of its mantissa does. -/
theorem log_eq_of_floor {x : ℚ} {e : ℤ} (h : 0 < ⌊x / 2 ^ e⌋₊) :
    Int.log 2 x = Nat.log2 ⌊x / 2 ^ e⌋₊ + e := by
  have hpow : (0 : ℚ) < 2 ^ e := by positivity
  have hy : 0 ≤ x / 2 ^ e := by
    by_contra hneg
    rw [Nat.floor_of_nonpos (le_of_not_ge hneg)] at h
    omega
  have hlow : (2 : ℚ) ^ (Nat.log2 ⌊x / 2 ^ e⌋₊) ≤ x / 2 ^ e := by
    refine le_trans ?_ (Nat.floor_le hy)
    exact_mod_cast Nat.log2_self_le h.ne'
  have hhigh : x / 2 ^ e < (2 : ℚ) ^ (Nat.log2 ⌊x / 2 ^ e⌋₊ + 1) := by
    refine lt_of_lt_of_le (Nat.lt_floor_add_one _) ?_
    exact_mod_cast Nat.lt_log2_self
  rw [le_div_iff₀ hpow, ← zpow_natCast, ← zpow_add₀ two_ne_zero] at hlow
  rw [div_lt_iff₀ hpow, ← zpow_natCast, ← zpow_add₀ two_ne_zero] at hhigh
  have hnext : (Nat.log2 ⌊x / 2 ^ e⌋₊ : ℤ) + e + 1 = (Nat.log2 ⌊x / 2 ^ e⌋₊ + 1 : ℕ) + e := by omega
  exact log_eq hlow (hnext ▸ hhigh)

/-- If no bits were dropped too early, a mantissa is shifted to the place of its number. -/
theorem targetExponent_floor {x : ℚ} {e : ℤ} (hx : 0 < x) (he : e ≤ place x) :
    Format.binary64.targetExponent (totalExponent ⌊x / 2 ^ e⌋₊ e) = place x := by
  rw [targetExponent_eq]
  rw [place_eq] at he ⊢
  rcases Nat.eq_zero_or_pos ⌊x / 2 ^ e⌋₊ with hzero | hpos
  · -- less than one unit is left, so the place is the last one that there is
    have hlt : x < 2 ^ e := by
      rwa [Nat.floor_eq_zero, div_lt_one (by positivity)] at hzero
    have hlog : Int.log 2 x < e := (Int.lt_zpow_iff_log_lt (by decide) hx).1 (by exact_mod_cast hlt)
    rw [hzero, show Nat.log2 0 = 0 from rfl]
    omega
  · rw [log_eq_of_floor hpos] at he ⊢

/-! ## Rounding -/

/-- The value with the mantissa and the exponent given, which may be zero. -/
def ofMantissa (s : Sign) (m : ℕ) (e : ℤ) : UnpackedFloat :=
  if h : m = 0 then .zero s else .finite s m e (Nat.pos_of_ne_zero h)

/-- A rounded mantissa at its place. Rounding up may have given it one bit more. -/
def settle (s : Sign) (m : ℕ) (e : ℤ) : UnpackedFloat :=
  let settled := shiftToTargetExponent .binary64 m e .exact
  ofMantissa s settled.1.mantissa settled.2

/-- The value of a double that is nearest to a positive number. -/
def nearest (s : Sign) (x : ℚ) : UnpackedFloat :=
  settle s (extended (x / 2 ^ place x)).roundedMantissa (place x)

/-- Rounding depends on the number only that a mantissa, an exponent and an accuracy stand for. -/
theorem roundWithAccuracy_eq_nearest {x : ℚ} {m : ℕ} {e : ℤ} {accuracy : Accuracy} (s : Sign)
    (hx : 0 < x) (he : e ≤ place x)
    (hstands : ExtendedMantissa.ofMantissaAndAccuracy m accuracy = extended (x / 2 ^ e)) :
    roundWithAccuracy .binary64 s m e accuracy = nearest s x := by
  have hm : m = ⌊x / 2 ^ e⌋₊ := by
    have hmantissa := congrArg ExtendedMantissa.mantissa hstands
    cases accuracy with
    | exact => exact hmantissa
    | inexact order => cases order <;> exact hmantissa
  have hshift : shiftToTargetExponent .binary64 m e accuracy =
      (extended (x / 2 ^ place x), place x) := by
    have hamount : ((place x - e).toNat : ℤ) = place x - e := Int.toNat_of_nonneg (by omega)
    have hscale : x / 2 ^ e / 2 ^ (place x - e).toNat = x / 2 ^ place x := by
      rw [div_div, ← zpow_natCast (2 : ℚ) (place x - e).toNat, hamount, ← zpow_add₀ two_ne_zero,
        add_sub_cancel]
    rw [shiftToTargetExponent, hm, targetExponent_floor hx he, ← hm]
    simp only [shiftToExponent, hstands, shift_extended, hscale, hamount, add_sub_cancel]
  rw [roundWithAccuracy, hshift]
  rfl

theorem le_place {x : ℚ} {e : ℤ} (h : (2 : ℚ) ^ (e + 52) ≤ x) : e ≤ place x := by
  have hx : 0 < x := lt_of_lt_of_le (by positivity) h
  have hlog : e + 52 ≤ Int.log 2 x :=
    (Int.zpow_le_iff_le_log (by decide) hx).1 (by exact_mod_cast h)
  rw [place_eq]
  omega

/-! ## Products and quotients -/

section Arithmetic

variable {m₁ m₂ : ℕ} {e₁ e₂ : ℤ}

/-- The product of two doubles is nearest to the product of their values. -/
theorem mul_finite (s₁ s₂ : Sign) (hm₁ : 0 < m₁) (hm₂ : 0 < m₂)
    (hbits : (2 : ℚ) ^ (e₁ + e₂ + 52) ≤ (m₁ * 2 ^ e₁) * (m₂ * 2 ^ e₂)) :
    UnpackedFloat.mul .binary64 (.finite s₁ m₁ e₁ hm₁) (.finite s₂ m₂ e₂ hm₂) =
      nearest (s₁ * s₂) ((m₁ * 2 ^ e₁) * (m₂ * 2 ^ e₂)) := by
  have hpos : (0 : ℚ) < (m₁ * 2 ^ e₁) * (m₂ * 2 ^ e₂) := by positivity
  refine roundWithAccuracy_eq_nearest _ hpos (le_place hbits) ?_
  have hvalue : (m₁ * 2 ^ e₁) * (m₂ * 2 ^ e₂) / 2 ^ (e₁ + e₂) = ((m₁ * m₂ : ℕ) : ℚ) := by
    rw [zpow_add₀ two_ne_zero]
    field_simp
    push_cast
    ring
  rw [hvalue, ofMantissa_exact]

/-- A quotient has as many bits in front as its parts let expect, or one less. -/
theorem le_log_quotient (hm₁ : 0 < m₁) (hm₂ : 0 < m₂) :
    totalExponent m₁ e₁ - totalExponent m₂ e₂ - 1 ≤
      Int.log 2 ((m₁ * 2 ^ e₁) / (m₂ * 2 ^ e₂) : ℚ) := by
  have hlow : (2 : ℚ) ^ (m₁.log2 : ℤ) ≤ m₁ := by
    rw [zpow_natCast]
    exact_mod_cast Nat.log2_self_le hm₁.ne'
  have hhigh : (m₂ : ℚ) ≤ 2 ^ ((m₂.log2 : ℤ) + 1) := by
    rw [← Nat.cast_one, ← Nat.cast_add, zpow_natCast]
    exact_mod_cast Nat.lt_log2_self.le
  refine (Int.zpow_le_iff_le_log (by decide) (by positivity)).1 ?_
  rw [le_div_iff₀ (by positivity)]
  calc ((2 : ℕ) : ℚ) ^ (totalExponent m₁ e₁ - totalExponent m₂ e₂ - 1) * (m₂ * 2 ^ e₂)
      ≤ 2 ^ (totalExponent m₁ e₁ - totalExponent m₂ e₂ - 1) *
          (2 ^ ((m₂.log2 : ℤ) + 1) * 2 ^ e₂) := by
        rw [Nat.cast_ofNat]
        gcongr
    _ = 2 ^ (m₁.log2 : ℤ) * 2 ^ e₁ := by
        rw [← zpow_add₀ two_ne_zero, ← zpow_add₀ two_ne_zero, ← zpow_add₀ two_ne_zero]
        congr 1
        simp only [totalExponent]
        ring
    _ ≤ m₁ * 2 ^ e₁ := by gcongr

/-- The quotient of two doubles is nearest to the quotient of their values. -/
theorem div_finite (s₁ s₂ : Sign) (hm₁ : 0 < m₁) (hm₂ : 0 < m₂) :
    UnpackedFloat.div .binary64 (.finite s₁ m₁ e₁ hm₁) (.finite s₂ m₂ e₂ hm₂) =
      nearest (s₁ / s₂) ((m₁ * 2 ^ e₁) / (m₂ * 2 ^ e₂)) := by
  have hpos : (0 : ℚ) < (m₁ * 2 ^ e₁) / (m₂ * 2 ^ e₂) := by positivity
  have hlog := @le_log_quotient m₁ m₂ e₁ e₂ hm₁ hm₂
  let target := min (e₁ - e₂)
    (Format.binary64.targetExponent (totalExponent m₁ e₁ - totalExponent m₂ e₂))
  have htarget : target ≤ place ((m₁ * 2 ^ e₁) / (m₂ * 2 ^ e₂)) := by
    refine le_trans (min_le_right _ _) ?_
    rw [place_eq]
    show max (_ - ((53 : ℕ) : ℤ)) (-1074) ≤ _
    omega
  have hvalue : ((m₁ * 2 ^ e₁) / (m₂ * 2 ^ e₂) : ℚ) / 2 ^ target =
      ((m₁ <<< (e₁ - e₂ - target).toNat : ℕ) : ℚ) / m₂ := by
    have hbelow : target ≤ e₁ - e₂ := min_le_left _ _
    have hamount : ((e₁ - e₂ - target).toNat : ℤ) = e₁ - e₂ - target :=
      Int.toNat_of_nonneg (by omega)
    have hscale : (2 : ℚ) ^ e₁ = 2 ^ (e₁ - e₂ - target) * (2 ^ e₂ * 2 ^ target) := by
      rw [← zpow_add₀ two_ne_zero, ← zpow_add₀ two_ne_zero]
      congr 1
      ring
    rw [Nat.shiftLeft_eq, Nat.cast_mul, Nat.cast_pow, Nat.cast_ofNat, ← zpow_natCast, hamount,
      hscale]
    field_simp
  refine roundWithAccuracy_eq_nearest _ hpos htarget ?_
  rw [hvalue]
  exact ofMantissa_fraction hm₂

end Arithmetic

/-! ## Values of doubles -/

/-- A mantissa that fits is left at its place. -/
theorem shiftToTargetExponent_of_fits {m : ℕ} {e : ℤ} (hm : m < 2 ^ 53) (he : -1074 ≤ e) :
    shiftToTargetExponent .binary64 m e .exact = (⟨m, false, false⟩, e) := by
  have hlog : m.log2 ≤ 52 := by
    rcases Nat.eq_zero_or_pos m with rfl | hpos
    · decide
    · have := (Nat.log2_lt hpos.ne').2 hm
      omega
  have hnone : (Format.binary64.targetExponent (totalExponent m e) - e).toNat = 0 := by
    rw [targetExponent_eq]
    omega
  simp only [shiftToTargetExponent, shiftToExponent, hnone]
  exact congrArg (_, ·) (Int.add_zero e)

/-- The double nearest to the value of a double is that double. -/
theorem nearest_of_canonical (s : Sign) {m : ℕ} {e : ℤ} (h : Canonical m e) (hpos : 0 < m) :
    nearest s (m * 2 ^ e) = .finite s m e hpos := by
  have hplace : place (m * 2 ^ e) = e := by
    have hfloor : ⌊(m * 2 ^ e : ℚ) / 2 ^ e⌋₊ = m := by
      rw [mul_div_cancel_right₀ _ (by positivity), Nat.floor_natCast]
    have hlog := @log_eq_of_floor (m * 2 ^ e) e (by rw [hfloor]; exact hpos)
    rw [hfloor] at hlog
    have hhigh : m.log2 < 53 := (Nat.log2_lt hpos.ne').2 h.lt
    have hleast := h.le_exponent
    rw [place_eq, hlog]
    by_cases he : e = -1074
    · omega
    · have hlow : 52 ≤ m.log2 := (Nat.le_log2 hpos.ne').2 (h.full he)
      omega
  have hrounded : (extended (m * 2 ^ e / 2 ^ e)).roundedMantissa = m := by
    rw [mul_div_cancel_right₀ _ (by positivity), ← ofMantissa_exact]
    rfl
  rw [nearest, hplace, hrounded, settle, shiftToTargetExponent_of_fits h.lt h.le_exponent]
  exact dif_neg hpos.ne'

/-! ## Beyond the range of doubles -/

theorem mantissa_le_roundedMantissa (em : ExtendedMantissa) : em.mantissa ≤ em.roundedMantissa := by
  obtain ⟨m, round, sticky⟩ := em
  cases round <;> cases sticky <;>
    simp [ExtendedMantissa.roundedMantissa, ExtendedMantissa.accuracy, Accuracy.roundToNearestEven]

/-- A mantissa that is not zero does not vanish where it is put in place, and the place is no lower
than it was. -/
theorem exists_settle_eq {m : ℕ} {e : ℤ} (s : Sign) (hm : 0 < m) (he : -1074 ≤ e) :
    ∃ (m' : ℕ) (e' : ℤ) (hm' : 0 < m'), settle s m e = .finite s m' e' hm' ∧ e ≤ e' := by
  let k := (Format.binary64.targetExponent (totalExponent m e) - e).toNat
  have hk : k ≤ m.log2 := by
    show (Format.binary64.targetExponent (totalExponent m e) - e).toNat ≤ _
    rw [targetExponent_eq]
    omega
  have hmantissa : (extended (m / 2 ^ k)).mantissa = m / 2 ^ k := by
    have hfloor := Nat.floor_div_eq_div (K := ℚ) m (2 ^ k)
    rwa [Nat.cast_pow, Nat.cast_ofNat] at hfloor
  have hpos : 0 < m / 2 ^ k := by
    refine Nat.div_pos ?_ (by positivity)
    exact le_trans (Nat.pow_le_pow_right (by decide) hk) (Nat.log2_self_le hm.ne')
  refine ⟨m / 2 ^ k, e + k, hpos, ?_, by omega⟩
  have hshift : shiftToTargetExponent .binary64 m e .exact = (extended (m / 2 ^ k), e + k) := by
    simp only [shiftToTargetExponent, shiftToExponent, ofMantissa_exact, shift_extended, k]
  simp only [settle, hshift, hmantissa, ofMantissa, dif_neg hpos.ne']

/-- A number beyond all doubles is infinite as a double. -/
theorem ofUnpacked_nearest_of_large (s : Sign) {x : ℚ} (hx : 2 ^ 1024 ≤ x) :
    ofUnpacked (nearest s x) = ofUnpacked (.infinity s) := by
  have hpos : 0 < x := lt_of_lt_of_le (by positivity) hx
  have hlog : 1024 ≤ Int.log 2 x := by
    refine (Int.zpow_le_iff_le_log (by decide) hpos).1 ?_
    exact_mod_cast hx
  have hplace : place x = Int.log 2 x - 52 := by
    rw [place_eq]
    omega
  have hfloor : 1 ≤ ⌊x / 2 ^ place x⌋₊ := by
    refine Nat.le_floor ?_
    rw [Nat.cast_one, one_le_div (by positivity)]
    have hle := Int.zpow_log_le_self (R := ℚ) (b := 2) (by decide) hpos
    refine le_trans ?_ hle
    rw [Nat.cast_ofNat]
    exact zpow_le_zpow_right₀ (by norm_num) (by omega)
  obtain ⟨m, e, hm, hsettle, he⟩ := exists_settle_eq s
    (Nat.lt_of_lt_of_le hfloor (mantissa_le_roundedMantissa (extended (x / 2 ^ place x))))
    (e := place x) (by omega)
  have hinfinite : UnpackedFloat.pack .binary64 (.finite s m e hm) =
      UnpackedFloat.pack .binary64 (.infinity s) := by
    simp only [UnpackedFloat.pack, biased_exponent e]
    exact if_pos (by show 2 ^ 11 ≤ _; omega)
  simp only [ofUnpacked, Float.Model.pack, nearest, hsettle, hinfinite]

/-- A number below half of the least double is zero as a double. -/
theorem nearest_of_small (s : Sign) {x : ℚ} (hpos : 0 < x) (hx : x < 2 ^ (-1075 : ℤ)) :
    nearest s x = .zero s := by
  have hlog : Int.log 2 x < -1075 :=
    (Int.lt_zpow_iff_log_lt (by decide) hpos).1 (by exact_mod_cast hx)
  have hplace : place x = -1074 := by
    rw [place_eq]
    omega
  have hhalf : 2 * (x / 2 ^ (-1074 : ℤ)) < 1 := by
    rw [mul_div_assoc', div_lt_one (by positivity)]
    calc 2 * x < 2 * 2 ^ (-1075 : ℤ) := by linarith
      _ = 2 ^ (1 + -1075 : ℤ) := (zpow_one_add₀ two_ne_zero _).symm
  have hnone : ⌊x / 2 ^ (-1074 : ℤ)⌋₊ = 0 := by
    rw [Nat.floor_eq_zero]
    have hnonneg : 0 ≤ x / 2 ^ (-1074 : ℤ) := by positivity
    linarith
  have hrounded : (extended (x / 2 ^ (-1074 : ℤ))).roundedMantissa = 0 := by
    simp only [extended, hnone, Nat.floor_eq_zero.2 hhalf, ExtendedMantissa.roundedMantissa]
    cases decide (2 * (x / 2 ^ (-1074 : ℤ)) ≠ ((0 : ℕ) : ℚ)) <;> rfl
  rw [nearest, hplace, hrounded, settle, shiftToTargetExponent_of_fits (by decide) (by decide)]
  rfl

end Rulebook.Double
