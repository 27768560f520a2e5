import Rulebook.Proofs.Decimal.Nearest
import Rulebook.Proofs.Summary.Rounding
import Rulebook.Summary.Codec

/-!
# The numbers that doubles are

Every finite double is a rational number (`isSome_toRat?`); a whole number of at most 53 bits is one
as a double (`toRat?_ofInt`). Rounding takes a double to the greatest whole number that is at most a
half above it (`toRat?_roundHalfUp`), so what has been rounded is whole. As a 64-bit word a whole
double is itself, unless it lies beyond the words (`wholeWord?_of_toRat?`).
-/

set_option autoImplicit false

namespace Rulebook.Double

open Float.Model Float.Model.UnpackedFloat

/-- The number with the sign, the mantissa and the exponent given. -/
def number (negative : Bool) (mantissa : ℕ) (exponent : ℤ) : ℚ :=
  (signedMantissa negative mantissa : ℚ) * 2 ^ exponent

/-- The number that a finite double is. -/
def toRat? (x : Float) : Option ℚ :=
  match Binary.ofFloat x with
  | .finite negative mantissa exponent => some (number negative mantissa exponent)
  | _ => none

variable {x : Float} {negative : Bool} {mantissa : ℕ} {exponent n : ℤ}

theorem toRat?_of_finite (h : Binary.ofFloat x = .finite negative mantissa exponent) :
    toRat? x = some (number negative mantissa exponent) := by
  rw [toRat?, h]

theorem exists_of_toRat? {v : ℚ} (h : toRat? x = some v) :
    ∃ negative mantissa exponent, Binary.ofFloat x = .finite negative mantissa exponent ∧
      number negative mantissa exponent = v := by
  rw [toRat?] at h
  split at h
  · rename_i negative mantissa exponent hx
    exact ⟨negative, mantissa, exponent, hx, Option.some.inj h⟩
  · cases h

/-- Just the finite doubles are numbers. -/
theorem isSome_toRat? (x : Float) : (toRat? x).isSome = x.isFinite := by
  have hfinite : x.isFinite = x.toModel.unpack.isFinite := rfl
  rw [hfinite, toRat?, Binary.ofFloat]
  cases x.toModel.unpack with
  | notANumber | infinity s | zero s | finite s m e hpos => rfl

/-- The mantissa of a finite double has at most 53 bits. -/
theorem mantissa_lt (h : Binary.ofFloat x = .finite negative mantissa exponent) :
    mantissa < 2 ^ 53 := by
  rw [Binary.ofFloat] at h
  split at h
  · cases h
  · cases h
  · obtain ⟨-, rfl, -⟩ := Binary.finite.inj h
    positivity
  · rename_i sign m e hpos hunpack
    obtain ⟨-, rfl, -⟩ := Binary.finite.inj h
    exact (canonical_of_finite hunpack).lt

/-! ## Whole numbers -/

theorem number_neg (m : ℕ) (e : ℤ) : number true m e = -number false m e := by
  simp [number, signedMantissa]

theorem number_pos (m : ℕ) (e : ℤ) : number false m e = m * 2 ^ e := by
  simp [number, signedMantissa]

theorem toRat?_ofUnpacked_finite {m : ℕ} {e : ℤ} (s : Sign) (h : Canonical m e) :
    toRat? (ofUnpacked (.finite s m e h.pos)) = some (number (s == .negative) m e) := by
  apply toRat?_of_finite
  rw [Binary.ofFloat, unpack_ofUnpacked_finite h]

/-- A count of at most 53 bits as a double. -/
theorem exists_ofNat_eq {k : ℕ} (hpos : 0 < k) (hlt : k < 2 ^ 53) :
    ∃ (m : ℕ) (e : ℤ) (hm : Canonical m e),
      Float.ofNat k = ofUnpacked (.finite .positive m e hm.pos) ∧ number false m e = k := by
  obtain ⟨m, e, hm, -, hvalue⟩ := Decimal.exists_canonical_natCast hpos hlt
  refine ⟨m, e, hm, ?_, (number_pos m e).trans hvalue⟩
  calc Float.ofNat k = Decimal.toFloat ⟨k, 0⟩ := rfl
    _ = ofUnpacked (nearest .positive (Decimal.value ⟨k, 0⟩)) :=
      Decimal.toFloat_eq_nearest hpos.ne'
    _ = ofUnpacked (.finite .positive m e hm.pos) := by
      rw [Decimal.value, zpow_zero, mul_one, ← hvalue, nearest_of_canonical _ hm]

/-- A whole number of at most 53 bits is itself as a double. -/
theorem toRat?_ofInt (h : n.natAbs < 2 ^ 53) : toRat? (Float.ofInt n) = some (n : ℚ) := by
  cases n with
  | ofNat k =>
      rcases Nat.eq_zero_or_pos k with rfl | hpos
      · have hzero : Binary.ofFloat (Float.ofInt (Int.ofNat 0)) = .finite false 0 0 := by decide
        rw [toRat?_of_finite hzero, number_pos]
        simp
      · obtain ⟨m, e, hm, hdouble, hvalue⟩ := exists_ofNat_eq hpos h
        show toRat? (Float.ofNat k) = _
        rw [hdouble, toRat?_ofUnpacked_finite _ hm]
        exact congrArg some hvalue
  | negSucc k =>
      obtain ⟨m, e, hm, hdouble, hvalue⟩ := exists_ofNat_eq (Nat.succ_pos k) h
      show toRat? (-Float.ofNat (k + 1)) = _
      rw [hdouble, neg_ofUnpacked_finite hm, toRat?_ofUnpacked_finite _ hm, Int.cast_negSucc,
        ← hvalue]
      exact congrArg some (number_neg m e)

/-- A number is whole exactly if its mantissa is so many times the power of two that stands below
it. -/
theorem number_eq_intCast_iff :
    number negative mantissa exponent = n ↔
      signedMantissa negative mantissa * 2 ^ exponent.toNat = n * 2 ^ (-exponent).toNat := by
  have hsplit : (2 : ℚ) ^ exponent = 2 ^ exponent.toNat / 2 ^ (-exponent).toNat := by
    rw [← zpow_natCast, ← zpow_natCast, ← zpow_sub₀ two_ne_zero]
    congr 1
    omega
  rw [number, hsplit, mul_div_assoc', div_eq_iff (by positivity)]
  exact_mod_cast Iff.rfl

theorem signedMantissa_mul (negative : Bool) (m k : ℕ) :
    signedMantissa negative (m * k) = signedMantissa negative m * k := by
  cases negative with
  | false => simp [signedMantissa]
  | true => simp [signedMantissa]

theorem natCast_dvd_signedMantissa_iff {k : ℕ} :
    (k : ℤ) ∣ signedMantissa negative mantissa ↔ k ∣ mantissa := by
  cases negative with
  | false => simp [signedMantissa, Int.natCast_dvd_natCast]
  | true => simp [signedMantissa, Int.natCast_dvd_natCast]

/-- Nothing is cut off from a whole number. -/
theorem wholeValue_eq (h : number negative mantissa exponent = n) :
    wholeValue negative mantissa exponent = n := by
  rw [number_eq_intCast_iff] at h
  have hsigned : signedMantissa negative (mantissa * 2 ^ exponent.toNat) =
      n * (2 ^ (-exponent).toNat : ℕ) := by
    rw [signedMantissa_mul]
    exact_mod_cast h
  have hdvd : 2 ^ (-exponent).toNat ∣ mantissa * 2 ^ exponent.toNat := by
    rw [← @natCast_dvd_signedMantissa_iff negative, hsigned]
    exact Int.dvd_mul_left n _
  obtain ⟨whole, hwhole⟩ := hdvd
  have hpos : 0 < 2 ^ (-exponent).toNat := by positivity
  have hquotient : wholeValue negative mantissa exponent = signedMantissa negative whole := by
    rw [wholeValue, Nat.pow_eq, Nat.pow_eq, hwhole, Nat.mul_div_cancel_left _ hpos]
  rw [hwhole, Nat.mul_comm, signedMantissa_mul] at hsigned
  rw [hquotient]
  exact Int.eq_of_mul_eq_mul_right (by exact_mod_cast hpos.ne') hsigned

/-- A whole double is a word as it is, or the last of the words on its side. -/
theorem wholeWord?_of_toRat? (h : toRat? x = some (n : ℚ)) :
    wholeWord? x = some (max (-2 ^ 63) (min (2 ^ 63 - 1) n)) := by
  obtain ⟨negative, mantissa, exponent, hx, hvalue⟩ := exists_of_toRat? h
  rw [wholeWord?, hx]
  simp only [wholeValue_eq hvalue]
  rfl

theorem toRat?_eq_intCast_iff (h : toRat? x = some (n : ℚ)) {whole : ℤ} :
    toRat? x = some (whole : ℚ) ↔ whole = n := by
  rw [h, Option.some_inj, Int.cast_inj, eq_comm]

/-! ## Rounding -/

theorem exists_number_eq_intCast (h : 2 ^ (-exponent).toNat ∣ mantissa) :
    ∃ n : ℤ, number negative mantissa exponent = n := by
  obtain ⟨whole, rfl⟩ := h
  refine ⟨signedMantissa negative whole * 2 ^ exponent.toNat, number_eq_intCast_iff.2 ?_⟩
  rw [Nat.mul_comm, signedMantissa_mul, Nat.cast_pow, Nat.cast_ofNat, mul_right_comm]

/-- A mantissa that cannot be divided has places behind the point. -/
theorem places_ne_zero (h : ¬ 2 ^ (-exponent).toNat ∣ mantissa) : (-exponent).toNat ≠ 0 := by
  intro hnone
  rw [hnone] at h
  exact h (one_dvd mantissa)

/-- The bounds of rounding leave one whole number. -/
theorem floor_number_add_half (hdvd : ¬ 2 ^ (-exponent).toNat ∣ mantissa)
    (hlow : (2 * n - 1) * 2 ^ (-exponent).toNat ≤ 2 * signedMantissa negative mantissa)
    (hhigh : 2 * signedMantissa negative mantissa < (2 * n + 1) * 2 ^ (-exponent).toNat) :
    ⌊number negative mantissa exponent + 1 / 2⌋ = n := by
  have hplaces : (-exponent).toNat ≠ 0 := places_ne_zero hdvd
  have hnumber : number negative mantissa exponent =
      signedMantissa negative mantissa / 2 ^ (-exponent).toNat := by
    have hexponent : exponent = -((-exponent).toNat : ℤ) := by omega
    rw [number, div_eq_mul_inv, ← zpow_natCast, ← zpow_neg, ← hexponent]
  have hpos : (0 : ℚ) < 2 ^ (-exponent).toNat := by positivity
  have hlow' : (2 * (n : ℚ) - 1) * 2 ^ (-exponent).toNat ≤
      2 * signedMantissa negative mantissa := by exact_mod_cast hlow
  have hhigh' : 2 * (signedMantissa negative mantissa : ℚ) <
      (2 * n + 1) * 2 ^ (-exponent).toNat := by exact_mod_cast hhigh
  rw [Int.floor_eq_iff, hnumber]
  constructor
  · have hbelow : (n : ℚ) - 1 / 2 ≤ signedMantissa negative mantissa / 2 ^ (-exponent).toNat := by
      rw [le_div_iff₀ hpos]
      linarith
    linarith
  · have habove : (signedMantissa negative mantissa : ℚ) / 2 ^ (-exponent).toNat < n + 1 / 2 := by
      rw [div_lt_iff₀ hpos]
      linarith
    linarith

/-- A number with places behind the point is rounded to one of at most 53 bits. -/
theorem natAbs_lt_of_bounds (hmantissa : mantissa < 2 ^ 53)
    (hdvd : ¬ 2 ^ (-exponent).toNat ∣ mantissa)
    (hlow : (2 * n - 1) * 2 ^ (-exponent).toNat ≤ 2 * signedMantissa negative mantissa)
    (hhigh : 2 * signedMantissa negative mantissa < (2 * n + 1) * 2 ^ (-exponent).toNat) :
    n.natAbs < 2 ^ 53 := by
  have hscale : (2 : ℤ) ≤ 2 ^ (-exponent).toNat :=
    le_self_pow₀ (by norm_num) (places_ne_zero hdvd)
  have hsigned : -2 ^ 53 < signedMantissa negative mantissa ∧
      signedMantissa negative mantissa < 2 ^ 53 := by
    rw [signedMantissa]
    split
    · constructor <;> omega
    · constructor <;> omega
  have hupper : n < 2 ^ 53 := by
    by_contra hge
    nlinarith
  have hlower : -2 ^ 53 < n := by
    by_contra hle
    nlinarith
  omega

/-- A double becomes the greatest whole number that is at most a half above it. -/
theorem toRat?_roundHalfUp {v : ℚ} (h : toRat? x = some v) :
    toRat? (roundHalfUp x) = some ((⌊v + 1 / 2⌋ : ℤ) : ℚ) := by
  obtain ⟨negative, mantissa, exponent, hx, rfl⟩ := exists_of_toRat? h
  generalize hy : roundHalfUp x = y
  have hrounded : RoundedHalfUp x y := hy ▸ roundedHalfUp_roundHalfUp x
  cases hrounded with
  | unbounded hinfinite => exact absurd hx (hinfinite _ _ _)
  | whole hfinite hdvd =>
      obtain ⟨rfl, rfl, rfl⟩ := Binary.finite.inj (hfinite.symm.trans hx)
      obtain ⟨n, hn⟩ := exists_number_eq_intCast hdvd
      have hfloor : ⌊(n : ℚ) + 1 / 2⌋ = n := by
        rw [Int.floor_intCast_add]
        norm_num
      rw [h, hn, hfloor]
  | nearest hfinite hdvd hlow hhigh =>
      obtain ⟨rfl, rfl, rfl⟩ := Binary.finite.inj (hfinite.symm.trans hx)
      rw [floor_number_add_half hdvd hlow hhigh]
      exact toRat?_ofInt (natAbs_lt_of_bounds (mantissa_lt hx) hdvd hlow hhigh)

/-- What is no number is not made one by rounding. -/
theorem isFinite_of_roundHalfUp (h : (roundHalfUp x).isFinite = true) : x.isFinite = true := by
  rw [← isSome_toRat?] at h ⊢
  cases hx : Binary.ofFloat x with
  | finite negative mantissa exponent => rw [toRat?_of_finite hx, Option.isSome_some]
  | nan | infinite negative =>
      have hsame : roundHalfUp x = x := by rw [roundHalfUp, hx]
      rwa [hsame] at h

end Rulebook.Double
