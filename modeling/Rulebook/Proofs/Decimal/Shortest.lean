import Rulebook.Decimal.Shortest

/-!
# Zeros behind a zero

The decimal that is found for a double is never a zero with an exponent above zero
(`Decimal.zeroUnscaled_ofFinite`): a grid that is coarser than the whole numbers is tried only where
the value reaches the first point above zero on it. So in positional text a zero at the front stands
right before the point.
-/

set_option autoImplicit false

namespace Rulebook

namespace Decimal

/-- No zeros are written behind a zero. -/
def ZeroUnscaled (d : Decimal) : Prop := 0 < d.exponent → d.digits ≠ 0

theorem zeroUnscaled_of_nonpos {d : Decimal} (h : d.exponent ≤ 0) : ZeroUnscaled d := by
  intro hpos
  omega

/-- A number with more than `e` digits is at least `10 ^ e`. -/
theorem pow_le_of_lt_digitCount {n e : Nat} (hn : 0 < n) (he : e < digitCount n) :
    Nat.pow 10 e ≤ n := by
  rcases Nat.eq_zero_or_pos e with rfl | hpos
  · exact hn
  · rw [digitCount, ← Nat.not_le, Nat.length_toDigits_le_iff (by decide) hpos] at he
    exact Nat.not_lt.1 he

variable {num den : Nat} {exponent : Int} {tie : Tie} {x : Float} {d : Decimal}

/-- Below the magnitude of a quotient lie only powers of ten that it reaches. -/
theorem mul_pow_le_of_lt_magnitude (hden : 0 < den) (hpos : 0 < exponent)
    (h : exponent < magnitude num den) : den * Nat.pow 10 exponent.toNat ≤ num := by
  rw [magnitude] at h
  split at h
  · rename_i hle
    have hquotient : 0 < num / den := Nat.div_pos hle hden
    have hpow : Nat.pow 10 exponent.toNat ≤ num / den :=
      pow_le_of_lt_digitCount hquotient (by omega)
    rw [Nat.mul_comm]
    exact (Nat.le_div_iff_mul_le hden).1 hpow
  · -- a quotient below one has no positive magnitude
    have hcount : 0 < digitCount ((den - 1) / num) := Nat.length_toDigits_pos
    omega

/-- A neighbour is the quotient on its grid, rounded down or up. -/
theorem of_neighbour? (h : neighbour? tie x num den exponent = some d) :
    d.exponent = exponent ∧
      num * Nat.pow 10 (-exponent).toNat / (den * Nat.pow 10 exponent.toNat) ≤ d.digits := by
  have hdown : ∀ low : Nat, some (⟨low, exponent⟩ : Decimal) = some d →
      d.exponent = exponent ∧ low ≤ d.digits := by
    rintro low ⟨⟩
    exact ⟨rfl, Nat.le_refl low⟩
  have hup : ∀ low : Nat, some (⟨low + 1, exponent⟩ : Decimal) = some d →
      d.exponent = exponent ∧ low ≤ d.digits := by
    rintro low ⟨⟩
    exact ⟨rfl, Nat.le_succ low⟩
  -- which of the two is nearer does not matter, so the comparison is any
  simp only [neighbour?] at h
  generalize compare (_ : Nat) _ = order at h
  split at h
  · cases h
  · exact hdown _ h
  · exact hup _ h
  · cases order with
    | lt => exact hdown _ h
    | gt => exact hup _ h
    | eq =>
        cases tie with
        | upward => exact hup _ h
        | toEven =>
            simp only at h
            split at h
            · exact hdown _ h
            · exact hup _ h

theorem zeroUnscaled_of_neighbour? (hden : 0 < den) (hlt : exponent < magnitude num den)
    (h : neighbour? tie x num den exponent = some d) : ZeroUnscaled d := by
  obtain ⟨rfl, hdigits⟩ := of_neighbour? h
  intro hpos
  have hreach := mul_pow_le_of_lt_magnitude hden hpos hlt
  have hscale : 0 < den * Nat.pow 10 d.exponent.toNat := Nat.mul_pos hden (Nat.pow_pos (by decide))
  have hnone : (-d.exponent).toNat = 0 := by omega
  have hone : Nat.pow 10 (-d.exponent).toNat = 1 := congrArg (Nat.pow 10) hnone
  rw [hone, Nat.mul_one] at hdigits
  have hlow : 0 < num / (den * Nat.pow 10 d.exponent.toNat) := Nat.div_pos hreach hscale
  omega

/-- Zeros are removed from digits that are no zero. -/
theorem zeroUnscaled_stripZeros (limit : Nat) (h : ZeroUnscaled d) :
    ZeroUnscaled (stripZeros limit d) := by
  induction limit generalizing d with
  | zero => exact h
  | succ limit ih =>
      rw [stripZeros]
      split
      · rename_i hzero
        refine ih fun _ => ?_
        show d.digits / 10 ≠ 0
        omega
      · exact h

/-- The decimal of a finite double is no scaled zero. -/
theorem zeroUnscaled_ofFinite (tie : Tie) (mantissa : Nat) (exponent : Int) :
    ZeroUnscaled (ofFinite tie mantissa exponent) := by
  rw [ofFinite]
  split
  · exact zeroUnscaled_of_nonpos (Int.le_refl 0)
  · have hden : 0 < Nat.pow 2 (-exponent).toNat := Nat.pow_pos (by decide)
    simp only
    -- only grids below the magnitude are tried; if none of them serves, the value is written out
    split
    · rename_i d hfound
      obtain ⟨n, -, hneighbour⟩ := List.exists_of_findSome?_eq_some hfound
      exact zeroUnscaled_stripZeros 17 (zeroUnscaled_of_neighbour? hden (by omega) hneighbour)
    · refine zeroUnscaled_of_nonpos ?_
      show (if exponent < 0 then exponent else 0) ≤ 0
      split <;> omega

end Decimal

end Rulebook
