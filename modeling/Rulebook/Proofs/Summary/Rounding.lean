import Rulebook.Summary
import Mathlib.Tactic.Ring
import Mathlib.Tactic.Linarith

/-!
# Rounding, half upward

`RoundedHalfUp` says which double a double is rounded to: the nearest whole number, and of two that
are equally near the greater. `roundHalfUp` gives it for every double (`roundedHalfUp_roundHalfUp`).
-/

set_option autoImplicit false

namespace Rulebook

/-- A double and what it is rounded to. A finite double is its signed mantissa divided by
`2 ^ places`; the bounds say that this lies between `n - 1 / 2`, inclusive, and `n + 1 / 2`. -/
inductive RoundedHalfUp (x : Float) : Float → Prop where
  /-- Infinities and what is no number stay as they are. -/
  | unbounded : (∀ negative mantissa exponent,
      Binary.ofFloat x ≠ .finite negative mantissa exponent) → RoundedHalfUp x x
  /-- So does a whole number, minus zero included. -/
  | whole {negative : Bool} {mantissa : Nat} {exponent : Int} :
      Binary.ofFloat x = .finite negative mantissa exponent →
      2 ^ (-exponent).toNat ∣ mantissa → RoundedHalfUp x x
  | nearest {negative : Bool} {mantissa : Nat} {exponent n : Int} :
      Binary.ofFloat x = .finite negative mantissa exponent →
      ¬ 2 ^ (-exponent).toNat ∣ mantissa →
      (2 * n - 1) * 2 ^ (-exponent).toNat ≤ 2 * signedMantissa negative mantissa →
      2 * signedMantissa negative mantissa < (2 * n + 1) * 2 ^ (-exponent).toNat →
      RoundedHalfUp x (Float.ofInt n)

/-- The rounded quotient is the whole number nearest to the quotient, halves upward. -/
theorem roundedQuotient_bounds (mantissa : Int) (places : Nat) :
    (2 * roundedQuotient mantissa places - 1) * 2 ^ places ≤ 2 * mantissa ∧
      2 * mantissa < (2 * roundedQuotient mantissa places + 1) * 2 ^ places := by
  have hdenominator : ((Nat.pow 2 (places + 1) : Nat) : Int) = 2 * 2 ^ places := by
    simp [pow_succ, mul_comm]
  have hhalf : ((Nat.pow 2 places : Nat) : Int) = 2 ^ places := by simp
  have hpos : (0 : Int) < 2 * 2 ^ places := by positivity
  have hquotient : roundedQuotient mantissa places =
      (2 * mantissa + 2 ^ places) / (2 * 2 ^ places) := by
    rw [roundedQuotient, hdenominator, hhalf, Int.fdiv_eq_ediv_of_nonneg _ hpos.le]
  have hlow := Int.ediv_mul_le (2 * mantissa + 2 ^ places) hpos.ne'
  have hhigh := Int.lt_ediv_add_one_mul_self (2 * mantissa + 2 ^ places) hpos
  rw [← hquotient] at hlow hhigh
  constructor
  · linarith
  · linarith

theorem roundedHalfUp_roundHalfUp (x : Float) : RoundedHalfUp x (roundHalfUp x) := by
  rw [roundHalfUp]
  split
  · rename_i negative mantissa exponent hx
    simp only [Nat.pow_eq]
    split
    · rename_i hwhole
      exact .whole hx (Nat.dvd_of_mod_eq_zero hwhole)
    · rename_i hplaces
      obtain ⟨hlow, hhigh⟩ :=
        roundedQuotient_bounds (signedMantissa negative mantissa) (-exponent).toNat
      exact .nearest hx (fun hdvd => hplaces (Nat.mod_eq_zero_of_dvd hdvd)) hlow hhigh
  · rename_i hx
    exact .unbounded hx

end Rulebook
