import Rulebook.Decimal

/-!
# The fewest digits that read back

`Decimal.ofFinite` finds, for a double `mantissa * 2 ^ exponent`, the decimal with the fewest digits
that reads back to it, and of those the nearest. The grids of one to seventeen digits are tried in
turn; on each, only the two neighbours of the value can be nearest to it. `Tie` says which of two
equally near decimals is taken.
-/

set_option autoImplicit false

namespace Rulebook

/-- Which of two equally near decimals is taken. -/
inductive Tie where
  | upward
  | toEven
deriving DecidableEq, Repr

/-- The value of a double, taken apart. -/
inductive Binary where
  | nan
  | infinite (negative : Bool)
  | finite (negative : Bool) (mantissa : Nat) (exponent : Int)
deriving DecidableEq, Repr

/-- A finite double is `mantissa * 2 ^ exponent` with its sign. -/
def Binary.ofFloat (x : Float) : Binary :=
  match x.toModel.unpack with
  | .notANumber => .nan
  | .infinity sign => .infinite (sign == .negative)
  | .zero sign => .finite (sign == .negative) 0 0
  | .finite sign mantissa exponent _ => .finite (sign == .negative) mantissa exponent

namespace Decimal

/-- The number of decimal digits of `n`. -/
def digitCount (n : Nat) : Nat := (Nat.toDigits 10 n).length

/-- The least `k` with `num / den < 10 ^ k`, for a positive quotient. -/
def magnitude (num den : Nat) : Int :=
  if den ≤ num then digitCount (num / den) else 1 - (digitCount ((den - 1) / num) : Int)

/-- Removes up to `limit` zeros at the end of the digits. -/
def stripZeros : Nat → Decimal → Decimal
  | 0, d => d
  | limit + 1, d =>
      if d.digits % 10 = 0 ∧ d.digits ≠ 0 then stripZeros limit ⟨d.digits / 10, d.exponent + 1⟩
      else d

/-- The nearer to `num / den * 10 ^ (- exponent)` of the two whole numbers beside it, as far as they
read back to `x`. -/
def neighbour? (tie : Tie) (x : Float) (num den : Nat) (exponent : Int) : Option Decimal :=
  let scaledNum := num * Nat.pow 10 (-exponent).toNat
  let scaledDen := den * Nat.pow 10 exponent.toNat
  let low := scaledNum / scaledDen
  let below : Decimal := ⟨low, exponent⟩
  let above : Decimal := ⟨low + 1, exponent⟩
  match below.toFloat == x, above.toFloat == x with
  | false, false => none
  | true, false => some below
  | false, true => some above
  | true, true =>
      match compare (2 * (scaledNum % scaledDen)) scaledDen, tie with
      | .lt, _ => some below
      | .gt, _ => some above
      | .eq, .upward => some above
      | .eq, .toEven => some (if low % 2 = 0 then below else above)

/-- The decimal with the fewest digits that reads back to `mantissa * 2 ^ exponent`, without zeros
at the end. The exact value stands in should seventeen digits not be enough. -/
def ofFinite (tie : Tie) (mantissa : Nat) (exponent : Int) : Decimal :=
  if mantissa = 0 then ⟨0, 0⟩
  else
    let num := mantissa * Nat.pow 2 exponent.toNat
    let den := Nat.pow 2 (-exponent).toNat
    let exact : Decimal :=
      ⟨num * Nat.pow 5 (-exponent).toNat, if exponent < 0 then exponent else 0⟩
    let x := exact.toFloat
    let top := magnitude num den
    let found := (List.range 17).findSome? fun n => neighbour? tie x num den (top - (n + 1 : Nat))
    match found with
    | some d => stripZeros 17 d
    | none => exact

end Decimal

end Rulebook
