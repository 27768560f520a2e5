import Rulebook.Decimal

/-!
# Texts that are numbers

The functions here read a text that is a number and nothing else: whole numbers with and without a
sign, those that fit a word of 64 bits, and decimals with a point or an exponent.
-/

set_option autoImplicit false

namespace Rulebook

namespace Decimal

open Text

/-- Digits, at least one, as a count. -/
def count? (digits : List Char) : Option Nat :=
  if digits ≠ [] ∧ digits.all isAsciiDigit then some (digitsValue digits) else none

/-- Digits that may have a plus in front, as a count. -/
def unsigned? : List Char → Option Nat
  | '+' :: text => count? text
  | text => count? text

/-- Digits that may have a sign, as a whole number. -/
def signed? (text : List Char) : Option Int :=
  let (minus, digits) := scanSign text
  (count? digits).map fun n => if minus then -(n : Int) else n

/-- A count that fits an unsigned 64-bit word. -/
def unsignedWord? (text : List Char) : Option Nat := do
  let n ← unsigned? text
  if n < Nat.pow 2 64 then some n else none

/-- A whole number that fits a signed 64-bit word. -/
def signedWord? (text : List Char) : Option Int := do
  let n ← signed? text
  if -(Nat.pow 2 63) ≤ n ∧ n < Nat.pow 2 63 then some n else none

/-- An unsigned number: a word for what is not finite, or decimal digits with point and exponent. -/
def magnitude? (text : List Char) : Option Float :=
  let word := String.ofList (text.map foldAscii)
  if word = "inf" ∨ word = "infinity" then some (1.0 / 0.0)
  else if word = "nan" then some (0.0 / 0.0)
  else
    match scan? text with
    | some (d, []) => some d.toFloat
    | _ => none

/-- A number that may have a sign. -/
def real? (text : List Char) : Option Float :=
  let (minus, unsigned) := scanSign text
  (magnitude? unsigned).map fun x => if minus then -x else x

end Decimal

end Rulebook
