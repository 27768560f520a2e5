import Rulebook.Text.Word

/-!
# Decimals

A `Decimal` is a natural number scaled by a power of ten. `Decimal.scan?` reads the longest decimal
literal at the front of a text and returns what it leaves; `Decimal.toFloat` is the nearest double,
ties going to the even neighbour.
-/

set_option autoImplicit false

namespace Rulebook

/-- The number `digits * 10 ^ exponent`. -/
structure Decimal where
  digits : Nat
  exponent : Int
deriving DecidableEq, Repr

namespace Decimal

open Text

/-- The double nearest to a decimal. -/
def toFloat (d : Decimal) : Float :=
  Float.ofScientific d.digits (d.exponent < 0) d.exponent.natAbs

/-- The value of a row of digits. -/
def digitsValue (digits : List Char) : Nat :=
  digits.foldl (fun value c => 10 * value + (c.toNat - '0'.toNat)) 0

/-- The digits at the front of a text, and the rest. -/
def spanDigits (text : List Char) : List Char × List Char :=
  (text.takeWhile isAsciiDigit, text.dropWhile isAsciiDigit)

/-- The digits behind a point, and the rest. A point without digits is passed over too. -/
def scanFraction : List Char → List Char × List Char
  | '.' :: text => spanDigits text
  | text => ([], text)

/-- A sign of an exponent: whether it is a minus, and the rest. -/
def scanSign : List Char → Bool × List Char
  | '-' :: text => (true, text)
  | '+' :: text => (false, text)
  | text => (false, text)

/-- The exponent at the front of a text: `e` in either case, an optional sign and at least one
digit. Anything else is an exponent of zero that takes nothing. -/
def scanExponent (text : List Char) : Int × List Char :=
  match text with
  | [] => (0, [])
  | mark :: signed =>
      let (minus, unsigned) := scanSign signed
      let (digits, rest) := spanDigits unsigned
      if (mark = 'e' ∨ mark = 'E') ∧ digits ≠ [] then
        (if minus then -(digitsValue digits : Int) else digitsValue digits, rest)
      else (0, text)

/-- The longest unsigned decimal literal at the front of a text: digits with an optional point and
digits behind it, or a point and digits, and an optional exponent. -/
def scan? (text : List Char) : Option (Decimal × List Char) :=
  let (whole, afterWhole) := spanDigits text
  let (fraction, afterFraction) := scanFraction afterWhole
  if whole = [] ∧ fraction = [] then none
  else
    let (exponent, rest) := scanExponent afterFraction
    some (⟨digitsValue (whole ++ fraction), exponent - fraction.length⟩, rest)

end Decimal

end Rulebook
