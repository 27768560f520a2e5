import Rulebook.Decimal.Shortest

/-!
# Numbers as text

`Decimal.plain` writes a decimal without an exponent. `plainNumber` is how a number appears in a
condition: its fewest digits, always positional, without a point if it is whole.
-/

set_option autoImplicit false

namespace Rulebook

namespace Decimal

/-- The digits of a decimal. -/
def digitChars (d : Decimal) : List Char := Nat.toDigits 10 d.digits

/-- Positional text: zeros behind the digits, or a point within or before them. -/
def plain (d : Decimal) : List Char :=
  let digits := d.digitChars
  if 0 ≤ d.exponent then digits ++ List.replicate d.exponent.toNat '0'
  else
    let places := (-d.exponent).toNat
    if places < digits.length then
      digits.take (digits.length - places) ++ '.' :: digits.drop (digits.length - places)
    else '0' :: '.' :: List.replicate (places - digits.length) '0' ++ digits

end Decimal

/-- A minus sign where one is due. -/
def signText (negative : Bool) : List Char := if negative then ['-'] else []

/-- A whole number. -/
def plainWhole (n : Int) : List Char := signText (n < 0) ++ Nat.toDigits 10 n.natAbs

/-- A number with its fewest digits, never with an exponent. Of two equally near decimals the
greater is shown. -/
def plainNumber (x : Float) : List Char :=
  match Binary.ofFloat x with
  | .nan => ['N', 'a', 'N']
  | .infinite negative => signText negative ++ ['i', 'n', 'f']
  | .finite negative mantissa exponent =>
      signText negative ++ (Decimal.ofFinite .upward mantissa exponent).plain

end Rulebook
