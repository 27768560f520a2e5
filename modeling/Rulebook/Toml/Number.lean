import Rulebook.Decimal
import Rulebook.Setting
import Rulebook.Text.Word

/-!
# Numbers in settings files

A number is a whole number, or has a point or an exponent. Digits may be grouped by single
underscores. A whole number in decimal digits has no zero in front; every whole number fits a signed
64-bit word, and every other one a double, unless it is infinite by name.
-/

set_option autoImplicit false

namespace Rulebook

namespace Toml

open Text Decimal

/-- Digits without the underscores between them. An underscore needs a digit on both sides. -/
def groupedDigits? (isDigit : Char → Bool) : List Char → Option (List Char)
  | [] => none
  | [c] => if isDigit c then some [c] else none
  | c :: '_' :: rest =>
      if isDigit c then (groupedDigits? isDigit rest).map (c :: ·) else none
  | c :: rest => if isDigit c then (groupedDigits? isDigit rest).map (c :: ·) else none

/-- The sign in front of a number, a minus as `true`. -/
def splitSign : List Char → Bool × List Char
  | '-' :: text => (true, text)
  | '+' :: text => (false, text)
  | text => (false, text)

/-- A whole number that fits a signed 64-bit word. -/
def word? (n : Int) : Option Setting :=
  if -(Nat.pow 2 63) ≤ n ∧ n < Nat.pow 2 63 then some (.whole n) else none

/-- The decimal digits of a whole part: a single zero, or digits that do not begin with one. -/
def wholeDigits? (text : List Char) : Option (List Char) := do
  match ← groupedDigits? isAsciiDigit text with
  | '0' :: _ :: _ => none
  | digits => some digits

/-- The value of a digit in bases up to sixteen. -/
def digitValue (c : Char) : Nat := (hexValue? c).getD 16

/-- A whole number in another base. -/
def inBase? (base : Nat) (text : List Char) : Option Setting := do
  let digits ← groupedDigits? (fun c => digitValue c < base) text
  word? (digits.foldl (fun n c => base * n + digitValue c) 0)

/-- A whole number. -/
def whole? (text : List Char) : Option Setting :=
  match text with
  | '0' :: 'x' :: digits => inBase? 16 digits
  | '0' :: 'o' :: digits => inBase? 8 digits
  | '0' :: 'b' :: digits => inBase? 2 digits
  | _ => do
      let (minus, unsigned) := splitSign text
      let digits ← wholeDigits? unsigned
      let n : Int := digitsValue digits
      word? (if minus then -n else n)

/-- The exponent behind its mark, zero if there is no mark. -/
def exponent? : List Char → Option Int
  | [] => some 0
  | _ :: text => do
      let (minus, unsigned) := splitSign text
      let digits ← groupedDigits? isAsciiDigit unsigned
      let n : Int := digitsValue digits
      return if minus then -n else n

/-- The digits behind a point, none if there is no point. -/
def places? : List Char → Option (List Char)
  | [] => some []
  | _ :: text => groupedDigits? isAsciiDigit text

/-- The mark of an exponent. -/
def isExponentMark (c : Char) : Bool := c = 'e' || c = 'E'

/-- An unsigned number in digits, with a point or an exponent. -/
def finite? (text : List Char) : Option Float := do
  let mantissa := text.takeWhile (fun c => !isExponentMark c)
  let whole ← wholeDigits? (mantissa.takeWhile (· ≠ '.'))
  let places ← places? (mantissa.dropWhile (· ≠ '.'))
  let exponent ← exponent? (text.dropWhile (fun c => !isExponentMark c))
  let x := (Decimal.mk (digitsValue (whole ++ places)) (exponent - places.length)).toFloat
  if (mantissa = text ∧ ¬ text.contains '.') ∨ x.isInf then none else some x

/-- An unsigned number with a point or an exponent, or one that is not finite. -/
def magnitude? (text : List Char) : Option Float :=
  match text with
  | ['i', 'n', 'f'] => some (1.0 / 0.0)
  | ['n', 'a', 'n'] => some (0.0 / 0.0)
  | _ => finite? text

/-- A number with a point or an exponent. -/
def real? (text : List Char) : Option Setting :=
  let (minus, unsigned) := splitSign text
  (magnitude? unsigned).map fun x => .real (if minus then -x else x)

end Toml

end Rulebook
