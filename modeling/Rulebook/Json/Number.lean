import Rulebook.Json
import Rulebook.Decimal.Layout

/-!
# Numbers in JSON

`Json.scanNumber?` reads a number literal. Whole numbers that fit a 64-bit word stay whole. Any
other literal is scaled: its leading digits, as many as fit an unsigned word, are taken as a double
and multiplied or divided by a power of ten, so the last bit can differ from that of the nearest
double. `Json.realText` writes a double with its fewest digits.
-/

set_option autoImplicit false

namespace Rulebook

namespace Json

open Text Decimal

/-- The largest unsigned 64-bit word. -/
def maxWord : Nat := Nat.pow 2 64 - 1

/-- Appends digits to a significand while it fits a word. Gives the significand, the number of
digits taken and the number left over. -/
def takeDigits (significand taken : Nat) : List Char → Nat × Nat × Nat
  | [] => (significand, taken, 0)
  | d :: digits =>
      let longer := 10 * significand + (d.toNat - '0'.toNat)
      if longer ≤ maxWord then takeDigits longer (taken + 1) digits
      else (significand, taken, (d :: digits).length)

/-- The power of ten as a double. -/
def tenTo (n : Nat) : Float := Float.ofScientific 1 false n

/-- A double scaled by a power of ten, in steps of at most `10 ^ 308`; nothing if it is too large.
Three steps down bring any word to zero. -/
def scaled? : Nat → Float → Int → Option Float
  | 0, _, _ => some 0.0
  | steps + 1, x, exponent =>
      if exponent.natAbs ≤ 308 then
        if 0 ≤ exponent then
          let y := x * tenTo exponent.natAbs
          if y.isInf then none else some y
        else some (x / tenTo exponent.natAbs)
      else if x == 0.0 then some x
      else if 0 ≤ exponent then none
      else scaled? steps (x / tenTo 308) (exponent + 308)

/-- The double that stands for a literal with the digits and the exponent given. -/
def literalReal (minus : Bool) (whole fraction : List Char) (exponent : Int) : Json :=
  let (leading, _, dropped) := takeDigits 0 0 whole
  let (significand, places, _) := takeDigits leading 0 fraction
  match scaled? 4 (Float.ofNat significand) (exponent + dropped - places) with
  | some x => .real (if minus then -x else x)
  | none => .unreadable

/-- The value of a literal without fraction and exponent. Minus zero is a double. -/
def literalWhole (minus : Bool) (whole : List Char) : Json :=
  let n := digitsValue whole
  if !minus && n ≤ maxWord then .integer n
  else if minus && 0 < n && n ≤ Nat.pow 2 63 then .integer (-n)
  else literalReal minus whole [] 0

/-- The digits of a whole part: a zero, or digits that do not begin with one. -/
def scanWhole? : List Char → Option (List Char × List Char)
  | '0' :: text => some (['0'], text)
  | text =>
      let (digits, rest) := spanDigits text
      if digits = [] then none else some (digits, rest)

/-- A point with at least one digit behind it. -/
def scanPlaces (text : List Char) : List Char × List Char :=
  match text with
  | '.' :: behind =>
      let (digits, rest) := spanDigits behind
      if digits = [] then ([], text) else (digits, rest)
  | _ => ([], text)

/-- The number literal at the front of a text. -/
def scanNumber? (text : List Char) : Option (Json × List Char) :=
  let (minus, unsigned) := match text with
    | '-' :: rest => (true, rest)
    | rest => (false, rest)
  match scanWhole? unsigned with
  | none => none
  | some (whole, afterWhole) =>
      let (fraction, afterFraction) := scanPlaces afterWhole
      let (exponent, rest) := scanExponent afterFraction
      if rest.length = afterWhole.length then some (literalWhole minus whole, rest)
      else some (literalReal minus whole fraction exponent, rest)

/-- The place of the first digit at which positional text ends: below `10 ^ 16` and from `10 ^ -5`
on a double is written positionally. -/
def isPositional (leading : Int) : Bool := -5 ≤ leading && leading < 16

/-- Text with an exponent: a point behind the first digit if more follow, and a signed exponent. -/
def scientific (digits : List Char) (leading : Int) : List Char :=
  let mantissa := match digits with
    | d :: e :: more => d :: '.' :: e :: more
    | few => few
  mantissa ++ 'e' :: (if leading < 0 then '-' else '+') :: Nat.toDigits 10 leading.natAbs

/-- The text of a decimal: a whole number keeps one zero behind the point. Of two equally near
decimals the one with the even last digit is written. -/
def decimalText (d : Decimal) : List Char :=
  let digits := d.digitChars
  let leading := d.exponent + digits.length - 1
  if isPositional leading then
    if 0 ≤ d.exponent then d.plain ++ ['.', '0'] else d.plain
  else scientific digits leading

/-- The text of a double. What is no finite number is written as null. -/
def realText (x : Float) : List Char :=
  match Binary.ofFloat x with
  | .finite negative mantissa exponent =>
      signText negative ++ decimalText (Decimal.ofFinite .toEven mantissa exponent)
  | _ => ['n', 'u', 'l', 'l']

end Json

end Rulebook
