import Rulebook.Decimal.Literal
import Rulebook.Setting
import Rulebook.Text.Alphabetic
import Rulebook.Text.Word

/-!
# Names and numbers in object notation

A number is a whole number in one of four bases, or has a point or an exponent, or a name. Behind it
its type may stand: the word that it has to fit, or the size of floating-point number that it is
rounded to. Underscores between digits mean nothing. A whole number that fits no word of 64 bits
counts as one with an exponent.
-/

set_option autoImplicit false

namespace Rulebook

namespace Ron

open Text

/-! ## Names -/

/-- A character that a name may begin with. -/
def isNameStart (c : Char) : Bool := isAlphabetic c || c = '_'

/-- A character of a name behind the first one. -/
def isNamePart (c : Char) : Bool := isAlphanumeric c || c = '_'

/-- How texts begin that are raw or made of bytes. -/
def textOpenings : List String := ["b\"", "b'", "br#", "br\"", "r\"", "r#\"", "r##"]

/-- The name here, and the rest. The letters in front of the quotes of a text are none. -/
def scanName? (text : List Char) : Option (String × List Char) :=
  let opens := fun (opening : String) => (dropLiteral? opening.toList text).isSome
  match text with
  | [] => none
  | c :: _ =>
      if isNameStart c && !textOpenings.any opens then
        some (String.ofList (text.takeWhile isNamePart), text.dropWhile isNamePart)
      else none

/-! ## Whole numbers -/

/-- A character of a whole number in any base. -/
def isDigitPart (c : Char) : Bool := (hexValue? c).isSome || c = '_'

/-- The base of a number, and its digits. -/
def splitBase : List Char → Nat × List Char
  | '0' :: 'b' :: digits => (2, digits)
  | '0' :: 'o' :: digits => (8, digits)
  | '0' :: 'x' :: digits => (16, digits)
  | digits => (10, digits)

/-- The whole number here without its sign, and the rest. -/
def scanSize? (text : List Char) : Option (Nat × List Char) := do
  let (base, digits) := splitBase text
  let number := digits.takeWhile isDigitPart
  let values ← (number.filter (· ≠ '_')).mapM hexValue?
  if number = [] || number.head? = some '_' || values.any (base ≤ ·) then none
  else some (values.foldl (fun n v => base * n + v) 0, digits.dropWhile isDigitPart)

/-- The least and the greatest number of a type. -/
def wordRange? (type : String) : Option (Int × Int) :=
  match type with
  | "i8" => some (-(Nat.pow 2 7), Nat.pow 2 7 - 1)
  | "i16" => some (-(Nat.pow 2 15), Nat.pow 2 15 - 1)
  | "i32" => some (-(Nat.pow 2 31), Nat.pow 2 31 - 1)
  | "i64" => some (-(Nat.pow 2 63), Nat.pow 2 63 - 1)
  | "u8" => some (0, Nat.pow 2 8 - 1)
  | "u16" => some (0, Nat.pow 2 16 - 1)
  | "u32" => some (0, Nat.pow 2 32 - 1)
  | "u64" => some (0, Nat.pow 2 64 - 1)
  | _ => none

/-- The range of the type here, and the rest. Where there is none, the range of all words. -/
def takeRange (text : List Char) : (Int × Int) × List Char :=
  let found := do
    let (type, rest) ← scanName? text
    return (← wordRange? type, rest)
  found.getD ((-(Nat.pow 2 63), Nat.pow 2 64 - 1), text)

/-- The whole number here, and the rest. -/
def scanWhole? (text : List Char) : Option (Setting × List Char) := do
  let (minus, unsigned) := Decimal.scanSign text
  let (size, behind) ← scanSize? unsigned
  let ((least, greatest), rest) := takeRange behind
  let n : Int := if minus then -(size : Int) else size
  if least ≤ n ∧ n ≤ greatest then some (.whole n, rest) else none

/-! ## Numbers with a point or an exponent -/

/-- A character of a number with a point or an exponent. -/
def isRealPart (c : Char) : Bool :=
  isAsciiDigit c || ['e', 'E', '.', '+', '-', '_'].contains c

/-- Whether no underscore stands where it must not: at the front, or right behind a point. -/
def underscoresFit (allowed : Bool) : List Char → Bool
  | [] => true
  | '_' :: text => allowed && underscoresFit allowed text
  | '.' :: text => underscoresFit false text
  | c :: text => underscoresFit (allowed || (c ≠ '+' && c ≠ '-')) text

/-- A number rounded to the type here, and the rest. -/
def takeRounding (x : Float) (text : List Char) : Float × List Char :=
  match scanName? text with
  | some ("f32", rest) => (x.toFloat32.toFloat, rest)
  | some ("f64", rest) => (x, rest)
  | _ => (x, text)

/-- The numbers with names, which may have a type behind them. -/
def named? (name : String) : Option Float :=
  if ["inf", "inff32", "inff64"].contains name then some (1.0 / 0.0)
  else if ["NaN", "NaNf32", "NaNf64"].contains name then some (0.0 / 0.0)
  else none

/-- The number with a name here, and the rest. -/
def scanNamed? (text : List Char) : Option (Setting × List Char) := do
  let (minus, unsigned) := Decimal.scanSign text
  let (name, rest) ← scanName? unsigned
  let x ← named? name
  return (.real (if minus then -x else x), rest)

/-- The number with a point or an exponent here, and the rest. -/
def scanReal? (text : List Char) : Option (Setting × List Char) := do
  let number := text.takeWhile isRealPart
  let x ← Decimal.real? (number.filter (· ≠ '_'))
  let (x, rest) := takeRounding x (text.dropWhile isRealPart)
  if underscoresFit false number then some (.real x, rest) else none

/-- Whether the number here has a point, or an exponent with a sign. -/
def isReal (text : List Char) : Bool :=
  let (_, unsigned) := Decimal.scanSign text
  (unsigned.takeWhile isDigitPart).length < (unsigned.takeWhile isRealPart).length

/-- The number here, and the rest. -/
def scanNumber? (text : List Char) : Option (Setting × List Char) :=
  let real := (scanNamed? text).or (scanReal? text)
  if isReal text then real else (scanWhole? text).or real

end Ron

end Rulebook
