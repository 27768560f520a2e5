import Rulebook.Decimal
import Rulebook.Text.Blank

/-!
# Numbers in cells

A cell holds text; `parseNumber` reads the number it begins with, so `1500 USD` counts as 1500. A
text that begins with no number is not a number.
-/

set_option autoImplicit false

namespace Rulebook

open Text

/-- The double that is not a number. -/
def notANumber : Float := 0.0 / 0.0

/-- The infinity above all doubles. -/
def positiveInfinity : Float := 1.0 / 0.0

/-- The unsigned number at the front of a text: the word `Infinity` or a decimal literal. -/
def scanMagnitude? (text : List Char) : Option Float :=
  match dropLiteral? "Infinity".toList text with
  | some _ => some positiveInfinity
  | none => (Decimal.scan? text).map fun found => found.1.toFloat

/-- The number at the front of a text: white space is skipped, a sign is optional, and whatever
follows the longest number is ignored. -/
def parseNumber (text : List Char) : Float :=
  let (minus, unsigned) := Decimal.scanSign (trimStart text)
  match scanMagnitude? unsigned with
  | none => notANumber
  | some x => if minus then -x else x

end Rulebook
