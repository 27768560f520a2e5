import Rulebook.Decimal.Literal
import Rulebook.Json.Quoted
import Rulebook.Setting
import Rulebook.Text.Alphabetic
import Rulebook.Text.Blank

/-!
# Relaxed JSON in settings files

JSON5 is JSON with comments, names without quotes, texts between single quotes, commas at the end of
a collection, and numbers with a plus sign, in hexadecimal digits, without digits on one side of the
point, or without end. `Json5.read?` takes the table that a text stands for.
-/

set_option autoImplicit false

namespace Rulebook

namespace Json5

open Text
open Json (Piece joinPieces?)

/-! ## Blanks and comments -/

/-- The end of a line. -/
def isLineEnd (c : Char) : Bool := c = '\n' || c = '\r' || c = '\u2028' || c = '\u2029'

/-- A character between values that means nothing. -/
def isGap (c : Char) : Bool := (isBlank c && c ≠ '\u0085') || c = '\uFEFF'

/-- What means nothing at a place: blanks, the rest of a line, or all up to the end of a comment. -/
inductive Filler where
  | blank
  | line
  | comment

/-- The text without blanks and comments in front. A comment that is not closed is none. -/
def skip? : Filler → List Char → Option (List Char)
  | .blank, '/' :: '/' :: text => skip? .line text
  | .blank, '/' :: '*' :: text => skip? .comment text
  | .blank, c :: text => if isGap c then skip? .blank text else some (c :: text)
  | .line, c :: text => if isLineEnd c then skip? .blank text else skip? .line text
  | .comment, '*' :: '/' :: text => skip? .blank text
  | .comment, _ :: text => skip? .comment text
  | .comment, [] => none
  | _, [] => some []

/-! ## Texts and names -/

/-- The character that a letter behind a backslash stands for. -/
def escaped? (letter : Char) : Option Char :=
  match letter with
  | 'b' => some '\x08'
  | 'f' => some '\x0c'
  | 'n' => some '\n'
  | 'r' => some '\r'
  | 't' => some '\t'
  | 'v' => some '\x0b'
  | '0' => some '\x00'
  | c => if isAsciiDigit c || c = 'x' || c = 'u' then none else some c

/-- Puts a piece in front of those that were read. -/
def withPiece (p : Piece) (found : List Piece × List Char) : List Piece × List Char :=
  (p :: found.1, found.2)

/-- The pieces of a text up to its closing quote, and the rest. The end of a line has to be escaped
and counts as nothing. -/
def scanPieces? (quote : Char) : List Char → Option (List Piece × List Char)
  | [] => none
  | '\\' :: 'u' :: a :: b :: c :: d :: text => do
      let n ← Json.unit? a b c d
      (scanPieces? quote text).map (withPiece (.unit n))
  | '\\' :: 'x' :: a :: b :: text => do
      let x ← codedChar? [a, b]
      (scanPieces? quote text).map (withPiece (.char x))
  | '\\' :: '\r' :: '\n' :: text => scanPieces? quote text
  | '\\' :: letter :: text =>
      if isLineEnd letter then scanPieces? quote text
      else do
        let x ← escaped? letter
        (scanPieces? quote text).map (withPiece (.char x))
  | c :: text =>
      if c = quote then some ([], text)
      else if c = '\\' ∨ isLineEnd c then none
      else (scanPieces? quote text).map (withPiece (.char c))

/-- A character that a name without quotes may begin with. -/
def isNameStart (c : Char) : Bool := isAlphabetic c || c = '$' || c = '_'

/-- A character of a name without quotes behind the first one. -/
def isNamePart (c : Char) : Bool :=
  isNameStart c || isAlphanumeric c || c = '\u200C' || c = '\u200D'

/-- The pieces of a name without quotes, and the rest. -/
def scanNamePieces? (isPart : Char → Bool) : List Char → Option (List Piece × List Char)
  | [] => some ([], [])
  | '\\' :: 'u' :: a :: b :: c :: d :: text => do
      let n ← Json.unit? a b c d
      (scanNamePieces? isNamePart text).map (withPiece (.unit n))
  | c :: text =>
      if isPart c then (scanNamePieces? isNamePart text).map (withPiece (.char c))
      else some ([], c :: text)

/-- The text of pieces, and the rest. -/
def joined? (found : List Piece × List Char) : Option (String × List Char) :=
  (joinPieces? found.1).map fun s => (String.ofList s, found.2)

/-- The quoted text here, and the rest. -/
def scanText? : List Char → Option (String × List Char)
  | '"' :: text => (scanPieces? '"' text).bind joined?
  | '\'' :: text => (scanPieces? '\'' text).bind joined?
  | _ => none

/-- The name here, with or without quotes, and the rest. -/
def scanName? (text : List Char) : Option (String × List Char) :=
  (scanText? text).or do
    let (pieces, rest) ← scanNamePieces? isNameStart text
    if pieces = [] then none else joined? (pieces, rest)

/-! ## Numbers -/

/-- The sign here, and the rest. -/
def spanSign : List Char → List Char × List Char
  | '+' :: text => (['+'], text)
  | '-' :: text => (['-'], text)
  | text => ([], text)

/-- The digits here, and the rest. -/
def spanDigits (text : List Char) : List Char × List Char :=
  (text.takeWhile isAsciiDigit, text.dropWhile isAsciiDigit)

/-- The exponent here, and the rest. Without digits there is none. -/
def spanExponent : List Char → List Char × List Char
  | [] => ([], [])
  | e :: text =>
      let (sign, behind) := spanSign text
      let (digits, rest) := spanDigits behind
      if (e = 'e' ∨ e = 'E') ∧ digits ≠ [] then (e :: sign ++ digits, rest) else ([], e :: text)

/-- The digits in front of a point, and the rest. A zero stands by itself. -/
def spanWhole : List Char → List Char × List Char
  | '0' :: rest => (['0'], rest)
  | text => spanDigits text

/-- The decimal number here without its sign, and the rest. -/
def scanDecimal? (text : List Char) : Option (List Char × List Char) :=
  let (whole, behind) := spanWhole text
  match behind with
  | '.' :: more =>
      let (places, tail) := spanDigits more
      let (exponent, rest) := spanExponent tail
      if whole = [] ∧ places = [] then none
      else some (whole ++ '.' :: places ++ exponent, rest)
  | _ =>
      let (exponent, rest) := spanExponent behind
      if whole = [] then none else some (whole ++ exponent, rest)

/-- The hexadecimal number here, and the rest. -/
def scanHex? : List Char → Option (List Char × List Char)
  | '0' :: x :: text =>
      let isDigit := fun c => (hexValue? c).isSome
      let digits := text.takeWhile isDigit
      if (x = 'x' ∨ x = 'X') ∧ digits ≠ [] then
        some ('0' :: x :: digits, text.dropWhile isDigit)
      else none
  | _ => none

/-- A given word here, and the rest. -/
def scanWord? (word : String) (text : List Char) : Option (List Char × List Char) :=
  (dropLiteral? word.toList text).map fun rest => (word.toList, rest)

/-- The number here as it is written, and the rest. -/
def scanNumber? (text : List Char) : Option (List Char × List Char) := do
  let (sign, unsigned) := spanSign text
  let (number, rest) ←
    ((scanHex? unsigned).or (scanDecimal? unsigned)).or
      ((scanWord? "Infinity" unsigned).or (scanWord? "NaN" unsigned))
  return (sign ++ number, rest)

/-- The value of a hexadecimal number that fits an unsigned 32-bit word. -/
def hexNumber? (digits : List Char) : Option Setting := do
  let values ← digits.mapM hexValue?
  let n : Nat := values.foldl (fun n v => 16 * n + v) 0
  if n < Nat.pow 2 32 then some (.whole n) else none

/-- The number with a point or an exponent that a text is, unless it is too large. -/
def realNumber? (text : List Char) : Option Setting := do
  let x ← Decimal.real? text
  if x.isInf then none else some (.real x)

/-- The number that a text is. A hexadecimal number has no sign, and neither a plus sign nor
anything but a minus sign stands in front of what is not finite. A whole number fits a signed 64-bit
word. -/
def number? (text : List Char) : Option Setting :=
  match text with
  | ['I', 'n', 'f', 'i', 'n', 'i', 't', 'y'] => some (.real (1.0 / 0.0))
  | ['-', 'I', 'n', 'f', 'i', 'n', 'i', 't', 'y'] => some (.real (-1.0 / 0.0))
  | ['N', 'a', 'N'] | ['-', 'N', 'a', 'N'] => some (.real (0.0 / 0.0))
  | '0' :: 'x' :: digits | '0' :: 'X' :: digits => hexNumber? digits
  | _ =>
      if text.any (fun c => c = '.' || c = 'e' || c = 'E') then realNumber? text
      else (Decimal.signedWord? text).map .whole

/-! ## Values -/

/-- The words that are values. -/
def scanConstant? (text : List Char) : Option (Setting × List Char) :=
  match dropLiteral? "null".toList text with
  | some rest => some (.nil, rest)
  | none =>
      match dropLiteral? "true".toList text with
      | some rest => some (.flag true, rest)
      | none => (dropLiteral? "false".toList text).map fun rest => (.flag false, rest)

/-- The single value here, and the rest. -/
def scanSingle? (text : List Char) : Option (Setting × List Char) :=
  (scanConstant? text).or <| ((scanText? text).map fun found => (.text found.1, found.2)).or do
    let (number, rest) ← scanNumber? text
    return (← number? number, rest)

mutual

/-- The value here, and the rest. -/
def scanValue? : Nat → List Char → Option (Setting × List Char)
  | 0, _ => none
  | fuel + 1, text =>
      match text with
      | '[' :: inner => do
          match ← skip? .blank inner with
          | ']' :: rest => some (.list [], rest)
          | items => do
              let (items, rest) ← scanItems? fuel items
              return (.list items, rest)
      | '\x7b' :: inner => do
          match ← skip? .blank inner with
          | '\x7d' :: rest => some (.table [], rest)
          | members => do
              let (entries, rest) ← scanMembers? fuel [] members
              return (.table entries, rest)
      | _ => scanSingle? text

/-- One or more items up to the closing bracket, and the rest. -/
def scanItems? : Nat → List Char → Option (List Setting × List Char)
  | 0, _ => none
  | fuel + 1, text => do
      let (item, behind) ← scanValue? fuel text
      match ← skip? .blank behind with
      | ']' :: rest => some ([item], rest)
      | ',' :: more => do
          match ← skip? .blank more with
          | ']' :: rest => some ([item], rest)
          | more => do
              let (items, rest) ← scanItems? fuel more
              return (item :: items, rest)
      | _ => none

/-- One or more members up to the closing brace behind the entries there are, and the rest. Of two
with the same name the later one counts. -/
def scanMembers? :
    Nat → List (String × Setting) → List Char → Option (List (String × Setting) × List Char)
  | 0, _, _ => none
  | fuel + 1, entries, text => do
      let (name, afterName) ← scanName? text
      match ← skip? .blank afterName with
      | ':' :: afterColon => do
          let (value, behind) ← scanValue? fuel (← skip? .blank afterColon)
          let entries := Setting.put name value entries
          match ← skip? .blank behind with
          | '\x7d' :: rest => some (entries, rest)
          | ',' :: more => do
              match ← skip? .blank more with
              | '\x7d' :: rest => some (entries, rest)
              | more => scanMembers? fuel entries more
          | _ => none
      | _ => none

end

/-- The table that the text of a settings file stands for. -/
def read? (s : String) : Option Setting := do
  let text ← skip? .blank s.toList
  match ← scanValue? (2 * text.length + 1) text with
  | (.table entries, rest) => if (← skip? .blank rest) = [] then some (.table entries) else none
  | _ => none

end Json5

end Rulebook
