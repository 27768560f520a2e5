/-!
# Words and digits

A word character is an ASCII letter, digit or underscore. `dropPhrase?` removes a given word from
the front of a text without regard to ASCII case; `startsWord` says that a text begins with a word
character.

`numeral` writes a count in decimal digits, `numerals` a list of counts between brackets.
`hexValue?` is the value of a hexadecimal digit; `codedChar?` is the character whose code is written
in hexadecimal digits.
-/

set_option autoImplicit false

namespace Rulebook.Text

/-! ## Words -/

/-- A decimal digit `0` to `9`. -/
def isAsciiDigit (c : Char) : Bool := '0' ≤ c && c ≤ '9'

/-- An ASCII letter, digit or underscore. -/
def isWordChar (c : Char) : Bool :=
  ('a' ≤ c && c ≤ 'z') || ('A' ≤ c && c ≤ 'Z') || isAsciiDigit c || c = '_'

/-- A character of a plain name: an ASCII letter, digit, underscore or minus sign. -/
def isNameChar (c : Char) : Bool := isWordChar c || c = '-'

/-- An ASCII letter in lower case, any other character as it is. -/
def foldAscii (c : Char) : Char :=
  if 'A' ≤ c ∧ c ≤ 'Z' then Char.ofNat (c.toNat + 32) else c

/-- The rest of a text that begins with the literal given. -/
def dropLiteral? : List Char → List Char → Option (List Char)
  | [], text => some text
  | _ :: _, [] => none
  | l :: literal, c :: text => if l = c then dropLiteral? literal text else none

/-- The rest of a text that begins with the word given, in any case of its ASCII letters. -/
def dropPhrase? : List Char → List Char → Option (List Char)
  | [], text => some text
  | _ :: _, [] => none
  | w :: word, c :: text => if foldAscii w = foldAscii c then dropPhrase? word text else none

/-- Whether the text begins with a word character. -/
def startsWord : List Char → Bool
  | [] => false
  | c :: _ => isWordChar c

/-! ## Digits -/

/-- A count in decimal digits. -/
def numeral (n : Nat) : String := String.ofList (Nat.toDigits 10 n)

/-- Counts between brackets. -/
def numerals (ns : List Nat) : String := "[" ++ ", ".intercalate (ns.map numeral) ++ "]"

/-- The value of a hexadecimal digit in either case. -/
def hexValue? (c : Char) : Option Nat :=
  if '0' ≤ c ∧ c ≤ '9' then some (c.toNat - 48)
  else if 'a' ≤ c ∧ c ≤ 'f' then some (c.toNat - 87)
  else if 'A' ≤ c ∧ c ≤ 'F' then some (c.toNat - 55)
  else none

/-- The character of a code; surrogates and numbers beyond the last code have none. -/
def charOfCode? (n : Nat) : Option Char :=
  if n < 0xD800 ∨ (0xE000 ≤ n ∧ n < 0x110000) then some (Char.ofNat n) else none

/-- The character whose code is written in hexadecimal digits. -/
def codedChar? (digits : List Char) : Option Char := do
  let values ← digits.mapM hexValue?
  charOfCode? (values.foldl (fun n v => 16 * n + v) 0)

end Rulebook.Text
