import Rulebook.Json
import Rulebook.Text.Word

/-!
# Strings in JSON

`Json.quoted` writes a string, `Json.scanString?` reads one behind its opening quote. The reader
first takes the string apart into characters and 16-bit units written by number, then `joinPieces?`
puts the units together; units that form no character leave the string unreadable.
-/

set_option autoImplicit false

namespace Rulebook

namespace Json

open Text (hexValue?)

/-- A hexadecimal digit of a lower-case escape. -/
def hexDigit (n : Nat) : Char := if n < 10 then Char.ofNat (48 + n) else Char.ofNat (87 + n)

/-- One character of a written string: quotes, backslashes and controls are escaped. -/
def quotedChar (c : Char) : List Char :=
  match c with
  | '"' => ['\\', '"']
  | '\\' => ['\\', '\\']
  | '\x08' => ['\\', 'b']
  | '\x0c' => ['\\', 'f']
  | '\n' => ['\\', 'n']
  | '\r' => ['\\', 'r']
  | '\t' => ['\\', 't']
  | c =>
      if c.toNat < 0x20 then ['\\', 'u', '0', '0', hexDigit (c.toNat / 16), hexDigit (c.toNat % 16)]
      else [c]

/-- A string between its quotes. -/
def quoted (s : String) : List Char := '"' :: s.toList.flatMap quotedChar ++ ['"']

/-- What a string is made of when it is read. -/
inductive Piece where
  | char (c : Char)
  | unit (n : Nat)
deriving DecidableEq, Repr

/-- The unit written with four hexadecimal digits. -/
def unit? (a b c d : Char) : Option Nat := do
  let a ← hexValue? a
  let b ← hexValue? b
  let c ← hexValue? c
  let d ← hexValue? d
  return ((a * 16 + b) * 16 + c) * 16 + d

/-- The character that a letter behind a backslash stands for. -/
def escaped? : Char → Option Char
  | '"' => some '"'
  | '\\' => some '\\'
  | '/' => some '/'
  | 'b' => some '\x08'
  | 'f' => some '\x0c'
  | 'n' => some '\n'
  | 'r' => some '\r'
  | 't' => some '\t'
  | _ => none

/-- The pieces of a string up to its closing quote, and the rest. Controls must be escaped. -/
def scanPieces? : List Char → Option (List Piece × List Char)
  | [] => none
  | '"' :: rest => some ([], rest)
  | '\\' :: 'u' :: a :: b :: c :: d :: text => do
      let n ← unit? a b c d
      let (pieces, rest) ← scanPieces? text
      return (.unit n :: pieces, rest)
  | '\\' :: letter :: text => do
      let c ← escaped? letter
      let (pieces, rest) ← scanPieces? text
      return (.char c :: pieces, rest)
  | c :: text =>
      if c = '\\' ∨ c.toNat < 0x20 then none
      else do
        let (pieces, rest) ← scanPieces? text
        return (.char c :: pieces, rest)

/-- The first half of a surrogate pair. -/
def isHighHalf (n : Nat) : Bool := 0xD800 ≤ n && n < 0xDC00

/-- The second half of a surrogate pair. -/
def isLowHalf (n : Nat) : Bool := 0xDC00 ≤ n && n < 0xE000

/-- The character of a surrogate pair. -/
def pairChar (high low : Nat) : Char :=
  Char.ofNat (0x10000 + (high - 0xD800) * 0x400 + (low - 0xDC00))

/-- The text of the pieces, if every half of a surrogate pair stands with its other half. -/
def joinPieces? : List Piece → Option (List Char)
  | [] => some []
  | .char c :: pieces => (joinPieces? pieces).map (c :: ·)
  | .unit n :: pieces =>
      if isHighHalf n then
        match pieces with
        | .unit m :: more =>
            if isLowHalf m then (joinPieces? more).map (pairChar n m :: ·) else none
        | _ => none
      else if isLowHalf n then none
      else (joinPieces? pieces).map (Char.ofNat n :: ·)

/-- The string behind an opening quote, and what follows its closing quote. The string itself is
missing if its units form no text. -/
def scanString? (text : List Char) : Option (Option String × List Char) :=
  (scanPieces? text).map fun found => ((joinPieces? found.1).map String.ofList, found.2)

end Json

end Rulebook
