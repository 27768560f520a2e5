import Rulebook.Toml
import Rulebook.Toml.Moment
import Rulebook.Toml.Number
import Rulebook.Text.Blank
import Rulebook.Text.Parts

/-!
# Reading settings files

`Toml.read?` takes a text apart into statements, one a line, and puts them together. Values are
quoted texts in four forms, bare words, lists and inline tables; lists and inline tables may run
over several lines. A bare word is yes or no, a number, or a date or time, which is taken as text.
-/

set_option autoImplicit false

namespace Rulebook

namespace Toml

open Text

/-! ## Blanks, lines and comments -/

/-- The text without spaces and tabs in front. -/
def skipSpaces (text : List Char) : List Char := text.dropWhile isSpace

/-- A character that may stand in a comment or between quotes: a tab or anything but controls. -/
def isPlain (c : Char) : Bool := c = '\t' || (0x20 ≤ c.toNat && c.toNat ≠ 0x7F)

/-- The rest behind the end of a line. -/
def dropNewline? : List Char → Option (List Char)
  | '\n' :: rest => some rest
  | '\r' :: '\n' :: rest => some rest
  | _ => none

/-- The text without a comment in front. -/
def skipComment : List Char → List Char
  | '#' :: text => text.dropWhile isPlain
  | text => text

/-- The rest behind a line that has only blanks and a comment left. -/
def endLine? (text : List Char) : Option (List Char) :=
  match skipComment (skipSpaces text) with
  | [] => some []
  | rest => dropNewline? rest

/-- The text without blanks, comments and ends of lines in front. -/
def skipFiller (comment : Bool) : List Char → List Char
  | [] => []
  | '\r' :: '\n' :: text => skipFiller false text
  | '\n' :: text => skipFiller false text
  | '#' :: text => skipFiller true text
  | c :: text =>
      if (comment && isPlain c) || isSpace c then skipFiller comment text else c :: text

/-! ## Quoted texts -/

/-- The character that a letter behind a backslash stands for. -/
def escaped? : Char → Option Char
  | 'b' => some '\x08'
  | 'e' => some '\x1b'
  | 't' => some '\t'
  | 'n' => some '\n'
  | 'f' => some '\x0c'
  | 'r' => some '\r'
  | '"' => some '"'
  | '\\' => some '\\'
  | _ => none

/-- A text up to its closing double quote, and the rest. -/
def scanQuoted? : List Char → Option (List Char × List Char)
  | [] => none
  | '"' :: rest => some ([], rest)
  | '\\' :: 'x' :: a :: b :: text => do
      let x ← codedChar? [a, b]
      (scanQuoted? text).map (prepend x)
  | '\\' :: 'u' :: a :: b :: c :: d :: text => do
      let x ← codedChar? [a, b, c, d]
      (scanQuoted? text).map (prepend x)
  | '\\' :: 'U' :: a :: b :: c :: d :: e :: f :: g :: h :: text => do
      let x ← codedChar? [a, b, c, d, e, f, g, h]
      (scanQuoted? text).map (prepend x)
  | '\\' :: letter :: text => do
      let x ← escaped? letter
      (scanQuoted? text).map (prepend x)
  | c :: text => if isPlain c ∧ c ≠ '\\' then (scanQuoted? text).map (prepend c) else none

/-- A text without escapes up to its closing single quote, and the rest. -/
def scanLiteral? : List Char → Option (List Char × List Char)
  | [] => none
  | '\'' :: rest => some ([], rest)
  | c :: text => if isPlain c then (scanLiteral? text).map (prepend c) else none

/-- Whether a backslash here stands at the end of a line. -/
def endsLine (text : List Char) : Bool := (dropNewline? (skipSpaces text)).isSome

/-- A text over several lines up to three double quotes, and the rest. Up to two more quotes belong
to the text. While `folding`, blanks and ends of lines are passed over. -/
def scanQuotedLines? (folding : Bool) : List Char → Option (List Char × List Char)
  | [] => none
  | '"' :: '"' :: '"' :: '"' :: '"' :: rest => some (['"', '"'], rest)
  | '"' :: '"' :: '"' :: '"' :: rest => some (['"'], rest)
  | '"' :: '"' :: '"' :: rest => some ([], rest)
  | '\\' :: 'x' :: a :: b :: text => do
      let x ← codedChar? [a, b]
      (scanQuotedLines? false text).map (prepend x)
  | '\\' :: 'u' :: a :: b :: c :: d :: text => do
      let x ← codedChar? [a, b, c, d]
      (scanQuotedLines? false text).map (prepend x)
  | '\\' :: 'U' :: a :: b :: c :: d :: e :: f :: g :: h :: text => do
      let x ← codedChar? [a, b, c, d, e, f, g, h]
      (scanQuotedLines? false text).map (prepend x)
  | '\r' :: '\n' :: text =>
      if folding then scanQuotedLines? true text
      else (scanQuotedLines? false text).map fun found => prepend '\r' (prepend '\n' found)
  | '\n' :: text =>
      if folding then scanQuotedLines? true text
      else (scanQuotedLines? false text).map (prepend '\n')
  | '\\' :: letter :: text =>
      if endsLine (letter :: text) then scanQuotedLines? true (letter :: text)
      else do
        let x ← escaped? letter
        (scanQuotedLines? false text).map (prepend x)
  | c :: text =>
      if folding ∧ isSpace c then scanQuotedLines? true text
      else if isPlain c ∧ c ≠ '\\' then (scanQuotedLines? false text).map (prepend c)
      else none

/-- A text over several lines without escapes up to three single quotes, and the rest. -/
def scanLiteralLines? : List Char → Option (List Char × List Char)
  | [] => none
  | '\'' :: '\'' :: '\'' :: '\'' :: '\'' :: rest => some (['\'', '\''], rest)
  | '\'' :: '\'' :: '\'' :: '\'' :: rest => some (['\''], rest)
  | '\'' :: '\'' :: '\'' :: rest => some ([], rest)
  | '\r' :: '\n' :: text =>
      (scanLiteralLines? text).map fun found => prepend '\r' (prepend '\n' found)
  | '\n' :: text => (scanLiteralLines? text).map (prepend '\n')
  | c :: text => if isPlain c then (scanLiteralLines? text).map (prepend c) else none

/-- The text without an end of line right at its front. -/
def skipNewline (text : List Char) : List Char := (dropNewline? text).getD text

/-- The quoted text at the front of a text. -/
def scanText? : List Char → Option (List Char × List Char)
  | '"' :: '"' :: '"' :: text => scanQuotedLines? false (skipNewline text)
  | '"' :: text => scanQuoted? text
  | '\'' :: '\'' :: '\'' :: text => scanLiteralLines? (skipNewline text)
  | '\'' :: text => scanLiteral? text
  | _ => none

/-! ## Names -/

/-- One name, between quotes of one line or without. -/
def scanName? (text : List Char) : Option (String × List Char) :=
  match text with
  | '"' :: inner => (scanQuoted? inner).map fun found => (String.ofList found.1, found.2)
  | '\'' :: inner => (scanLiteral? inner).map fun found => (String.ofList found.1, found.2)
  | _ =>
      let name := text.takeWhile isNameChar
      if name = [] then none else some (String.ofList name, text.dropWhile isNameChar)

/-- How many names a path may have, and how deep lists and inline tables may be nested. -/
def deepest : Nat := 80

/-- At most as many names as given with points between them and blanks around these. -/
def scanNames? : Nat → List Char → Option (List String × List Char)
  | 0, _ => none
  | room + 1, text => do
      let (name, behind) ← scanName? (skipSpaces text)
      match skipSpaces behind with
      | '.' :: more => do
          let (path, rest) ← scanNames? room more
          return (name :: path, rest)
      | rest => return ([name], rest)

/-- The path at the front of a text, and the rest behind the blanks that follow. -/
def scanPath? (text : List Char) : Option (List String × List Char) := scanNames? deepest text

/-! ## Values -/

/-- A character of a bare word. -/
def isBare (c : Char) : Bool := isNameChar c || c = '+' || c = '.' || c = ':'

/-- The bare word at the front of a text, and the rest. -/
def spanBare (text : List Char) : List Char × List Char :=
  (text.takeWhile isBare, text.dropWhile isBare)

/-- The bare word at the front of a text, and the rest. A date and a time of day with one space
between them are one word. -/
def scanBare (text : List Char) : List Char × List Char :=
  let (word, rest) := spanBare text
  match takeDate? word, rest with
  | some (_, []), ' ' :: c :: more =>
      if isAsciiDigit c then
        let (time, rest) := spanBare (c :: more)
        (word ++ ' ' :: time, rest)
      else (word, rest)
  | _, _ => (word, rest)

/-- The setting that a bare word is. -/
def bare? (word : List Char) : Option Setting :=
  if word = "true".toList then some (.flag true)
  else if word = "false".toList then some (.flag false)
  else
    ((whole? word).or (real? word)).or ((Moment.read? word).map fun moment => .text moment.render)

/-- The table of the entries between braces. -/
def inlineTable? (assignments : List (List String × Setting)) : Option Setting := do
  let es ← assignments.foldlM (fun es a => define a.1 a.2 es) ([] : Entries)
  return .table (entriesToSettings es)

mutual

/-- The value at the front of a text; `room` is how much deeper lists and inline tables may go. -/
def scanValue? : Nat → Nat → List Char → Option (Setting × List Char)
  | 0, _, _ => none
  | fuel + 1, room, text =>
      match text, room with
      | '[' :: _, 0 => none
      | '\x7b' :: _, 0 => none
      | '[' :: inner, room + 1 =>
          (scanItems? fuel room inner).map fun found => (.list found.1, found.2)
      | '\x7b' :: inner, room + 1 => do
          let (assignments, rest) ← scanAssignments? fuel room inner
          return (← inlineTable? assignments, rest)
      | _, _ =>
          match scanText? text with
          | some (s, rest) => some (.text (String.ofList s), rest)
          | none =>
              let (word, rest) := scanBare text
              (bare? word).map fun s => (s, rest)

/-- The items of a list up to its closing bracket. -/
def scanItems? : Nat → Nat → List Char → Option (List Setting × List Char)
  | 0, _, _ => none
  | fuel + 1, room, text =>
      match skipFiller false text with
      | ']' :: rest => some ([], rest)
      | item => do
          let (s, behind) ← scanValue? fuel room item
          match skipFiller false behind with
          | ',' :: more => do
              let (items, rest) ← scanItems? fuel room more
              return (s :: items, rest)
          | ']' :: rest => return ([s], rest)
          | _ => none

/-- The entries of an inline table up to its closing brace. -/
def scanAssignments? :
    Nat → Nat → List Char → Option (List (List String × Setting) × List Char)
  | 0, _, _ => none
  | fuel + 1, room, text =>
      match skipFiller false text with
      | '\x7d' :: rest => some ([], rest)
      | entry => do
          let (a, behind) ← scanAssignment? fuel room (skipFiller false) entry
          match skipFiller false behind with
          | ',' :: more => do
              let (assignments, rest) ← scanAssignments? fuel room more
              return (a :: assignments, rest)
          | '\x7d' :: rest => return ([a], rest)
          | _ => none

/-- A path with its value; `skip` passes over what may stand around the equals sign. -/
def scanAssignment? :
    Nat → Nat → (List Char → List Char) → List Char →
      Option ((List String × Setting) × List Char)
  | 0, _, _, _ => none
  | fuel + 1, room, skip, text => do
      let (path, behind) ← scanPath? text
      match skip behind with
      | '=' :: value => do
          let (s, rest) ← scanValue? fuel room (skip value)
          return ((path, s), rest)
      | _ => none

end

/-! ## Statements -/

/-- The statement at the front of a text, without the blanks behind it. -/
def scanStatement? (fuel : Nat) (text : List Char) : Option (Statement × List Char) :=
  match text with
  | '[' :: '[' :: inner => do
      match ← scanPath? inner with
      | (path, ']' :: ']' :: rest) => some (.listHeader path, rest)
      | _ => none
  | '[' :: inner => do
      match ← scanPath? inner with
      | (path, ']' :: rest) => some (.header path, rest)
      | _ => none
  | _ => do
      let ((path, s), rest) ← scanAssignment? fuel deepest skipSpaces text
      return (.assign path s, rest)

/-- The statements of a text. -/
def scanStatements? : Nat → List Char → Option (List Statement)
  | 0, _ => none
  | fuel + 1, text =>
      match skipFiller false text with
      | [] => some []
      | line => do
          let (statement, behind) ← scanStatement? fuel line
          let rest ← endLine? behind
          let statements ← scanStatements? fuel rest
          return statement :: statements

/-- The text without a byte order mark in front. -/
def dropMark : List Char → List Char
  | '\uFEFF' :: text => text
  | text => text

/-- The table that the text of a settings file stands for. -/
def read? (s : String) : Option Setting := do
  let text := dropMark s.toList
  assemble? (← scanStatements? (2 * text.length + 3) text)

end Toml

end Rulebook
