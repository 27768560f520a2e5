import Rulebook.Setting
import Rulebook.Text.Blank
import Rulebook.Text.Parts
import Rulebook.Text.Word

/-!
# Settings files with sections

A file with sections has a name and a value in a line, the two divided by an equals sign or a colon.
The header of a section between brackets gives a table to all that follows; a second section of the
same name takes the place of the first. Every value is a text, which may be made of quoted parts.
-/

set_option autoImplicit false

namespace Rulebook

namespace Ini

open Text

/-- What a line holds: the header of a section, or a name with its value. -/
inductive Item where
  | header (name : String)
  | entry (name value : String)
deriving DecidableEq, Repr

/-! ## Texts -/

/-- The character that a letter behind a backslash stands for. One without a meaning of its own
stands for itself. -/
def escaped : Char → Char
  | '0' => '\x00'
  | 'a' => '\x07'
  | 'b' => '\x08'
  | 't' => '\t'
  | 'r' => '\r'
  | 'n' => '\n'
  | letter => letter

/-- The character of a code of four hexadecimal digits, the first of which may be a plus sign. -/
def coded? : List Char → Option Char
  | '+' :: digits => codedChar? digits
  | digits => codedChar? digits

/-- The text up to a character that stops it, and the rest from there on. The end of the file stops
it too if `mayEnd`. A backslash takes the next character along, and the end of a line away. -/
def scanUntil? (stops : Char → Bool) (mayEnd : Bool) : List Char → Option (List Char × List Char)
  | [] => if mayEnd then some ([], []) else none
  | ['\\'] => if mayEnd then some (['\\'], []) else none
  | '\\' :: '\n' :: text => scanUntil? stops mayEnd text
  | '\\' :: 'x' :: a :: b :: c :: d :: text => do
      let x ← coded? [a, b, c, d]
      (scanUntil? stops mayEnd text).map (prepend x)
  | '\\' :: letter :: text =>
      if letter = 'x' then none
      else (scanUntil? stops mayEnd text).map (prepend (escaped letter))
  | c :: text =>
      if stops c then some ([], c :: text) else (scanUntil? stops mayEnd text).map (prepend c)

/-- The end of a line. -/
def isBreak (c : Char) : Bool := c = '\n' || c = '\r'

/-! ## Values -/

/-- A quote around a part of a value. -/
def isQuote (c : Char) : Bool := c = '"' || c = '\''

/-- The value here, and the rest from the end of its line on. It is made of quoted parts and of what
stands behind them, without the blanks at its end. -/
def scanParts? : Nat → Bool → List Char → Option (List Char × List Char)
  | 0, _, _ => none
  | fuel + 1, isFirst, text => do
      let bare := do
        let (found, rest) ← scanUntil? isBreak true text
        return (if isFirst then trim found else trimEnd found, rest)
      match text with
      | [] => some ([], [])
      | c :: inner =>
          if !isQuote c then bare
          else
            let (part, behind) ← scanUntil? (· = c) false inner
            let (more, rest) ← scanParts? fuel false (behind.drop 1)
            return (part ++ more, rest)

/-- The value behind an equals sign, and the rest from the end of its line on. -/
def scanValue? (text : List Char) : Option (String × List Char) := do
  let text := text.dropWhile fun c => isBlank c && !isBreak c
  let (value, rest) ← scanParts? (text.length + 1) true text
  return (String.ofList value, rest)

/-! ## Lines -/

/-- What divides a name from its value. -/
def isDivider (c : Char) : Bool := c = '=' || c = ':'

/-- The text without white space in front, and whether a line begins there. -/
def skipBlank (atStart : Bool) : List Char → Bool × List Char
  | [] => (atStart, [])
  | c :: text => if isBlank c then skipBlank (c = '\n') text else (atStart, c :: text)

/-- The header of a section behind its opening bracket, and the rest. -/
def scanHeader? (text : List Char) : Option (Item × List Char) := do
  let (name, rest) ← scanUntil? (· = ']') false text
  return (.header (String.ofList (trim name)), rest.drop 1)

/-- A name with its value, and the rest. A name is not empty. -/
def scanEntry? (text : List Char) : Option (Item × List Char) := do
  let (name, behind) ← scanUntil? isDivider false text
  let name := trim name
  if name = [] then none
  else
    let (value, rest) ← scanValue? (behind.drop 1)
    return (.entry (String.ofList name) value, rest)

/-- The items of a file. A comment takes a whole line and begins in the first column. -/
def scanItems? : Nat → Bool → List Char → Option (List Item)
  | 0, _, _ => none
  | fuel + 1, atStart, text =>
      match skipBlank atStart text with
      | (_, []) => some []
      | (atStart, c :: text) =>
          if c = ';' ∨ c = '#' then
            if atStart then scanItems? fuel true ((text.dropWhile (· ≠ '\n')).drop 1) else none
          else do
            let (item, rest) ← if c = '[' then scanHeader? text else scanEntry? (c :: text)
            return item :: (← scanItems? fuel false rest)

/-! ## Tables -/

/-- Takes one item: `current` is the section that is open, if there is one. -/
def take (current : Option String) (es : List (String × Setting)) :
    Item → Option String × List (String × Setting)
  | .header name => (some name, Setting.put name (.table []) es)
  | .entry name value =>
      match current with
      | none => (none, Setting.put name (.text value) es)
      | some header =>
          let inner := ((Setting.find? es header).getD .nil).entries
          (some header, Setting.put header (.table (Setting.put name (.text value) inner)) es)

/-- The table that the text of a settings file stands for. -/
def read? (s : String) : Option Setting := do
  let text := s.toList
  let items ← scanItems? (text.length + 1) true text
  return .table (items.foldl (fun state item => take state.1 state.2 item) (none, [])).2

end Ini

end Rulebook
