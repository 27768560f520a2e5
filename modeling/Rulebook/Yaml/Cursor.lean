import Rulebook.Text.Blank
import Rulebook.Text.Word

/-!
# A place in a document

A `Cursor` is a place in a document together with the text from there on. Structure hangs on columns
and on lines, so a cursor knows both, and whether anything but blanks stands before it in its line.
-/

set_option autoImplicit false

namespace Rulebook

namespace Yaml

open Text

/-! ## Kinds of characters -/

/-- The end of a line. -/
def isBreak (c : Char) : Bool := c = '\n' || c = '\r'

/-- A mark of a collection between brackets or braces. -/
def isFlow (c : Char) : Bool := c = ',' || c = '[' || c = ']' || c = '\x7b' || c = '\x7d'

/-- Whether a text begins with a character of a kind. -/
def begins (isKind : Char → Bool) : List Char → Bool
  | [] => false
  | c :: _ => isKind c

/-- Whether a text is at the end of a line. -/
def endsLine (text : List Char) : Bool := text = [] || begins isBreak text

/-- Whether a text is at a blank or at the end of a line. -/
def endsWord (text : List Char) : Bool := endsLine text || begins isSpace text

/-- Whether a mark stands by itself at the front of a text. -/
def isMark (mark : String) (text : List Char) : Bool :=
  (dropLiteral? mark.toList text).any endsWord

/-- The mark at which a document begins. -/
def isStartMark (text : List Char) : Bool := isMark "---" text

/-- The mark at which a document ends. -/
def isEndMark (text : List Char) : Bool := isMark "..." text

/-! ## Places -/

/-- A place: the text from there on, how many characters, lines and, within the line, characters are
before it, and whether the line before it is blank. -/
structure Cursor where
  rest : List Char
  index : Nat
  line : Nat
  column : Nat
  fresh : Bool
deriving DecidableEq, Repr

namespace Cursor

/-- The beginning of a text. -/
def start (text : List Char) : Cursor := ⟨text, 0, 0, 0, true⟩

/-- Behind one blank. -/
def pastBlank (c : Cursor) : Cursor :=
  { c with rest := c.rest.drop 1, index := c.index + 1, column := c.column + 1 }

/-- Behind as many characters as given, none of them the end of a line. -/
def past (n : Nat) (c : Cursor) : Cursor :=
  { c with
    rest := c.rest.drop n
    index := c.index + n
    column := c.column + n
    fresh := c.fresh && n = 0 }

/-- At the rest of the text given, in the same line. -/
def upTo (c : Cursor) (rest : List Char) : Cursor := c.past (c.rest.length - rest.length)

/-- Behind the end of the line if the place is there. -/
def pastBreak (c : Cursor) : Cursor :=
  match c.rest with
  | '\r' :: '\n' :: rest => ⟨rest, c.index + 2, c.line + 1, 0, true⟩
  | x :: rest => if isBreak x then ⟨rest, c.index + 1, c.line + 1, 0, true⟩ else c
  | [] => c

/-- Whether the place is in a column in front of the one given. -/
def isBefore (c : Cursor) (column : Int) : Bool := (c.column : Int) < column

/-- Whether a mark of a document stands here. -/
def atMark (c : Cursor) : Bool := c.column = 0 && (isStartMark c.rest || isEndMark c.rest)

/-- At the end of the line. -/
def pastLine (c : Cursor) : Cursor := c.past (c.rest.takeWhile (fun x => !isBreak x)).length

/-- Behind the blanks here and a comment behind them; a comment without a blank in front is none.
The blanks are given too. -/
def skipLine? (c : Cursor) : Option (List Char × Cursor) :=
  let blanks := c.rest.takeWhile isSpace
  let behind := blanks.foldl (fun c _ => c.pastBlank) c
  if begins (· = '#') behind.rest then
    if blanks = [] then none else some (blanks, behind.pastLine)
  else some (blanks, behind)

/-- Behind a tab in the margin. Nothing but a comment may follow it in its line. -/
def pastMarginTab? (c : Cursor) : Option Cursor := do
  let (_, c) ← c.skipLine?
  if endsLine c.rest then some c else none

/-- Behind all that means nothing here: blanks, comments and ends of lines; and whether an end of a
line was among them. In front of the column `margin`, tabs are restricted. -/
def skipFiller? (margin : Option Int) : Nat → Bool → Cursor → Option (Bool × Cursor)
  | 0, _, _ => none
  | fuel + 1, crossed, c =>
      match c.rest with
      | [] => some (crossed, c)
      | x :: _ =>
          if x = '\t' ∧ c.fresh ∧ margin.any c.isBefore then do
            skipFiller? margin fuel crossed (← c.pastMarginTab?)
          else if isSpace x then skipFiller? margin fuel crossed c.pastBlank
          else if isBreak x then skipFiller? margin fuel true c.pastBreak
          else if x = '#' then skipFiller? margin fuel crossed c.pastLine
          else some (crossed, c)

/-- Behind spaces, comments and ends of lines, of which there has to be one; and whether an end of a
line was among them. -/
def skipSpaceLines : Nat → Bool → Cursor → Bool × Cursor
  | 0, crossed, c => (crossed, c)
  | fuel + 1, crossed, c =>
      match c.rest with
      | [] => (crossed, c)
      | x :: _ =>
          if x = ' ' then skipSpaceLines fuel crossed c.pastBlank
          else if isBreak x then skipSpaceLines fuel true c.pastBreak
          else if x = '#' then skipSpaceLines fuel crossed c.pastLine
          else (crossed, c)

end Cursor

end Yaml

end Rulebook
