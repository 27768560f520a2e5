import Rulebook.Text.Word
import Rulebook.Text.Parts
import Rulebook.Yaml.Cursor

/-!
# Texts in documents

A text is plain, stands between single or double quotes, or is a block of lines. Plain and quoted
texts may run over several lines: a `Gap` between two words is blanks within a line, or ends of
lines, of which a single one counts as a space and the first of several counts as nothing.
-/

set_option autoImplicit false

namespace Rulebook

namespace Yaml

open Text

/-! ## Gaps -/

/-- What stands between two words: blanks, the end of a line with `more` empty lines behind it, or
an escaped end of a line with as many. -/
inductive Gap where
  | blanks (text : List Char)
  | lines (more : Nat)
  | joined (more : Nat)
deriving DecidableEq, Repr

namespace Gap

/-- What a gap stands for. -/
def text : Gap → List Char
  | .blanks text => text
  | .lines 0 => [' ']
  | .lines more => List.replicate more '\n'
  | .joined more => List.replicate more '\n'

/-- The gap with a blank behind it. Those in front of a line do not count. -/
def withBlank (x : Char) : Gap → Gap
  | .blanks text => .blanks (text ++ [x])
  | gap => gap

/-- The gap with an end of a line behind it. Blanks in front of it do not count. -/
def withBreak : Gap → Gap
  | .blanks _ => .lines 0
  | .lines more => .lines (more + 1)
  | .joined more => .joined (more + 1)

/-- Whether the gap has reached a new line. -/
def isInMargin : Gap → Bool
  | .blanks _ => false
  | _ => true

end Gap

/-- The gap that goes on here, and the place behind it. Where a tab stands in the margin, `pastTab?`
says what is behind it. -/
def skipGap? (margin : Int) (pastTab? : Cursor → Option Cursor) :
    Nat → Gap → Cursor → Option (Gap × Cursor)
  | 0, _, _ => none
  | fuel + 1, gap, c =>
      match c.rest with
      | [] => some (gap, c)
      | x :: _ =>
          if x = '\t' ∧ gap.isInMargin ∧ c.isBefore margin then do
            skipGap? margin pastTab? fuel gap (← pastTab? c)
          else if isSpace x then
            skipGap? margin pastTab? fuel (gap.withBlank x) c.pastBlank
          else if isBreak x then skipGap? margin pastTab? fuel gap.withBreak c.pastBreak
          else some (gap, c)

/-! ## Plain texts -/

/-- Whether a plain text ends here: at a colon behind which a word ends and, between brackets, at a
mark. -/
def endsPlain (inFlow : Bool) : List Char → Bool
  | [] => true
  | c :: rest =>
      (c = ':' && (endsWord rest || (inFlow && begins isFlow rest))) || (inFlow && isFlow c)

/-- The word of a plain text that stands here. -/
def plainWord (inFlow : Bool) : List Char → List Char
  | [] => []
  | c :: rest =>
      if endsWord (c :: rest) || endsPlain inFlow (c :: rest) then []
      else c :: plainWord inFlow rest

/-- Whether a minus sign stands right before a mark between brackets. -/
def isStrayMinus : List Char → Bool
  | '-' :: rest => begins isFlow rest
  | _ => false

/-- The plain text that goes on here behind a gap, and the place behind it. -/
def plainFrom? (margin : Int) (inFlow : Bool) :
    Nat → List Char → Gap → Cursor → Option (List Char × Cursor)
  | 0, _, _, _ => none
  | fuel + 1, found, gap, c =>
      if c.atMark || begins (· = '#') c.rest then some (found, c)
      else if inFlow && isStrayMinus c.rest then none
      else
        let word := plainWord inFlow c.rest
        let found := if word = [] then found else found ++ gap.text ++ word
        let behind := c.past word.length
        if endsWord behind.rest ∧ behind.rest ≠ [] then do
          let (gap, next) ← skipGap? margin Cursor.pastMarginTab? (behind.rest.length + 1)
            (.blanks []) behind
          if !inFlow ∧ next.isBefore margin then some (found, next)
          else plainFrom? margin inFlow fuel found gap next
        else some (found, behind)

/-- The plain text here, and the place behind it. A plain text is not empty. -/
def plain? (margin : Int) (inFlow : Bool) (c : Cursor) : Option (List Char × Cursor) := do
  let (text, behind) ← plainFrom? margin inFlow (c.rest.length + 1) [] (.blanks []) c
  if text = [] then none else some (text, behind)

/-! ## Quoted texts -/

/-- The character that a letter behind a backslash stands for. -/
def escaped? : Char → Option Char
  | '0' => some '\x00'
  | 'a' => some '\x07'
  | 'b' => some '\x08'
  | 't' => some '\t'
  | '\t' => some '\t'
  | 'n' => some '\n'
  | 'v' => some '\x0b'
  | 'f' => some '\x0c'
  | 'r' => some '\r'
  | 'e' => some '\x1b'
  | ' ' => some ' '
  | '"' => some '"'
  | '/' => some '/'
  | '\\' => some '\\'
  | 'N' => some '\u0085'
  | '_' => some '\u00a0'
  | 'L' => some '\u2028'
  | 'P' => some '\u2029'
  | _ => none

/-- What stands between double quotes up to a blank, the end of a line, escaped or not, or the
closing quote, and the rest. -/
def doubleQuoted? : List Char → Option (List Char × List Char)
  | [] => some ([], [])
  | '\\' :: 'x' :: a :: b :: text => do
      let x ← codedChar? [a, b]
      (doubleQuoted? text).map (prepend x)
  | '\\' :: 'u' :: a :: b :: c :: d :: text => do
      let x ← codedChar? [a, b, c, d]
      (doubleQuoted? text).map (prepend x)
  | '\\' :: 'U' :: a :: b :: c :: d :: e :: f :: g :: h :: text => do
      let x ← codedChar? [a, b, c, d, e, f, g, h]
      (doubleQuoted? text).map (prepend x)
  | '\\' :: letter :: text =>
      if isBreak letter then some ([], '\\' :: letter :: text)
      else do
        let x ← escaped? letter
        (doubleQuoted? text).map (prepend x)
  | c :: text =>
      if c = '\\' then none
      else if c = '"' || endsWord (c :: text) then some ([], c :: text)
      else (doubleQuoted? text).map (prepend c)

/-- What stands between single quotes up to a blank, the end of a line or the closing quote, and the
rest. Two quotes stand for one. -/
def singleQuoted : List Char → List Char × List Char
  | [] => ([], [])
  | '\'' :: '\'' :: text => prepend '\'' (singleQuoted text)
  | c :: text =>
      if c = '\'' || endsWord (c :: text) then ([], c :: text) else prepend c (singleQuoted text)

/-- How a text is quoted. -/
inductive Quote where
  | single
  | double
deriving DecidableEq, Repr

/-- The quote itself. -/
def Quote.char : Quote → Char
  | .single => '\''
  | .double => '"'

/-- What stands between quotes up to a gap or the closing quote, and the rest. -/
def Quote.part? : Quote → List Char → Option (List Char × List Char)
  | .single, text => some (singleQuoted text)
  | .double, text => doubleQuoted? text

/-- The quoted text that goes on here, and the place behind its closing quote. -/
def quotedFrom? (quote : Quote) (margin : Int) :
    Nat → List Char → Cursor → Option (List Char × Cursor)
  | 0, _, _ => none
  | fuel + 1, found, c =>
      if c.atMark ∨ c.rest = [] ∨ c.isBefore margin then none
      else do
        let (part, rest) ← quote.part? c.rest
        let behind := c.upTo rest
        if begins (· = quote.char) rest then some (found ++ part, behind.past 1)
        else
          let (gap, next) :=
            if begins (· = '\\') rest then (Gap.joined 0, (behind.past 1).pastBreak)
            else (.blanks [], behind)
          if begins (· = quote.char) next.rest then
            some (found ++ part ++ gap.text, next.past 1)
          else
            let (gap, next) ←
              skipGap? margin (fun _ => none) (next.rest.length + 1) gap next
            quotedFrom? quote margin fuel (found ++ part ++ gap.text) next

/-- Whether what stands here may follow a quoted text that began in the line given: the end of the
line, a colon or, between brackets, a mark. -/
def mayFollowQuoted (inFlow : Bool) (line : Nat) (c : Cursor) : Bool :=
  match c.rest with
  | [] => true
  | x :: _ =>
      isBreak x || (inFlow && (x = ',' || x = '\x7d' || x = ']')) ||
        (x = ':' && (inFlow || c.line = line))

/-- The quoted text here, and the place behind it and the blanks that follow. -/
def quoted? (quote : Quote) (margin : Int) (inFlow : Bool) (c : Cursor) :
    Option (List Char × Cursor) := do
  let (text, behind) ← quotedFrom? quote margin (c.rest.length + 1) [] (c.past 1)
  let (_, next) ← behind.skipLine?
  if mayFollowQuoted inFlow c.line next then some (text, next) else none

/-! ## Blocks of lines -/

/-- What becomes of the ends of lines behind a block: all but one go, all go, or all stay. -/
inductive Chomp where
  | clip
  | strip
  | keep
deriving DecidableEq, Repr

/-- What a block says of itself: what becomes of the ends of lines behind it, and how far it is
indented. -/
structure BlockHeader where
  chomp : Chomp
  step : Option Nat
deriving DecidableEq, Repr

/-- The sign for what becomes of the ends of lines, and the rest. -/
def takeChomp : List Char → Chomp × List Char
  | '+' :: rest => (.keep, rest)
  | '-' :: rest => (.strip, rest)
  | rest => (.clip, rest)

/-- The digit for the indentation, and the rest. It is not zero. -/
def takeStep? : List Char → Option (Option Nat × List Char)
  | [] => some (none, [])
  | c :: rest =>
      if c = '0' then none
      else if isAsciiDigit c then some (some (c.toNat - 48), rest)
      else some (none, c :: rest)

/-- The header of a block, and the rest. Its two parts come in any order. -/
def takeBlockHeader? (text : List Char) : Option (BlockHeader × List Char) := do
  match takeChomp text with
  | (.clip, text) =>
      let (step, text) ← takeStep? text
      match step with
      | some n =>
          let (chomp, rest) := takeChomp text
          return (⟨chomp, some n⟩, rest)
      | none => return (⟨.clip, none⟩, text)
  | (chomp, text) =>
      let (step, rest) ← takeStep? text
      return (⟨chomp, step⟩, rest)

/-- The place at the first line of a block that is not blank, the number of blank lines in front,
and the greatest column that was met. -/
def skipFirstBlanks : Nat → Nat → Nat → Cursor → Nat × Nat × Cursor
  | 0, widest, lines, c => (widest, lines, c)
  | fuel + 1, widest, lines, c =>
      match c.rest with
      | ' ' :: _ => skipFirstBlanks fuel widest lines c.pastBlank
      | x :: _ =>
          if isBreak x then skipFirstBlanks fuel (max widest c.column) (lines + 1) c.pastBreak
          else (max widest c.column, lines, c)
      | [] => (max widest c.column, lines, c)

/-- The place behind the indentation of a line, and the number of blank lines in front of it. -/
def skipBlockIndent (indent : Nat) : Nat → Nat → Cursor → Nat × Cursor
  | 0, lines, c => (lines, c)
  | fuel + 1, lines, c =>
      match c.rest with
      | [] => (lines, c)
      | x :: _ =>
          if x = ' ' ∧ c.column < indent then skipBlockIndent indent fuel lines c.pastBlank
          else if isBreak x then skipBlockIndent indent fuel (lines + 1) c.pastBreak
          else (lines, c)

/-- The lines of a block as far as they were read: what they amount to, whether the last one ended,
how many blank lines are behind it, and whether it began with a blank. -/
structure BlockLines where
  text : List Char
  ended : Bool
  blankLines : Nat
  indented : Bool
deriving DecidableEq, Repr

/-- What stands for the ends of lines in front of a line. A folded block joins two lines that are
not indented further. -/
def BlockLines.seam (b : BlockLines) (folded indented : Bool) : List Char :=
  if folded && b.ended && !b.indented && !indented then
    if b.blankLines = 0 then [' '] else List.replicate b.blankLines '\n'
  else (if b.ended then ['\n'] else []) ++ List.replicate b.blankLines '\n'

/-- The lines of a block with the given indentation, and the place behind them. -/
def blockLines (folded : Bool) (indent : Nat) : Nat → BlockLines → Cursor → BlockLines × Cursor
  | 0, b, c => (b, c)
  | fuel + 1, b, c =>
      if c.column ≠ indent ∨ c.rest = [] ∨ (indent = 0 ∧ isEndMark c.rest) then (b, c)
      else
        let line := c.rest.takeWhile (fun x => !isBreak x)
        let indented := begins isSpace c.rest
        let text := b.text ++ b.seam folded indented ++ line
        let behind := c.past line.length
        if behind.rest = [] then (⟨text, false, 0, indented⟩, behind)
        else
          let (blankLines, next) :=
            skipBlockIndent indent (behind.rest.length + 1) 0 behind.pastBreak
          blockLines folded indent fuel ⟨text, true, blankLines, indented⟩ next

/-- What a block amounts to. A last line that is not ended counts as ended. -/
def BlockLines.result (b : BlockLines) (chomp : Chomp) (endsInside : Bool) : List Char :=
  if chomp = .strip then b.text
  else
    b.text ++ (if b.ended then ['\n'] else []) ++ (if endsInside then ['\n'] else []) ++
      if chomp = .keep then List.replicate b.blankLines '\n' else []

/-- What a block without lines amounts to. -/
def emptyBlock (chomp : Chomp) (ended : Bool) (blankLines : Nat) : List Char :=
  if chomp = .strip ∨ !ended then []
  else if chomp = .keep ∧ blankLines ≠ 0 then List.replicate blankLines '\n'
  else ['\n']

/-- The block of lines here, and the place behind it. It is indented further than `outer`. -/
def block? (folded : Bool) (outer : Int) (c : Cursor) : Option (List Char × Cursor) := do
  let (header, rest) ← takeBlockHeader? (c.past 1).rest
  let (_, lineEnd) ← (c.upTo rest).skipLine?
  if !endsLine lineEnd.rest then none
  else
    let first := lineEnd.pastBreak
    let size := first.rest.length + 1
    if begins (· = '\t') first.rest then none
    else
      let (indent, blankLines, body) :=
        match header.step with
        | some n =>
            let indent := (max outer 0).toNat + n
            (indent, skipBlockIndent indent size 0 first)
        | none =>
            let (widest, found) := skipFirstBlanks size 0 0 first
            (max widest (outer + 1).toNat, found)
      if body.rest = [] then
        some (emptyBlock header.chomp (body.line ≠ c.line) blankLines, body)
      else if body.column < indent ∧ !body.isBefore (outer + 1) then none
      else
        let (lines, behind) := blockLines folded indent size ⟨[], false, blankLines, false⟩ body
        let endsInside := behind.rest = [] ∧ max indent 1 ≤ behind.column
        some (lines.result header.chomp endsInside, behind)

end Yaml

end Rulebook
