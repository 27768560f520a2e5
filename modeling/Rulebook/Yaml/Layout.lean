import Rulebook.Yaml.Scalar
import Rulebook.Yaml.Token

/-!
# The layout of documents

The tokens of a document come out of its layout: columns open and close blocks, and whether a text
is a key is only known at the colon behind it. A `Layout` is the state of reading in between. The
tokens are kept one place each, so that what turns out to begin at a key can be put in front of it
later. `Token.scan?` gives the tokens of a text.
-/

set_option autoImplicit false

namespace Rulebook

namespace Yaml

open Text

/-- The indentation that holds again behind the present one, and whether the present one is that of
a block. One that is not only keeps what follows a mark from standing too far left. -/
structure Margin where
  outer : Int
  isBlock : Bool
deriving DecidableEq, Repr

/-- Something that may turn out to be a key: the place of its token, where it stands, and whether it
has to be one. -/
structure KeyStart where
  place : Nat
  index : Nat
  line : Nat
  column : Nat
  required : Bool
deriving DecidableEq, Repr

/-- The state of reading. `key` may turn out to be a key, as may those of `outerKeys`, one for each
collection between brackets or braces around the present one. `pairs` tells for each list between
brackets, the innermost first, whether a pair has begun in it, and `inMapping` that what may look
like one belongs to a table. -/
structure Layout where
  cursor : Cursor
  indent : Int
  margins : List Margin
  keyAllowed : Bool
  key : Option KeyStart
  outerKeys : List (Option KeyStart)
  adjacent : Option Nat
  inMapping : Bool
  pairs : List Bool
  tokens : Array (List Token)

namespace Layout

/-- The state at the beginning of a text. -/
def start (text : List Char) : Layout where
  cursor := .start text
  indent := -1
  margins := []
  keyAllowed := true
  key := none
  outerKeys := []
  adjacent := none
  inMapping := false
  pairs := []
  tokens := #[]

/-- Whether the place is between brackets or braces. -/
def inFlow (l : Layout) : Bool := !l.outerKeys.isEmpty

/-- How many more places a loop may visit. -/
def size (l : Layout) : Nat := l.cursor.rest.length + 1

/-- Adds a token. -/
def push (l : Layout) (t : Token) : Layout := { l with tokens := l.tokens.push [t] }

/-- Behind as many characters as given. -/
def skip (l : Layout) (n : Nat) : Layout := { l with cursor := l.cursor.past n }

/-- Behind the blanks here and a comment. -/
def skipLine? (l : Layout) : Option Layout :=
  l.cursor.skipLine?.map fun found => { l with cursor := found.2 }

/-! ## Indentation -/

/-- Ends what is indented further than a column: the indentation and the margins that are left, and
how many blocks have ended. -/
def unwind (column : Int) : Int → List Margin → Int × List Margin × Nat
  | indent, [] => (indent, [], 0)
  | indent, m :: ms =>
      if column < indent then
        let (indent, margins, ends) := unwind column m.outer ms
        (indent, margins, if m.isBlock then ends + 1 else ends)
      else (indent, m :: ms, 0)

/-- Ends the blocks that are indented further than a column. -/
def closeBlocks (column : Int) (l : Layout) : Layout :=
  if l.inFlow then l
  else
    let (indent, margins, ends) := unwind column l.indent l.margins
    (List.replicate ends Token.blockEnd).foldl push { l with indent := indent, margins := margins }

/-- Without the margins on top that are no blocks. -/
def dropSpare : Int → List Margin → Int × List Margin
  | indent, [] => (indent, [])
  | indent, m :: ms => if m.isBlock then (indent, m :: ms) else dropSpare m.outer ms

/-- Ends the indentation that is none of a block. -/
def closeSpare (l : Layout) : Layout :=
  let (indent, margins) := dropSpare l.indent l.margins
  { l with indent := indent, margins := margins }

/-- Within a block, what follows stands at least one column further right. -/
def openSpare (l : Layout) : Layout :=
  if !l.inFlow && (l.margins.head?.any Margin.isBlock) then
    { l with indent := l.indent + 1, margins := ⟨l.indent, false⟩ :: l.margins }
  else l

/-- Begins a block at a column if it is further right; and whether it does. -/
def openBlock (column : Nat) (l : Layout) : Bool × Layout :=
  if l.inFlow then (false, l)
  else
    let (indent, margins) :=
      match l.margins with
      | m :: ms =>
          if l.indent ≤ column ∧ !m.isBlock then (m.outer, ms) else (l.indent, l.margins)
      | [] => (l.indent, [])
    if indent < column then
      (true, { l with indent := column, margins := ⟨indent, true⟩ :: margins })
    else (false, { l with indent := indent, margins := margins })

/-! ## Keys -/

/-- Notes that what stands here may be a key. In the column of a block it has to be one. -/
def saveKey (l : Layout) : Layout :=
  if !l.keyAllowed then l
  else
    let c := l.cursor
    let required :=
      !l.inFlow && (l.indent = c.column : Bool) && (l.margins.head?.any Margin.isBlock)
    { l with key := some ⟨l.tokens.size, c.index, c.line, c.column, required⟩ }

/-- What was noted is no key, unless it has to be one. -/
def dropKey? (l : Layout) : Option Layout :=
  if l.key.any KeyStart.required then none else some { l with key := none }

/-- How far apart a key and its colon may be outside of brackets. -/
def longestKey : Nat := 1024

/-- What was noted in another line or too far away is no key. -/
def dropStaleKey? (l : Layout) : Option Layout :=
  let isStale := fun (k : KeyStart) =>
    k.line < l.cursor.line || k.index + longestKey < l.cursor.index
  if !l.inFlow && l.key.any isStale then l.dropKey? else some l

/-! ## Between tokens -/

/-- At the next token. A new line may begin with a key. -/
def skipFiller? (l : Layout) : Option Layout := do
  let margin := if l.margins = [] then none else some l.indent
  let (crossed, next) ← l.cursor.skipFiller? margin l.size false
  return { l with cursor := next, keyAllowed := l.keyAllowed || (crossed && !l.inFlow) }

/-- At the next token, with the blocks ended that end there. -/
def advance? (l : Layout) : Option Layout := do
  let l ← (← l.skipFiller?).dropStaleKey?
  return l.closeBlocks l.cursor.column

/-! ## Collections between brackets and braces -/

/-- How deep collections between brackets and braces may be nested. -/
def deepest : Nat := 255

/-- The pair that has begun in the innermost list ends. -/
def endPair (l : Layout) : Layout :=
  match l.pairs with
  | true :: pairs => { l with inMapping := false, pairs := false :: pairs }.push .flowMappingEnd
  | _ => l

/-- At an opening bracket or brace. -/
def openFlow? (isList : Bool) (l : Layout) : Option Layout := do
  let l := l.saveKey.openSpare
  if l.outerKeys.length = deepest then none
  else
    let l ← ({ l with
      outerKeys := l.key :: l.outerKeys
      key := none
      keyAllowed := true
      inMapping := l.inMapping || !isList
      pairs := if isList then false :: l.pairs else l.pairs }.skip 1).skipLine?
    return l.push (if isList then .flowSequenceStart else .flowMappingStart)

/-- Back in what is around a collection. -/
def leaveFlow (l : Layout) : Layout :=
  match l.outerKeys with
  | key :: keys => { l with key := key, outerKeys := keys }
  | [] => l

/-- At a closing bracket or brace. What is within brackets may be a key with its value right behind
the colon. -/
def closeFlow? (isList : Bool) (l : Layout) : Option Layout := do
  let l := { (← l.dropKey?).leaveFlow with keyAllowed := false }
  let l := if isList then { l.endPair with pairs := l.endPair.pairs.tail } else l
  let l ← (l.skip 1).skipLine?
  let l := if l.inFlow then { l with adjacent := some l.cursor.index } else l
  return l.push (if isList then .flowSequenceEnd else .flowMappingEnd)

/-- At a comma. -/
def flowEntry? (l : Layout) : Option Layout := do
  let l := { (← l.dropKey?) with keyAllowed := true }
  let l ← (l.endPair.skip 1).skipLine?
  return l.push .flowEntry

/-! ## Entries, keys and values -/

/-- At the minus sign of an entry of a block. -/
def entry? (l : Layout) : Option Layout := do
  if l.inFlow || !l.keyAllowed then none
  else
    let (opens, l) := (l.skip 1).openBlock l.cursor.column
    let l := if opens then l.push .sequenceStart else l
    let (blanks, next) ← l.cursor.skipLine?
    if blanks.contains '\t' && begins (· = '-') next.rest && endsWord (next.rest.drop 1) then none
    else
      let l := { l with cursor := next }
      let l := if begins (fun c => isBreak c || isFlow c) next.rest then l.openSpare else l
      return { (← l.dropKey?) with keyAllowed := true }.push .entry

/-- At the question mark of a key. A space or the end of the line has to follow. -/
def explicitKey? (l : Layout) : Option Layout := do
  let l ←
    if l.inFlow then some { l with inMapping := true }
    else if !l.keyAllowed then none
    else
      let (opens, l) := l.openBlock l.cursor.column
      some (if opens then l.push .mappingStart else l)
  let l := { (← l.dropKey?) with keyAllowed := !l.inFlow }.skip 1
  if !begins (fun c => c = ' ' || isBreak c) l.cursor.rest then none
  else
    let (crossed, next) := l.cursor.skipSpaceLines l.size false
    if begins (· = '\t') next.rest then none
    else
      return { l with
        cursor := next
        keyAllowed := l.keyAllowed || (crossed && !l.inFlow) }.push .key

/-- Behind the tabs right behind a colon. Neither a minus sign nor a letter may follow them without
a space in between. -/
def skipTabs? (l : Layout) : Option Layout := do
  if !begins (· = '\t') l.cursor.rest then some l
  else
    let (blanks, next) ← l.cursor.skipLine?
    if !blanks.contains ' ' && begins isNameChar next.rest then none
    else some { l with cursor := next }

/-- Puts tokens in front of one that is there. -/
def insertAt (place : Nat) (ts : List Token) (l : Layout) : Layout :=
  { l with tokens := l.tokens.modify place (ts ++ ·) }

/-- At the colon behind a key that was noted. `paired` tells that this begins a pair within a
list, which has to be all in one line up to here. -/
def valueOf? (k : KeyStart) (paired : Bool) (line : Nat) (l : Layout) : Option Layout :=
  if paired ∧ k.line < line then none
  else
    let (opens, l) := l.openBlock k.column
    let opening := (if opens then [Token.mappingStart] else []) ++
      (if paired then [Token.flowMappingStart] else []) ++ [Token.key]
    some { (l.insertAt k.place opening).openSpare with key := none, keyAllowed := false }

/-- At a colon with no key in front in its line. -/
def valueAlone? (paired : Bool) (column : Nat) (l : Layout) : Option Layout := do
  let l := if paired then l.push .flowMappingStart else l
  let l ←
    if l.inFlow then some l
    else if !l.keyAllowed then none
    else
      let (opens, l) := l.openBlock column
      some (if opens then l.push .mappingStart else l)
  return { l.openSpare with keyAllowed := !l.inFlow }

/-- At the colon of a value. -/
def value? (l : Layout) : Option Layout := do
  let c := l.cursor
  let paired := !l.pairs.isEmpty && !l.inMapping
  let l := if paired then { l with pairs := true :: l.pairs.tail } else l
  let l ← (l.skip 1).skipTabs?
  let l ←
    match l.key with
    | some k => l.valueOf? k paired c.line
    | none => l.valueAlone? paired c.column
  return l.push .value

/-! ## Texts and properties -/

/-- At a property: a token in one line that `take?` reads behind the first character. -/
def property? (take? : List Char → Option (Token × List Char)) (l : Layout) : Option Layout := do
  let l := { l.saveKey with keyAllowed := false }
  let (t, rest) ← take? (l.cursor.rest.drop 1)
  return { l with cursor := l.cursor.upTo rest }.push t

/-- At a plain text. If it ends in another line, a key may follow. -/
def plainText? (l : Layout) : Option Layout := do
  let l := { l.saveKey with keyAllowed := false }.closeSpare
  let margin := l.indent + 1
  if l.inFlow && l.cursor.isBefore margin then none
  else
    let (text, next) ← plain? margin l.inFlow l.cursor
    return { l with cursor := next, keyAllowed := next.fresh }.push
      (.scalar true (String.ofList text))

/-- At a quoted text. It may be a key with its value right behind the colon. -/
def quotedText? (quote : Quote) (l : Layout) : Option Layout := do
  let l := { l.saveKey with keyAllowed := false }
  let (text, next) ← quoted? quote l.indent l.inFlow l.cursor
  let l ← { l with cursor := next }.skipFiller?
  return { l with adjacent := some l.cursor.index }.push (.scalar false (String.ofList text))

/-- At a block of lines. -/
def blockText? (folded : Bool) (l : Layout) : Option Layout := do
  let l := { l.saveKey with keyAllowed := true }.closeSpare
  let (text, next) ← block? folded l.indent l.cursor
  return { l with cursor := next }.push (.scalar false (String.ofList text))

/-! ## Documents -/

/-- Ends all blocks in front of what belongs to the stream of documents. -/
def leaveDocument? (l : Layout) : Option Layout := do
  return { (← (l.closeBlocks (-1)).dropKey?) with keyAllowed := false }

/-- At a directive, which takes the whole line. -/
def directive? (l : Layout) : Option Layout := do
  let l ← l.leaveDocument?
  let (t, rest) ← takeDirective? (l.cursor.rest.drop 1)
  let l ← { l with cursor := l.cursor.upTo rest }.skipLine?
  if endsLine l.cursor.rest then return { l with cursor := l.cursor.pastBreak }.push t else none

/-- At the mark where a document begins. -/
def documentStart? (l : Layout) : Option Layout := do
  return ((← l.leaveDocument?).skip 3).push .documentStart

/-- At the mark where a document ends. Nothing but a comment follows it in its line. -/
def documentEnd? (l : Layout) : Option Layout := do
  let l ← (((← l.leaveDocument?).skip 3).push .documentEnd).skipLine?
  if endsLine l.cursor.rest then some l else none

/-- At the end of the text. -/
def finish? (l : Layout) : Option (List Token) :=
  if l.key.any KeyStart.required || l.outerKeys.any (·.any KeyStart.required) then none
  else some ((l.closeBlocks (-1)).push .streamEnd).tokens.toList.flatten

/-! ## Reading -/

/-- Whether a colon is the mark of a value: a word ends behind it or, between brackets, a mark
follows or something quoted or between brackets is right in front. -/
def isValueMark (l : Layout) (rest : List Char) : Bool :=
  endsWord rest || (l.inFlow && (begins isFlow rest || l.adjacent = some l.cursor.index))

/-- At a token that begins with the character given. -/
def content? (l : Layout) (c : Char) (rest : List Char) : Option Layout :=
  match c with
  | '[' => l.openFlow? true
  | '\x7b' => l.openFlow? false
  | ']' => l.closeFlow? true
  | '\x7d' => l.closeFlow? false
  | ',' => l.flowEntry?
  | '-' => if endsWord rest then l.entry? else l.plainText?
  | '?' => if endsWord rest then l.explicitKey? else l.plainText?
  | ':' => if l.isValueMark rest then l.value? else l.plainText?
  | '*' => l.property? fun text => (takeAnchor? text).map fun found => (.alias found.1, found.2)
  | '&' => l.property? fun text => (takeAnchor? text).map fun found => (.anchor found.1, found.2)
  | '!' => l.property? (takeTag? l.inFlow)
  | '|' => if l.inFlow then l.plainText? else l.blockText? false
  | '>' => if l.inFlow then l.plainText? else l.blockText? true
  | '\'' => l.quotedText? .single
  | '"' => l.quotedText? .double
  | '%' | '@' | '\x60' => none
  | _ => l.plainText?

/-- At a token. In the first column it may be one of the stream of documents. -/
def token? (l : Layout) (c : Char) (rest : List Char) : Option Layout :=
  if l.cursor.column = 0 ∧ c = '%' then l.directive?
  else if l.cursor.column = 0 ∧ isStartMark (c :: rest) then l.documentStart?
  else if l.cursor.column = 0 ∧ isEndMark (c :: rest) then l.documentEnd?
  else if l.cursor.isBefore l.indent then none
  else l.content? c rest

/-- The tokens of all that is left. -/
def scan? : Nat → Layout → Option (List Token)
  | 0, _ => none
  | fuel + 1, l => do
      let l ← l.advance?
      match l.cursor.rest with
      | [] => l.finish?
      | c :: rest => scan? fuel (← l.token? c rest)

end Layout

/-- The tokens of a text. A zero character ends it. -/
def Token.scan? (text : List Char) : Option (List Token) :=
  let text := text.takeWhile (· ≠ '\x00')
  (Layout.start text).scan? (text.length + 1)

end Yaml

end Rulebook
