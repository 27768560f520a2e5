import Rulebook.Text.Word
import Rulebook.Text.Parts
import Rulebook.Yaml.Cursor

/-!
# Tokens of documents

A `Token` is a text, a property of a value, or a mark of the structure. Blocks have their beginning
and end as tokens although nothing is written there. The functions here read the tokens that stand
in one line: directives, anchors and tags; each takes the text behind its first character.
-/

set_option autoImplicit false

namespace Rulebook

namespace Yaml

open Text

/-- A token. -/
inductive Token where
  | version
  | tagDirective (handle meaning : String)
  | documentStart
  | documentEnd
  | streamEnd
  | sequenceStart
  | mappingStart
  | blockEnd
  | flowSequenceStart
  | flowSequenceEnd
  | flowMappingStart
  | flowMappingEnd
  | entry
  | flowEntry
  | key
  | value
  | alias (name : String)
  | anchor (name : String)
  | tag (handle suffix : String)
  | scalar (plain : Bool) (text : String)
deriving DecidableEq, Repr

/-! ## Anchors -/

/-- A character of the name of an anchor. -/
def isAnchorChar (c : Char) : Bool :=
  !isSpace c && !isBreak c && !isFlow c && c ≠ '\uFEFF'

/-- The name of an anchor, and the rest. -/
def takeAnchor? (text : List Char) : Option (String × List Char) :=
  let name := text.takeWhile isAnchorChar
  if name = [] then none else some (String.ofList name, text.dropWhile isAnchorChar)

/-! ## Tags -/

/-- A character of an address. -/
def isAddressChar (c : Char) : Bool :=
  isNameChar c || "#;/?:@&=+$,.!~*'()[]%".toList.contains c

/-- A character of a tag. -/
def isTagChar (c : Char) : Bool := isAddressChar c && !isFlow c && c ≠ '!'

/-- The value of two hexadecimal digits. -/
def byte? (a b : Char) : Option Nat := do
  return 16 * (← hexValue? a) + (← hexValue? b)

/-- The character of a byte by itself. -/
def lowChar? (n : Nat) : Option Char := if n < 0x80 then some (Char.ofNat n) else none

/-- The character of two bytes that belong together, taken as one number. -/
def pairChar? (first second : Nat) : Option Char :=
  if 0xC0 ≤ first ∧ first < 0xE0 ∧ 0x80 ≤ second ∧ second < 0xC0 then
    charOfCode? (256 * first + second)
  else none

/-- The part of a tag or an address that stands here, and the rest. -/
def takeAddress? (isPart : Char → Bool) : List Char → Option (List Char × List Char)
  | [] => some ([], [])
  | '%' :: a :: b :: '%' :: c :: d :: text => do
      let first ← byte? a b
      if first < 0x80 then
        let x ← lowChar? first
        (takeAddress? isPart ('%' :: c :: d :: text)).map (prepend x)
      else
        let x ← pairChar? first (← byte? c d)
        (takeAddress? isPart text).map (prepend x)
  | '%' :: a :: b :: text => do
      let x ← lowChar? (← byte? a b)
      (takeAddress? isPart text).map (prepend x)
  | c :: text =>
      if c = '%' then none
      else if isPart c then (takeAddress? isPart text).map (prepend c)
      else some ([], c :: text)

/-- The letters and, if it is there, the exclamation mark of a handle, and the rest. -/
def takeHandle (text : List Char) : List Char × List Char :=
  let name := text.takeWhile isNameChar
  match text.dropWhile isNameChar with
  | '!' :: rest => (name ++ ['!'], rest)
  | rest => (name, rest)

/-- The tag that is written out in full, and the rest. -/
def takeFullTag? (text : List Char) : Option (Token × List Char) := do
  match ← takeAddress? isAddressChar text with
  | (address, '>' :: rest) => some (.tag "" (String.ofList address), rest)
  | _ => none

/-- The tag that begins with a handle or belongs to the document, and the rest. Something has to
follow a handle. -/
def takeShortTag? (text : List Char) : Option (Token × List Char) := do
  let (name, behind) := takeHandle text
  let (found, rest) ← takeAddress? isTagChar behind
  if name.getLast? = some '!' then
    if found = [] then none
    else some (.tag (String.ofList ('!' :: name)) (String.ofList found), rest)
  else
    let suffix := String.ofList (name ++ found)
    return (if suffix = "" then .tag "" "!" else .tag "!" suffix, rest)

/-- The tag behind its first exclamation mark, and the rest. A word has to end behind it or, between
brackets, a mark to follow. -/
def takeTag? (inFlow : Bool) (text : List Char) : Option (Token × List Char) := do
  let (tag, rest) ←
    match text with
    | '<' :: address => takeFullTag? address
    | _ => takeShortTag? text
  if endsWord rest || (inFlow && begins isFlow rest) then some (tag, rest) else none

/-! ## Directives -/

/-- One of the two numbers of a version, of at most nine digits; the rest behind it. -/
def dropVersionNumber? (text : List Char) : Option (List Char) :=
  let size := (text.takeWhile isAsciiDigit).length
  if 1 ≤ size ∧ size ≤ 9 then some (text.drop size) else none

/-- The version that a document is written for, and the rest. -/
def takeVersion? (text : List Char) : Option (Token × List Char) := do
  match ← dropVersionNumber? (text.dropWhile isSpace) with
  | '.' :: minor => return (.version, ← dropVersionNumber? minor)
  | _ => none

/-- What a handle of tags stands for, and the rest. -/
def takeMeaning? (text : List Char) : Option (List Char × List Char) :=
  match text with
  | '!' :: name => (takeAddress? isAddressChar name).map (prepend '!')
  | c :: _ => if isTagChar c then takeAddress? isAddressChar text else none
  | [] => none

/-- The handle of a directive, and the rest. -/
def takeDirectiveHandle? : List Char → Option (List Char × List Char)
  | '!' :: text =>
      let (name, rest) := takeHandle text
      if name = [] ∨ name.getLast? = some '!' then some ('!' :: name, rest) else none
  | _ => none

/-- The directive for a handle of tags, and the rest. -/
def takeTagDirective? (text : List Char) : Option (Token × List Char) := do
  let (handle, behind) ← takeDirectiveHandle? (text.dropWhile isSpace)
  let (meaning, rest) ← takeMeaning? (behind.dropWhile isSpace)
  if endsWord rest then
    some (.tagDirective (String.ofList handle) (String.ofList meaning), rest)
  else none

/-- The directive behind its percent sign, and the rest. Directives of other names mean nothing. -/
def takeDirective? (text : List Char) : Option (Token × List Char) :=
  let name := text.takeWhile isNameChar
  let behind := text.dropWhile isNameChar
  if name = [] || !endsWord behind then none
  else if name = "YAML".toList then takeVersion? behind
  else if name = "TAG".toList then takeTagDirective? behind
  else some (.tagDirective "" "", behind.dropWhile (fun c => !isBreak c))

end Yaml

end Rulebook
