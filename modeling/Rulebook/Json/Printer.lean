import Rulebook.Json.Number
import Rulebook.Json.Quoted

/-!
# Writing JSON

`Json.compact` writes a value without any blank, `Json.pretty` one member or item a line, indented
by two spaces a level.
-/

set_option autoImplicit false

namespace Rulebook

namespace Json

/-- Texts with a separator between them. -/
def separated (separator : List Char) : List (List Char) → List Char
  | [] => []
  | [text] => text
  | text :: texts => text ++ separator ++ separated separator texts

mutual

/-- The text of a value without blanks. -/
def compactChars : Json → List Char
  | .null => ['n', 'u', 'l', 'l']
  | .bool true => ['t', 'r', 'u', 'e']
  | .bool false => ['f', 'a', 'l', 's', 'e']
  | .integer n => plainWhole n
  | .real x => realText x
  | .string s => quoted s
  | .array items => '[' :: separated [','] (compactItems items) ++ [']']
  | .object members => '\x7b' :: separated [','] (compactMembers members) ++ ['\x7d']
  | .unreadable => ['n', 'u', 'l', 'l']

/-- The texts of items. -/
def compactItems : List Json → List (List Char)
  | [] => []
  | item :: items => compactChars item :: compactItems items

/-- The texts of members. -/
def compactMembers : List (String × Json) → List (List Char)
  | [] => []
  | (name, value) :: members =>
      (quoted name ++ ':' :: compactChars value) :: compactMembers members

end

/-- A new line at the given level. -/
def newLine (level : Nat) : List Char := '\n' :: List.replicate (2 * level) ' '

/-- Parts between brackets, each on a line of its own one level deeper. -/
def block (opening closing : Char) (level : Nat) : List (List Char) → List Char
  | [] => [opening, closing]
  | parts =>
      opening :: newLine (level + 1) ++ separated (',' :: newLine (level + 1)) parts
        ++ newLine level ++ [closing]

mutual

/-- The text of a value at the given level. -/
def prettyChars (level : Nat) : Json → List Char
  | .array items => block '[' ']' level (prettyItems (level + 1) items)
  | .object members => block '\x7b' '\x7d' level (prettyMembers (level + 1) members)
  | .null => compactChars .null
  | .bool value => compactChars (.bool value)
  | .integer value => compactChars (.integer value)
  | .real value => compactChars (.real value)
  | .string value => compactChars (.string value)
  | .unreadable => compactChars .unreadable

/-- The texts of items at the given level. -/
def prettyItems (level : Nat) : List Json → List (List Char)
  | [] => []
  | item :: items => prettyChars level item :: prettyItems level items

/-- The texts of members at the given level. -/
def prettyMembers (level : Nat) : List (String × Json) → List (List Char)
  | [] => []
  | (name, value) :: members =>
      (quoted name ++ ':' :: ' ' :: prettyChars level value) :: prettyMembers level members

end

/-- The compact text of a value. -/
def compact (j : Json) : String := String.ofList (compactChars j)

/-- The indented text of a value. -/
def pretty (j : Json) : String := String.ofList (prettyChars 0 j)

end Json

end Rulebook
