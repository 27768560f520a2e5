import Rulebook.Json.Number
import Rulebook.Json.Quoted

/-!
# Reading JSON

`Json.read?` reads a whole text strictly: one value, blanks around it, nothing else. Containers
nested more than `maxDepth` deep are well formed but unreadable.
-/

set_option autoImplicit false

namespace Rulebook

namespace Json

open Text

/-- Space, tab, line feed and carriage return. -/
def isGap (c : Char) : Bool := c = ' ' || c = '\t' || c = '\n' || c = '\r'

/-- The text without blanks in front. -/
def skipGap (text : List Char) : List Char := text.dropWhile isGap

/-- The greatest number of containers around a value that can be read. -/
def maxDepth : Nat := 127

/-- A container that has `depth` others around it. -/
def atDepth (depth : Nat) (j : Json) : Json := if depth < maxDepth then j else .unreadable

/-- An object of the members given, if all their names are texts. -/
def ofMembers (members : List (Option String × Json)) : Json :=
  match members.mapM (fun m => m.1.map fun name => (name, m.2)) with
  | some named => .object named
  | none => .unreadable

/-- The word `null`, `true` or `false` at the front of a text. -/
def scanWord? (text : List Char) : Option (Json × List Char) :=
  match dropLiteral? ['n', 'u', 'l', 'l'] text with
  | some rest => some (.null, rest)
  | none =>
      match dropLiteral? ['t', 'r', 'u', 'e'] text with
      | some rest => some (.bool true, rest)
      | none => (dropLiteral? ['f', 'a', 'l', 's', 'e'] text).map fun rest => (.bool false, rest)

mutual

/-- The value at the front of a text, with `depth` containers around it. -/
def scanValue? : Nat → Nat → List Char → Option (Json × List Char)
  | 0, _, _ => none
  | fuel + 1, depth, text =>
      match text with
      | '[' :: inner =>
          match skipGap inner with
          | ']' :: rest => some (atDepth depth (.array []), rest)
          | items => do
              let (values, rest) ← scanItems? fuel (depth + 1) items
              return (atDepth depth (.array values), rest)
      | '\x7b' :: inner =>
          match skipGap inner with
          | '\x7d' :: rest => some (atDepth depth (.object []), rest)
          | members => do
              let (values, rest) ← scanMembers? fuel (depth + 1) members
              return (atDepth depth (ofMembers values), rest)
      | '"' :: inner => do
          let (s, rest) ← scanString? inner
          return (s.elim .unreadable .string, rest)
      | _ => (scanWord? text).or (scanNumber? text)

/-- One or more items up to the closing bracket. -/
def scanItems? : Nat → Nat → List Char → Option (List Json × List Char)
  | 0, _, _ => none
  | fuel + 1, depth, text => do
      let (value, behind) ← scanValue? fuel depth text
      match skipGap behind with
      | ']' :: rest => return ([value], rest)
      | ',' :: more => do
          let (values, rest) ← scanItems? fuel depth (skipGap more)
          return (value :: values, rest)
      | _ => none

/-- One or more members up to the closing brace. -/
def scanMembers? : Nat → Nat → List Char → Option (List (Option String × Json) × List Char)
  | 0, _, _ => none
  | fuel + 1, depth, text =>
      match text with
      | '"' :: inner => do
          let (name, afterName) ← scanString? inner
          match skipGap afterName with
          | ':' :: afterColon => do
              let (value, behind) ← scanValue? fuel depth (skipGap afterColon)
              match skipGap behind with
              | '\x7d' :: rest => return ([(name, value)], rest)
              | ',' :: more => do
                  let (members, rest) ← scanMembers? fuel depth (skipGap more)
                  return ((name, value) :: members, rest)
              | _ => none
          | _ => none
      | _ => none

end

/-- The value of a text. -/
def readChars? (text : List Char) : Option Json := do
  let (value, rest) ← scanValue? (2 * text.length + 1) 0 (skipGap text)
  if skipGap rest = [] then return value else none

/-- The value of a text, unless some part of it is no JSON or denotes nothing. -/
def read? (s : String) : Option Json := readChars? s.toList

end Json

end Rulebook
