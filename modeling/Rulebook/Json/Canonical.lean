import Rulebook.Json

/-!
# Canonical order of members

`Json.canonical` sorts the members of every object by name and keeps the last of those that share
one. The order is that of the characters' codes, which is also the order of their UTF-8 bytes.
-/

set_option autoImplicit false

namespace Rulebook

namespace Json

/-- Puts a member into sorted members, in place of one with its name. -/
def insertMember (name : String) (value : Json) : List (String × Json) → List (String × Json)
  | [] => [(name, value)]
  | m :: members =>
      if name < m.1 then (name, value) :: m :: members
      else if name = m.1 then (name, value) :: members
      else m :: insertMember name value members

mutual

/-- The value with sorted members throughout. -/
def canonical : Json → Json
  | .array items => .array (canonicalItems items)
  | .object members => .object (canonicalMembers [] members)
  | .null => .null
  | .bool value => .bool value
  | .integer value => .integer value
  | .real value => .real value
  | .string value => .string value
  | .unreadable => .unreadable

/-- All items in canonical form. -/
def canonicalItems : List Json → List Json
  | [] => []
  | item :: items => canonical item :: canonicalItems items

/-- Puts members in canonical form into those sorted so far. -/
def canonicalMembers (sorted : List (String × Json)) :
    List (String × Json) → List (String × Json)
  | [] => sorted
  | (name, value) :: members =>
      canonicalMembers (insertMember name (canonical value) sorted) members

end

end Json

end Rulebook
