import Rulebook.Json
import Rulebook.Setting

/-!
# Settings in JSON

`Setting.ofJson` takes a JSON value as a setting: null is a place without a value.
-/

set_option autoImplicit false

namespace Rulebook

namespace Setting

mutual

/-- A JSON value as a setting. -/
def ofJson : Json → Setting
  | .null | .unreadable => .nil
  | .bool b => .flag b
  | .integer n => .whole n
  | .real x => .real x
  | .string s => .text s
  | .array items => .list (ofItems items)
  | .object members => .table (ofMembers [] members)

/-- JSON values as settings. -/
def ofItems : List Json → List Setting
  | [] => []
  | item :: items => ofJson item :: ofItems items

/-- Members of an object as entries, behind those there are. Of two with the same name the later one
counts. -/
def ofMembers (entries : List (String × Setting)) :
    List (String × Json) → List (String × Setting)
  | [] => entries
  | (name, value) :: members =>
      ofMembers (put name (ofJson value) entries) members

end

end Setting

end Rulebook
