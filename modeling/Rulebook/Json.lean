/-!
# JSON values

`Json` is the data of a JSON text: members keep their order and repetitions, whole numbers that fit
a 64-bit word are kept apart from doubles. A part of a text can be well formed and still denote
nothing, such as a number beyond all doubles or half of a surrogate pair; it reads as `unreadable`,
which does no harm until somebody asks for its value. `Json.isReadable` says that no such part lies
within, and the functions named `…?` take a value of one kind out.
-/

set_option autoImplicit false

namespace Rulebook

/-- A JSON value. -/
inductive Json where
  | null
  | bool (value : Bool)
  | integer (value : Int)
  | real (value : Float)
  | string (value : String)
  | array (items : List Json)
  | object (members : List (String × Json))
  | unreadable

namespace Json

mutual

/-- No part of the value is unreadable. -/
def isReadable : Json → Bool
  | .unreadable => false
  | .array items => allReadable items
  | .object members => membersReadable members
  | _ => true

/-- All items are readable. -/
def allReadable : List Json → Bool
  | [] => true
  | item :: items => isReadable item && allReadable items

/-- All member values are readable. -/
def membersReadable : List (String × Json) → Bool
  | [] => true
  | (_, value) :: members => isReadable value && membersReadable members

end

/-- The text of a string value. -/
def string? : Json → Option String
  | .string s => some s
  | _ => none

/-- A whole number that fits an unsigned 64-bit word. -/
def nat? : Json → Option Nat
  | .integer n => if 0 ≤ n ∧ n < Nat.pow 2 64 then some n.toNat else none
  | _ => none

/-- A number as a double. -/
def float? : Json → Option Float
  | .integer n => some (Float.ofInt n)
  | .real x => some x
  | _ => none

/-- The items of an array, each taken out by `item?`. -/
def list? {α : Type} (item? : Json → Option α) : Json → Option (List α)
  | .array items => items.mapM item?
  | _ => none

/-- A value that may be null. -/
def nullable? {α : Type} (value? : Json → Option α) : Json → Option (Option α)
  | .null => some none
  | j => (value? j).map some

/-- An array of strings. -/
def ofStrings (strings : List String) : Json := .array (strings.map .string)

end Json

end Rulebook
