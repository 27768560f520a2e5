import Rulebook.Json

/-!
# Records in JSON

A record with named fields is written as an object, and read from an object or from an array of its
fields in order. `Json.record?` finds the fields, `Json.tagged?` first splits off the name of the
variant.
-/

set_option autoImplicit false

namespace Rulebook

namespace Json

/-- The value of the only member of that name: absent, present, or a failure if it is repeated. -/
def member? (members : List (String × Json)) (name : String) : Option (Option Json) :=
  match members.filter (fun m => m.1 = name) with
  | [] => some none
  | [m] => some (some m.2)
  | _ :: _ :: _ => none

/-- The values of the fields of a record, in the order of `names`. An object may hold other members
besides, an array must not be longer than the record. -/
def record? (names : List String) : Json → Option (List (Option Json))
  | .object members => names.mapM (member? members)
  | .array items =>
      if items.length ≤ names.length then
        some (items.map some ++ List.replicate (names.length - items.length) none)
      else none
  | _ => none

/-- A field that has to be there. -/
def required? {α : Type} (value? : Json → Option α) : Option Json → Option α
  | some j => value? j
  | none => none

/-- A field that has a default. -/
def optional? {α : Type} (value? : Json → Option α) (default : α) : Option Json → Option α
  | some j => value? j
  | none => some default

/-- A variant with its tag: the tag is the member `type` of an object or the first item of an array,
the rest holds the fields. -/
def tagged? : Json → Option (String × Json)
  | .object members => do
      let tag ← required? string? (← member? members "type")
      return (tag, .object (members.filter (fun m => m.1 ≠ "type")))
  | .array (tag :: items) => tag.string?.map fun name => (name, .array items)
  | _ => none

/-- The name of a variant without fields: a string, or an object whose single member has no
content. `isEmpty` says what counts as no content. -/
def plainTag? (isEmpty : Json → Bool) : Json → Option String
  | .string s => some s
  | .object [(name, content)] => if isEmpty content then some name else none
  | _ => none

/-- Null. -/
def isNull : Json → Bool
  | .null => true
  | _ => false

/-- Null or an object without members. -/
def isBare : Json → Bool
  | .null => true
  | .object [] => true
  | _ => false

end Json

end Rulebook
