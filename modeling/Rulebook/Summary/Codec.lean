import Rulebook.Json.Record
import Rulebook.Summary

/-!
# Summaries in JSON

A row of a summary is an object: the fields of the key, `Sum` if a column is added up, and `Count`.
A field that bears one of these two names is written all the same. A finite sum is written as the
signed 64-bit word nearest to it (`wholeWord?`), any other as null.
-/

set_option autoImplicit false

namespace Rulebook

/-! ## Doubles as words -/

/-- The value of a whole finite double; the part behind the point is cut off. -/
def wholeValue (negative : Bool) (mantissa : Nat) (exponent : Int) : Int :=
  signedMantissa negative (mantissa * Nat.pow 2 exponent.toNat / Nat.pow 2 (-exponent).toNat)

/-- The least and the greatest signed 64-bit word. -/
def wordBounds : Int × Int := (-(Nat.pow 2 63), Nat.pow 2 63 - 1)

/-- A finite double as a signed 64-bit word: what lies beyond the words becomes the last of them. -/
def wholeWord? (x : Float) : Option Int :=
  match Binary.ofFloat x with
  | .finite negative mantissa exponent =>
      some (max wordBounds.1 (min wordBounds.2 (wholeValue negative mantissa exponent)))
  | _ => none

/-! ## JSON values -/

/-- A sum as a JSON value. -/
def sumJson (x : Float) : Json :=
  match wholeWord? x with
  | some n => .integer n
  | none => .null

/-- The row of a summary as a JSON value. -/
def SummaryRow.toJson (group : SummaryRow) : Json :=
  .object (group.keys.map (fun entry => (entry.1, .string entry.2))
    ++ (group.sum.map fun x => ("Sum", sumJson x)).toList
    ++ [("Count", .integer group.count)])

/-- The key as a JSON value. -/
def GroupKey.toJson (key : GroupKey) : Json := Json.ofStrings key.fields

/-- The key that a JSON value is. -/
def GroupKey.ofJson? (j : Json) : Option GroupKey := do
  let fields ← j.list? Json.string?
  (GroupKey.ofFields fields).toOption

end Rulebook
