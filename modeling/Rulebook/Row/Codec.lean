import Rulebook.Row
import Rulebook.Json.Canonical
import Rulebook.Json.Printer

/-!
# Rows in JSON

A row is an object of strings in column order. On reading, null stands for the empty cell, and a
value that is no string becomes the compact text of its canonical form.
-/

set_option autoImplicit false

namespace Rulebook

namespace Row

/-- The text of a cell that was given as a JSON value. -/
def cellOfJson? : Json → Option String
  | .null => some ""
  | .string s => some s
  | j => if j.isReadable then some j.canonical.compact else none

/-- The row of the members of an object, put in one after the other. -/
def ofMembers? (members : List (String × Json)) : Option Row :=
  (members.mapM fun m => (cellOfJson? m.2).map fun cell => (m.1, cell)).map ofCells

/-- The row that a JSON object stands for. -/
def ofJson? : Json → Option Row
  | .object members => ofMembers? members
  | _ => none

/-- The row as a JSON object. -/
def toJson (row : Row) : Json := .object (row.cells.map fun cell => (cell.1, .string cell.2))

end Row

end Rulebook
