import Rulebook.Numeral
import Rulebook.Text.Lowercase

/-!
# Rows of a table

A `Row` maps column names to the texts of cells and keeps its columns in the order in which they
came. `Row.insert` and `Row.get?` take column names exactly as they are; conditions name columns in
any case, so `Row.lookup?` first turns a field into the column it stands for.
-/

set_option autoImplicit false

namespace Rulebook

open Text

/-- Cells with their column names, in column order. -/
structure Row where
  cells : List (String × String)
deriving DecidableEq, Repr

/-- Writes a value to its name: in place if the name is there, at the end otherwise. -/
def putCell (column value : String) : List (String × String) → List (String × String)
  | [] => [(column, value)]
  | cell :: cells =>
      if cell.1 = column then (column, value) :: cells else cell :: putCell column value cells

/-- Two column names that differ at most in case, each character taken by itself. -/
def sameColumn (a b : String) : Bool := foldChars a.toList = foldChars b.toList

namespace Row

/-- The row without columns. -/
def empty : Row := ⟨[]⟩

/-- Writes a cell. A column that is already there keeps its place. -/
def insert (row : Row) (column value : String) : Row := ⟨putCell column value row.cells⟩

/-- The row of the cells given; of a repeated column the last value stays, at its first place. -/
def ofCells (cells : List (String × String)) : Row :=
  cells.foldl (fun row cell => row.insert cell.1 cell.2) empty

/-- The cell of a column. -/
def get? (row : Row) (column : String) : Option String :=
  (row.cells.find? fun cell => cell.1 = column).map Prod.snd

/-- The column that a field stands for: the first whose name differs at most in case, the field
itself if there is none. -/
def column (row : Row) (field : String) : String :=
  ((row.cells.find? fun cell => sameColumn cell.1 field).map Prod.fst).getD field

/-- The cell that a field stands for. -/
def lookup? (row : Row) (field : String) : Option String := row.get? (row.column field)

/-- The text that a field stands for, empty if there is none. -/
def text (row : Row) (field : String) : String := (row.lookup? field).getD ""

/-- The number that a cell begins with; a cell that is not there holds none. -/
def cellNumber (cell : Option String) : Float := cell.elim notANumber fun s => parseNumber s.toList

/-- The number that a field stands for. -/
def number (row : Row) (field : String) : Float := cellNumber (row.lookup? field)

/-- The column that holds the name of the first rule that applies. -/
def ruleColumn : String := "Rule"

/-- The label of the row. -/
def label? (row : Row) : Option String := row.get? ruleColumn

/-- The row with another label. -/
def withLabel (row : Row) (label : String) : Row := row.insert ruleColumn label

/-- The column names in order. -/
def columns (row : Row) : List String := row.cells.map Prod.fst

/-- The number of columns. -/
def size (row : Row) : Nat := row.cells.length

/-- Whether the row has no columns. -/
def isEmpty (row : Row) : Bool := row.cells.isEmpty

end Row

end Rulebook
