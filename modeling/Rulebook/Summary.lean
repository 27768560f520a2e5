import Rulebook.Decimal.Shortest
import Rulebook.GroupKey

/-!
# Summaries

`summarize` groups rows by the values of the fields of a key, in the order in which the groups are
first seen, counts the rows of each group and, if asked, adds up the numbers of one column. It goes
through the rows once and keeps one `Tally` for each group. `roundHalfUp` rounds a sum to a whole
number, halves upward; what has no places behind the point stays as it is, minus zero, infinities
and what is no number included.
-/

set_option autoImplicit false

namespace Rulebook

/-! ## Rounding of sums -/

/-- The value of a finite double times `2 ^ places`, where `places` are its binary places. -/
def signedMantissa (negative : Bool) (mantissa : Nat) : Int :=
  if negative then -(mantissa : Int) else mantissa

/-- The whole number nearest to `mantissa / 2 ^ places`, halves upward. -/
def roundedQuotient (mantissa : Int) (places : Nat) : Int :=
  (2 * mantissa + Nat.pow 2 places).fdiv (Nat.pow 2 (places + 1))

/-- The whole number nearest to a double, halves upward. -/
def roundHalfUp (x : Float) : Float :=
  match Binary.ofFloat x with
  | .finite negative mantissa exponent =>
      let places := (-exponent).toNat
      if mantissa % Nat.pow 2 places = 0 then x
      else Float.ofInt (roundedQuotient (signedMantissa negative mantissa) places)
  | _ => x

/-! ## Groups -/

/-- One group of a summary: the fields of the key with their values, the number of rows and the
rounded sum, if a column is added up. -/
structure SummaryRow where
  keys : List (String × String)
  count : Nat
  sum : Option Float

/-- The value under which rows without a value are grouped. -/
def unmatched : String := "Unmatched"

/-- The value of a field by which a row is grouped. -/
def groupValue (row : Row) (field : String) : String :=
  match row.get? field with
  | some value => if value = "" then unmatched else value
  | none => unmatched

/-- The values by which a row is grouped. -/
def groupValues (key : GroupKey) (row : Row) : List String := key.fields.map (groupValue row)

/-- What is known of a group while rows are gone through. -/
structure Tally where
  values : List String
  count : Nat
  total : Float

namespace Tally

/-- The total with a cell added, unless it holds no number. -/
def addCell (total : Float) (cell : Option String) : Float :=
  let x := Row.cellNumber cell
  if x.isNaN then total else total + x

/-- The tally with one more row. -/
def add (sumField : Option String) (row : Row) (tally : Tally) : Tally :=
  { tally with
    count := tally.count + 1
    total := sumField.elim tally.total fun field => addCell tally.total (row.get? field) }

/-- Adds a row with its values to the tally of its group, a new one at the end if it is the
first. -/
def enter (sumField : Option String) (row : Row) (values : List String) :
    List Tally → List Tally
  | [] => [add sumField row ⟨values, 0, 0.0⟩]
  | tally :: tallies =>
      if tally.values = values then add sumField row tally :: tallies
      else tally :: enter sumField row values tallies

/-- The row of a summary. -/
def toRow (key : GroupKey) (sumField : Option String) (tally : Tally) : SummaryRow :=
  ⟨key.fields.zip tally.values, tally.count, sumField.map fun _ => roundHalfUp tally.total⟩

end Tally

/-- The groups of rows under a key. -/
def summarize (rows : List Row) (key : GroupKey) (sumField : Option String) : List SummaryRow :=
  let tallies := rows.foldl (fun ts row => Tally.enter sumField row (groupValues key row) ts) []
  tallies.map (Tally.toRow key sumField)

/-- The value of a field of the key. -/
def SummaryRow.value? (group : SummaryRow) (field : String) : Option String :=
  (group.keys.find? fun entry => entry.1 = field).map Prod.snd

/-! ## Choosing fields -/

/-- The number of different values of a field, where a missing cell counts as an empty one. -/
def cardinality (rows : List Row) (field : String) : Nat :=
  (rows.map fun row => (row.get? field).getD "").eraseDups.length

/-- A field by which rows may be grouped. -/
structure GroupOption where
  field : String
  distinct : Nat
  selectable : Bool
deriving DecidableEq, Repr

/-- The greatest number of values of a field that is worth grouping by. -/
def maxCardinality : Nat := 50

/-- The option that a column is. -/
def columnOption (rows : List Row) (column : String) : GroupOption :=
  let distinct := cardinality rows column
  ⟨column, distinct, distinct ≤ maxCardinality⟩

/-- The fields to choose from: the label, which can always be selected, and the other columns of the
first row apart from the one that is added up. -/
def groupOptions (rows : List Row) (sumField : Option String) : List GroupOption :=
  let columns := (rows.head?.elim [] Row.columns).filter fun column =>
    column ≠ Row.ruleColumn ∧ some column ≠ sumField
  ⟨Row.ruleColumn, cardinality rows Row.ruleColumn, true⟩ :: columns.map (columnOption rows)

end Rulebook
