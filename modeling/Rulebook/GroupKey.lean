import Rulebook.Fault
import Rulebook.Row

/-!
# Group keys

A `GroupKey` lists the fields by which rows are grouped: at least one, none twice. The order of the
fields is that of the columns of a summary.
-/

set_option autoImplicit false

namespace Rulebook

/-- Fields by which rows are grouped. -/
structure GroupKey where
  fields : List String
deriving DecidableEq, Repr

/-- The first entry that repeats one seen before. -/
def firstRepeated? (seen : List String) : List String → Option String
  | [] => none
  | s :: rest => if s ∈ seen then some s else firstRepeated? (s :: seen) rest

/-- Appends an entry unless it is there. -/
def appendNew (entries : List String) (s : String) : List String :=
  if s ∈ entries then entries else entries ++ [s]

namespace GroupKey

/-- The key of the fields given. -/
def ofFields (fields : List String) : Except Rejection GroupKey :=
  if fields = [] then .error .emptyGroupKey
  else
    match firstRepeated? [] fields with
    | some field => .error (.duplicateGroupField field)
    | none => .ok ⟨fields⟩

/-- Rows are grouped by their label unless something else is asked for. -/
def standard : GroupKey := ⟨[Row.ruleColumn]⟩

/-- The key after another selection of fields: fields that stay keep their order, new ones follow in
the order of their selection. -/
def reselect (key : GroupKey) (selection : List String) : Except Rejection GroupKey :=
  ofFields (selection.foldl appendNew (key.fields.filter selection.contains))

end GroupKey

end Rulebook
