import Rulebook.Json.Reader
import Rulebook.Row.Codec
import Rulebook.RuleSet.Codec
import Rulebook.Host
import Rulebook.Workbook

/-!
# Snapshots

A `Snapshot` is what is stored of a workbook: rows, drafts of the rules, their order, the group key
and the field to add up. `Workbook.restore` checks a snapshot and makes a workbook of it, with
labels and summary put right. In JSON a snapshot is a record whose fields may all be left out.
-/

set_option autoImplicit false

namespace Rulebook

open Json

/-- What is stored of a workbook. -/
structure Snapshot where
  rows : List Row
  drafts : List Draft
  order : List Nat
  groupFields : List String
  sumField : Option String
deriving DecidableEq, Repr

namespace Snapshot

/-- The names of the fields in order. -/
def fieldNames : List String := ["rows", "rules", "rule_order", "group_fields", "sum_field"]

/-- The snapshot as a JSON value. -/
def toJson (s : Snapshot) : Json :=
  .object [("rows", .array (s.rows.map Row.toJson)),
    ("rules", .array (s.drafts.map Draft.toJson)),
    ("rule_order", .array (s.order.map fun (slot : Nat) => .integer slot)),
    ("group_fields", Json.ofStrings s.groupFields),
    ("sum_field", s.sumField.elim .null .string)]

/-- The snapshot that a JSON value is. -/
def ofJson? (j : Json) : Option Snapshot := do
  match ← j.record? fieldNames with
  | [rows, drafts, order, groupFields, sumField] =>
      let rows ← optional? (list? Row.ofJson?) [] rows
      let drafts ← optional? (list? Draft.ofJson?) [] drafts
      let order ← optional? (list? nat?) [] order
      let groupFields ← optional? (list? string?) [] groupFields
      let sumField ← optional? (nullable? string?) none sumField
      return ⟨rows, drafts, order, groupFields, sumField⟩
  | _ => none

/-- The text under which a snapshot is stored. -/
def render (s : Snapshot) : String := s.toJson.pretty

/-- The snapshot that a text holds. -/
def read? (text : String) : Option Snapshot := (Json.read? text).bind ofJson?

end Snapshot

namespace Workbook

/-- What is stored of a workbook. -/
def snapshot (wb : Workbook) : Snapshot :=
  ⟨wb.rows, wb.rules.drafts, wb.rules.order, wb.groupKey.fields, wb.sumField⟩

/-- The group key of stored fields; none at all stand for the usual key. -/
def storedKey (fields : List String) : Except Rejection GroupKey :=
  if fields = [] then .ok .standard else GroupKey.ofFields fields

/-- The workbook of a snapshot before any pass. -/
def assemble (s : Snapshot) : Except Fault Workbook := do
  let rules ← RuleSet.restore s.drafts s.order
  let key ← (storedKey s.groupFields).mapError .rejected
  return ⟨s.rows, rules, key, namedField s.sumField, []⟩

/-- The workbook of a snapshot. -/
def restore (s : Snapshot) : Except Fault Workbook := (assemble s).map recompute

/-- The workbook of a stored text before any pass. -/
def assembleText (text : String) : Except Fault Workbook :=
  match Snapshot.read? text with
  | none => .error .unreadableJson
  | some s => assemble s

/-- The workbook of a file before any pass, nothing if there is no file. -/
def assembleFile (file : Contents) : Except Fault (Option Workbook) :=
  match file with
  | .absent => .ok none
  | .text s => (assembleText s).map some
  | .garbled | .inaccessible => .error .inaccessibleFile

/-- The workbook of a file. Where there is none, the workbook is empty. -/
def ofFile (file : Contents) : Except Fault Workbook :=
  (assembleFile file).map fun found => found.elim empty recompute

end Workbook

end Rulebook
