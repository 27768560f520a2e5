import Rulebook.Proofs.Program.Produced
import Rulebook.Proofs.Summary.Codec

/-!
# The document of a workbook

What is printed of a workbook is one document, in which all members are sorted by name: its rows and
its summary, one object for each row and for each group (`report_eq`). The document is JSON and
stands in the text with a new line behind it (`read?_report`). `Documents` says so of a text without
naming how it is made, and the text that a run prints is a document of its workbook
(`documents_report`).
-/

set_option autoImplicit false

namespace Rulebook

open Json Workbook

/-! ## Printed rows -/

/-- The members of the object that is printed for a row. -/
def Row.printed (row : Row) : List (String × Json) := row.toJson.canonical.members

/-- What the object printed for a row says of it: under the name of each column the text of its
cell, and nothing under any other name. The names ascend. -/
structure PrintsRow (row : Row) (members : List (String × Json)) : Prop where
  sorted : Sorted members
  cell : ∀ column, member? members column = some ((row.get? column).map .string)

theorem Row.printsRow_printed {row : Row} (h : row.columns.Nodup) : PrintsRow row row.printed := by
  refine ⟨sorted_canonicalMembers _ .nil, ?_⟩
  intro column
  have hmembers : row.printed =
      canonicalMembers [] (row.cells.map fun cell => (cell.1, .string cell.2)) := rfl
  rw [hmembers, member?_canonicalMembers, lastValue?_strings h, Row.get?]
  simp [Function.comp_def, canonical]

namespace Program

/-! ## Documents -/

/-- The document of objects for rows and for groups. -/
def documentOf (rows groups : List (List (String × Json))) : Json :=
  .object [("rows", .array (rows.map .object)), ("summary", .array (groups.map .object))]

/-- A text is a document of a workbook: indented JSON with an object for each row and for each group
in order, and a new line. As long as the rows can be counted in a machine word, it is read as
such. -/
def Documents (wb : Workbook) (text : String) : Prop :=
  ∃ rows groups, List.Forall₂ PrintsRow wb.rows rows ∧
    List.Forall₂ (Prints wb.groupKey wb.sumField) wb.summary groups ∧
    text = (documentOf rows groups).pretty ++ "\n" ∧
    (wb.rows.length ≤ maxWord → read? text = some (documentOf rows groups))

variable {wb : Workbook}

/-- The document that a run prints. -/
def document (wb : Workbook) : Json :=
  documentOf (wb.rows.map Row.printed) (wb.summary.map SummaryRow.printed)

/-- The members of the document stand in their order already. -/
theorem canonical_document (rows summary : Json) :
    (Json.object [("rows", rows), ("summary", summary)]).canonical =
      .object [("rows", rows.canonical), ("summary", summary.canonical)] := by
  have hbehind : ¬ "summary" < "rows" := by decide
  simp [canonical, canonicalMembers, insertMember, hbehind]

theorem report_eq (wb : Workbook) : report wb = (document wb).pretty ++ "\n" := by
  have hrows : (Json.array (wb.rows.map Row.toJson)).canonical =
      .array ((wb.rows.map Row.printed).map .object) := by
    rw [canonical, canonicalItems_eq_map, List.map_map, List.map_map]
    rfl
  have hsummary : (Json.array (wb.summary.map SummaryRow.toJson)).canonical =
      .array ((wb.summary.map SummaryRow.printed).map .object) := by
    rw [canonical, canonicalItems_eq_map, List.map_map, List.map_map]
    rfl
  rw [report, canonical_document, hrows, hsummary, document, documentOf]

/-- The document can be written if the counts of the groups are words. -/
theorem writable_document (h : ∀ group ∈ wb.summary, group.count ≤ maxWord) :
    Writable 0 (document wb) := by
  -- the objects in the document have two containers around them, which is far from the limit
  have hdepth : ∀ depth ≤ 2, depth < maxDepth := by
    intro depth hle
    exact Nat.lt_of_le_of_lt hle (by decide)
  refine .object (hdepth 0 (by decide)) ?_
  intro m hm
  rcases List.mem_cons.1 hm with rfl | hm
  · refine .array (hdepth 1 (by decide)) ?_
    intro item hitem
    obtain ⟨members, hmembers, rfl⟩ := List.mem_map.1 hitem
    obtain ⟨row, -, rfl⟩ := List.mem_map.1 hmembers
    exact (Row.writable_toJson (hdepth 2 (by decide)) row).canonical
  · obtain rfl := List.mem_singleton.1 hm
    refine .array (hdepth 1 (by decide)) ?_
    intro item hitem
    obtain ⟨members, hmembers, rfl⟩ := List.mem_map.1 hitem
    obtain ⟨group, hgroup, rfl⟩ := List.mem_map.1 hmembers
    exact (SummaryRow.writable_toJson (hdepth 2 (by decide)) (h group hgroup)).canonical

/-- What is printed is read as the document. -/
theorem read?_report (h : ∀ group ∈ wb.summary, group.count ≤ maxWord) :
    read? (report wb) = some (document wb) := by
  rw [report_eq]
  exact read?_pretty_append (writable_document h) (blanks_newLine 0)

/-! ## The document of a run -/

/-- The workbook of a run is summarized under a valid key. -/
theorem summary_of_produce {s : WorkbookSettings} {found : Contents}
    (h : produce s found = .ok wb) :
    wb.groupKey.Valid ∧ wb.summary = summarize wb.rows wb.groupKey wb.sumField := by
  obtain ⟨snap, opened, -, hrestore, hnodup, rfl⟩ := produce_eq_ok_iff.1 h
  have hreached : Reached snap.rows (asked s opened).recompute :=
    reached_recompute_asked (.restored hrestore) hnodup
  exact ⟨hreached.view.1, hreached.settled.summary_eq⟩

variable {s : WorkbookSettings} {found : Contents}

/-- No group of the summary of a run counts more rows than there are. -/
theorem count_le_of_produce (h : produce s found = .ok wb) :
    ∀ group ∈ wb.summary, group.count ≤ wb.rows.length := by
  intro group hgroup
  obtain ⟨-, hsummary⟩ := summary_of_produce h
  rw [hsummary] at hgroup
  obtain ⟨-, hcount, -⟩ := SummaryRow.of_mem_summarize hgroup
  exact hcount

/-- What a run prints is a document of its workbook. -/
theorem documents_report (h : produce s found = .ok wb) : Documents wb (report wb) := by
  obtain ⟨hkey, hsummary⟩ := summary_of_produce h
  refine ⟨wb.rows.map Row.printed, wb.summary.map SummaryRow.printed, ?_, ?_, report_eq wb, ?_⟩
  · apply List.forall₂_map_right_iff.2
    apply List.forall₂_same.2
    intro row hrow
    exact Row.printsRow_printed (storable_of_produce h |>.columns_nodup row hrow)
  · apply List.forall₂_map_right_iff.2
    apply List.forall₂_same.2
    intro group hgroup
    rw [hsummary] at hgroup
    exact SummaryRow.prints_printed hkey hgroup
  · intro hrows
    exact read?_report fun group hgroup => (count_le_of_produce h group hgroup).trans hrows

end Program

end Rulebook
