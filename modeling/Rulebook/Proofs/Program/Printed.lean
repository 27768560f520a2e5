import Rulebook.Proofs.Program.Outcome

/-!
# The summary that a run prints

A run prints a document of its workbook. The items of its second member are the rows of the summary
in order, each as an object that says what `Prints` asks for (`printed_summary`).

To sort the members of an object is to keep one member for each name. A row of a summary has both
the values of the group fields and the count among its members, so a group field that is named as
the count is printed without its value. Columns can have this name (`counted`).
-/

set_option autoImplicit false

namespace Rulebook

open Json Workbook

namespace Program

variable {σ : Type} {host : Host (StateM σ)} {env : Environment} {arguments : List String}
  {line : CommandLine} {before after : σ} {ending : Ending}

/-- A successful run with arguments prints the workbook that it has. -/
theorem exists_report_of_run (hhost : host.Faithful)
    (hline : CommandLine.parse arguments = .ok line)
    (hrun : (run host env arguments).run before = (ending, after)) (hstatus : ending.status = 0) :
    ∃ wb, produce (effective host env line before)
        (host.found (effective host env line before).snapshotPath before) = .ok wb ∧
      ending.printed = report wb := by
  rw [run_eq_execute hhost env hline] at hrun
  cases hproduce : produce (effective host env line before)
      (host.found (effective host env line before).snapshotPath before) with
  | error failure =>
      obtain ⟨rfl, -⟩ := Prod.mk.inj ((execute_of_error hhost hproduce).symm.trans hrun)
      cases hstatus
  | ok wb =>
      obtain ⟨hprinted, -⟩ := execute_of_ok hhost hproduce hrun
      exact ⟨wb, rfl, hprinted⟩

/-- A successful run with arguments prints a document with the summary of its workbook: one object
for each row, in order. The object has the values of the group fields under their names, the count
under `Count`, and under `Sum` the sum, if a field is added up; but a field with the name of the
count, or of a sum that is there, is printed without its value. As long as the rows can be counted
in a machine word, the text is read as this document. -/
theorem printed_summary (hhost : host.Faithful) (hline : CommandLine.parse arguments = .ok line)
    (hrun : (run host env arguments).run before = (ending, after)) (hstatus : ending.status = 0) :
    ∃ (wb : Workbook) (rows : List Json) (objects : List (List (String × Json))) (doc : Json),
      produce (effective host env line before)
        (host.found (effective host env line before).snapshotPath before) = .ok wb ∧
      doc = .object [("rows", .array rows), ("summary", .array (objects.map .object))] ∧
      ending.printed = doc.pretty ++ "\n" ∧
      (wb.rows.length ≤ maxWord → read? ending.printed = some doc) ∧
      List.Forall₂ (Prints wb.groupKey wb.sumField) wb.summary objects := by
  obtain ⟨wb, hproduce, hprinted⟩ := exists_report_of_run hhost hline hrun hstatus
  obtain ⟨rows, groups, -, hgroups, htext, hread⟩ := documents_report hproduce
  rw [← hprinted] at htext hread
  exact ⟨wb, rows.map .object, groups, _, hproduce, rfl, htext, hread, hgroups⟩

theorem printed_summary_shelf :
    ∃ (ending : Ending) (after : Folder) (wb : Workbook) (rows : List Json)
        (objects : List (List (String × Json))),
      (run Folder.host salesWanted byRegion).run shelf = (ending, after) ∧ ending.status = 0 ∧
      ending.printed = (Json.object [("rows", .array rows),
        ("summary", .array (objects.map .object))]).pretty ++ "\n" ∧
      (wb.rows.length ≤ maxWord → read? ending.printed =
        some (.object [("rows", .array rows), ("summary", .array (objects.map .object))])) ∧
      List.Forall₂ (Prints wb.groupKey wb.sumField) wb.summary objects := by
  obtain ⟨ending, after, hrun⟩ : ∃ ending after,
      (run Folder.host salesWanted byRegion).run shelf = (ending, after) :=
    ⟨_, _, (Prod.eta _).symm⟩
  obtain ⟨hending, -⟩ := run_shelf
  rw [hrun] at hending
  have hstatus : ending.status = 0 := congrArg Ending.status hending
  obtain ⟨wb, rows, objects, doc, -, rfl, hprinted, hread, hobjects⟩ :=
    printed_summary Folder.faithful_host parse_byRegion hrun hstatus
  exact ⟨ending, after, wb, rows, objects, hrun, hstatus, hprinted, hread, hobjects⟩

/-! ## A field named as the count -/

/-- A folder with a snapshot of one row that has a column with the name of the count. -/
def ledger : Folder :=
  .ofTexts [("book.json", "\x7b\"rows\": [\x7b\"Count\": \"3\"\x7d], \"rules\": [], " ++
    "\"rule_order\": []\x7d")]

/-- Arguments that ask for the values of this column. -/
def byCount : List String := ["book.json", "-gCount"]

/-- The workbook of the run: one row, of which one group is made. -/
def counted : Workbook :=
  ⟨[.ofCells [("Count", "3"), ("Rule", "")]], .empty, ⟨["Count"]⟩, none,
    [⟨[("Count", "3")], 1, none⟩]⟩

theorem stored?_ledger : Snapshot.stored? (ledger.read "book.json") =
    some ⟨[.ofCells [("Count", "3")]], [], [], [], none⟩ := by
  decide +kernel

theorem effective_ledger :
    effective Folder.host [] ⟨some "book.json", ["Count"], none, false⟩ ledger =
      ⟨"book.json", ["Count"], none, false⟩ := by
  decide +kernel

theorem produce_ledger :
    produce ⟨"book.json", ["Count"], none, false⟩ (ledger.read "book.json") = .ok counted :=
  produce_eq_ok_iff.2 ⟨_, _, stored?_ledger, rfl, by decide, rfl⟩

/-- A run by a column with the name of the count succeeds. The document that it prints does not hold
the value of the column: the count has taken its place. -/
theorem printed_ledger :
    (run Folder.host [] byCount).run ledger = (⟨0, report counted, none⟩, ledger) ∧
      produce ⟨"book.json", ["Count"], none, false⟩ (ledger.read "book.json") = .ok counted ∧
      counted.summary.map (fun group => group.value? "Count") = [some "3"] ∧
      ∃ (rows : List Json) (objects : List (List (String × Json))),
        read? (report counted) =
          some (.object [("rows", .array rows), ("summary", .array (objects.map .object))]) ∧
        ¬ List.Forall₂ (fun group members => ∀ field ∈ counted.groupKey.fields,
          ∃ text, group.value? field = some text ∧
            member? members field = some (some (.string text))) counted.summary objects := by
  have hcount : ∀ group ∈ counted.summary, group.count ≤ maxWord := by decide
  refine ⟨?_, produce_ledger, by decide, _, _, read?_report hcount, ?_⟩
  · have hline : CommandLine.parse byCount = .ok ⟨some "book.json", ["Count"], none, false⟩ := rfl
    rw [run_eq_execute Folder.faithful_host [] hline, effective_ledger]
    exact execute_of_reading Folder.faithful_host produce_ledger rfl
  · -- under the name of the column stands the count, and that is no text
    intro h
    obtain ⟨hkey, hsummary⟩ := summary_of_produce produce_ledger
    have hgroup : (⟨[("Count", "3")], 1, none⟩ : SummaryRow) ∈
        summarize counted.rows counted.groupKey counted.sumField :=
      hsummary ▸ List.mem_cons_self
    cases h with
    | cons hvalues _ =>
        obtain ⟨text, -, hmember⟩ := hvalues "Count" List.mem_cons_self
        cases hmember.symm.trans (SummaryRow.prints_printed hkey hgroup).count

end Program

end Rulebook
