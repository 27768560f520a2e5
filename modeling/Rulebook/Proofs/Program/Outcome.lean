import Rulebook.Proofs.Host.Folder
import Rulebook.Proofs.Program.Document
import Rulebook.Proofs.Settings

/-!
# Outcomes of runs

What a run on a faithful host does is settled by its workbook: `execute_of_error`,
`execute_of_reading` and `execute_of_writing` are the three ways in which it can go, and
`execute_of_ok` says what is common to the last two. A run with arguments is such an execution,
since to take settings changes no file (`run_eq_execute`). There is no workbook exactly if the run
`Refuses` what it finds; if there is one, it `Shows` what arguments, settings and snapshot ask for,
in this order. `run_outcome` puts it together: a run that refuses prints nothing and changes no
file, any other prints a document of its workbook, and the text that it writes back is read as the
snapshot of this workbook.
-/

set_option autoImplicit false

namespace Rulebook

open Workbook

variable {σ : Type} {host : Host (StateM σ)}

namespace Program

variable {s : WorkbookSettings} {wb : Workbook} {st : σ}

/-! ## The ways of an execution -/

/-- A run that has no workbook prints nothing and changes no file. -/
theorem execute_of_error (hhost : host.Faithful) {failure : Failure}
    (h : produce s (host.found s.snapshotPath st) = .error failure) :
    (execute host s).run st = (⟨1, "", some failure⟩, st) := by
  rw [execute, StateT.run_bind, hhost.run_read]
  simp only [bind, h]
  rfl

/-- A run that does not write back prints and changes no file. -/
theorem execute_of_reading (hhost : host.Faithful)
    (h : produce s (host.found s.snapshotPath st) = .ok wb) (hback : s.writeBack = false) :
    (execute host s).run st = (⟨0, report wb, none⟩, st) := by
  rw [execute, StateT.run_bind, hhost.run_read]
  simp only [bind, h, hback]
  rfl

/-- A run that writes back has printed already, whether the text can be written or not. -/
theorem execute_of_writing (hhost : host.Faithful)
    (h : produce s (host.found s.snapshotPath st) = .ok wb) (hback : s.writeBack = true)
    {done : Bool} {after : σ}
    (hwrite : (host.write s.snapshotPath wb.snapshot.render).run st = (done, after)) :
    (execute host s).run st =
      (if done then ⟨0, report wb, none⟩
        else ⟨1, report wb, some ⟨writingContext s.snapshotPath, .inaccessibleFile⟩⟩, after) := by
  rw [execute, StateT.run_bind, hhost.run_read]
  rw [StateT.run] at hwrite
  simp only [bind, h, hback, if_true, StateT.run, StateT.bind, hwrite]
  cases done with
  | true => rfl
  | false => rfl

/-- If a run that writes back succeeds, the text was written. -/
theorem write_of_execute (hhost : host.Faithful)
    (h : produce s (host.found s.snapshotPath st) = .ok wb) (hback : s.writeBack = true)
    {ending : Ending} {after : σ}
    (hrun : (execute host s).run st = (ending, after)) :
    ending.printed = report wb ∧ (ending.status = 0 → ending = ⟨0, report wb, none⟩ ∧
      (host.write s.snapshotPath wb.snapshot.render).run st = (true, after)) := by
  obtain ⟨done, written, hwrite⟩ : ∃ done written,
      (host.write s.snapshotPath wb.snapshot.render).run st = (done, written) := ⟨_, _, rfl⟩
  have hexecute := execute_of_writing hhost h hback hwrite
  obtain ⟨rfl, rfl⟩ := Prod.mk.inj (hexecute.symm.trans hrun)
  cases done with
  | true => exact ⟨rfl, fun _ => ⟨rfl, hwrite⟩⟩
  | false => exact ⟨rfl, nofun⟩

/-- A file holds the snapshot of a workbook: as indented JSON, which is found to be the snapshot. -/
structure Holds (wb : Workbook) (file : Contents) : Prop where
  indented : file = .text wb.snapshot.toJson.pretty
  stored : Snapshot.stored? file = some wb.snapshot

theorem holds_render {found : Contents} (h : produce s found = .ok wb) :
    Holds wb (.text wb.snapshot.render) :=
  ⟨rfl, stored?_render h⟩

/-- A run that has a workbook prints a document of it. It succeeds and changes no file if it does
not write back; if it does and succeeds, the file holds the snapshot of the workbook. -/
theorem execute_of_ok (hhost : host.Faithful)
    (h : produce s (host.found s.snapshotPath st) = .ok wb) {ending : Ending} {after : σ}
    (hrun : (execute host s).run st = (ending, after)) :
    ending.printed = report wb ∧ Documents wb ending.printed ∧
      (s.writeBack = false → ending.status = 0 ∧ after = st) ∧
      (s.writeBack = true → ending.status = 0 →
        host.found s.snapshotPath after = .text wb.snapshot.render ∧
          Holds wb (host.found s.snapshotPath after)) := by
  have hdocument := documents_report h
  cases hback : s.writeBack with
  | false =>
      have hexecute := execute_of_reading hhost h hback
      obtain ⟨rfl, rfl⟩ := Prod.mk.inj (hexecute.symm.trans hrun)
      exact ⟨rfl, hdocument, fun _ => ⟨rfl, rfl⟩, nofun⟩
  | true =>
      obtain ⟨hprinted, hwritten⟩ := write_of_execute hhost h hback hrun
      refine ⟨hprinted, hprinted ▸ hdocument, nofun, ?_⟩
      intro _ hstatus
      obtain ⟨-, hwrite⟩ := hwritten hstatus
      -- on a faithful host what was written is found again
      have hfile : host.found s.snapshotPath after = .text wb.snapshot.render :=
        hhost.read_written _ _ _ _ hwrite
      exact ⟨hfile, hfile ▸ holds_render h⟩

/-- The settings of the workbook in a run: those that are taken, unless arguments say otherwise. -/
def effective (host : Host (StateM σ)) (env : Environment) (line : CommandLine) (st : σ) :
    WorkbookSettings :=
  line.override ((loadSettings host env).run st).1.workbook

/-- A run with arguments that can be understood is the execution of the settings that hold. -/
theorem run_eq_execute (hhost : host.Faithful) (env : Environment) {arguments : List String}
    {line : CommandLine} (hline : CommandLine.parse arguments = .ok line) (st : σ) :
    (run host env arguments).run st = (execute host (effective host env line st)).run st := by
  rw [run, hline]
  simp only [StateT.run_bind]
  have hagrees : Agrees st st (loadSettings host env) := agrees_loadSettings hhost fun _ _ => rfl
  obtain ⟨settings, htaken, -⟩ := hagrees
  rw [effective, htaken]
  rfl

/-! ## What a run refuses -/

/-- Why a run with fields to group by has no workbook: the file is there but cannot be read, it
holds no snapshot, it holds one that cannot be restored, or the fields repeat one. -/
inductive Refuses (fields : List String) : Contents → Prop where
  | inaccessible : Refuses fields .inaccessible
  | garbled : Refuses fields .garbled
  | unreadable {text : String} : Snapshot.read? text = none → Refuses fields (.text text)
  | unrestorable {text : String} {snap : Snapshot} {fault : Fault} :
      Snapshot.read? text = some snap → restore snap = .error fault → Refuses fields (.text text)
  | repeated {found : Contents} : ¬ fields.Nodup → Refuses fields found

variable {fields : List String} {found : Contents}

/-- What is not refused is a stored snapshot that can be restored, or no file at all. -/
theorem not_refuses_iff :
    ¬ Refuses fields found ↔ ∃ snap opened, Snapshot.stored? found = some snap ∧
      restore snap = .ok opened ∧ fields.Nodup := by
  constructor
  · intro h
    have hnodup : fields.Nodup := by_contra fun hrepeated => h (.repeated hrepeated)
    cases found with
    | absent => exact ⟨.blank, empty, rfl, restore_blank, hnodup⟩
    | garbled => exact absurd .garbled h
    | inaccessible => exact absurd .inaccessible h
    | text text =>
        cases hread : Snapshot.read? text with
        | none => exact absurd (.unreadable hread) h
        | some snap =>
            cases hrestore : restore snap with
            | error fault => exact absurd (.unrestorable hread hrestore) h
            | ok opened => exact ⟨snap, opened, hread, hrestore, hnodup⟩
  · rintro ⟨snap, opened, hstored, hrestore, hnodup⟩ h
    cases h with
    | inaccessible => cases hstored
    | garbled => cases hstored
    | unreadable hread => cases hread.symm.trans hstored
    | unrestorable hread hfault =>
        obtain rfl := Option.some.inj (hread.symm.trans hstored)
        cases hfault.symm.trans hrestore
    | repeated hrepeated => exact hrepeated hnodup

/-- A run has no workbook exactly if it refuses what it finds. -/
theorem exists_produce_eq_error_iff :
    (∃ failure, produce s found = .error failure) ↔ Refuses s.groupFields found := by
  rw [← not_iff_not, not_refuses_iff]
  constructor
  · intro h
    cases hproduce : produce s found with
    | error failure => exact absurd ⟨failure, hproduce⟩ h
    | ok wb =>
        obtain ⟨snap, opened, hstored, hrestore, hnodup, -⟩ := produce_eq_ok_iff.1 hproduce
        exact ⟨snap, opened, hstored, hrestore, hnodup⟩
  · rintro ⟨snap, opened, hstored, hrestore, hnodup⟩ ⟨failure, hproduce⟩
    have hok := produce_eq_ok_iff.2 ⟨snap, opened, hstored, hrestore, hnodup, rfl⟩
    cases hproduce.symm.trans hok

/-! ## What a run shows -/

/-- The first of several lists of fields that is not empty. If all are, rows are grouped by their
labels. -/
def firstGiven (lists : List (List String)) : List String :=
  (lists.find? fun fields => fields ≠ []).getD [Row.ruleColumn]

theorem firstGiven_cons (fields : List String) (lists : List (List String)) :
    firstGiven (fields :: lists) = if fields = [] then firstGiven lists else fields := by
  by_cases h : fields = []
  · simp [firstGiven, h]
  · simp [firstGiven, h]

/-- The workbook that a run shows: the rows under their new labels, and their summary with what the
arguments ask for, or else the settings, or else the snapshot. The name of a field to add up is
trimmed, and a blank one is none. -/
structure Shows (line : CommandLine) (loaded : WorkbookSettings) (snap : Snapshot)
    (opened wb : Workbook) : Prop where
  rules : wb.rules = opened.rules
  rows : wb.rows = opened.rules.labelRows opened.rows
  groupFields : wb.groupKey.fields =
    firstGiven [line.groupFields, loaded.groupFields, snap.groupFields]
  sumField : wb.sumField =
    ((line.sumField.or (loaded.sumField.or snap.sumField)).map Text.trimString).filter (· ≠ "")
  summary : wb.summary = summarize wb.rows wb.groupKey wb.sumField

variable {line : CommandLine} {loaded : WorkbookSettings} {snap : Snapshot} {opened : Workbook}

/-- The fields of the arguments and then those of the settings are the fields that hold. -/
theorem firstGiven_override (lists : List (List String)) :
    firstGiven (line.groupFields :: loaded.groupFields :: lists) =
      firstGiven ((line.override loaded).groupFields :: lists) := by
  rw [firstGiven_cons, firstGiven_cons, firstGiven_cons, CommandLine.override]
  by_cases hline : line.groupFields = []
  · simp [hline]
  · simp [hline]

theorem shows_asked (hrestore : restore snap = .ok opened) :
    Shows line loaded snap opened (asked (line.override loaded) opened).recompute := by
  obtain ⟨hkey, hsum⟩ := view_of_restore hrestore
  refine ⟨rfl, rfl, ?_, ?_, rfl⟩
  · have hstored : opened.groupKey.fields = firstGiven [snap.groupFields] := by
      rw [hkey, firstGiven_cons]
      rfl
    rw [firstGiven_override, firstGiven_cons, ← hstored]
    apply apply_ite GroupKey.fields
  · change (if (line.sumField.or loaded.sumField).isSome then
      namedField (line.sumField.or loaded.sumField) else opened.sumField) = _
    rw [hsum, ← namedField_eq, ← Option.or_assoc]
    cases line.sumField.or loaded.sumField with
    | none => rfl
    | some field => rfl

/-- Without any list given, the label is the only field, so only a list that is given can repeat
one. -/
theorem refuses_override_iff :
    Refuses (line.override loaded).groupFields found ↔
      Refuses (firstGiven [line.groupFields, loaded.groupFields]) found := by
  rw [← not_iff_not, not_refuses_iff, not_refuses_iff, firstGiven_override, firstGiven_cons]
  by_cases hnone : (line.override loaded).groupFields = []
  · simp [hnone, firstGiven]
  · simp [hnone]

/-- What is not refused gives a workbook that shows what was asked for, an empty one if there is no
file. -/
theorem exists_shows (h : ¬ Refuses (line.override loaded).groupFields found) :
    ∃ snap opened wb, Snapshot.stored? found = some snap ∧ restore snap = .ok opened ∧
      Shows line loaded snap opened wb ∧ (found = .absent → wb.rows = [] ∧ wb.rules = .empty) ∧
      produce (line.override loaded) found = .ok wb := by
  obtain ⟨snap, opened, hstored, hrestore, hnodup⟩ := not_refuses_iff.1 h
  refine ⟨snap, opened, _, hstored, hrestore, shows_asked hrestore, ?_,
    produce_eq_ok_iff.2 ⟨snap, opened, hstored, hrestore, hnodup, rfl⟩⟩
  rintro rfl
  obtain rfl := Option.some.inj hstored
  obtain rfl := Except.ok.inj hrestore
  exact ⟨rfl, rfl⟩

/-! ## Outcomes -/

/-- Let a run with arguments end, and let the settings that were taken and what was found at the
path of the snapshot be given. A run that refuses what it found fails, prints nothing and changes no
file, whether it is told to write back or not. Any other run has the workbook of the stored
snapshot, an empty one where there is no file, seen as arguments, settings and snapshot ask for, and
prints a document of it. If it is not told to write back, it succeeds and changes no file. If it is
told to and succeeds, the file holds the snapshot of the workbook that was printed. -/
theorem run_outcome (hhost : host.Faithful) {env : Environment} {arguments : List String}
    (hline : CommandLine.parse arguments = .ok line) {before after : σ} {ending : Ending}
    (hloaded : ((loadSettings host env).run before).1.workbook = loaded)
    (hfound : host.found (line.snapshot.getD loaded.snapshotPath) before = found)
    (hrun : (run host env arguments).run before = (ending, after)) :
    (Refuses (firstGiven [line.groupFields, loaded.groupFields]) found →
      ending.status ≠ 0 ∧ ending.printed = "" ∧ after = before) ∧
    (¬ Refuses (firstGiven [line.groupFields, loaded.groupFields]) found →
      ∃ snap opened wb, Snapshot.stored? found = some snap ∧ restore snap = .ok opened ∧
        Shows line loaded snap opened wb ∧ (found = .absent → wb.rows = [] ∧ wb.rules = .empty) ∧
        ending.printed = report wb ∧ Documents wb ending.printed ∧
        ((line.writeBack || loaded.writeBack) = false → ending.status = 0) ∧
        ((line.writeBack || loaded.writeBack) = true → ending.status = 0 →
          host.found (line.snapshot.getD loaded.snapshotPath) after =
            .text wb.snapshot.render ∧
          Holds wb (host.found (line.snapshot.getD loaded.snapshotPath) after))) ∧
    ((line.writeBack || loaded.writeBack) = false → after = before) := by
  have hfile : host.found (line.override loaded).snapshotPath before = found := hfound
  rw [run_eq_execute hhost env hline, effective, hloaded] at hrun
  rw [← refuses_override_iff]
  by_cases hrefuses : Refuses (line.override loaded).groupFields found
  · obtain ⟨failure, hproduce⟩ := exists_produce_eq_error_iff.2 hrefuses
    rw [← hfile] at hproduce
    obtain ⟨rfl, rfl⟩ := Prod.mk.inj ((execute_of_error hhost hproduce).symm.trans hrun)
    exact ⟨fun _ => ⟨Nat.one_ne_zero, rfl, rfl⟩, fun h => absurd hrefuses h, fun _ => rfl⟩
  · obtain ⟨snap, opened, wb, hstored, hrestore, hshows, habsent, hproduce⟩ :=
      exists_shows hrefuses
    rw [← hfile] at hproduce
    obtain ⟨hprinted, hdocument, hread, hwritten⟩ := execute_of_ok hhost hproduce hrun
    refine ⟨fun h => absurd h hrefuses, fun _ => ?_, fun hback => (hread hback).2⟩
    exact ⟨snap, opened, wb, hstored, hrestore, hshows, habsent, hprinted, hdocument,
      fun hback => (hread hback).1, hwritten⟩

/-- A folder with a snapshot of one row and one rule. -/
def shelf : Folder :=
  .ofTexts [("book.json", "\x7b\"rows\": [\x7b\"Region\": \"North\"\x7d], " ++
    "\"rules\": [\x7b\"name\": \"north\", \"text\": \"Region is North\"\x7d], " ++
    "\"rule_order\": [0], \"sum_field\": \"Cost\"\x7d")]

theorem stored?_shelf : Snapshot.stored? (shelf.read "book.json") =
    some ⟨[.ofCells [("Region", "North")]], [⟨"north", "Region is North"⟩], [0], [],
      some "Cost"⟩ := by
  decide +kernel

/-- Variables that say where settings are and ask for the sum of the sales. -/
def salesWanted : Environment :=
  [("CONFIG_DIR", "c"), ("ROWRULE_ENV", "e"), ("ROWRULE_WORKBOOK__SUM_FIELD", "Sales")]

theorem loadSettings_shelf : ((loadSettings Folder.host salesWanted).run shelf).1.workbook =
    ⟨"workbook.json", [], some "Sales", false⟩ := by
  decide +kernel

/-- Arguments that ask for the regions, and for the file to be written back. -/
def byRegion : List String := ["book.json", "-gRegion", "--write-back"]

theorem parse_byRegion :
    CommandLine.parse byRegion = .ok ⟨some "book.json", ["Region"], none, true⟩ := rfl

/-- What the run prints: the row with its label, and the one group that there is. -/
def printedShelf : String :=
  "\n".intercalate
    ["\x7b", "  \"rows\": [", "    \x7b", "      \"Region\": \"North\",",
      "      \"Rule\": \"north\"", "    \x7d", "  ],", "  \"summary\": [", "    \x7b",
      "      \"Count\": 1,", "      \"Region\": \"North\",", "      \"Sum\": 0", "    \x7d",
      "  ]", "\x7d", ""]

/-- What the run leaves in the file. -/
def storedShelf : String :=
  "\n".intercalate
    ["\x7b", "  \"rows\": [", "    \x7b", "      \"Region\": \"North\",",
      "      \"Rule\": \"north\"", "    \x7d", "  ],", "  \"rules\": [", "    \x7b",
      "      \"name\": \"north\",", "      \"text\": \"Region is North\"", "    \x7d", "  ],",
      "  \"rule_order\": [", "    0", "  ],", "  \"group_fields\": [", "    \"Region\"", "  ],",
      "  \"sum_field\": \"Sales\"", "\x7d"]

theorem run_shelf :
    ((run Folder.host salesWanted byRegion).run shelf).1 = ⟨0, printedShelf, none⟩ ∧
      ((run Folder.host salesWanted byRegion).run shelf).2.read "book.json" = .text storedShelf ∧
      ∀ path ∈ settingsPaths salesWanted,
        Folder.host.found path ((run Folder.host salesWanted byRegion).run shelf).2 =
          Folder.host.found path shelf := by
  decide +kernel

theorem run_outcome_shelf :
    (∃ ending,
        (run Folder.host [] ["book.json", "-gRegion", "-gRegion", "--write-back"]).run shelf =
          (ending, shelf) ∧ ending.status ≠ 0 ∧ ending.printed = "") ∧
      ∃ ending after wb, (run Folder.host salesWanted byRegion).run shelf = (ending, after) ∧
        ending.status = 0 ∧ ending.printed = report wb ∧ Documents wb ending.printed ∧
        ending.printed = printedShelf ∧
        wb.groupKey.fields = ["Region"] ∧ wb.sumField = some "Sales" ∧
        after.read "book.json" = .text wb.snapshot.render ∧ Holds wb (after.read "book.json") ∧
        after.read "book.json" = .text storedShelf := by
  refine ⟨?_, ?_⟩
  · obtain ⟨ending, after, hrun⟩ : ∃ ending after,
        (run Folder.host [] ["book.json", "-gRegion", "-gRegion", "--write-back"]).run shelf =
          (ending, after) := ⟨_, _, (Prod.eta _).symm⟩
    have hline : CommandLine.parse ["book.json", "-gRegion", "-gRegion", "--write-back"] =
        .ok ⟨some "book.json", ["Region", "Region"], none, true⟩ := rfl
    obtain ⟨hrefused, -, -⟩ := run_outcome Folder.faithful_host hline rfl rfl hrun
    obtain ⟨hstatus, hprinted, rfl⟩ := hrefused (.repeated (by rw [firstGiven_cons]; decide))
    exact ⟨ending, hrun, hstatus, hprinted⟩
  · obtain ⟨ending, after, hrun⟩ : ∃ ending after,
        (run Folder.host salesWanted byRegion).run shelf = (ending, after) :=
      ⟨_, _, (Prod.eta _).symm⟩
    obtain ⟨hending, hfile, -⟩ := run_shelf
    rw [hrun] at hending hfile
    have hstatus : ending.status = 0 := congrArg Ending.status hending
    have hfound : Folder.host.found "book.json" shelf = shelf.read "book.json" := rfl
    obtain ⟨-, hshown, -⟩ :=
      run_outcome Folder.faithful_host parse_byRegion loadSettings_shelf hfound hrun
    obtain ⟨snap, opened, wb, -, -, hshows, -, hprinted, hdocument, -, hwritten⟩ :=
      hshown (not_refuses_iff.2 ⟨_, _, stored?_shelf, rfl, by decide⟩)
    obtain ⟨hleft, hholds⟩ := hwritten rfl hstatus
    exact ⟨ending, after, wb, hrun, hstatus, hprinted, hdocument,
      congrArg Ending.printed hending, hshows.groupFields, hshows.sumField, hleft, hholds, hfile⟩

end Program

end Rulebook
