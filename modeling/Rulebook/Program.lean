import Rulebook.CommandLine
import Rulebook.Settings.Sources
import Rulebook.Summary.Codec
import Rulebook.Workbook.Snapshot

/-!
# The program

One run reads the settings, opens the workbook of a snapshot, groups and adds up as the settings ask
for, prints rows and summary, and writes the snapshot back if it is told to. `Program.produce` is
all of it that needs no file; `Program.run` does the rest on any `Host`.
-/

set_option autoImplicit false

namespace Rulebook

/-- Why a run fails: what could not be done, and what stood in the way. -/
structure Failure where
  context : String
  cause : Fault
deriving DecidableEq, Repr

/-- How a run ends: its exit status, what it prints, and why it fails if it does. -/
structure Ending where
  status : Nat
  printed : String
  failure : Option Failure
deriving DecidableEq, Repr

/-- How a failure is shown. -/
def Failure.render (f : Failure) : String :=
  "Error: " ++ f.context ++ "\n\nCaused by:\n    " ++ f.cause.message

namespace Program

/-- The name under which the program looks for its settings. -/
def service : String := "rule-engine"

/-- A fault with what could not be done because of it. -/
def during {α : Type} (context : String) (result : Except Fault α) : Except Failure α :=
  result.mapError fun cause => ⟨context, cause⟩

/-- The context of a snapshot that cannot be opened. -/
def openingContext (path : String) : String := "无法打开工作簿快照: " ++ path

/-- The context of a grouping that is refused. -/
def groupingContext : String := "分组字段配置无效"

/-- The context of a snapshot that cannot be written. -/
def writingContext (path : String) : String := "无法写回工作簿快照: " ++ path

/-- The workbook grouped as the settings ask for; no fields leave it as it is. -/
def regrouped (fields : List String) (wb : Workbook) : Except Fault Workbook :=
  if fields = [] then .ok wb else (wb.change (.group fields)).map Prod.snd

/-- The workbook that adds up the field of the settings; none leaves it as it is. -/
def summed (field : Option String) (wb : Workbook) : Workbook :=
  match field with
  | none => wb
  | some _ => wb.after (.sum field)

/-- The workbook of a run, given what was found at the path of the snapshot. -/
def produce (s : WorkbookSettings) (found : Contents) : Except Failure Workbook := do
  let opened ← during (openingContext s.snapshotPath) (Workbook.ofFile found)
  let grouped ← during groupingContext (regrouped s.groupFields opened)
  return (summed s.sumField grouped).recompute

/-- What a run prints: rows and summary, all members sorted by name. -/
def report (wb : Workbook) : String :=
  (Json.object [("rows", .array (wb.rows.map Row.toJson)),
    ("summary", .array (wb.summary.map SummaryRow.toJson))]).canonical.pretty ++ "\n"

/-- The settings of a run. Settings that cannot be taken are replaced by the fallback. -/
def loadSettings {m : Type → Type} [Monad m] (host : Host m) (env : Environment) :
    m Settings := do
  let folder := Settings.folderName env
  let found ← Settings.load? host folder (Settings.environmentName env) service env
  match found with
  | some settings => return settings
  | none =>
      host.warn "Failed to load config, using defaults"
      return Settings.fallback service

/-- Opens, prints and writes back. -/
def execute {m : Type → Type} [Monad m] (host : Host m) (s : WorkbookSettings) :
    m Ending := do
  match produce s (← host.read s.snapshotPath) with
  | .error failure => return ⟨1, "", some failure⟩
  | .ok wb =>
      if s.writeBack then
        if ← host.write s.snapshotPath wb.snapshot.render then
          return ⟨0, report wb, none⟩
        else return ⟨1, report wb, some ⟨writingContext s.snapshotPath, .inaccessibleFile⟩⟩
      else return ⟨0, report wb, none⟩

/-- One run with the arguments given. -/
def run {m : Type → Type} [Monad m] (host : Host m) (env : Environment)
    (arguments : List String) : m Ending := do
  match CommandLine.parse arguments with
  | .error .help => return ⟨0, CommandLine.helpText, none⟩
  | .error .version => return ⟨0, CommandLine.versionText, none⟩
  | .error _ => return ⟨2, "", none⟩
  | .ok line =>
      let settings ← loadSettings host env
      execute host (line.override settings.workbook)

end Program

end Rulebook
