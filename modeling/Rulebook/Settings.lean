import Rulebook.Setting

/-!
# Settings

`Settings` say how the program runs: which workbook it opens, by what it groups and adds up, whether
it writes the workbook back, and how it logs. `Settings.ofSetting?` reads them from a table; what
the table does not mention has its default, what has the wrong type is refused.
-/

set_option autoImplicit false

namespace Rulebook

open Setting

/-- Where the workbook lies and what is asked of it. -/
structure WorkbookSettings where
  snapshotPath : String
  groupFields : List String
  sumField : Option String
  writeBack : Bool
deriving DecidableEq, Repr

/-- How the program logs. -/
structure LogSettings where
  serviceName : String
  level : String
  asJson : Bool
deriving DecidableEq, Repr

/-- All settings. -/
structure Settings where
  serviceName : String
  environment : String
  log : LogSettings
  workbook : WorkbookSettings
deriving DecidableEq, Repr

namespace WorkbookSettings

/-- What holds where nothing is set. -/
def standard : WorkbookSettings := ⟨"workbook.json", [], none, false⟩

/-- The settings of a table. -/
def ofSetting? (s : Setting) : Option WorkbookSettings := do
  match ← s.toFields? ["snapshot_path", "group_fields", "sum_field", "write_back"] with
  | [path, fields, sum, back] =>
      let path ← given? toText? standard.snapshotPath path
      let fields ← given? toTexts? standard.groupFields fields
      let sum ← given? (toOptional? toText?) standard.sumField sum
      let back ← given? toFlag? standard.writeBack back
      return ⟨path, fields, sum, back⟩
  | _ => none

end WorkbookSettings

namespace LogSettings

/-- What holds where nothing is set. -/
def standard : LogSettings := ⟨"unknown-service", "info", false⟩

/-- The settings of a table. -/
def ofSetting? (s : Setting) : Option LogSettings := do
  match ← s.toFields? ["service_name", "log_level", "json_logs"] with
  | [name, level, json] =>
      let name ← given? toText? standard.serviceName name
      let level ← given? toText? standard.level level
      let json ← given? toFlag? standard.asJson json
      return ⟨name, level, json⟩
  | _ => none

end LogSettings

namespace Settings

/-- What holds where nothing is set. -/
def standard : Settings := ⟨"", "", .standard, .standard⟩

/-- The settings of a table. -/
def ofSetting? (s : Setting) : Option Settings := do
  match ← s.toFields? ["service_name", "environment", "observability", "workbook"] with
  | [name, environment, log, workbook] =>
      let name ← given? toText? standard.serviceName name
      let environment ← given? toText? standard.environment environment
      let log ← given? LogSettings.ofSetting? standard.log log
      let workbook ← given? WorkbookSettings.ofSetting? standard.workbook workbook
      return ⟨name, environment, log, workbook⟩
  | _ => none

/-- Whether the program runs for real. -/
def isProduction (s : Settings) : Bool := s.environment = "production"

end Settings

end Rulebook
