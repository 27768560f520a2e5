import Rulebook.CommandLine
import Rulebook.Proofs.Setting.Merging
import Rulebook.Settings.Sources

/-!
# The single settings

A `Settings.Slot` is one of the settings that the program knows, with the path at which it is given
and the type it is wanted as. Where tables lie along that path, what is read is what stands at its
end, or the default (`Settings.Slot.given_of_ofSetting?`). The built-in settings give names to the
service, to its environment and to its log (`Settings.Slot.given_builtIn`). Arguments of the command
line replace exactly the slots that they are for (`Settings.Slot.get_override`).
-/

set_option autoImplicit false

namespace Rulebook

open Setting

namespace Settings

/-- The settings that the program knows, each with its type. -/
inductive Slot : Type → Type where
  | serviceName : Slot String
  | environment : Slot String
  | logName : Slot String
  | logLevel : Slot String
  | logAsJson : Slot Bool
  | snapshotPath : Slot String
  | groupFields : Slot (List String)
  | sumField : Slot (Option String)
  | writeBack : Slot Bool

/-- The settings before any file or variable is looked at. -/
def initial (environment service : String) : Settings :=
  { standard with
    serviceName := service
    environment := environment
    log := { LogSettings.standard with serviceName := service } }

namespace Slot

variable {α : Type}

/-- The names that lead to a slot. -/
def path : Slot α → List String
  | serviceName => ["service_name"]
  | environment => ["environment"]
  | logName => ["observability", "service_name"]
  | logLevel => ["observability", "log_level"]
  | logAsJson => ["observability", "json_logs"]
  | snapshotPath => ["workbook", "snapshot_path"]
  | groupFields => ["workbook", "group_fields"]
  | sumField => ["workbook", "sum_field"]
  | writeBack => ["workbook", "write_back"]

/-- What a setting is as the value of a slot. -/
def convert? : Slot α → Setting → Option α
  | serviceName => toText?
  | environment => toText?
  | logName => toText?
  | logLevel => toText?
  | logAsJson => toFlag?
  | snapshotPath => toText?
  | groupFields => toTexts?
  | sumField => toOptional? toText?
  | writeBack => toFlag?

/-- The value of a slot. -/
def get : Slot α → Settings → α
  | serviceName => fun s => s.serviceName
  | environment => fun s => s.environment
  | logName => fun s => s.log.serviceName
  | logLevel => fun s => s.log.level
  | logAsJson => fun s => s.log.asJson
  | snapshotPath => fun s => s.workbook.snapshotPath
  | groupFields => fun s => s.workbook.groupFields
  | sumField => fun s => s.workbook.sumField
  | writeBack => fun s => s.workbook.writeBack

/-- What the command line asks for in place of a slot. -/
def argument? (c : CommandLine) : Slot α → Option α
  | snapshotPath => c.snapshot
  | groupFields => if c.groupFields = [] then none else some c.groupFields
  | sumField => c.sumField.map some
  | writeBack => if c.writeBack then some true else none
  | _ => none

end Slot

end Settings

/-! ## Reading the tables -/

/-- What is read from a section of log settings, if it is a table or missing. -/
theorem LogSettings.of_section {below : Option Setting} {log : LogSettings}
    (h : given? ofSetting? standard below = some log)
    (htable : ∀ t, below = some t → ∃ es, t = .table es) :
    given? toText? standard.serviceName (below.bind (follow? ["service_name"])) =
        some log.serviceName ∧
      given? toText? standard.level (below.bind (follow? ["log_level"])) = some log.level ∧
      given? toFlag? standard.asJson (below.bind (follow? ["json_logs"])) = some log.asJson := by
  cases below with
  | none =>
      obtain rfl := Option.some.inj h
      exact ⟨rfl, rfl, rfl⟩
  | some t =>
      obtain ⟨es, rfl⟩ := htable t rfl
      simp only [given?, ofSetting?, toFields?, List.map_cons, List.map_nil, Option.bind_eq_bind,
        Option.bind_some, Option.bind_eq_some_iff, Option.pure_def, Option.some.injEq] at h
      obtain ⟨name, hname, level, hlevel, json, hjson, rfl⟩ := h
      simp only [Option.bind_some, follow?_single]
      exact ⟨hname, hlevel, hjson⟩

/-- What is read from a section of workbook settings, if it is a table or missing. -/
theorem WorkbookSettings.of_section {below : Option Setting} {w : WorkbookSettings}
    (h : given? ofSetting? standard below = some w)
    (htable : ∀ t, below = some t → ∃ es, t = .table es) :
    given? toText? standard.snapshotPath (below.bind (follow? ["snapshot_path"])) =
        some w.snapshotPath ∧
      given? toTexts? standard.groupFields (below.bind (follow? ["group_fields"])) =
        some w.groupFields ∧
      given? (toOptional? toText?) standard.sumField (below.bind (follow? ["sum_field"])) =
        some w.sumField ∧
      given? toFlag? standard.writeBack (below.bind (follow? ["write_back"])) =
        some w.writeBack := by
  cases below with
  | none =>
      obtain rfl := Option.some.inj h
      exact ⟨rfl, rfl, rfl, rfl⟩
  | some t =>
      obtain ⟨es, rfl⟩ := htable t rfl
      simp only [given?, ofSetting?, toFields?, List.map_cons, List.map_nil, Option.bind_eq_bind,
        Option.bind_some, Option.bind_eq_some_iff, Option.pure_def, Option.some.injEq] at h
      obtain ⟨path, hpath, fields, hfields, sum, hsum, back, hback, rfl⟩ := h
      simp only [Option.bind_some, follow?_single]
      exact ⟨hpath, hfields, hsum, hback⟩

namespace Settings

variable {α : Type}

/-- What is read from the outermost table. -/
theorem of_table {es : List (String × Setting)} {s : Settings}
    (h : ofSetting? (.table es) = some s) :
    given? toText? standard.serviceName (find? es "service_name") = some s.serviceName ∧
      given? toText? standard.environment (find? es "environment") = some s.environment ∧
      given? LogSettings.ofSetting? standard.log (find? es "observability") = some s.log ∧
      given? WorkbookSettings.ofSetting? standard.workbook (find? es "workbook") =
        some s.workbook := by
  simp only [ofSetting?, toFields?, List.map_cons, List.map_nil, Option.bind_eq_bind,
    Option.bind_some, Option.bind_eq_some_iff, Option.pure_def, Option.some.injEq] at h
  obtain ⟨name, hname, environment, henvironment, log, hlog, workbook, hworkbook, rfl⟩ := h
  exact ⟨hname, henvironment, hlog, hworkbook⟩

namespace Slot

/-- What is read for a slot is what stands at the end of its path, or the default. -/
theorem given_of_ofSetting? (slot : Slot α) {t : Setting} {s : Settings}
    (h : ofSetting? t = some s) (hpath : Passable slot.path t) :
    given? slot.convert? (slot.get standard) (follow? slot.path t) = some (slot.get s) := by
  cases slot <;> obtain ⟨es, rfl, hbelow⟩ := hpath.exists_table <;>
    obtain ⟨hname, henvironment, hlog, hworkbook⟩ := of_table h
  case serviceName => exact (congrArg _ (follow?_single _ _)).trans hname
  case environment => exact (congrArg _ (follow?_single _ _)).trans henvironment
  case logName => exact (LogSettings.of_section hlog fun t ht => (hbelow t ht).isTable).1
  case logLevel => exact (LogSettings.of_section hlog fun t ht => (hbelow t ht).isTable).2.1
  case logAsJson => exact (LogSettings.of_section hlog fun t ht => (hbelow t ht).isTable).2.2
  case snapshotPath =>
    exact (WorkbookSettings.of_section hworkbook fun t ht => (hbelow t ht).isTable).1
  case groupFields =>
    exact (WorkbookSettings.of_section hworkbook fun t ht => (hbelow t ht).isTable).2.1
  case sumField =>
    exact (WorkbookSettings.of_section hworkbook fun t ht => (hbelow t ht).isTable).2.2.1
  case writeBack =>
    exact (WorkbookSettings.of_section hworkbook fun t ht => (hbelow t ht).isTable).2.2.2

/-- A setting is converted without a look at the entries of a table. -/
theorem convert?_outline (slot : Slot α) (t : Setting) :
    slot.convert? t.outline = slot.convert? t := by
  cases slot <;> cases t <;> rfl

theorem given?_outline (slot : Slot α) (standard : α) (found : Option Setting) :
    given? slot.convert? standard (found.map outline) = given? slot.convert? standard found := by
  cases found with
  | none => rfl
  | some t => exact slot.convert?_outline t

/-- What is built in for a slot is its value at the beginning. -/
theorem given_builtIn (slot : Slot α) (environment service : String) :
    given? slot.convert? (slot.get standard) (outlineAt? slot.path (builtIn environment service)) =
      some (slot.get (initial environment service)) := by
  cases slot <;> rfl

/-- The command line replaces a slot if it has an argument for it, and no other. -/
theorem get_override (slot : Slot α) (c : CommandLine) (s : Settings) :
    slot.get { s with workbook := c.override s.workbook } =
      (slot.argument? c).getD (slot.get s) := by
  cases slot with
  | groupFields =>
      by_cases h : c.groupFields = [] <;> simp [get, argument?, CommandLine.override, h]
  | sumField => cases h : c.sumField <;> simp [get, argument?, CommandLine.override, h]
  | writeBack => cases h : c.writeBack <;> simp [get, argument?, CommandLine.override, h]
  | serviceName | environment | logName | logLevel | logAsJson | snapshotPath => rfl

end Slot

end Settings

end Rulebook
