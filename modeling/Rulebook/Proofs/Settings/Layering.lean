import Rulebook.Host.Folder
import Rulebook.Proofs.Host.Folder
import Rulebook.Proofs.Settings.Slots

/-!
# Settings in layers

The settings of a service come from four sources, one laid over the other: the file `default`, the
file of the environment, that of the service, and the variables of the environment
(`Settings.sources?`). What is taken for a slot is what the last source gives that gives anything
for it, converted to the type of the slot, and its built-in value if there is no such source; so no
source matters for a slot through anything else that it holds, and the command line replaces just
the slots that it has arguments for (`Settings.load_layered`).

This takes a source that gives the slot as a whole, not item by item, and no later source with
anything but a table in place of the section that the slot belongs to (`Setting.isDecided`):
otherwise what is given for the slot is lost or mixed with what was given before
(`Settings.load_not_layered`).
-/

set_option autoImplicit false

namespace Rulebook

open Setting

variable {σ : Type} {host : Host (StateM σ)} {st : σ}

namespace Settings

/-! ## The sources -/

/-- The first file among candidates, in a state of the host. -/
def fileAmong (host : Host (StateM σ)) (st : σ) (candidates : List (String × Option FileForm)) :
    Option SettingsFile :=
  candidates.findSome? fun candidate =>
    match host.found candidate.1 st with
    | .absent | .inaccessible => none
    | contents => some ⟨candidate.2, contents⟩

/-- What is found of the settings files, the one that counts most last. -/
def foundFiles (host : Host (StateM σ)) (folder environment service : String) (st : σ) :
    List (Option SettingsFile) :=
  (filePaths folder environment service).map fun path => fileAmong host st (candidates path)

/-- The assignments of a file. One that is missing makes none. -/
def foundAssignments? : Option SettingsFile → Option (List Assignment)
  | some file => file.assignments?
  | none => some []

/-- The assignments of each source, the one that counts most last: those of the files, then those of
the environment. -/
def sources? (host : Host (StateM σ)) (folder environment service : String) (env : Environment)
    (st : σ) : Option (List (List Assignment)) := do
  let fromFiles ← (foundFiles host folder environment service st).mapM foundAssignments?
  return fromFiles ++ [env.assignments]

theorem run_findAmong (hhost : host.Faithful) (candidates : List (String × Option FileForm)) :
    (findAmong host candidates).run st = (fileAmong host st candidates, st) := by
  induction candidates with
  | nil => rfl
  | cons candidate more ih =>
      obtain ⟨path, form⟩ := candidate
      rw [findAmong, StateT.run_bind, hhost.run_read, fileAmong, List.findSome?_cons]
      cases hfound : host.found path st with
      | absent => exact ih
      | inaccessible => exact ih
      | text s => rfl
      | garbled => rfl

/-- Actions that change nothing, one after the other. -/
theorem run_mapM {α β : Type} {action : α → StateM σ β} {result : α → β}
    (h : ∀ a, (action a).run st = (result a, st)) (entries : List α) :
    (entries.mapM action).run st = (entries.map result, st) := by
  induction entries with
  | nil => rfl
  | cons a entries ih =>
      rw [List.mapM_cons, StateT.run_bind, h a]
      show ((entries.mapM action >>= fun rest => pure (result a :: rest)).run st) = _
      rw [StateT.run_bind, ih]
      rfl

/-- Looking for the files changes nothing on the host. -/
theorem run_load? (hhost : host.Faithful) (folder environment service : String)
    (env : Environment) :
    (load? host folder environment service env).run st =
      (ofSources? environment service
        ((foundFiles host folder environment service st).filterMap id) env, st) := by
  have hfind : ∀ path, (findFile host path).run st = (fileAmong host st (candidates path), st) :=
    fun path => run_findAmong hhost (candidates path)
  have hfiles := run_mapM hfind (filePaths folder environment service)
  rw [load?, StateT.run_bind, hfiles]
  rfl

/-- Files that are missing make no difference to the assignments of all files together. -/
theorem flatten_foundAssignments (found : List (Option SettingsFile)) :
    ((found.filterMap id).mapM SettingsFile.assignments?).map List.flatten =
      (found.mapM foundAssignments?).map List.flatten := by
  induction found with
  | nil => rfl
  | cons file found ih =>
      cases file with
      | none =>
          rw [List.filterMap_cons_none rfl, ih, List.mapM_cons, foundAssignments?]
          cases found.mapM foundAssignments? with
          | none => rfl
          | some made => rfl
      | some file =>
          have hkept : (some file :: found).filterMap id = file :: found.filterMap id := rfl
          rw [hkept, List.mapM_cons, List.mapM_cons, foundAssignments?]
          cases file.assignments? with
          | none => rfl
          | some own =>
              cases hkept : (found.filterMap id).mapM SettingsFile.assignments? <;>
                cases hall : found.mapM foundAssignments? <;>
                simp_all

/-- The settings of the sources are those of the sources laid over one another, on top of what is
built in. -/
theorem load?_eq_some (hhost : host.Faithful) {folder environment service : String}
    {env : Environment} {s : Settings}
    (h : ((load? host folder environment service env).run st).1 = some s) :
    ∃ sources, sources? host folder environment service env st = some sources ∧
      ofSetting? (atop (builtIn environment service) (layered sources.flatten)) = some s := by
  rw [run_load? hhost] at h
  simp only [ofSources?, Option.bind_eq_bind, Option.bind_eq_some_iff] at h
  obtain ⟨made, hmade, hread⟩ := h
  have hflatten := flatten_foundAssignments (foundFiles host folder environment service st)
  rw [hmade, Option.map_some, eq_comm, Option.map_eq_some_iff] at hflatten
  obtain ⟨fromFiles, hfiles, hsame⟩ := hflatten
  refine ⟨fromFiles ++ [env.assignments], ?_, ?_⟩
  · simp [sources?, hfiles]
  · simpa [hsame] using hread

/-! ## Slots -/

variable {α : Type} {environment service : String} {s : Settings}
  {sources : List (List Assignment)}

theorem Slot.exists_path (slot : Slot α) : ∃ name path, slot.path = name :: path := by
  cases slot <;> exact ⟨_, _, rfl⟩

/-- What is taken for a slot is what the last source gives that gives anything for it. -/
theorem Slot.given_lastGiven (slot : Slot α) (h : isDecided slot.path sources.reverse = true)
    (hread : ofSetting? (atop (builtIn environment service) (layered sources.flatten)) = some s) :
    given? slot.convert? (slot.get (initial environment service))
      (lastGiven? slot.path sources) = some (slot.get s) := by
  obtain ⟨name, path, hpath⟩ := slot.exists_path
  have hroom : (builtIn environment service).leavesRoom slot.path = true := by cases slot <;> rfl
  have houtline := outlineAt?_atop_layered (hpath ▸ h) (builtIn environment service)
  have hpassable := passable_atop_layered (hpath ▸ h) (hpath ▸ hroom)
  rw [← hpath] at houtline hpassable
  have hvalue := slot.given_of_ofSetting? hread hpassable
  -- no table is converted, so the outline is all that counts
  rw [← slot.given?_outline, ← outlineAt?, houtline] at hvalue
  cases hlast : lastGiven? slot.path sources with
  | some t =>
      rw [hlast, Option.map_some, Option.some_or] at hvalue
      rw [← hvalue]
      exact (slot.convert?_outline t).symm
  | none =>
      rw [hlast, Option.map_none, Option.none_or, slot.given_builtIn] at hvalue
      exact hvalue

/-- **Settings are layered.** If settings can be taken, each slot has what the last source gives
that gives anything for it, converted to its type, and what is built in if none does. With other
files and variables it is the same as long as each source gives the same for it. The command line
then replaces the slots that it has arguments for, and no other.

For this the last source that gives a slot must give it as a whole, and each later one must leave
room for it. -/
theorem load_layered (hhost : host.Faithful) {folder : String} {env : Environment}
    (hload : ((load? host folder environment service env).run st).1 = some s) :
    ∃ sources, sources? host folder environment service env st = some sources ∧
      (∀ {α : Type} (slot : Slot α), isDecided slot.path sources.reverse = true →
        given? slot.convert? (slot.get (initial environment service))
          (lastGiven? slot.path sources) = some (slot.get s)) ∧
      (∀ (other : σ) (otherEnv : Environment) (otherSettings : Settings)
        (otherSources : List (List Assignment)),
        ((load? host folder environment service otherEnv).run other).1 = some otherSettings →
        sources? host folder environment service otherEnv other = some otherSources →
        ∀ {α : Type} (slot : Slot α), isDecided slot.path sources.reverse = true →
          isDecided slot.path otherSources.reverse = true →
          otherSources.map (fun source => follow? slot.path (layered source)) =
            sources.map (fun source => follow? slot.path (layered source)) →
          slot.get otherSettings = slot.get s) ∧
      ∀ (c : CommandLine) {α : Type} (slot : Slot α),
        slot.get { s with workbook := c.override s.workbook } =
          (slot.argument? c).getD (slot.get s) := by
  obtain ⟨sources, hsources, hread⟩ := load?_eq_some hhost hload
  refine ⟨sources, hsources, fun slot h => slot.given_lastGiven h hread, ?_,
    fun c _ slot => slot.get_override c s⟩
  intro other otherEnv otherSettings otherSources hother hotherSources _ slot h hotherDecided
    hsame
  obtain ⟨found, hfound, hotherRead⟩ := load?_eq_some hhost hother
  obtain rfl := Option.some.inj (hfound.symm.trans hotherSources)
  have hvalue := slot.given_lastGiven h hread
  have hotherValue := slot.given_lastGiven hotherDecided hotherRead
  rw [lastGiven?_congr hsame, hvalue] at hotherValue
  exact (Option.some.inj hotherValue).symm

/-- A folder with a file for every service and one for those in production. -/
def productionFolder : Folder where
  files :=
    [(["config", "default.toml"], .text "[workbook]\nsum_field = \"Cost\"\n"),
      (["config", "production.toml"], .text "[workbook]\nsum_field = \"Sales\"\n")]
  folders := [["config"]]

/-- The file of the environment comes after the one for every service. -/
theorem load_layered_production :
    ((load? Folder.host "config" "production" "rule-engine" []).run productionFolder).1 =
        some { initial "production" "rule-engine" with
          workbook := { WorkbookSettings.standard with sumField := some "Sales" } } ∧
      ∃ sources, sources? Folder.host "config" "production" "rule-engine" [] productionFolder =
          some sources ∧
        isDecided Slot.sumField.path sources.reverse = true ∧
        given? Slot.sumField.convert? none (lastGiven? Slot.sumField.path sources) =
          some (some "Sales") := by
  have hload : ((load? Folder.host "config" "production" "rule-engine" []).run
      productionFolder).1 = some { initial "production" "rule-engine" with
        workbook := { WorkbookSettings.standard with sumField := some "Sales" } } := by
    decide +kernel
  have hdecided : ((sources? Folder.host "config" "production" "rule-engine" []
      productionFolder).map fun sources => isDecided Slot.sumField.path sources.reverse) =
        some true := by
    decide +kernel
  obtain ⟨sources, hsources, hslots, -⟩ := load_layered Folder.faithful_host hload
  rw [hsources, Option.map_some, Option.some_inj] at hdecided
  exact ⟨hload, sources, hsources, hdecided, hslots Slot.sumField hdecided⟩

/-! ## Without room -/

/-- What is taken for a slot in a folder, next to what the last source gives for it. -/
theorem Slot.exists_loaded (slot : Slot α) {f : Folder} {taken given : α}
    (htaken : ((load? Folder.host "config" "production" "rule-engine" []).run f).1.map slot.get =
      some taken)
    (hgiven : (sources? Folder.host "config" "production" "rule-engine" [] f).map (fun sources =>
      given? slot.convert? (slot.get (initial "production" "rule-engine"))
        (lastGiven? slot.path sources)) = some (some given)) :
    ∃ s sources,
      ((load? Folder.host "config" "production" "rule-engine" []).run f).1 = some s ∧
      sources? Folder.host "config" "production" "rule-engine" [] f = some sources ∧
      given? slot.convert? (slot.get (initial "production" "rule-engine"))
        (lastGiven? slot.path sources) = some given ∧
      slot.get s = taken := by
  obtain ⟨s, hload, hget⟩ := Option.map_eq_some_iff.1 htaken
  obtain ⟨sources, hsources, hlast⟩ := Option.map_eq_some_iff.1 hgiven
  exact ⟨s, sources, hload, hsources, hlast, hget⟩

/-- A folder in which the file of the environment has a number in place of the section of the
workbook, between two files that have the section. -/
def numberedFolder : Folder where
  files :=
    [(["config", "default.toml"], .text "[workbook]\nsnapshot_path = \"data/default.json\"\n"),
      (["config", "production.toml"], .text "workbook = 5\n"),
      (["config", "rule-engine.toml"], .text "[workbook]\nwrite_back = true\n")]
  folders := [["config"]]

/-- A folder in which the file of the environment gives the first of the fields to group by. -/
def itemFolder : Folder where
  files :=
    [(["config", "default.toml"], .text "[workbook]\ngroup_fields = [\"A\", \"B\"]\n"),
      (["config", "production.toml"], .text "\"workbook.group_fields[0]\" = \"X\"\n")]
  folders := [["config"]]

/-- What is given is lost where a later source has no table in place of the section, and mixed with
what was given before where a source gives a single item. -/
theorem load_not_layered :
    (∃ s sources,
      ((load? Folder.host "config" "production" "rule-engine" []).run numberedFolder).1 = some s ∧
      sources? Folder.host "config" "production" "rule-engine" [] numberedFolder = some sources ∧
      given? Slot.snapshotPath.convert? (Slot.snapshotPath.get (initial "production" "rule-engine"))
        (lastGiven? Slot.snapshotPath.path sources) = some "data/default.json" ∧
      Slot.snapshotPath.get s = "workbook.json") ∧
    ∃ s sources,
      ((load? Folder.host "config" "production" "rule-engine" []).run itemFolder).1 = some s ∧
      sources? Folder.host "config" "production" "rule-engine" [] itemFolder = some sources ∧
      given? Slot.groupFields.convert? (Slot.groupFields.get (initial "production" "rule-engine"))
        (lastGiven? Slot.groupFields.path sources) = some ["X"] ∧
      Slot.groupFields.get s = ["X", "B"] := by
  constructor
  · apply Slot.exists_loaded
    · decide +kernel
    · decide +kernel
  · apply Slot.exists_loaded
    · decide +kernel
    · decide +kernel

end Settings

end Rulebook
