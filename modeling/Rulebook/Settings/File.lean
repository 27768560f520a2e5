import Rulebook.Host
import Rulebook.Ini
import Rulebook.Json.Reader
import Rulebook.Json5
import Rulebook.Ron
import Rulebook.Setting.Codec
import Rulebook.Setting.Path
import Rulebook.Text.Parts
import Rulebook.Toml.Reader
import Rulebook.Yaml.Reader

/-!
# Settings files

Each settings file has a path to which `.toml` is added. Where that leads to no file, a file with
one more ending is looked for, and that ending tells its form. `Settings.findFile` looks for the
file on a host, `SettingsFile.assignments?` takes its settings.
-/

set_option autoImplicit false

namespace Rulebook

/-- The forms of settings files. -/
inductive FileForm where
  | toml
  | json
  | yaml
  | ini
  | ron
  | json5
deriving DecidableEq, Repr

/-- The forms in the order in which they are looked for, each with the endings of its files. -/
def FileForm.endings : List (FileForm × List String) :=
  [(.toml, [".toml"]), (.json, [".json"]), (.yaml, [".yaml", ".yml"]), (.ini, [".ini"]),
    (.ron, [".ron"]), (.json5, [".json5"])]

/-- A settings file that was found: its form, if it is one of those known, and what it holds. -/
structure SettingsFile where
  form : Option FileForm
  contents : Contents
deriving DecidableEq, Repr

namespace SettingsFile

/-- The table that a JSON text stands for. -/
def readJson? (s : String) : Option Setting := do
  match ← Json.read? s with
  | .object members =>
      if (Json.object members).isReadable then some (Setting.ofJson (.object members)) else none
  | _ => none

/-- The table that the text of a file stands for. -/
def readTable? (form : FileForm) (s : String) : Option Setting :=
  match form with
  | .toml => Toml.read? s
  | .json => readJson? s
  | .yaml => Yaml.read? s
  | .ini => Ini.read? s
  | .ron => Ron.read? s
  | .json5 => Json5.read? s

/-- The settings of a file; names of the outermost table may be paths. A file of no known form and
one that holds no text have none. -/
def assignments? (file : SettingsFile) : Option (List Assignment) :=
  match file.form, file.contents with
  | some form, .text s => do
      let found ← readTable? form (String.ofList (Toml.dropMark s.toList))
      return found.entries.map fun e => ⟨Setting.pathOf e.1, e.2⟩
  | _, _ => some []

end SettingsFile

namespace Settings

/-- Whether the last name of a path has something in front of its ending. -/
def hasStem (path ending : String) : Bool :=
  (Text.stringPartsAt '/' path).getLast? ≠ some ending

/-- The places at which a settings file is looked for, each with the form of a file there. A name
that is nothing but an ending tells no form. -/
def candidates (path : String) : List (String × Option FileForm) :=
  let toml := path ++ ".toml"
  (toml, if hasStem toml ".toml" then some .toml else none) ::
    FileForm.endings.flatMap fun form => form.2.map fun ending => (toml ++ ending, some form.1)

/-- The first file among candidates. What is there but is no file does not count. -/
def findAmong {m : Type → Type} [Monad m] (host : Host m) :
    List (String × Option FileForm) → m (Option SettingsFile)
  | [] => return none
  | (path, form) :: more => do
      match ← host.read path with
      | .absent | .inaccessible => findAmong host more
      | found => return some ⟨form, found⟩

/-- The settings file of a path without any ending. -/
def findFile {m : Type → Type} [Monad m] (host : Host m) (path : String) :
    m (Option SettingsFile) :=
  findAmong host (candidates path)

end Settings

end Rulebook
