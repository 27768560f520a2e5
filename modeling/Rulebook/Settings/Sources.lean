import Rulebook.Settings
import Rulebook.Settings.Environment
import Rulebook.Settings.File

/-!
# Sources of settings

Settings come from the built-in defaults, from the file `default`, one for the environment and one
for the service, and from the variables of the environment. Files and variables are taken one after
the other, and what comes of them lies over the defaults. A file that is not there or cannot be read
is passed over; a file with a mistake in it stops the program from taking any settings.
-/

set_option autoImplicit false

namespace Rulebook

namespace Settings

/-- The settings that hold where no file and no variable says otherwise. -/
def builtIn (environment service : String) : Setting :=
  .table [("service_name", .text service), ("environment", .text environment),
    ("observability", .table [("service_name", .text service)])]

/-- The settings of all sources. -/
def ofSources? (environment service : String) (files : List SettingsFile) (env : Environment) :
    Option Settings := do
  let fromFiles ← files.mapM SettingsFile.assignments?
  let given := Setting.layered (fromFiles.flatten ++ env.assignments)
  ofSetting? (Setting.atop (builtIn environment service) given)

/-- The environment that is chosen by a variable. -/
def environmentName (env : Environment) : String := (env.find? "ROWRULE_ENV").getD "development"

/-- The folder of the settings files. -/
def folderName (env : Environment) : String := (env.find? "CONFIG_DIR").getD "config"

/-- A path below a folder. One that begins at the root stands for itself. -/
def below (folder path : String) : String :=
  if folder = "" ∨ path.toList.head? = some '/' then path
  else if folder.toList.getLast? = some '/' then folder ++ path
  else folder ++ "/" ++ path

/-- The paths of the settings files in a folder without their endings, the one that counts most
last. -/
def filePaths (folder environment service : String) : List String :=
  ["default", environment, service].map (below folder)

/-- The settings of an environment and a service, taken on a host from the files in a folder and
from the variables of the environment. -/
def load? {m : Type → Type} [Monad m] (host : Host m) (folder environment service : String)
    (env : Environment) : m (Option Settings) := do
  let files ← (filePaths folder environment service).mapM (findFile host)
  return ofSources? environment service (files.filterMap id) env

/-- What the program falls back on if its settings cannot be taken. -/
def fallback (service : String) : Settings := { standard with serviceName := service }

end Settings

/-- The log settings that the environment asks for by itself. -/
def LogSettings.ofEnvironment (env : Environment) (service : String) : LogSettings :=
  ⟨service, (env.find? "RUST_LOG").getD LogSettings.standard.level,
    (env.find? "JSON_LOGS").any fun s => s = "true" ∨ s = "1"⟩

end Rulebook
