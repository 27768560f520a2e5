import Rulebook.Program
import Rulebook.Proofs.Host

/-!
# Taking settings

Settings are taken from the variables of the environment and from a few files, whose paths
`Program.settingsPaths` lists. To take them changes no file, and they are the same wherever the same
is found at these paths (`Program.agrees_loadSettings`).
-/

set_option autoImplicit false

namespace Rulebook

variable {σ : Type} {host : Host (StateM σ)} {st other : σ}

namespace Settings

/-- The paths at which settings files are looked for. -/
def candidatePaths (folder environment service : String) : List String :=
  (filePaths folder environment service).flatMap fun path => (candidates path).map Prod.fst

/-- The search for a file stops at the first that is found, in both states at the same one. -/
theorem agrees_findAmong (hhost : host.Faithful) {candidates : List (String × Option FileForm)}
    (hsame : ∀ path ∈ candidates.map Prod.fst, host.found path other = host.found path st) :
    Agrees st other (findAmong host candidates) := by
  induction candidates with
  | nil => exact .pure none
  | cons candidate more ih =>
      obtain ⟨path, form⟩ := candidate
      obtain ⟨hfirst, hmore⟩ := List.forall_mem_cons.1 hsame
      rw [findAmong]
      apply Agrees.bind (hhost.agrees_read hfirst)
      intro found
      cases found with
      | absent => exact ih hmore
      | inaccessible => exact ih hmore
      | text s => exact .pure _
      | garbled => exact .pure _

theorem agrees_load? (hhost : host.Faithful) {folder environment service : String}
    (hsame : ∀ path ∈ candidatePaths folder environment service,
      host.found path other = host.found path st) (env : Environment) :
    Agrees st other (load? host folder environment service env) := by
  rw [load?]
  refine Agrees.bind (Agrees.mapM fun file hfile => ?_) fun files => .pure _
  apply agrees_findAmong hhost
  intro path hpath
  exact hsame path (List.mem_flatMap.2 ⟨file, hfile, hpath⟩)

end Settings

namespace Program

/-- The paths at which a run looks for settings. -/
def settingsPaths (env : Environment) : List String :=
  Settings.candidatePaths (Settings.folderName env) (Settings.environmentName env) service

/-- Where the same is found at the paths of the settings, the same settings are taken, and no file
is changed. -/
theorem agrees_loadSettings (hhost : host.Faithful) {env : Environment}
    (hsame : ∀ path ∈ settingsPaths env, host.found path other = host.found path st) :
    Agrees st other (loadSettings host env) := by
  rw [loadSettings]
  apply Agrees.bind (Settings.agrees_load? hhost hsame env)
  intro found
  cases found with
  | some settings => exact .pure settings
  | none =>
      -- the word that settings could not be taken changes no file either
      exact .bind (hhost.agrees_warn _) fun _ => .pure _

end Program

end Rulebook
