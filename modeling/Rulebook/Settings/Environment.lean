import Rulebook.Setting.Path
import Rulebook.Text.Lowercase
import Rulebook.Text.Parts

/-!
# Settings from the environment

A variable whose name begins with `ROWRULE_`, in any case, is a setting: two underscores divide the
names of its path. Its value is yes or no, a number or a text, whichever it can be read as in this
order; the fields to group by are a list with commas.
-/

set_option autoImplicit false

namespace Rulebook

open Text

/-- The variables of the environment with their values. -/
abbrev Environment := List (String × String)

namespace Environment

/-- The value of a variable. -/
def find? (env : Environment) (name : String) : Option String :=
  (List.find? (fun v => v.1 = name) env).map Prod.snd

/-- How the names of settings begin, in lower case. -/
def opening : List Char := "rowrule_".toList

/-- A text with points in place of double underscores. -/
def pointed : List Char → List Char
  | '_' :: '_' :: text => '.' :: pointed text
  | c :: text => c :: pointed text
  | [] => []

/-- The path, as a text, of a variable that is a setting. -/
def pathText? (name : String) : Option String :=
  (dropLiteral? opening (lower name.toList)).map fun rest => String.ofList (pointed rest)

/-- The path whose value is a list. -/
def listPath : String := "workbook.group_fields"

/-- The setting that a value is at a path. -/
def settingOf (path value : String) : Setting :=
  let word := lowerString value
  if word = "true" then .flag true
  else if word = "false" then .flag false
  else
    match Decimal.signedWord? value.toList, Decimal.real? value.toList with
    | some n, _ => .whole n
    | none, some x => .real x
    | none, none =>
        if path = listPath then .list ((stringPartsAt ',' value).map .text) else .text value

/-- The settings of the environment. -/
def assignments (env : Environment) : List Assignment :=
  env.filterMap fun v => (pathText? v.1).map fun path =>
    ⟨Setting.pathOf path, settingOf path v.2⟩

end Environment

end Rulebook
