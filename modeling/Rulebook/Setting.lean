import Rulebook.Decimal.Layout
import Rulebook.Text.Lowercase

/-!
# Settings as they are given

A `Setting` is a value from a settings file or from the environment, before it is known what it is
for. A `Setting.Step` leads into a table or a list, and an `Assignment` is a setting at a path of
steps. `Setting.layered` takes assignments one after the other: tables are merged name by name,
anything else replaces what was there. The functions named `to…?` convert a setting to the type that
is wanted.
-/

set_option autoImplicit false

namespace Rulebook

/-- A setting; `nil` is a place without a value. -/
inductive Setting where
  | nil
  | text (s : String)
  | whole (n : Int)
  | real (x : Float)
  | flag (b : Bool)
  | list (items : List Setting)
  | table (entries : List (String × Setting))

namespace Setting

/-! ## Tables and lists -/

/-- The entries of a table; anything else has none. -/
def entries : Setting → List (String × Setting)
  | .table es => es
  | _ => []

/-- The items of a list; anything else has none. -/
def items : Setting → List Setting
  | .list items => items
  | _ => []

/-- The setting of a name. -/
def find? (es : List (String × Setting)) (name : String) : Option Setting :=
  (es.find? fun e => e.1 = name).map Prod.snd

/-- Puts a setting under a name, in place of one that is there. -/
def put (name : String) (s : Setting) : List (String × Setting) → List (String × Setting)
  | [] => [(name, s)]
  | e :: es => if e.1 = name then (name, s) :: es else e :: put name s es

/-! ## Layers -/

mutual

/-- The setting laid over another one. A table takes the entries below along, as far as there are
any. -/
def atop (below : Setting) : Setting → Setting
  | .table es => .table (atopEntries below.entries es)
  | .list items => .list items
  | .text s => .text s
  | .whole n => .whole n
  | .real x => .real x
  | .flag b => .flag b
  | .nil => .nil

/-- Entries laid over others one after the other. -/
def atopEntries (below : List (String × Setting)) :
    List (String × Setting) → List (String × Setting)
  | [] => below
  | (name, s) :: es => atopEntries (put name (atop ((find? below name).getD .nil) s) below) es

end

/-- A step into a table by name, or into a list by index. A negative index counts from the end. -/
inductive Step where
  | name (s : String)
  | index (i : Int)
deriving DecidableEq, Repr

/-- A list in which an index has a place, and that place. Places that are missing are added behind,
or in front if the index counts from the end. -/
def placed (i : Int) (items : List Setting) : List Setting × Nat :=
  match i with
  | .ofNat n => (items ++ List.replicate (n + 1 - items.length) .nil, n)
  | .negSucc n =>
      (List.replicate (n + 1 - items.length) .nil ++ items, items.length - (n + 1))

/-- Changes what is found at a path. Tables and lists on the way are made if they are missing, and
put in place of anything else. -/
def changeAt (change : Setting → Setting) : List Step → Setting → Setting
  | [], s => change s
  | .name n :: path, s =>
      .table (put n (changeAt change path ((find? s.entries n).getD .nil)) s.entries)
  | .index i :: path, s =>
      let (items, place) := placed i s.items
      .list (items.modify place (changeAt change path))

end Setting

/-- A setting at a path. -/
structure Assignment where
  path : List Setting.Step
  value : Setting

namespace Setting

/-- The settings after an assignment. -/
def assign (s : Setting) (a : Assignment) : Setting :=
  changeAt (fun below => atop below a.value) a.path s

/-- The settings after assignments, the later ones on top. -/
def layered (assignments : List Assignment) : Setting := assignments.foldl assign (.table [])

/-! ## Conversions -/

/-- A single value as text. -/
def toText? : Setting → Option String
  | .nil => none
  | .text s => some s
  | .whole n => some (String.ofList (plainWhole n))
  | .real x => some (String.ofList (plainNumber x))
  | .flag b => some (if b then "true" else "false")
  | .list _ => none
  | .table _ => none

/-- A word for yes or no, in any case. -/
def wordToFlag? (s : String) : Option Bool :=
  let word := Text.lowerString s
  if ["1", "true", "on", "yes"].contains word then some true
  else if ["0", "false", "off", "no"].contains word then some false
  else none

/-- A single value as yes or no; a number means yes unless it is zero. -/
def toFlag? : Setting → Option Bool
  | .nil => none
  | .flag b => some b
  | .whole n => some (n ≠ 0)
  | .real x => some (x != 0.0)
  | .text s => wordToFlag? s
  | .list _ => none
  | .table _ => none

/-- A list of single values as texts. -/
def toTexts? : Setting → Option (List String)
  | .list items => items.mapM toText?
  | _ => none

/-- The settings of the names given, from a table or from a list in that order. What goes beyond the
names is passed over. -/
def toFields? (names : List String) : Setting → Option (List (Option Setting))
  | .table es => some (names.map (find? es))
  | .list items => some ((List.range names.length).map fun i => items[i]?)
  | _ => none

/-- A setting that may be left without a value. -/
def toOptional? {α : Type} (convert? : Setting → Option α) : Setting → Option (Option α)
  | .nil => some none
  | s => (convert? s).map some

/-- A setting converted if it is there, a default otherwise. -/
def given? {α : Type} (convert? : Setting → Option α) (default : α) : Option Setting → Option α
  | some s => convert? s
  | none => some default

end Setting

end Rulebook
