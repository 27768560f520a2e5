import Rulebook.Setting

/-!
# Settings files

A settings file is a list of statements: the header of a table, the header of one more table of a
list of tables, or an assignment. `Toml.assemble?` puts them together and refuses what is defined
twice: a name that already has a value, a table with two headers, a header for a table that was made
by dotted names.
-/

set_option autoImplicit false

namespace Rulebook

namespace Toml

/-- A statement of a settings file. -/
inductive Statement where
  | header (path : List String)
  | listHeader (path : List String)
  | assign (path : List String) (value : Setting)

/-- How a table came about: by a header of its own, by a header of a table within it, or by a dotted
name. -/
inductive Origin where
  | header
  | implied
  | dotted
deriving DecidableEq, Repr

/-- What a name stands for while a file is put together. Of a list of tables the latest one comes
first. -/
inductive Node where
  | value (s : Setting)
  | table (origin : Origin) (entries : List (String × Node))
  | tables (latest : List (String × Node)) (older : List (List (String × Node)))

/-- Names with what they stand for. -/
abbrev Entries := List (String × Node)

/-- What a name stands for. -/
def Entries.find? (es : Entries) (name : String) : Option Node :=
  (List.find? (fun e => e.1 = name) es).map Prod.snd

/-- Puts something under a name. -/
def Entries.put (name : String) (node : Node) : Entries → Entries
  | [] => [(name, node)]
  | e :: es => if e.1 = name then (name, node) :: es else e :: put name node es

/-- Changes the entries at a path, given how the table of the entries came about. Tables on the way
are made if they are missing. Dotted names do not lead through a table that has a header. -/
def within (dotted : Bool) (change : Origin → Entries → Option Entries) (origin : Origin) :
    List String → Entries → Option Entries
  | [], es => change origin es
  | name :: path, es =>
      match es.find? name with
      | none =>
          let made := if dotted then Origin.dotted else .implied
          (within dotted change made path []).map fun inner => es.put name (.table made inner)
      | some (.table origin inner) =>
          if dotted ∧ origin = .header then none
          else (within dotted change origin path inner).map fun inner =>
            es.put name (.table origin inner)
      | some (.tables latest older) =>
          (within dotted change .header path latest).map fun latest =>
            es.put name (.tables latest older)
      | some (.value _) => none

/-- Opens the table of a header. -/
def openTable (name : String) (es : Entries) : Option Entries :=
  match es.find? name with
  | none => some (es.put name (.table .header []))
  | some (.table .implied inner) => some (es.put name (.table .header inner))
  | _ => none

/-- Opens one more table of a list. -/
def openListed (name : String) (es : Entries) : Option Entries :=
  match es.find? name with
  | none => some (es.put name (.tables [] []))
  | some (.tables latest older) => some (es.put name (.tables [] (latest :: older)))
  | _ => none

/-- Changes the entries around the last name of the path of a header. -/
def underHeader (change : String → Entries → Option Entries) (path : List String) (es : Entries) :
    Option Entries := do
  let name ← path.getLast?
  within false (fun _ => change name) .header path.dropLast es

/-- Gives a value to a name that has none. Behind a dotted name it goes into a table that was made
by dotted names. -/
def define (path : List String) (s : Setting) (es : Entries) : Option Entries := do
  let name ← path.getLast?
  within true (fun origin es =>
    if (es.find? name).isSome ∨ (1 < path.length ∧ origin ≠ .dotted) then none
    else some (es.put name (.value s))) .header path.dropLast es

/-- Takes one statement: `current` is the path of the table that is open. -/
def take (current : List String) (es : Entries) : Statement → Option (List String × Entries)
  | .header path => (underHeader openTable path es).map fun es => (path, es)
  | .listHeader path => (underHeader openListed path es).map fun es => (path, es)
  | .assign path s =>
      (within false (fun _ => define path s) .header current es).map fun es => (current, es)

mutual

/-- The setting that a node stands for. -/
def Node.toSetting : Node → Setting
  | .value s => s
  | .table _ entries => .table (entriesToSettings entries)
  | .tables latest older => .list (tablesToSettings [.table (entriesToSettings latest)] older)

/-- The settings of entries. -/
def entriesToSettings : List (String × Node) → List (String × Setting)
  | [] => []
  | (name, node) :: es => (name, node.toSetting) :: entriesToSettings es

/-- Puts older tables in front of those done so far. -/
def tablesToSettings (done : List Setting) : List (List (String × Node)) → List Setting
  | [] => done
  | es :: older => tablesToSettings (.table (entriesToSettings es) :: done) older

end

/-- The table of a file. -/
def assemble? (statements : List Statement) : Option Setting := do
  let (_, es) ← statements.foldlM (fun state s => take state.1 state.2 s) ([], [])
  return .table (entriesToSettings es)

end Toml

end Rulebook
