import Rulebook.Host
import Rulebook.Text.Parts

/-!
# Folders in memory

A `Folder` holds files and further folders, each under the names on its path. `Folder.read` and
`Folder.write` follow a path as a file system does: every folder on the way has to be there, `..`
leads back to the folder around, and a file is no folder. The folders around the outermost one and
the root of all are there too, with nothing else in them. Writing makes the folders that are
missing.
-/

set_option autoImplicit false

namespace Rulebook

/-- Files and folders below an outermost folder, which is not listed itself. A place is the names
that lead there: those above the outermost folder begin with one `..` for each level, those below
the root begin with `/`. -/
structure Folder where
  files : List (List String × Contents)
  folders : List (List String)
deriving DecidableEq, Repr

/-- Where a walk along a path ends. -/
inductive Walk where
  | arrived (place : List String)
  | missing
  | blocked
deriving DecidableEq, Repr

namespace Folder

/-- The folder with nothing in it. -/
def empty : Folder := ⟨[], []⟩

/-- The file at a place. -/
def file? (f : Folder) (place : List String) : Option Contents :=
  (f.files.find? fun entry => entry.1 = place).map Prod.snd

/-- Whether a place is there in any case: the outermost folder, one around it, or the root. -/
def isGiven (place : List String) : Bool :=
  match place.getLast? with
  | none => true
  | some name => name = ".." || name = "/"

/-- Whether a place is a folder. -/
def isFolder (f : Folder) (place : List String) : Bool := isGiven place || f.folders.contains place

/-- The folder around a place. There is none around the root. -/
def around (place : List String) : List String :=
  match place.getLast? with
  | none => [".."]
  | some name =>
      if name = ".." then place ++ [".."] else if name = "/" then place else place.dropLast

/-- Whether a name stays where it is. -/
def isIdle (name : String) : Bool := name = "" || name = "."

/-- The length of the longest names, in bytes. -/
def longestName : Nat := 255

/-- A path shorter than this, in bytes, can be followed. -/
def pathLimit : Nat := 4096

/-- Whether a name is too long for a file or a folder. -/
def isTooLong (name : String) : Bool := longestName < name.utf8ByteSize

/-- Whether a path can be followed at all. -/
def isFollowable (path : String) : Bool :=
  path.utf8ByteSize < pathLimit && !path.toList.contains '\x00'

/-- The place where a path begins. -/
def origin (path : String) : List String := if path.toList.head? = some '/' then ["/"] else []

/-- The names of a path but for the last one, and the last one. -/
def splitPath (path : String) : List String × String :=
  let names := Text.stringPartsAt '/' path
  (names.dropLast, names.getLast?.getD "")

/-- Follows names from folder to folder. -/
def walk (f : Folder) (place : List String) : List String → Walk
  | [] => .arrived place
  | name :: names =>
      if isIdle name then f.walk place names
      else if name = ".." then f.walk (around place) names
      else if isTooLong name then .blocked
      else if f.isFolder (place ++ [name]) then f.walk (place ++ [name]) names
      else if (f.file? (place ++ [name])).isSome then .blocked
      else .missing

/-- What is found at the end of a path. -/
def read (f : Folder) (path : String) : Contents :=
  let (names, last) := splitPath path
  if path = "" then .absent
  else if !isFollowable path then .inaccessible
  else
    match f.walk (origin path) names with
    | .missing => .absent
    | .blocked => .inaccessible
    | .arrived place =>
        if isIdle last ∨ last = ".." ∨ isTooLong last then .inaccessible
        else if f.isFolder (place ++ [last]) then .inaccessible
        else (f.file? (place ++ [last])).getD .absent

/-- The folder with the folders along a path made, if no file is in the way. -/
def makeAlong (f : Folder) (place : List String) : List String → Option Folder
  | [] => some f
  | name :: names =>
      if isIdle name then f.makeAlong place names
      else if name = ".." then f.makeAlong (around place) names
      else if isTooLong name then none
      else if f.isFolder (place ++ [name]) then f.makeAlong (place ++ [name]) names
      else if (f.file? (place ++ [name])).isSome then none
      else { f with folders := f.folders ++ [place ++ [name]] }.makeAlong (place ++ [name]) names

/-- Puts a file at a place. -/
def put (place : List String) (contents : Contents) :
    List (List String × Contents) → List (List String × Contents)
  | [] => [(place, contents)]
  | entry :: entries =>
      if entry.1 = place then (place, contents) :: entries
      else entry :: put place contents entries

/-- The folder with a text at the end of a path, unless the path cannot be that of a file. -/
def write (f : Folder) (path text : String) : Option Folder :=
  let (names, last) := splitPath path
  if !isFollowable path ∨ isIdle last ∨ last = ".." ∨ isTooLong last then none
  else do
    let made ← f.makeAlong (origin path) names
    match made.walk (origin path) names with
    | .arrived place =>
        if made.isFolder (place ++ [last]) then none
        else some { made with files := put (place ++ [last]) (.text text) made.files }
    | _ => none

/-- The folder of the texts given. -/
def ofTexts (texts : List (String × String)) : Folder :=
  texts.foldl (fun f entry => (f.write entry.1 entry.2).getD f) empty

/-- A system that has nothing but the folder, which is carried along. -/
def host : Host (StateM Folder) where
  read path := fun f => (f.read path, f)
  write path text := fun f =>
    match f.write path text with
    | some next => (true, next)
    | none => (false, f)
  warn _ := fun f => ((), f)

end Folder

end Rulebook
