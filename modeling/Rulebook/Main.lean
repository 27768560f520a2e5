import Rulebook.Program

/-!
# The executable

The outermost layer: files, the environment and the streams of the process.
-/

set_option autoImplicit false

namespace Rulebook.Main

/-- Whether the system takes a path as it is. -/
def isWhole (path : String) : Bool := !path.toList.contains '\x00'

/-- What is found at a path. -/
def readContents (path : String) : IO Contents := do
  if !isWhole path then return .inaccessible
  try
    let bytes ← IO.FS.readBinFile path
    match String.fromUTF8? bytes with
    | some s => return .text s
    | none => return .garbled
  catch
    | .noFileOrDirectory .. => return .absent
    | _ => return .inaccessible

/-- The path of the folder around a file, empty if the path is a single name. -/
def folderOf (path : String) : String :=
  "/".intercalate (Text.stringPartsAt '/' path).dropLast

/-- Writes a text, making the folders that are missing, and says whether it succeeded. -/
def writeText (path text : String) : IO Bool := do
  if !isWhole path then return false
  try
    let folder := folderOf path
    if folder ≠ "" then IO.FS.createDirAll folder
    IO.FS.writeFile path text
    return true
  catch _ => return false

/-- The system that the process runs on. -/
def host : Host IO where
  read := readContents
  write := writeText
  warn := fun s => IO.eprintln s

/-- The variables that the system lists for the process, one behind each null character. -/
def environment : IO Environment := do
  match ← readContents "/proc/self/environ" with
  | .text block =>
      return (Text.stringPartsAt '\x00' block).filterMap fun line =>
        match Text.stringPartsAt '=' line with
        | name :: value :: more => some (name, "=".intercalate (value :: more))
        | _ => none
  | _ => return []

end Rulebook.Main

/-- Runs the program with the arguments of the process. -/
def main (arguments : List String) : IO UInt32 := do
  let ending ← Rulebook.Program.run Rulebook.Main.host (← Rulebook.Main.environment) arguments
  IO.print ending.printed
  match ending.failure with
  | some failure => IO.eprintln failure.render
  | none => if ending.status = 2 then IO.eprintln "error: see --help"
  return ending.status.toUInt32
