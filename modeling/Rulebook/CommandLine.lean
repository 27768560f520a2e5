import Rulebook.Settings
import Rulebook.Text.Word

/-!
# The command line

`CommandLine.parse` reads the arguments of the program: the path of a snapshot, `-g FIELD` or
`--group-field FIELD` as often as wanted, `-s FIELD` or `--sum-field FIELD`, `--write-back`, `-h` or
`--help`, `-V` or `--version`. A value may be attached to its option or follow as the next argument;
behind `--` every argument is a path. An option whose value follows is settled when the next
argument is met, so of two mistakes the one met first counts, except that an unknown argument always
wins over an option that is still open.
-/

set_option autoImplicit false

namespace Rulebook

open Text

/-- What the arguments ask for. -/
structure CommandLine where
  snapshot : Option String
  groupFields : List String
  sumField : Option String
  writeBack : Bool
deriving DecidableEq, Repr

/-- Why arguments do not lead to a run. -/
inductive Halt where
  | help
  | version
  | missingValue
  | repeatedOption
  | surplusValue
  | unknownArgument
deriving DecidableEq, Repr

/-- What an argument that begins with a hyphen may name. -/
inductive Switch where
  | groupField
  | sumField
  | writeBack
  | help
  | version
deriving DecidableEq, Repr

namespace Switch

/-- The switch of a long name. -/
def ofName? (name : List Char) : Option Switch :=
  if name = "group-field".toList then some groupField
  else if name = "sum-field".toList then some sumField
  else if name = "write-back".toList then some writeBack
  else if name = "help".toList then some help
  else if name = "version".toList then some version
  else none

/-- The switch of a letter. -/
def ofLetter? (letter : Char) : Option Switch :=
  if letter = 'g' then some groupField
  else if letter = 's' then some sumField
  else if letter = 'h' then some help
  else if letter = 'V' then some version
  else none

/-- Whether a value belongs to the switch. -/
def takesValue : Switch → Bool
  | groupField | sumField => true
  | writeBack | help | version => false

end Switch

/-- How an argument looks. -/
inductive Argument where
  | divider
  | long (name : List Char) (value : Option (List Char))
  | short (letters : List Char)
  | plain (text : List Char)
deriving DecidableEq, Repr

/-- How an argument looks: a lone hyphen is plain. -/
def Argument.ofText (text : List Char) : Argument :=
  match text with
  | ['-', '-'] => .divider
  | '-' :: '-' :: rest =>
      let name := rest.takeWhile (· ≠ '=')
      match rest.dropWhile (· ≠ '=') with
      | _ :: value => .long name (some value)
      | [] => .long name none
  | '-' :: letter :: letters => .short (letter :: letters)
  | _ => .plain text

namespace CommandLine

/-- No argument at all. -/
def empty : CommandLine := ⟨none, [], none, false⟩

/-- An option that was named and whose value follows, with the value once it is there. -/
structure Open where
  switch : Switch
  value : Option (List Char)
deriving DecidableEq, Repr

/-- What was read so far, and the option that is not settled yet. -/
structure Progress where
  read : CommandLine
  pending : Option Open
deriving DecidableEq, Repr

/-- Settles a switch, which has no value if it takes none. -/
def settle (c : CommandLine) (switch : Switch) (value : Option (List Char)) :
    Except Halt CommandLine :=
  match switch, value with
  | .help, _ => .error .help
  | .version, _ => .error .version
  | .writeBack, _ =>
      if c.writeBack then .error .repeatedOption else .ok { c with writeBack := true }
  | .groupField, some v => .ok { c with groupFields := c.groupFields ++ [String.ofList v] }
  | .sumField, some v =>
      if c.sumField.isSome then .error .repeatedOption
      else .ok { c with sumField := some (String.ofList v) }
  | .groupField, none | .sumField, none => .error .missingValue

/-- Settles the option that is still open. -/
def Progress.close (p : Progress) : Except Halt CommandLine :=
  match p.pending with
  | none => .ok p.read
  | some o => settle p.read o.switch o.value

/-- Meets a switch with its value attached, or one that takes none. -/
def Progress.meet (p : Progress) (switch : Switch) (value : Option (List Char)) :
    Except Halt Progress := do
  let closed ← p.close
  let settled ← settle closed switch value
  return ⟨settled, none⟩

/-- Meets a switch whose value follows. -/
def Progress.await (p : Progress) (switch : Switch) : Except Halt Progress := do
  let closed ← p.close
  return ⟨closed, some ⟨switch, none⟩⟩

/-- Meets a long name. -/
def Progress.meetLong (p : Progress) (name : List Char) (value : Option (List Char)) :
    Except Halt Progress :=
  match Switch.ofName? name with
  | none => .error .unknownArgument
  | some switch =>
      match switch.takesValue, value with
      | true, some v => p.meet switch (some v)
      | true, none => p.await switch
      | false, some _ => .error .surplusValue
      | false, none => p.meet switch none

/-- The value attached to a letter, behind an optional equals sign. -/
def attached : List Char → List Char
  | '=' :: value => value
  | value => value

/-- Meets letters behind one hyphen; the rest behind an option is its value. -/
def Progress.meetLetters (p : Progress) : List Char → Except Halt Progress
  | [] => .ok p
  | letter :: letters =>
      match Switch.ofLetter? letter with
      | none => .error .unknownArgument
      | some switch =>
          if switch.takesValue then
            if letters = [] then p.await switch else p.meet switch (some (attached letters))
          else
            match p.meet switch none with
            | .ok next => next.meetLetters letters
            | .error halt => .error halt

/-- Meets a path. There may be only one. -/
def Progress.meetPath (p : Progress) (text : List Char) : Except Halt Progress :=
  if p.read.snapshot.isSome then .error .unknownArgument
  else do
    let closed ← p.close
    return ⟨{ closed with snapshot := some (String.ofList text) }, none⟩

/-- Meets a plain argument: the value of an option that waits for one, or a path. -/
def Progress.meetPlain (p : Progress) (text : List Char) : Except Halt Progress :=
  match p.pending with
  | some ⟨switch, none⟩ => .ok ⟨p.read, some ⟨switch, some text⟩⟩
  | _ => p.meetPath text

/-- Meets the arguments behind the divider. -/
def Progress.meetPaths (p : Progress) : List String → Except Halt CommandLine
  | [] => p.close
  | text :: texts => do
      let next ← p.meetPath text.toList
      next.meetPaths texts

/-- Meets arguments. -/
def Progress.meetAll (p : Progress) : List String → Except Halt CommandLine
  | [] => p.close
  | text :: texts =>
      match Argument.ofText text.toList with
      | .divider => p.meetPaths texts
      | .long name value => do
          let next ← p.meetLong name value
          next.meetAll texts
      | .short letters => do
          let next ← p.meetLetters letters
          next.meetAll texts
      | .plain word => do
          let next ← p.meetPlain word
          next.meetAll texts

/-- What arguments ask for, or why they lead to no run. -/
def parse (arguments : List String) : Except Halt CommandLine :=
  Progress.meetAll ⟨empty, none⟩ arguments

/-- The settings with those replaced for which an argument was given. -/
def override (c : CommandLine) (s : WorkbookSettings) : WorkbookSettings :=
  { snapshotPath := c.snapshot.getD s.snapshotPath
    groupFields := if c.groupFields = [] then s.groupFields else c.groupFields
    sumField := c.sumField.or s.sumField
    writeBack := c.writeBack || s.writeBack }

/-- What `--help` shows. -/
def helpText : String :=
  "表格规则引擎：重新打标签并输出汇总\n\n" ++
  "Usage: rule-engine [OPTIONS] [SNAPSHOT]\n\n" ++
  "Arguments:\n" ++
  "  [SNAPSHOT]  工作簿快照路径，缺省时使用配置中的 workbook.snapshot_path\n\n" ++
  "Options:\n" ++
  "  -g, --group-field <FIELD>  分组字段，可重复指定，按出现顺序组成分组键\n" ++
  "  -s, --sum-field <FIELD>    求和字段\n" ++
  "      --write-back           运行结束后把工作簿写回快照文件\n" ++
  "  -h, --help                 Print help\n" ++
  "  -V, --version              Print version\n"

/-- What `--version` shows. -/
def versionText : String := "rule-engine 0.1.0\n"

end CommandLine

end Rulebook
