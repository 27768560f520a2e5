import Rulebook.Decimal.Literal
import Rulebook.Setting
import Rulebook.Yaml.Token

/-!
# Values of documents

A `Node` is a value of a document: a single value, a list or a table. What a plain text stands for
is told by its tag or else by what it looks like. `Node.toSetting?` takes a value as a setting.
-/

set_option autoImplicit false

namespace Rulebook

namespace Yaml

/-- The key of an entry. A number with a point or an exponent is kept as it is written. -/
inductive Key where
  | text (s : String)
  | whole (n : Int)
  | real (s : String)
  | flag (b : Bool)
deriving DecidableEq, Repr

/-- A value. One whose text does not suit its tag is `bad`. -/
inductive Node where
  | bad
  | null
  | single (value : Key)
  | list (items : List Node)
  | table (entries : List (Key × Node))

namespace Node

/-! ## Plain texts -/

/-- A whole number in another base that fits a signed 64-bit word. -/
def inBase? (base : Nat) (text : List Char) : Option Int := do
  let (minus, digits) := Decimal.scanSign text
  let values ← digits.mapM Text.hexValue?
  if values = [] || values.any (base ≤ ·) then none
  else
    let size := values.foldl (fun n v => base * n + v) 0
    let n : Int := if minus then -size else size
    if -(Nat.pow 2 63) ≤ n ∧ n < Nat.pow 2 63 then some n else none

/-- A whole number: in hexadecimal or octal digits, or in decimal ones behind any sign. -/
def whole? (text : List Char) : Option Int :=
  let plain := Decimal.signedWord? text
  match text with
  | '0' :: 'x' :: digits => (inBase? 16 digits).or plain
  | '0' :: 'o' :: digits => (inBase? 8 digits).or plain
  | '+' :: number => (Decimal.signedWord? number).or plain
  | _ => plain

/-- The names of numbers that are not finite. -/
def endless : List String :=
  [".inf", ".Inf", ".INF", "+.inf", "+.Inf", "+.INF", "-.inf", "-.Inf", "-.INF", ".nan", "NaN",
    ".NAN"]

/-- Whether a text is a number. One that is finite has a digit in it. -/
def isReal (s : String) : Bool :=
  endless.contains s || (s.toList.any Text.isAsciiDigit && (Decimal.real? s.toList).isSome)

/-- What a plain text without a tag looks like. -/
def ofPlain (s : String) : Node :=
  if let some n := whole? s.toList then .single (.whole n)
  else if s = "" ∨ s = "~" ∨ s = "null" then .null
  else if s = "true" then .single (.flag true)
  else if s = "false" then .single (.flag false)
  else if isReal s then .single (.real s)
  else .single (.text s)

/-- A tag in full: what its handle stands for, and the suffix. -/
structure Tag where
  handle : String
  suffix : String
deriving DecidableEq, Repr

/-- How the tags of the values known to everybody begin. -/
def standardHandle : String := "tag:yaml.org,2002:"

/-- What a plain text is if it has to be of a standard type. -/
def ofStandard (type s : String) : Node :=
  match type with
  | "bool" =>
      if s = "true" then .single (.flag true)
      else if s = "false" then .single (.flag false)
      else .bad
  | "int" => ((Decimal.signedWord? s.toList).map fun n => single (.whole n)).getD .bad
  | "float" => if isReal s then .single (.real s) else .bad
  | "null" => if s = "~" ∨ s = "null" then .null else .bad
  | _ => .single (.text s)

/-- The value of a text. One that is not plain is itself, as is one with a tag of its own. -/
def ofText (plain : Bool) (tag : Option Tag) (s : String) : Node :=
  if !plain then .single (.text s)
  else
    match tag with
    | none => ofPlain s
    | some tag =>
        if tag.handle = standardHandle then ofStandard tag.suffix s else .single (.text s)

/-! ## Tables -/

/-- The entries of keys and values in turn. A key must be a single value and differ from those in
front. A bad value is no key, so the one behind it is taken for the key. -/
def entriesFrom? (entries : List (Key × Node)) : List Node → Option (List (Key × Node))
  | [] => some entries
  | .bad :: nodes => entriesFrom? entries nodes
  | .single key :: value :: nodes =>
      if entries.any (·.1 = key) then none else entriesFrom? (entries ++ [(key, value)]) nodes
  | .single _ :: [] => some entries
  | _ => none

/-- The table of keys and values in turn. -/
def ofParts? (nodes : List Node) : Option Node := (entriesFrom? [] nodes).map .table

end Node

/-! ## Settings -/

/-- The name that a key is. -/
def Key.name : Key → String
  | .text s => s
  | .whole n => String.ofList (plainWhole n)
  | .real s => s
  | .flag b => if b then "true" else "false"

/-- A single value as a setting. A number that has a name has no value as a setting. -/
def Key.toSetting? : Key → Option Setting
  | .text s => some (.text s)
  | .whole n => some (.whole n)
  | .real s => (Decimal.real? s.toList).map .real
  | .flag b => some (.flag b)

namespace Node

mutual

/-- A value as a setting. -/
def toSetting? : Node → Option Setting
  | .bad => some .nil
  | .null => some .nil
  | .single value => value.toSetting?
  | .list items => (toItems? items).map .list
  | .table entries => (toEntries? [] entries).map .table

/-- Values as settings. -/
def toItems? : List Node → Option (List Setting)
  | [] => some []
  | item :: items => do return (← toSetting? item) :: (← toItems? items)

/-- Entries as settings, behind those there are. Of two with the same name the later one counts. -/
def toEntries? (done : List (String × Setting)) :
    List (Key × Node) → Option (List (String × Setting))
  | [] => some done
  | (key, value) :: entries => do
    toEntries? (Setting.put key.name (← toSetting? value) done) entries

end

end Node

end Yaml

end Rulebook
