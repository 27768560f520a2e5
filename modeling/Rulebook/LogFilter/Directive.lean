import Rulebook.LogFilter.FieldTest
import Rulebook.LogFilter.Level
import Rulebook.Text.Parts

/-!
# Directives

A directive sets the level of what it names: a target, a span between brackets, a field of a span
between braces, or everything. `Directive.read?` finds the parts of a directive in its text without
blanks at either end, and takes each from the same position of the text as it was given.
`Directive.specificity` orders directives, and `Directive.insert` keeps a list of them in that
order.
-/

set_option autoImplicit false

namespace Rulebook

open Text

/-- What a directive names, and its level. -/
structure Directive where
  target : Option String
  span : Option String
  fields : List FieldTest
  level : Level

namespace Directive

/-! ## Reading -/

/-- A character with which a directive without brackets may begin. -/
def isOpening (c : Char) : Bool := isAlphanumeric c || c = '-' || c = ':' || c = '_'

/-- The level behind a position; no text at all is the most verbose one. -/
def levelAt? (whole : List Char) (position : Nat) : Option Level := do
  let text ← behind? position whole
  if text = [] then some .trace else Level.read? text

/-- The level behind a closing bracket: `seen` is what is seen there, `position` is where. -/
def levelBehind? (whole : List Char) (position : Nat) : List Char → Option Level
  | [] => some .trace
  | '=' :: _ => levelAt? whole (position + 1)
  | _ => none

/-- The piece of a text from one position to another, as a string. -/
def named? (whole : List Char) (start stop : Nat) : Option String :=
  (piece? start stop whole).map String.ofList

/-- A field between braces: `seen` is what is seen behind the opening one, at the position given. -/
def readField? (whole : List Char) (target span : Option String) (position : Nat)
    (seen : List Char) : Option Directive := do
  let stop := position + width (seen.takeWhile (· ≠ '\x7d'))
  match seen.dropWhile (· ≠ '\x7d') with
  | '\x7d' :: ']' :: behind =>
      let text ← piece? position stop whole
      if text = [] then none
      else
        let field ← FieldTest.read? text
        return ⟨target, span, [field], ← levelBehind? whole (stop + 2) behind⟩
  | _ => none

/-- A span between brackets: `seen` is what is seen behind the opening one, at the position given. A
span with a field needs no name. -/
def readSpan? (whole : List Char) (target : Option String) (position : Nat) (seen : List Char) :
    Option Directive := do
  let stop := position + width (seen.takeWhile fun c => c ≠ ']' ∧ c ≠ '\x7b')
  let name ← named? whole position stop
  match seen.dropWhile fun c => c ≠ ']' ∧ c ≠ '\x7b' with
  | ']' :: behind => return ⟨target, some name, [], ← levelBehind? whole (stop + 1) behind⟩
  | '\x7b' :: inner =>
      readField? whole target (if name = "" then none else some name) (stop + 1) inner
  | _ => none

/-- A target, a level, or both: `seen` is what is seen at the beginning. A target alone is logged in
full. -/
def readTarget? (whole seen : List Char) : Option Directive := do
  let stop := width (seen.takeWhile fun c => c ≠ '=' ∧ c ≠ '[')
  match seen.dropWhile fun c => c ≠ '=' ∧ c ≠ '[' with
  | '=' :: _ => return ⟨← named? whole 0 stop, none, [], ← levelAt? whole (stop + 1)⟩
  | '[' :: inner => readSpan? whole (some (← named? whole 0 stop)) (stop + 1) inner
  | _ =>
      match Level.read? whole with
      | some level => return ⟨none, none, [], level⟩
      | none => return ⟨some (String.ofList whole), none, [], .trace⟩

/-- The directive that a text is. -/
def read? (text : List Char) : Option Directive :=
  match trim text with
  | [] => none
  | '[' :: inner => readSpan? text none 1 inner
  | c :: more => if isOpening c then readTarget? text (c :: more) else none

/-! ## Showing -/

/-- What a directive names, as it is shown. -/
def subject (d : Directive) : String :=
  let fields := ",".intercalate (d.fields.map FieldTest.render)
  let braces := if d.fields.isEmpty then "" else "\x7b" ++ fields ++ "\x7d"
  let brackets :=
    if d.span.isNone && d.fields.isEmpty then "" else "[" ++ d.span.getD "" ++ braces ++ "]"
  d.target.getD "" ++ brackets

/-- How a directive is shown. -/
def render (d : Directive) : String :=
  if d.target.isNone && d.span.isNone && d.fields.isEmpty then d.level.name
  else d.subject ++ "=" ++ d.level.name

/-! ## Order -/

/-- The length of a name in bytes, where no name at all comes last. -/
def weight (name : Option String) : Nat := name.elim 0 fun s => s.utf8ByteSize + 1

/-- The order of two lists of tests, item by item. -/
def orderFields : List FieldTest → List FieldTest → Ordering
  | [], [] => .eq
  | [], _ :: _ => .lt
  | _ :: _, [] => .gt
  | s :: ss, t :: ts => decided [s.order t, orderFields ss ts]

/-- How specific a directive is: by the length of its target, by a span, by its fields, and by name
where all this is the same. -/
def specificity (a b : Directive) : Ordering :=
  decided [compare (weight a.target) (weight b.target),
    compare a.span.isSome.toNat b.span.isSome.toNat,
    compare a.fields.length b.fields.length,
    compare (a.target.getD "") (b.target.getD ""),
    compare (a.span.getD "") (b.span.getD ""),
    orderFields a.fields b.fields]

/-- Puts a directive among others, the more specific ones first, in place of one that names the
same. -/
def insert (d : Directive) : List Directive → List Directive
  | [] => [d]
  | e :: rest =>
      match specificity d e with
      | .gt => d :: e :: rest
      | .eq => d :: rest
      | .lt => e :: insert d rest

/-- Whether a directive has to look at spans. -/
def isDynamic (d : Directive) : Bool := d.span.isSome || !d.fields.isEmpty

/-- A directive can be settled without looking at a span if it names none and asks for no value of a
field. -/
def isStatic (d : Directive) : Bool := d.span.isNone && d.fields.all fun t => t.value.isNone

end Directive

end Rulebook
