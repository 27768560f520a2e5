import Rulebook.Condition
import Rulebook.Numeral
import Rulebook.Text.Alphanumeric

/-!
# Reading conditions

A condition is written as field, operator and operand. `Condition.readWith?` tries the spellings of
a table in turn and takes the first under which the rest is an operand; `spellings` is the table of
the language. A spelling that begins another one stands behind it, so `>=` is never read as `>` with
an operand that begins with `=`. `Clause.read` never fails: what is no condition is kept as it is.
-/

set_option autoImplicit false

namespace Rulebook

open Text

/-- How an operator is written: as words with white space between them, or as a symbol. -/
inductive Spelling where
  | words (first : String) (more : List String)
  | symbol (text : String)
deriving DecidableEq, Repr

namespace Spelling

/-- The rest of a text behind further words, each after some white space. -/
def dropWords? : List String → List Char → Option (List Char)
  | [], text => some text
  | word :: more, text =>
      match text with
      | [] => none
      | c :: _ =>
          if isBlank c then (dropPhrase? word.toList (trimStart text)).bind (dropWords? more)
          else none

/-- The text, if no word goes on at its front. -/
def atBoundary? (text : List Char) : Option (List Char) :=
  if startsWord text then none else some text

/-- The rest of a text that begins with the operator as spelled. Words are taken in any case and end
where no word character follows. -/
def drop? : Spelling → List Char → Option (List Char)
  | .words first more, text =>
      ((dropPhrase? first.toList text).bind (dropWords? more)).bind atBoundary?
  | .symbol s, text => dropLiteral? s.toList text

end Spelling

/-- The spellings of the language and what they mean. -/
def spellings : List (Spelling × Operator) :=
  [(.words "does" ["not", "contain"], .notContains),
   (.words "contains" [], .contains),
   (.words "is" ["not"], .notEqual),
   (.symbol "!=", .notEqual),
   (.symbol "==", .equal),
   (.symbol ">=", .greaterOrEqual),
   (.symbol "<=", .lessOrEqual),
   (.symbol ">", .greater),
   (.symbol "<", .less),
   (.symbol "=", .equal),
   (.words "is" [], .equal)]

namespace Operand

/-- The characters of a numeric operand behind its sign. -/
def isNumeric (c : Char) : Bool := isAsciiDigit c || c = '.'

/-- The text without a minus sign in front. -/
def unsigned : List Char → List Char
  | '-' :: digits => digits
  | digits => digits

/-- The characters of a textual operand. -/
def isPlain (c : Char) : Bool :=
  isAlphanumeric c || c = '_' || c = '.' || c = '-' || c = ' '

/-- The operand that a trimmed text is for an operator. A numeric one may turn out to be no number,
as `.` is; a comparison with it fails. -/
def read? (operator : Operator) (text : List Char) : Option Operand :=
  if operator.isRelational then
    if unsigned text ≠ [] ∧ (unsigned text).all isNumeric then some (.number (parseNumber text))
    else none
  else if text ≠ [] ∧ text.all isPlain then some (.text (String.ofList text))
  else none

end Operand

namespace Condition

/-- The condition on a field, if the rest of its text fits the spelling given. -/
def readAs? (field rest : List Char) (spelled : Spelling × Operator) : Option Condition := do
  let behind ← spelled.1.drop? rest
  let operand ← Operand.read? spelled.2 (trim behind)
  return ⟨String.ofList field, spelled.2, operand⟩

/-- The condition that a text is under a table of spellings. -/
def readWith? (table : List (Spelling × Operator)) (text : List Char) : Option Condition :=
  let body := trim text
  let field := body.takeWhile isWordChar
  let rest := trimStart (body.dropWhile isWordChar)
  if field = [] then none else table.findSome? (readAs? field rest)

/-- The condition that a text is. -/
def read? (text : List Char) : Option Condition := readWith? spellings text

end Condition

/-- The clause that a text is. -/
def Clause.read (text : List Char) : Clause :=
  match Condition.read? text with
  | some c => .condition c
  | none => .never (String.ofList (trim text))

end Rulebook
