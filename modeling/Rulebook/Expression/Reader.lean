import Rulebook.Condition.Reader
import Rulebook.Expression

/-!
# Reading rule texts

`Expression.read` takes a rule text apart: an introducing `if` and everything from `then` on are put
aside, the rest is split at `or` into groups and each group at `and` into clauses. `splitAt` cuts a
text at a word that has blanks on both sides. Reading never fails, and what is read has at least one
group, and each group at least one clause.
-/

set_option autoImplicit false

namespace Rulebook

open Text

/-- The rest of a text that begins with a separator: blanks, the word in any case, blanks. -/
def dropSeparator? (word text : List Char) : Option (List Char) :=
  match text with
  | [] => none
  | c :: behind =>
      if isAsciiBlank c then
        match dropPhrase? word (behind.dropWhile isAsciiBlank) with
        | some (d :: rest) => if isAsciiBlank d then some (rest.dropWhile isAsciiBlank) else none
        | _ => none
      else none

/-- The parts of a text between separators, after passing over `skip` characters. -/
def splitFrom (word : List Char) : Nat → List Char → List (List Char)
  | _, [] => [[]]
  | skip + 1, _ :: text => splitFrom word skip text
  | 0, c :: text =>
      match dropSeparator? word (c :: text) with
      | some rest => [] :: splitFrom word (text.length - rest.length) text
      | none => (splitFrom word 0 text).modifyHead (c :: ·)

/-- The parts of a text between the words of a connective. -/
def splitAt (connective : Connective) (text : List Char) : List (List Char) :=
  splitFrom connective.keyword.toList 0 text

/-- The text without an introducing `if`, which needs white space behind it. -/
def dropIf (text : List Char) : List Char :=
  match dropPhrase? ['i', 'f'] text with
  | some (c :: rest) => if isBlank c then trimStart rest else text
  | _ => text

/-- Whether a word goes on: with a word character or anything beyond ASCII. -/
def continuesWord : List Char → Bool
  | [] => false
  | c :: _ => isWordChar c || 128 ≤ c.toNat

/-- Whether the text begins with the whole word `then`. -/
def startsThen (text : List Char) : Bool :=
  match dropPhrase? ['t', 'h', 'e', 'n'] text with
  | some rest => !continuesWord rest
  | none => false

/-- The text up to the first whole word `then` that stands at its beginning or behind a blank.
`atStart` says whether such a word may stand right here. -/
def cutThen (atStart : Bool) : List Char → List Char
  | [] => []
  | c :: text =>
      if atStart && startsThen (c :: text) then [] else c :: cutThen (isAsciiBlank c) text

/-- The part of a rule text that states its conditions. -/
def ruleBody (text : List Char) : List Char := trimEnd (cutThen true (dropIf (trim text)))

/-- The expression of a rule text. -/
def Expression.read (text : List Char) : Expression :=
  ⟨(splitAt .or (ruleBody text)).map fun group => (splitAt .and group).map Clause.read⟩

end Rulebook
