import Rulebook.Decimal.Literal
import Rulebook.Setting
import Rulebook.Text.Blank

/-!
# Paths of settings

A path is a name, followed by more names behind points and by indices between brackets. Names are
made of ASCII letters, digits, underscores and minus signs. `Setting.pathOf` reads a path; a text
that is none is a single name as it is.
-/

set_option autoImplicit false

namespace Rulebook

namespace Setting

open Text

/-- The name at the front of a text, and the rest. -/
def takeName? (chars : List Char) : Option (Step × List Char) :=
  let name := chars.takeWhile isNameChar
  if name = [] then none else some (.name (String.ofList name), chars.dropWhile isNameChar)

/-- The index behind an opening bracket, and the rest behind the closing one. There may be blanks
around it. -/
def takeIndex? (chars : List Char) : Option (Step × List Char) :=
  let isPart := fun c => c = '-' || isAsciiDigit c
  let number := chars.dropWhile isSpace
  match (number.dropWhile isPart).dropWhile isSpace with
  | ']' :: rest => (Decimal.signedWord? (number.takeWhile isPart)).map fun i => (.index i, rest)
  | _ => none

/-- The step at the front of a text that goes on with a path, and the rest. -/
def takeStep? : List Char → Option (Step × List Char)
  | '.' :: chars => takeName? chars
  | '[' :: chars => takeIndex? chars
  | _ => none

/-- The steps behind the first one. -/
def moreSteps? : Nat → List Char → Option (List Step)
  | _, [] => some []
  | 0, _ => none
  | fuel + 1, chars => do
      let (step, rest) ← takeStep? chars
      return step :: (← moreSteps? fuel rest)

/-- The steps of a path. -/
def steps? (chars : List Char) : Option (List Step) := do
  let (first, rest) ← takeName? chars
  return first :: (← moreSteps? rest.length rest)

/-- The path that a text is. -/
def pathOf (s : String) : List Step := (steps? s.toList).getD [.name s]

end Setting

end Rulebook
