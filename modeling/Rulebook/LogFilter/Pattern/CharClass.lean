import Rulebook.LogFilter.Pattern

/-!
# Classes in patterns

A class between brackets is a set of characters: single ones, ranges, shorthands, named classes and
classes within, put together side by side or by intersection, difference and symmetric difference.
`readClass?` reads one and says how deep it is nested.
-/

set_option autoImplicit false

namespace Rulebook

namespace Pattern

open Text

/-- The names that a class may have. -/
def classNames : List String :=
  ["alnum", "alpha", "ascii", "blank", "cntrl", "digit", "graph", "lower", "print", "punct",
    "space", "upper", "word", "xdigit"]

/-- Whether a character can be a member of a class. -/
def Mode.admitsMember (m : Mode) (c : Char) : Bool :=
  if m.overChars then !m.anyCase else isByteChar c

/-- Whether a named class can be used. -/
def Mode.admitsNamed (m : Mode) (negated : Bool) : Bool :=
  if m.overChars then !m.anyCase else !negated

/-- The rest behind the name of a class and the two marks that end it. -/
def dropName? (text : List Char) : Option (List Char) :=
  match text.dropWhile (· ≠ ':') with
  | ':' :: ']' :: rest =>
      if classNames.contains (String.ofList (text.takeWhile (· ≠ ':'))) then some rest else none
  | _ => none

/-- What follows the opening bracket of a named class: whether its complement is meant, and the
rest. -/
def readNamed? : List Char → Option (Bool × List Char)
  | ':' :: '^' :: text => (dropName? text).map fun rest => (true, rest)
  | ':' :: text => (dropName? text).map fun rest => (false, rest)
  | _ => none

/-- The minus signs in front of the members, and the rest. -/
def takeDashes (m : Mode) : Nat → List Char → List Char × List Char
  | fuel + 1, '-' :: text =>
      let (dashes, rest) := takeDashes m fuel (m.skip text)
      ('-' :: dashes, rest)
  | _, text => ([], text)

/-- What follows the opening bracket of a class: whether its complement is meant, the members that
only stand for themselves here, and the rest. -/
def readHead (m : Mode) (text : List Char) : Bool × List Char × List Char :=
  let (negated, text) := match m.skip text with
    | '^' :: more => (true, m.skip more)
    | more => (false, more)
  match takeDashes m text.length text with
  | ([], ']' :: rest) => (negated, [']'], m.skip rest)
  | (dashes, rest) => (negated, dashes, rest)

/-- One end of a range, or a member on its own. -/
def readEnd? (m : Mode) : List Char → Option (Atom × List Char)
  | [] => none
  | '\\' :: text => readEscape? m text
  | c :: text => some (.literal c false, text)

/-- The text behind blanks and at most one number sign. -/
def lookAhead (m : Mode) (text : List Char) : List Char :=
  if m.verbose then
    match text.dropWhile isBlank with
    | '#' :: more => more.dropWhile isBlank
    | more => more
  else text

/-- Whether a minus sign with this text behind it makes a range. -/
def makesRange (m : Mode) (text : List Char) : Bool :=
  match lookAhead m text with
  | ']' :: _ => false
  | '-' :: _ => false
  | _ => true

/-- Passes over a range whose first end is given. -/
def closeRange? (m : Mode) (first : Atom) (text : List Char) : Option (List Char) := do
  let (last, rest) ← readEnd? m (m.skip text)
  match first, last with
  | .literal a _, .literal b _ =>
      if a ≤ b ∧ m.admitsMember a ∧ m.admitsMember b then some rest else none
  | _, _ => none

/-- Passes over a member on its own. -/
def closeMember? (m : Mode) (member : Atom) (rest : List Char) : Option (List Char) :=
  match member with
  | .literal c _ => if m.admitsMember c then some rest else none
  | .shorthand negated => if m.admits (.shorthand negated) then some rest else none
  | _ => none

/-- Passes over a member or a range. -/
def dropMember? (m : Mode) (text : List Char) : Option (List Char) := do
  let (first, behind) ← readEnd? m text
  match m.skip behind with
  | '-' :: more =>
      if makesRange m more then closeRange? m first more else closeMember? m first ('-' :: more)
  | rest => closeMember? m first rest

/-- How deep an operation is nested, given its left side if there is one. -/
def operated (left : Option Nat) (right : Nat) : Nat :=
  match left with
  | none => right
  | some depth => max depth right + 1

/-- The depth of a class up to its closing bracket, and the rest: `left` is the depth of what stands
before the latest operator, `items` are those of what stands behind it. -/
def readSet? (m : Mode) : Nat → Option Nat → List Nat → List Char → Option (Nat × List Char)
  | 0, _, _, _ => none
  | fuel + 1, left, items, text =>
      match m.skip text with
      | ']' :: rest => some (operated left (together items), rest)
      | '&' :: '&' :: rest => readSet? m fuel (some (operated left (together items))) [] rest
      | '-' :: '-' :: rest => readSet? m fuel (some (operated left (together items))) [] rest
      | '~' :: '~' :: rest => readSet? m fuel (some (operated left (together items))) [] rest
      | '[' :: inner =>
          match readNamed? inner with
          | some (negated, rest) =>
              if m.admitsNamed negated then readSet? m fuel left (0 :: items) rest else none
          | none =>
              let (negated, members, behind) := readHead m inner
              if (negated && !m.overChars) || !members.all m.admitsMember then none
              else do
                let (depth, rest) ← readSet? m fuel none (members.map fun _ => 0) behind
                readSet? m fuel left ((depth + 1) :: items) rest
      | member => do readSet? m fuel left (0 :: items) (← dropMember? m member)

/-- The depth of the class behind an opening bracket, and the rest. -/
def readClass? (m : Mode) (fuel : Nat) (text : List Char) : Option (Nat × List Char) := do
  let (negated, members, behind) := readHead m text
  if (negated && !m.overChars) || !members.all m.admitsMember then none
  else
    let (depth, rest) ← readSet? m fuel none (members.map fun _ => 0) behind
    return (depth + 1, rest)

end Pattern

end Rulebook
