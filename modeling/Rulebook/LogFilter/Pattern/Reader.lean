import Rulebook.LogFilter.Pattern.CharClass
import Rulebook.Text.Alphabetic

/-!
# Reading patterns

`Pattern.isPattern` says whether a text is a pattern that can be matched. The reader keeps only what
this needs: the mode, the names of groups, and how deep the parts are nested, which is limited.
-/

set_option autoImplicit false

namespace Rulebook

namespace Pattern

open Text

/-! ## Groups -/

/-- The opening of a group, behind its parenthesis: its flags, whether they are all there is to it,
the names of all groups so far, and what follows. -/
structure Opening where
  flags : List Char
  isBare : Bool
  names : List String
  rest : List Char

/-- A character with which the name of a group may begin. -/
def opensName (c : Char) : Bool := c = '_' || isAlphabetic c

/-- A character within the name of a group. -/
def continuesName (c : Char) : Bool :=
  c = '_' || c = '.' || c = '[' || c = ']' || isAlphanumeric c

/-- The name of a group up to its closing angle, and the rest. -/
def readName? (text : List Char) : Option (String × List Char) :=
  match text.takeWhile (· ≠ '>'), text.dropWhile (· ≠ '>') with
  | c :: more, '>' :: rest =>
      if opensName c && more.all continuesName then some (String.ofList (c :: more), rest) else none
  | _, _ => none

/-- The opening of a group with a name that no group has yet. -/
def openNamed? (names : List String) (text : List Char) : Option Opening := do
  let (name, rest) ← readName? text
  if names.contains name then none else some ⟨[], false, name :: names, rest⟩

/-- The opening of a group with flags. Flags on their own are at least one. -/
def openFlagged? (names : List String) (text : List Char) : Option Opening :=
  let flags := text.takeWhile fun c => c ≠ ':' ∧ c ≠ ')'
  if !flags.all flagLetters.contains || flags.eraseDups ≠ flags ||
      flags.getLast? = some '-' then none
  else
    match text.dropWhile fun c => c ≠ ':' ∧ c ≠ ')' with
    | ':' :: rest => some ⟨flags, false, names, rest⟩
    | ')' :: rest => if flags = [] then none else some ⟨flags, true, names, rest⟩
    | _ => none

/-- The opening of a group. -/
def openGroup? (names : List String) : List Char → Option Opening
  | '?' :: 'P' :: '<' :: text => openNamed? names text
  | '?' :: '<' :: text => openNamed? names text
  | '?' :: text => openFlagged? names text
  | text => some ⟨[], false, names, text⟩

/-! ## Branches -/

/-- What is done to the part before it. -/
def isRepetition (c : Char) : Bool := c = '?' || c = '*' || c = '+'

/-- The text without the mark of a repetition that takes as little as it can. -/
def dropLazyMark : List Char → List Char
  | '?' :: text => text
  | text => text

/-- How deep a group is nested inside: the depths of the branches done, and the parts of the latest
one, among which flags count for nothing. -/
def nesting (branches : List Nat) (parts : List (Option Nat)) : Nat :=
  together (together (parts.map (·.getD 0)) :: branches)

/-- Reads up to the closing parenthesis of a group or to the end: how deep the text is nested, the
names of all groups so far, and the rest. -/
def readBranches? : Nat → Mode → List String → List Nat → List (Option Nat) → List Char →
    Option (Nat × List String × List Char)
  | 0, _, _, _, _, _ => none
  | fuel + 1, m, names, branches, parts, text =>
      match m.skip text with
      | [] => some (nesting branches parts, names, [])
      | ')' :: rest => some (nesting branches parts, names, ')' :: rest)
      | '|' :: rest =>
          readBranches? fuel m names (together (parts.map (·.getD 0)) :: branches) [] rest
      | '(' :: inner => do
          let opening ← openGroup? names (m.skip inner)
          let mode := m.after opening.flags
          if opening.isBare then
            readBranches? fuel mode opening.names branches (none :: parts) opening.rest
          else
            match ← readBranches? fuel mode opening.names [] [] opening.rest with
            | (depth, names, ')' :: rest) =>
                readBranches? fuel m names branches (some (depth + 1) :: parts) rest
            | _ => none
      | '[' :: inner => do
          let (depth, rest) ← readClass? m fuel inner
          readBranches? fuel m names branches (some depth :: parts) rest
      | '\x7b' :: _ => none
      | c :: rest =>
          if isRepetition c then
            match parts with
            | some depth :: before =>
                readBranches? fuel m names branches (some (depth + 1) :: before) (dropLazyMark rest)
            | _ => none
          else do
            let (atom, rest) ← readAtom? m (c :: rest)
            if m.admits atom then readBranches? fuel m names branches (some 0 :: parts) rest
            else none

/-- How deep a pattern may be nested. -/
def deepest : Nat := 250

/-- Whether a text is a pattern that can be matched. -/
def isPattern (text : List Char) : Bool :=
  match readBranches? (text.length + 1) .standard [] [] [] text with
  | some (depth, _, []) => depth ≤ deepest
  | _ => false

end Pattern

end Rulebook
