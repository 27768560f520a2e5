import Rulebook.Text.Blank
import Rulebook.Text.Word

/-!
# Patterns

A pattern is a regular expression for the value of a field. All that counts here is whether a text
is one. A pattern ranges over characters unless a flag says that it ranges over bytes. Of the
characters no classes are known: where a pattern ranges over characters, case cannot be ignored, and
letters, digits and blanks have no shorthand. Where it ranges over bytes, nothing may match a part
of a character.

`Mode` says how a part of a pattern is read, `Atom` is what stands for itself, and `readAtom?` reads
one.
-/

set_option autoImplicit false

namespace Rulebook

namespace Pattern

open Text

/-! ## Modes -/

/-- How a part of a pattern is read: without regard to case, over characters rather than bytes, and
with blanks and comments to be passed over. -/
structure Mode where
  anyCase : Bool
  overChars : Bool
  verbose : Bool
deriving DecidableEq, Repr

/-- The letters of flags, and the minus in front of those to be unset. -/
def flagLetters : List Char := "imsuxRU-".toList

/-- What flags say about a letter: it is set in front of the minus and unset behind it. -/
def flagState (flags : List Char) (letter : Char) : Option Bool :=
  if (flags.takeWhile (· ≠ '-')).contains letter then some true
  else if flags.contains letter then some false
  else none

namespace Mode

/-- The mode at the beginning of a pattern. -/
def standard : Mode := ⟨false, true, false⟩

/-- The mode behind flags. -/
def after (flags : List Char) (m : Mode) : Mode :=
  ⟨(flagState flags 'i').getD m.anyCase, (flagState flags 'u').getD m.overChars,
    (flagState flags 'x').getD m.verbose⟩

end Mode

/-- The text without blanks and comments in front. A comment runs to the end of its line. -/
def skipFiller (comment : Bool) : List Char → List Char
  | [] => []
  | c :: text =>
      if comment then skipFiller (c ≠ '\n') text
      else if isBlank c then skipFiller false text
      else if c = '#' then skipFiller true text
      else c :: text

/-- The text without what a verbose pattern passes over. -/
def Mode.skip (m : Mode) (text : List Char) : List Char :=
  if m.verbose then skipFiller false text else text

/-! ## Atoms -/

/-- What stands for itself: a character, which may be written as a byte, any character at all, an
end of the text or of a line, an end of a word, or the shorthand of a class or of its complement. -/
inductive Atom where
  | literal (c : Char) (asByte : Bool)
  | any
  | edge
  | wordEdge
  | shorthand (negated : Bool)
deriving DecidableEq, Repr

/-- Whether a character fits a single byte. -/
def isByteChar (c : Char) : Bool := c.toNat < 0x80

/-- Whether an atom can be matched. -/
def Mode.admits (m : Mode) : Atom → Bool
  | .literal c asByte => if m.overChars then !m.anyCase else !asByte || isByteChar c
  | .any => m.overChars
  | .edge => true
  | .wordEdge => !m.overChars
  | .shorthand negated => !m.overChars && !negated

/-- The character of digits, as many as given, behind those whose value is given. -/
def readCode? (m : Mode) : Nat → Nat → List Char → Option (Char × List Char)
  | 0, value, text => (charOfCode? value).map fun c => (c, text)
  | _ + 1, _, [] => none
  | left + 1, value, c :: text => do
      readCode? m left (16 * value + (← hexValue? c)) (m.skip text)

/-- A character written as itself behind a backslash: what is neither letter nor digit, except for
the angles, which mark the ends of words. -/
def isPlainEscape (c : Char) : Bool :=
  isByteChar c && !(isWordChar c && c ≠ '_') && c ≠ '<' && c ≠ '>'

/-- The control character of a letter behind a backslash. -/
def controlOf? : Char → Option Char
  | 'a' => some '\x07'
  | 'f' => some '\x0c'
  | 't' => some '\t'
  | 'n' => some '\n'
  | 'r' => some '\r'
  | 'v' => some '\x0b'
  | _ => none

/-- The atom behind a backslash, and the rest. -/
def readEscape? (m : Mode) : List Char → Option (Atom × List Char)
  | [] => none
  | 'x' :: text =>
      (readCode? m 2 0 (m.skip text)).map fun found => (.literal found.1 true, found.2)
  | 'u' :: text =>
      (readCode? m 4 0 (m.skip text)).map fun found => (.literal found.1 false, found.2)
  | 'U' :: text =>
      (readCode? m 8 0 (m.skip text)).map fun found => (.literal found.1 false, found.2)
  | c :: text =>
      if isPlainEscape c then some (.literal c false, text)
      else if ['d', 's', 'w'].contains c then some (.shorthand false, text)
      else if ['D', 'S', 'W'].contains c then some (.shorthand true, text)
      else if ['A', 'z'].contains c then some (.edge, text)
      else if ['b', 'B', '<', '>'].contains c then some (.wordEdge, text)
      else (controlOf? c).map fun control => (.literal control false, text)

/-- The atom at the front of a text, and the rest. -/
def readAtom? (m : Mode) : List Char → Option (Atom × List Char)
  | [] => none
  | '\\' :: text => readEscape? m text
  | '.' :: text => some (.any, text)
  | '^' :: text => some (.edge, text)
  | '$' :: text => some (.edge, text)
  | c :: text => some (.literal c false, text)

/-! ## Nesting -/

/-- How deep parts side by side are nested; a single one adds nothing. -/
def together : List Nat → Nat
  | [] => 0
  | [depth] => depth
  | depths => depths.foldl max 0 + 1

end Pattern

end Rulebook
