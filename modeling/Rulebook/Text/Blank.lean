import Rulebook.Text.Ranges

/-!
# White space

`isBlank` is the white space of Unicode, which `trim` removes at both ends of a text.
`isAsciiBlank` is the narrower set that separates the words of a rule text, `isSpace` that of the
blanks within a line.
-/

set_option autoImplicit false

namespace Rulebook.Text

/-- The 25 white-space characters of Unicode. -/
def blankRanges : List (Nat × Nat) :=
  [(0x9, 0xD), (0x20, 0x20), (0x85, 0x85), (0xA0, 0xA0), (0x1680, 0x1680), (0x2000, 0x200A),
   (0x2028, 0x2029), (0x202F, 0x202F), (0x205F, 0x205F), (0x3000, 0x3000)]

/-- White space of any script. -/
def isBlank (c : Char) : Bool := inRanges blankRanges c.toNat

/-- Space, tab, line feed, form feed and carriage return. -/
def isAsciiBlank (c : Char) : Bool :=
  c = ' ' || c = '\t' || c = '\n' || c = '\x0c' || c = '\r'

/-- Space and tab, the blanks within a line. -/
def isSpace (c : Char) : Bool := c = ' ' || c = '\t'

theorem ascending_blankRanges : ascending blankRanges = true := by decide

/-- A separator of words is white space. -/
theorem isBlank_of_isAsciiBlank {c : Char} (h : isAsciiBlank c = true) : isBlank c = true := by
  simp only [isAsciiBlank, Bool.or_eq_true, decide_eq_true_eq] at h
  rcases h with (((h | h) | h) | h) | h <;> subst h <;> decide

/-- The text without white space in front. -/
def trimStart (text : List Char) : List Char := text.dropWhile isBlank

/-- The text without white space at its end. -/
def trimEnd (text : List Char) : List Char := (text.reverse.dropWhile isBlank).reverse

/-- The text without white space at either end. -/
def trim (text : List Char) : List Char := trimEnd (trimStart text)

/-- Trimming of whole strings. -/
def trimString (s : String) : String := String.ofList (trim s.toList)

end Rulebook.Text
