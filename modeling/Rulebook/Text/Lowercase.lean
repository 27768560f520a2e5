import Rulebook.Text.Lowercase.Table

/-!
# Lower case

`lowerChar` is the full lower-case mapping of one character, `lower` that of a whole text, where a
capital sigma at the end of a word becomes the final form. `foldChars` maps character by character
and knows no final sigma: column names are compared with it.
-/

set_option autoImplicit false

namespace Rulebook.Text

/-- The lower-case code of `n` by the runs given, `n` itself if none names it. -/
def lowerCode : List (Nat × Nat × Nat × Nat) → Nat → Nat
  | [], n => n
  | (first, last, step, target) :: rest, n =>
      if n < first then n
      else if n ≤ last ∧ (n - first) % step = 0 then target + (n - first)
      else lowerCode rest n

/-- Dotted capital I is the one character whose lower-case form has two. -/
def lowerChar (c : Char) : List Char :=
  if c = '\u0130' then ['i', '\u0307'] else [Char.ofNat (lowerCode lowercaseRuns c.toNat)]

/-- The first character that is not passed over has a case. -/
def nextIsCased (text : List Char) : Bool :=
  match text.dropWhile isCaseIgnorable with
  | [] => false
  | c :: _ => isCased c

/-- Whether a letter between `before`, read backwards, and `after` ends a word. -/
def endsWord (before after : List Char) : Bool := nextIsCased before && !nextIsCased after

/-- Lower case of the rest of a text whose beginning, read backwards, is `before`. -/
def lowerFrom (before : List Char) : List Char → List Char
  | [] => []
  | c :: after =>
      (if c = 'Σ' then [if endsWord before after then 'ς' else 'σ'] else lowerChar c)
        ++ lowerFrom (c :: before) after

/-- Lower case of a text. -/
def lower (text : List Char) : List Char := lowerFrom [] text

/-- Lower case character by character. -/
def foldChars (text : List Char) : List Char := text.flatMap lowerChar

/-- Lower case of a string. -/
def lowerString (s : String) : String := String.ofList (lower s.toList)

end Rulebook.Text
