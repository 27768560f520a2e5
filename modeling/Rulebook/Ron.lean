import Rulebook.Ron.Number
import Rulebook.Text.Parts

/-!
# Object notation in settings files

RON has records whose fields have names, maps, lists, texts, characters, numbers, and values that
may be missing. Names of types mean nothing. `Ron.read?` takes the table that a text stands for,
where records and maps are tables, and tuples and lists are lists.
-/

set_option autoImplicit false

namespace Rulebook

namespace Ron

open Text

/-! ## Blanks and comments -/

/-- A character between values that means nothing. -/
def isGap (c : Char) : Bool :=
  ('\t' ≤ c && c ≤ '\r') ||
    [' ', '\u0085', '\u200E', '\u200F', '\u2028', '\u2029'].contains c

/-- What means nothing at a place: blanks, the rest of a line, or all up to the end of a comment
with `outer` others around it. -/
inductive Filler where
  | blank
  | line
  | comment (outer : Nat)

/-- The text without blanks and comments in front. A comment has to be closed. -/
def skip? : Filler → List Char → Option (List Char)
  | .blank, '/' :: '/' :: text => skip? .line text
  | .blank, '/' :: '*' :: text => skip? (.comment 0) text
  | .blank, c :: text => if isGap c then skip? .blank text else some (c :: text)
  | .line, c :: text => if c = '\n' then skip? .blank text else skip? .line text
  | .comment 0, '*' :: '/' :: text => skip? .blank text
  | .comment (outer + 1), '*' :: '/' :: text => skip? (.comment outer) text
  | .comment outer, '/' :: '*' :: text => skip? (.comment (outer + 1)) text
  | .comment outer, _ :: text => skip? (.comment outer) text
  | .comment _, [] => none
  | _, [] => some []

/-! ## Texts -/

/-- The character that a letter behind a backslash stands for. -/
def escaped? : Char → Option Char
  | '\'' => some '\''
  | '"' => some '"'
  | '\\' => some '\\'
  | 'n' => some '\n'
  | 'r' => some '\r'
  | 't' => some '\t'
  | '0' => some '\x00'
  | _ => none

/-- The character behind a backslash, and the rest. -/
def scanEscape? : List Char → Option (Char × List Char)
  | 'x' :: a :: b :: rest => (codedChar? [a, b]).map fun c => (c, rest)
  | 'u' :: '\x7b' :: text => do
      let digits := text.takeWhile fun c => (hexValue? c).isSome
      match text.drop digits.length with
      | '\x7d' :: rest =>
          if 1 ≤ digits.length ∧ digits.length ≤ 6 then return (← codedChar? digits, rest) else none
      | _ => none
  | letter :: rest => (escaped? letter).map fun c => (c, rest)
  | [] => none

/-- The text up to its closing quote, and the rest. -/
def scanQuoted? : Nat → List Char → Option (List Char × List Char)
  | 0, _ => none
  | fuel + 1, text =>
      match text with
      | [] => none
      | '"' :: rest => some ([], rest)
      | '\\' :: escape => do
          let (c, rest) ← scanEscape? escape
          (scanQuoted? fuel rest).map (prepend c)
      | c :: rest => (scanQuoted? fuel rest).map (prepend c)

/-- The text up to a closing mark, and the rest. -/
def scanUpTo? (mark : List Char) : List Char → Option (List Char × List Char)
  | [] => none
  | c :: text =>
      match dropLiteral? mark (c :: text) with
      | some rest => some ([], rest)
      | none => (scanUpTo? mark text).map (prepend c)

/-- The raw text here behind its letter, and the rest. It ends at a quote with as many number signs
as there are in front. -/
def scanRaw? (text : List Char) : Option (List Char × List Char) :=
  let signs := text.takeWhile (· = '#')
  match text.drop signs.length with
  | '"' :: inner => scanUpTo? ('"' :: signs) inner
  | _ => none

/-- The character here behind its opening quote, and the rest. -/
def scanChar? (text : List Char) : Option (List Char × List Char) := do
  let (c, behind) ←
    match text with
    | '\\' :: escape => scanEscape? escape
    | c :: rest => some (c, rest)
    | [] => none
  match behind with
  | '\'' :: rest => some ([c], rest)
  | _ => none

/-- The text or the character here, and the rest. -/
def scanText? : List Char → Option (List Char × List Char)
  | '"' :: text => scanQuoted? (text.length + 1) text
  | 'r' :: text => scanRaw? text
  | '\'' :: text => scanChar? text
  | _ => none

/-! ## Fields -/

/-- A character of a name that may have points and signs in it. -/
def isRawNamePart (c : Char) : Bool := isNamePart c || c = '.' || c = '+' || c = '-'

/-- The name of a field, and the rest. With points or signs in it, it has to be marked as raw. -/
def scanField? (text : List Char) : Option (String × List Char) :=
  match text with
  | 'r' :: '#' :: raw =>
      let name := raw.takeWhile isRawNamePart
      if name = [] then none else some (String.ofList name, raw.dropWhile isRawNamePart)
  | _ => do
      let (name, rest) ← scanName? text
      if rest.head?.any isRawNamePart then none else some (name, rest)

/-- Whether a record of named fields begins here, behind its opening bracket. -/
def isRecord (text : List Char) : Bool :=
  ((scanName? text).bind fun found => skip? .blank found.2).any fun rest => rest.head? = some ':'

/-- The text of a key. -/
def keyText? : Setting → Option String
  | .text s => some s
  | _ => none

/-! ## Values -/

mutual

/-- The value here, and the rest; `room` is how much deeper values may be nested. -/
def scanValue? : Nat → Nat → List Char → Option (Setting × List Char)
  | 0, _, _ => none
  | fuel + 1, room, text =>
      match scanName? text with
      | some ("true", rest) => some (.flag true, rest)
      | some ("false", rest) => some (.flag false, rest)
      | some ("None", rest) => some (.nil, rest)
      | some ("Some", rest) => do
          match ← skip? .blank rest, room with
          | '(' :: inner, room + 1 => scanPresent? fuel room inner
          | _, _ => none
      | some (name, behind) =>
          match named? name with
          | some x => some (.real x, behind)
          | none => do
              match ← skip? .blank behind with
              | '(' :: inner => scanFields? fuel room inner
              | rest => some (.nil, rest)
      | none =>
          match text, room with
          | '(' :: ')' :: rest, _ => some (.nil, rest)
          | '(' :: inner, _ => scanFields? fuel room inner
          | '[' :: inner, room + 1 => do
              let (items, rest) ← scanItems? fuel room ']' inner
              return (.list items, rest)
          | '\x7b' :: inner, room + 1 => do
              let (entries, rest) ← scanEntries? fuel room '\x7d' [] inner
              return (.table entries, rest)
          | _, _ =>
              ((scanText? text).map fun found => (.text (String.ofList found.1), found.2)).or
                (scanNumber? text)

/-- The value that is there, up to its closing bracket, and the rest. -/
def scanPresent? : Nat → Nat → List Char → Option (Setting × List Char)
  | 0, _, _ => none
  | fuel + 1, room, text => do
      let (s, behind) ← scanValue? fuel room (← skip? .blank text)
      match ← skip? .blank behind with
      | ')' :: rest => some (s, rest)
      | ',' :: more =>
          match ← skip? .blank more with
          | ')' :: rest => some (s, rest)
          | _ => none
      | _ => none

/-- The fields of a record or a tuple up to the closing bracket, and the rest. -/
def scanFields? : Nat → Nat → List Char → Option (Setting × List Char)
  | 0, _, _ => none
  | _, 0, _ => none
  | fuel + 1, room + 1, text => do
      if isRecord (← skip? .blank text) then
        let (entries, rest) ← scanEntries? fuel room ')' [] text
        return (.table entries, rest)
      else
        let (items, rest) ← scanItems? fuel room ')' text
        return (.list items, rest)

/-- Items up to a closing bracket, and the rest. -/
def scanItems? : Nat → Nat → Char → List Char → Option (List Setting × List Char)
  | 0, _, _, _ => none
  | fuel + 1, room, close, text => do
      match ← skip? .blank text, room with
      | [], _ => none
      | c :: rest, room =>
          if c = close then some ([], rest)
          else
            match room with
            | 0 => none
            | inner + 1 => do
                let (item, behind) ← scanValue? fuel inner (c :: rest)
                match ← skip? .blank behind with
                | ',' :: more => do
                    let (items, rest) ← scanItems? fuel room close more
                    return (item :: items, rest)
                | c :: rest => if c = close then some ([item], rest) else none
                | [] => none

/-- Entries up to a closing bracket or brace behind those there are, and the rest. Of two with the
same name the later one counts. -/
def scanEntries? :
    Nat → Nat → Char → List (String × Setting) → List Char →
      Option (List (String × Setting) × List Char)
  | 0, _, _, _, _ => none
  | fuel + 1, room, close, entries, text => do
      match ← skip? .blank text, room with
      | [], _ => none
      | c :: rest, room =>
          if c = close then some (entries, rest)
          else
            match room with
            | 0 => none
            | inner + 1 => do
                let (name, afterName) ←
                  if close = ')' then scanField? (c :: rest)
                  else do
                    let (key, behind) ← scanValue? fuel inner (c :: rest)
                    pure (← keyText? key, behind)
                match ← skip? .blank afterName with
                | ':' :: value => do
                    let (s, behind) ← scanValue? fuel inner (← skip? .blank value)
                    let entries := Setting.put name s entries
                    match ← skip? .blank behind with
                    | ',' :: more => scanEntries? fuel room close entries more
                    | c :: rest => if c = close then some (entries, rest) else none
                    | [] => none
                | _ => none

end

/-! ## Files -/

/-- How deep values may be nested, where a collection and each of its items count. -/
def deepest : Nat := 128

/-- The extensions of the notation. None of them changes what a table is. -/
def extensions : List String :=
  ["unwrap_newtypes", "implicit_some", "unwrap_variant_newtypes", "explicit_struct_names"]

/-- The rest behind literals with blanks between them. -/
def dropLiterals? : List String → List Char → Option (List Char)
  | [], text => some text
  | l :: literals, text => do
      dropLiterals? literals (← skip? .blank (← dropLiteral? l.toList text))

/-- The rest behind the names of extensions. -/
def dropExtensions? : Nat → List Char → Option (List Char)
  | 0, _ => none
  | fuel + 1, text => do
      let (name, behind) ← scanField? text
      if !extensions.contains name then none
      else
        match ← skip? .blank behind with
        | ',' :: more => do
            let rest ← skip? .blank more
            if (scanName? rest).isSome then dropExtensions? fuel rest else return rest
        | rest => return rest

/-- The rest behind the attributes of a file. -/
def dropAttributes? : Nat → List Char → Option (List Char)
  | 0, _ => none
  | fuel + 1, text => do
      match ← skip? .blank text with
      | '#' :: behind => do
          let names ← dropLiterals? ["!", "[", "enable", "("] (← skip? .blank behind)
          let behind ← dropExtensions? (names.length + 1) names
          dropAttributes? fuel (← dropLiterals? [")", "]"] behind)
      | rest => some rest

/-- The table that the text of a settings file stands for. -/
def read? (s : String) : Option Setting := do
  let text ← dropAttributes? (s.length + 1) s.toList
  match ← scanValue? (4 * text.length + 4) deepest text with
  | (.table entries, rest) => if (← skip? .blank rest) = [] then some (.table entries) else none
  | _ => none

end Ron

end Rulebook
