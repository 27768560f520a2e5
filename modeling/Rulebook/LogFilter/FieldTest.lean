import Rulebook.Decimal.Layout
import Rulebook.Decimal.Literal
import Rulebook.LogFilter.Pattern.Reader
import Rulebook.Text.Parts

/-!
# Tests of fields

A directive may name a field of a span and ask for its value. What is asked for is yes or no, a
number or a pattern, whichever the text can be read as in this order.
-/

set_option autoImplicit false

namespace Rulebook

/-- What a field is asked to be. -/
inductive FieldValue where
  | flag (b : Bool)
  | real (x : Float)
  | notANumber
  | count (n : Nat)
  | whole (n : Int)
  | pattern (s : String)

/-- The first of the comparisons that tells two things apart. -/
def decided : List Ordering → Ordering
  | [] => .eq
  | .eq :: more => decided more
  | o :: _ => o

namespace FieldValue

/-- A number, or what is none. -/
def ofFloat (x : Float) : FieldValue := if x.isNaN then .notANumber else .real x

/-- The value that a text asks for. A text that is no pattern either asks for nothing. -/
def read? (text : List Char) : Option FieldValue :=
  if text = "true".toList then some (.flag true)
  else if text = "false".toList then some (.flag false)
  else
    match Decimal.unsignedWord? text, Decimal.signedWord? text, Decimal.real? text with
    | some n, _, _ => some (.count n)
    | none, some n, _ => some (.whole n)
    | none, none, some x => some (ofFloat x)
    | none, none, none =>
        if Pattern.isPattern text then some (.pattern (String.ofList text)) else none

/-- How a value is shown. -/
def render : FieldValue → String
  | .flag b => if b then "true" else "false"
  | .real x => String.ofList (plainNumber x)
  | .notANumber => "NaN"
  | .count n => String.ofList (plainWhole n)
  | .whole n => String.ofList (plainWhole n)
  | .pattern s => s

/-- The kinds of values in their order. -/
def rank : FieldValue → Nat
  | .flag _ => 0
  | .real _ => 1
  | .notANumber => 2
  | .count _ => 3
  | .whole _ => 4
  | .pattern _ => 5

/-- The order of two numbers; the two zeros are the same. -/
def compareReals (x y : Float) : Ordering := if x < y then .lt else if y < x then .gt else .eq

/-- The order of two values: by their kinds, and within a kind by size or by name. -/
def order : FieldValue → FieldValue → Ordering
  | .flag a, .flag b => compare a.toNat b.toNat
  | .real x, .real y => compareReals x y
  | .count m, .count n => compare m n
  | .whole m, .whole n => compare m n
  | .pattern s, .pattern t => compare s t
  | a, b => compare a.rank b.rank

end FieldValue

/-- The name of a field, and what it is asked to be if anything. -/
structure FieldTest where
  name : String
  value : Option FieldValue

namespace FieldTest

/-- The test that a text between braces is: a name, and a value behind an equals sign. What follows
a second one is passed over. -/
def read? (text : List Char) : Option FieldTest :=
  match Text.partsAt '=' text with
  | name :: value :: _ => (FieldValue.read? value).map fun v => ⟨String.ofList name, some v⟩
  | _ => some ⟨String.ofList text, none⟩

/-- How a test is shown. -/
def render (t : FieldTest) : String := t.name ++ t.value.elim "" fun v => "=" ++ v.render

/-- The order of two tests: one that asks for a value comes after one that does not. -/
def order (s t : FieldTest) : Ordering :=
  decided [compare s.value.isSome.toNat t.value.isSome.toNat, compare s.name t.name,
    match s.value, t.value with
    | some a, some b => a.order b
    | _, _ => .eq]

end FieldTest

end Rulebook
