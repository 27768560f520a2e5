import Rulebook.Condition.Reader
import Rulebook.Proofs.Text.Standing
import Rulebook.Proofs.Text.Trimming

/-!
# How conditions are written

A `WrittenCondition` is a field, an operator and an operand with everything that may be chosen in
writing them down: one of the spellings of the operator, the case of its words, and the white space
between its words and around the parts. `Spelling.Writes` says how a spelling is written,
`Operand.Writes` which texts are operands of an operator, and what they stand for.
`WrittenCondition.plain` is a condition in the one way in which conditions are shown.
-/

set_option autoImplicit false

namespace Rulebook

open Text

/-! ## Operators -/

/-- Further words of a spelling as they are written: each in some case of its letters, behind white
space. -/
inductive FurtherWords : List String → List Char → Prop where
  | nil : FurtherWords [] []
  | cons {word : String} {more : List String} {gap spelled rest : List Char} (ne_nil : gap ≠ [])
      (blank : ∀ c ∈ gap, isBlank c = true) (spells : Spells word.toList spelled)
      (behind : FurtherWords more rest) : FurtherWords (word :: more) (gap ++ (spelled ++ rest))

namespace Spelling

/-- The operator as it is written: words in some case of their letters with white space between
them, a symbol as it is. -/
inductive Writes : Spelling → List Char → Prop where
  | words {first : String} {more : List String} {spelled rest : List Char}
      (spells : Spells first.toList spelled) (behind : FurtherWords more rest) :
      Writes (.words first more) (spelled ++ rest)
  | symbol (s : String) : Writes (.symbol s) s.toList

/-- Whether the operator is spelled in words, which need white space around them. -/
def isWorded : Spelling → Bool
  | words _ _ => true
  | symbol _ => false

end Spelling

/-! ## Operands -/

/-- The texts that are operands of an operator, and what they stand for. A number is written as
digits and points behind an optional minus sign, any other operand in letters, digits and a few
marks, with no white space at its ends. -/
inductive Operand.Writes : Operator → List Char → Operand → Prop where
  | number {op : Operator} {digits : List Char} (minus : Bool) (relational : op.isRelational = true)
      (ne_nil : digits ≠ []) (numeric : ∀ c ∈ digits, isNumeric c = true) :
      Writes op (signText minus ++ digits) (.number (parseNumber (signText minus ++ digits)))
  | text {op : Operator} {v : List Char} (plain : op.isRelational = false) (ne_nil : v ≠ [])
      (trimmed : trim v = v) (chars : ∀ c ∈ v, isPlain c = true) :
      Writes op v (.text (String.ofList v))

/-- The word that turns `is` into its opposite. -/
def negation : List Char := ['n', 'o', 't']

/-- The text goes on behind the word `not`. -/
def StartsNot (text : List Char) : Prop :=
  ∃ spelled behind, text = spelled ++ behind ∧ Spells negation spelled ∧ behind ≠ [] ∧
    startsWord behind = false

theorem startsNot_iff {text : List Char} : StartsNot text ↔
    ∃ rest, dropPhrase? negation text = some rest ∧ rest ≠ [] ∧ startsWord rest = false := by
  constructor
  · rintro ⟨spelled, rest, htext, hspells, hrest⟩
    exact ⟨rest, dropPhrase?_eq_some_iff.2 ⟨spelled, hspells, htext⟩, hrest⟩
  · rintro ⟨rest, hphrase, hrest⟩
    obtain ⟨spelled, hspells, htext⟩ := dropPhrase?_eq_some_iff.1 hphrase
    exact ⟨spelled, rest, htext, hspells, hrest⟩

instance (text : List Char) : Decidable (StartsNot text) :=
  match h : dropPhrase? negation text with
  | none => isFalse fun hstarts => by simp [startsNot_iff, h] at hstarts
  | some rest => decidable_of_iff (rest ≠ [] ∧ startsWord rest = false) (by simp [startsNot_iff, h])

/-! ## Conditions -/

/-- A condition with everything that may be chosen in writing it. -/
structure WrittenCondition where
  lead : List Char
  field : List Char
  before : List Char
  spelling : Spelling
  operator : Operator
  spelled : List Char
  behind : List Char
  value : List Char
  operand : Operand
  trail : List Char
  lead_blank : ∀ c ∈ lead, isBlank c = true
  field_ne_nil : field ≠ []
  field_word : ∀ c ∈ field, isWordChar c = true
  before_blank : ∀ c ∈ before, isBlank c = true
  listed : (spelling, operator) ∈ spellings
  writes : spelling.Writes spelled
  behind_blank : ∀ c ∈ behind, isBlank c = true
  fits : Operand.Writes operator value operand
  trail_blank : ∀ c ∈ trail, isBlank c = true
  apart : spelling.isWorded = true → before ≠ [] ∧ behind ≠ []

namespace WrittenCondition

/-- The condition as it is written. -/
def text (w : WrittenCondition) : List Char :=
  w.lead ++ (w.field ++ (w.before ++ (w.spelled ++ (w.behind ++ (w.value ++ w.trail)))))

/-- The condition that is meant. -/
def condition (w : WrittenCondition) : Condition := ⟨String.ofList w.field, w.operator, w.operand⟩

/-- The operator is spelled `is` and the operand goes on behind a word `not`, so that the two are
taken for `is not`. -/
def Negated (w : WrittenCondition) : Prop := w.spelling = .words "is" [] ∧ StartsNot w.value

end WrittenCondition

/-! ## The plain way to write a condition -/

theorem blank_of_mem_nil : ∀ c ∈ ([] : List Char), isBlank c = true := by simp

theorem blank_of_mem_space : ∀ c ∈ [' '], isBlank c = true := List.all_eq_true.1 (by decide)

/-- Words with single spaces between them are a way to write them. -/
theorem FurtherWords.of_single_spaces (more : List String) :
    FurtherWords more (more.flatMap fun word => ' ' :: word.toList) := by
  induction more with
  | nil => exact .nil
  | cons word more ih => exact .cons (List.cons_ne_nil _ _) blank_of_mem_space rfl ih

namespace Operator

/-- The spelling in which an operator is shown. -/
def spelling : Operator → Spelling
  | equal => .words "is" []
  | notEqual => .words "is" ["not"]
  | contains => .words "contains" []
  | notContains => .words "does" ["not", "contain"]
  | greater => .symbol ">"
  | greaterOrEqual => .symbol ">="
  | less => .symbol "<"
  | lessOrEqual => .symbol "<="

variable (op : Operator)

theorem spelling_mem_spellings : (op.spelling, op) ∈ spellings := by
  cases op <;> decide

/-- What is shown for an operator is one way to write it. -/
theorem writes_symbol : op.spelling.Writes op.symbol.toList := by
  cases op with
  | equal => exact @Spelling.Writes.words "is" [] "is".toList _ rfl (.of_single_spaces [])
  | notEqual =>
      exact @Spelling.Writes.words "is" ["not"] "is".toList _ rfl (.of_single_spaces ["not"])
  | contains =>
      exact @Spelling.Writes.words "contains" [] "contains".toList _ rfl (.of_single_spaces [])
  | notContains =>
      exact @Spelling.Writes.words "does" ["not", "contain"] "does".toList _ rfl
        (.of_single_spaces ["not", "contain"])
  | greater | greaterOrEqual | less | lessOrEqual => exact .symbol _

theorem spelling_eq_is_iff : op.spelling = .words "is" [] ↔ op = .equal := by
  cases op <;> decide

end Operator

namespace WrittenCondition

variable {field v : List Char} {op : Operator} {o : Operand}

/-- A condition with the operator as it is shown and single spaces between the parts. -/
def plain (hne : field ≠ []) (hword : ∀ c ∈ field, isWordChar c = true)
    (hv : Operand.Writes op v o) : WrittenCondition where
  lead := []
  field := field
  before := [' ']
  spelling := op.spelling
  operator := op
  spelled := op.symbol.toList
  behind := [' ']
  value := v
  operand := o
  trail := []
  lead_blank := blank_of_mem_nil
  field_ne_nil := hne
  field_word := hword
  before_blank := blank_of_mem_space
  listed := op.spelling_mem_spellings
  writes := op.writes_symbol
  behind_blank := blank_of_mem_space
  fits := hv
  trail_blank := blank_of_mem_nil
  apart := fun _ => ⟨List.cons_ne_nil _ _, List.cons_ne_nil _ _⟩

theorem text_plain (hne : field ≠ []) (hword : ∀ c ∈ field, isWordChar c = true)
    (hv : Operand.Writes op v o) :
    (plain hne hword hv).text = field ++ (' ' :: (op.symbol.toList ++ (' ' :: v))) := by
  simp [text, plain]

end WrittenCondition

end Rulebook
