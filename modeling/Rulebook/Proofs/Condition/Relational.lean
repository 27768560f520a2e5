import Rulebook.Condition.Evaluation
import Rulebook.Proofs.Condition.Reading

/-!
# Comparisons of numbers

A relational operator has one spelling, its symbol, and no other entry of the table fits where the
symbol stands: what is left behind it is the operand, or there is no condition
(`Condition.read?_relational`). What is no number is in no relation to any cell
(`holdsOfCell_notANumber`).
-/

set_option autoImplicit false

namespace Rulebook

open Text

/-- The entry of the table for a relational operator. -/
def Operator.entry (op : Operator) : Spelling × Operator := (.symbol op.symbol, op)

namespace Condition

variable {field tail : List Char} {op : Operator}

theorem entry_mem_spellings (hop : op.isRelational = true) : op.entry ∈ spellings := by
  cases op with
  | greater | greaterOrEqual | less | lessOrEqual => decide
  | equal | notEqual | contains | notContains => cases hop

theorem entry_not_isNot_bareIs (hop : op.isRelational = true) :
    op.entry ≠ isNot ∧ op.entry ≠ bareIs := by
  constructor <;> (intro h; rw [(Prod.mk.inj h).2] at hop; cases hop)

/-- Behind the symbol of a relational operator, every other entry is refused. -/
theorem readAs?_other (hop : op.isRelational = true) (htail : tail.head? ≠ some '=')
    {other : Spelling × Operator} (h : other ∈ spellings) (hne : other ≠ op.entry) :
    readAs? field (op.symbol.toList ++ tail) other = none := by
  obtain ⟨hnot, hbare⟩ := entry_not_isNot_bareIs hop
  have hown : op.entry.1.drop? (op.symbol.toList ++ tail) = some tail := dropLiteral?_append _ _
  rw [Option.eq_none_iff_forall_ne_some]
  intro c hread
  obtain ⟨behind, hdrop, operand, hoperand, -⟩ := readAs?_eq_some_iff.1 hread
  rcases apart_of_ne h (entry_mem_spellings hop) hne with hapart | hapart
  · rcases drop?_of_apart hapart hdrop hown with rfl | ⟨-, hentry⟩
    · exact htail rfl
    · exact hbare hentry
  · rcases drop?_of_apart hapart hown hdrop with rfl | ⟨hentry, -⟩
    · rw [Operand.read?_equals] at hoperand
      cases hoperand
    · exact hnot hentry

/-- The symbol of a relational operator begins with no white space. -/
theorem exists_symbol_eq_cons (hop : op.isRelational = true) :
    ∃ s more, op.symbol.toList = s :: more ∧ isBlank s = false := by
  cases op with
  | greater | greaterOrEqual => exact ⟨'>', _, rfl, by decide⟩
  | less | lessOrEqual => exact ⟨'<', _, rfl, by decide⟩
  | equal | notEqual | contains | notContains => cases hop

/-- Where the symbol of a relational operator stands, what is left behind it decides. -/
theorem read?_relational (hop : op.isRelational = true) (hne : field ≠ [])
    (hword : ∀ c ∈ field, isWordChar c = true) (htail : tail.head? ≠ some '=')
    (hlast : ∀ c ∈ (op.symbol.toList ++ tail).getLast?, isBlank c = false) :
    read? (field ++ (' ' :: (op.symbol.toList ++ tail))) =
      (Operand.read? op (trim tail)).map fun o => ⟨String.ofList field, op, o⟩ := by
  obtain ⟨s, more, hsymbol, hs⟩ := exists_symbol_eq_cons hop
  have hbare : Bare (op.symbol.toList ++ tail) := by
    refine ⟨fun c hc => ?_, hlast⟩
    rw [hsymbol] at hc
    exact Option.some.inj hc ▸ hs
  have hfind : read? (field ++ (' ' :: (op.symbol.toList ++ tail))) =
      spellings.findSome? (readAs? field (op.symbol.toList ++ tail)) := by
    have hspace : ∀ c ∈ ([' '] ++ (op.symbol.toList ++ tail)).head?, isWordChar c = false := by
      rintro c ⟨⟩
      decide
    have hread : readWith? spellings
        ([] ++ (field ++ ([' '] ++ ((op.symbol.toList ++ tail) ++ [])))) = _ :=
      readWith?_eq_findSome? blank_of_mem_nil hne hword blank_of_mem_space
        (by simp [hsymbol]) hbare hspace blank_of_mem_nil
    rwa [List.nil_append, List.append_nil] at hread
  have hown : readAs? field (op.symbol.toList ++ tail) op.entry =
      (Operand.read? op (trim tail)).map fun o => ⟨String.ofList field, op, o⟩ := by
    have hdrop : (Spelling.symbol op.symbol).drop? (op.symbol.toList ++ tail) = some tail :=
      dropLiteral?_append _ _
    simp only [readAs?, Operator.entry, hdrop, Option.bind_eq_bind, Option.bind_some]
    cases Operand.read? op (trim tail) <;> rfl
  rw [hfind]
  cases hread : readAs? field (op.symbol.toList ++ tail) op.entry with
  | some c =>
      rw [← hown, hread]
      exact findSome?_readAs? (entry_mem_spellings hop) hread fun hentry =>
        absurd hentry (entry_not_isNot_bareIs hop).2
  | none =>
      rw [← hown, hread, List.findSome?_eq_none_iff]
      intro other hother
      by_cases hentry : other = op.entry
      · rw [hentry, hread]
      · exact readAs?_other hop htail hother hentry

end Condition

/-! ## What is no number -/

theorem unpack_notANumber : notANumber.toModel.unpack = .notANumber := rfl

theorem compare_notANumber (x : Float.Model.UnpackedFloat) : x.compare .notANumber = none := by
  cases x with
  | notANumber | zero s => rfl
  | infinity s | finite s m e h => cases s <;> rfl

theorem not_lt_notANumber (x : Float) : ¬ x < notANumber ∧ ¬ notANumber < x := by
  have hright : x.toModel.lt notANumber.toModel = false := by
    show (x.toModel.unpack.compare notANumber.toModel.unpack == some .lt) = false
    rw [unpack_notANumber, compare_notANumber]
    rfl
  have hleft : notANumber.toModel.lt x.toModel = false := rfl
  exact ⟨fun h => Bool.eq_false_iff.1 hright (of_decide_eq_true h),
    fun h => Bool.eq_false_iff.1 hleft (of_decide_eq_true h)⟩

theorem not_le_notANumber (x : Float) : ¬ x ≤ notANumber ∧ ¬ notANumber ≤ x := by
  have hright : x.toModel.le notANumber.toModel = false := by
    show (x.toModel.unpack.compare notANumber.toModel.unpack).any (·.isLE) = false
    rw [unpack_notANumber, compare_notANumber]
    rfl
  have hleft : notANumber.toModel.le x.toModel = false := rfl
  exact ⟨fun h => Bool.eq_false_iff.1 hright (of_decide_eq_true h),
    fun h => Bool.eq_false_iff.1 hleft (of_decide_eq_true h)⟩

/-- A comparison with what is no number holds of no cell. -/
theorem holdsOfCell_notANumber {op : Operator} (hop : op.isRelational = true)
    (cell : Option String) : holdsOfCell op (.number notANumber) cell = false := by
  obtain ⟨hless, hgreater⟩ := not_lt_notANumber (Row.cellNumber cell)
  obtain ⟨hatMost, hatLeast⟩ := not_le_notANumber (Row.cellNumber cell)
  cases op with
  | greater => exact decide_eq_false hgreater
  | greaterOrEqual => exact decide_eq_false hatLeast
  | less => exact decide_eq_false hless
  | lessOrEqual => exact decide_eq_false hatMost
  | equal | notEqual | contains | notContains => cases hop

end Rulebook
