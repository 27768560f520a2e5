import Rulebook.Proofs.Condition.Relational
import Rulebook.Proofs.Expression.Single
import Rulebook.Proofs.Numeral
import Mathlib.Data.List.Infix

/-!
# Comparisons with what is no number

A rule text that compares a field with an operand without white space holds of a row exactly if the
comparison does, unless the field or the operand is taken for a keyword
(`Expression.holds_comparison`). An operand that is no decimal literal makes the comparison fail,
but for one kind: a literal that goes on with a second point is compared as that literal
(`Expression.malformed_comparison`), so a version `1.2.3` counts as 1.2.
-/

set_option autoImplicit false

namespace Rulebook

open Text

/-- A comparison with single spaces between its parts. -/
def comparisonText (field : List Char) (op : Operator) (v : List Char) : List Char :=
  field ++ (' ' :: (op.symbol.toList ++ (' ' :: v)))

/-- The field or the operand is taken for a keyword of rule texts. -/
def Reserved (field v : List Char) : Prop :=
  Spells introduction field ∨ Spells Keyword.consequence.word field ∨ startsThen v = true

instance (field v : List Char) : Decidable (Reserved field v) :=
  inferInstanceAs (Decidable (_ ∨ _ ∨ _))

variable {field v : List Char} {op : Operator}

/-! ## One clause -/

/-- The symbol of a relational operator is neither white space nor a word. -/
theorem no_blank_symbol (hop : op.isRelational = true) :
    (∀ c ∈ op.symbol.toList, isBlank c = false) ∧ startsWord op.symbol.toList = false := by
  cases op with
  | greater | greaterOrEqual | less | lessOrEqual => exact ⟨no_blank_of_any (by decide), by decide⟩
  | equal | notEqual | contains | notContains => cases hop

/-- The middle word of a comparison is no connective, and the last one is followed by no blank. -/
theorem unsplit_comparisonText (hop : op.isRelational = true)
    (hfield : ∀ c ∈ field, isBlank c = false) (hv : ∀ c ∈ v, isBlank c = false)
    (connective : Connective) : Unsplit connective (comparisonText field op v) := by
  have hsymbol : dropSeparator? connective.keyword.toList
      (' ' :: (op.symbol.toList ++ (' ' :: v))) = none := by
    cases op with
    | greater | greaterOrEqual | less | lessOrEqual => cases connective <;> rfl
    | equal | notEqual | contains | notContains => cases hop
  have hvalue : dropSeparator? connective.keyword.toList (' ' :: v) = none := by
    rw [Option.eq_none_iff_forall_ne_some]
    intro found hfound
    obtain ⟨-, d, behind, hphrase, hd, -⟩ := dropSeparator?_eq_some_iff.1 hfound
    obtain ⟨spelled, -, hsplit⟩ := dropPhrase?_eq_some_iff.1 hphrase
    have hmem : d ∈ v.dropWhile isAsciiBlank := by simp [hsplit]
    have hnot := hv d ((List.dropWhile_suffix _).mem hmem)
    rw [isBlank_of_isAsciiBlank hd] at hnot
    cases hnot
  have hlast : Unsplit connective v := by
    rw [← List.append_nil v]
    exact unsplit_nil.append hv
  exact (((hlast.cons hvalue).append (no_blank_symbol hop).1).cons hsymbol).append hfield

/-! ## The body -/

theorem no_blank_field (hword : ∀ c ∈ field, isWordChar c = true) :
    ∀ c ∈ field, isBlank c = false :=
  fun c hc => isBlank_of_isWordChar (hword c hc)

/-- A word begins with a whole keyword exactly if it is the keyword, as no word character closes
one. -/
theorem exists_spells_append_iff {keyword : List Char} {closes : Char → Bool}
    (hcloses : ∀ c, closes c = true → isWordChar c = false)
    (hword : ∀ c ∈ field, isWordChar c = true) :
    (∃ spelled behind, field = spelled ++ behind ∧ Spells keyword spelled ∧
      ∀ c ∈ behind.head?, closes c = true) ↔ Spells keyword field := by
  constructor
  · rintro ⟨spelled, behind, rfl, hspells, hbehind⟩
    cases behind with
    | nil => rwa [List.append_nil]
    | cons c behind =>
        have hc := hword c (List.mem_append_right _ List.mem_cons_self)
        rw [hcloses c (hbehind c rfl)] at hc
        cases hc
  · exact fun h => ⟨field, [], (List.append_nil _).symm, h, fun c hc => by cases hc⟩

theorem startsIf_iff (hword : ∀ c ∈ field, isWordChar c = true) :
    StartsIf field ↔ Spells introduction field :=
  exists_spells_append_iff (fun _ => isWordChar_of_isBlank) hword

theorem opens_consequence_iff (hword : ∀ c ∈ field, isWordChar c = true) :
    Keyword.consequence.opens field = true ↔ Spells Keyword.consequence.word field := by
  have hcloses : ∀ c, Keyword.endsWord c = true → isWordChar c = false := by
    intro c h
    rw [Keyword.endsWord, Bool.and_eq_true, Bool.not_eq_true'] at h
    exact h.2
  exact Keyword.opens_iff.trans (exists_spells_append_iff hcloses hword)

/-- A single word is cut off altogether if it is `then`, and left as it is otherwise. -/
theorem cutThen_word (hv : ∀ c ∈ v, isBlank c = false) :
    cutThen true v = if startsThen v then [] else v := by
  cases hstarts : startsThen v with
  | true =>
      cases v with
      | nil => rfl
      | cons c text => rw [cutThen, hstarts]; rfl
  | false =>
      have hfree : Keyword.consequence.standsFrom true v = false := by
        rw [Keyword.standsFrom_eq_opens _ hv, ← startsThen_eq_opens, hstarts]
      have hcut := cutThen_append hfree blankFirst_nil
      rwa [List.append_nil, cutThen, List.append_nil] at hcut

/-- Of a comparison whose field is no keyword, the operand is cut off if it is `then`. -/
theorem cutThen_comparisonText (hop : op.isRelational = true)
    (hword : ∀ c ∈ field, isWordChar c = true) (hv : ∀ c ∈ v, isBlank c = false)
    (hfield : ¬ Spells Keyword.consequence.word field) :
    cutThen true (comparisonText field op v) =
      field ++ (' ' :: (op.symbol.toList ++ (' ' :: if startsThen v then [] else v))) := by
  have hfree : Keyword.consequence.standsFrom true (field ++ ([' '] ++ op.symbol.toList)) =
      false := by
    have hsymbol : Keyword.consequence.opens op.symbol.toList = false := by
      cases op with
      | greater | greaterOrEqual | less | lessOrEqual => rfl
      | equal | notEqual | contains | notContains => cases hop
    rw [Keyword.standsFrom_gap _ (by decide) (List.all_eq_true.1 (by decide)),
      Keyword.standsFrom_eq_opens _ (no_blank_field hword),
      Keyword.standsFrom_eq_opens _ (no_blank_symbol hop).1, hsymbol, Bool.or_false,
      ← Bool.not_eq_true, opens_consequence_iff hword]
    exact hfield
  have hspace : BlankFirst (' ' :: v) := blankFirst_cons (by decide) v
  have hcut := cutThen_append hfree hspace
  have hblank : ∀ atStart, cutThen atStart (' ' :: v) = ' ' :: cutThen true v := by
    intro atStart
    rw [cutThen, startsThen_eq_opens, Keyword.opens_cons_blank _ (by decide), Bool.and_false,
      if_neg Bool.false_ne_true]
    rfl
  rw [hblank, cutThen_word hv] at hcut
  rw [comparisonText]
  simpa only [List.append_assoc, List.cons_append, List.nil_append] using hcut

/-- There is something in a comparison at both ends. -/
theorem trim_comparisonText (hne : field ≠ []) (hword : ∀ c ∈ field, isWordChar c = true)
    (hnil : v ≠ []) (hv : ∀ c ∈ v, isBlank c = false) :
    trim (comparisonText field op v) = comparisonText field op v := by
  rw [trim_eq_self_iff]
  constructor
  · rw [comparisonText, List.head?_append_of_ne_nil _ hne]
    exact fun c hc => no_blank_field hword c (List.mem_of_head? hc)
  · have hlast : (comparisonText field op v).getLast? = v.getLast? := by
      rw [show comparisonText field op v = (field ++ (' ' :: (op.symbol.toList ++ [' ']))) ++ v by
        simp [comparisonText], List.getLast?_append_of_ne_nil _ hnil]
    rw [hlast]
    exact (bare_of_no_blank hv).2

/-- Behind an introducing `if` there is no field. -/
theorem head?_ruleBody_of_introduction (hop : op.isRelational = true) (hne : field ≠ [])
    (hword : ∀ c ∈ field, isWordChar c = true) (hnil : v ≠ []) (hv : ∀ c ∈ v, isBlank c = false)
    (hfield : Spells introduction field) :
    ∀ c ∈ (ruleBody (comparisonText field op v)).head?,
      isBlank c = false ∧ isWordChar c = false := by
  obtain ⟨-, hstarts⟩ := no_blank_symbol hop
  obtain ⟨s, more, heq, hs⟩ := Condition.exists_symbol_eq_cons hop
  rw [heq] at hstarts
  have hdrop : dropIf (comparisonText field op v) = s :: (more ++ (' ' :: v)) := by
    have hrest : ∀ c ∈ (s :: (more ++ (' ' :: v))).head?, isBlank c = false := by
      rintro c ⟨⟩
      exact hs
    let opening : Opening := ⟨field, [' '], hfield, by decide, List.all_eq_true.1 (by decide)⟩
    have htext : comparisonText field op v = opening.text ++ s :: (more ++ (' ' :: v)) := by
      simp only [comparisonText, heq, Opening.text, opening, List.append_assoc, List.cons_append,
        List.nil_append]
    rw [htext]
    exact dropIf_opening opening hrest
  have hprefix : ruleBody (comparisonText field op v) <+: s :: (more ++ (' ' :: v)) := by
    rw [ruleBody, trim_comparisonText hne hword hnil hv, hdrop]
    exact (trimEnd_isPrefix _).trans (cutThen_isPrefix true _)
  intro c hc
  obtain ⟨rest, hrest⟩ := hprefix
  have hhead : c ∈ (s :: (more ++ (' ' :: v))).head? := by
    rw [← hrest, List.head?_append, Option.mem_def.1 hc]
    rfl
  obtain rfl := Option.some.inj hhead
  exact ⟨hs, hstarts⟩

/-- Without an introducing `if`, the body is what is left in front of a `then`. -/
theorem ruleBody_comparisonText (hne : field ≠ []) (hword : ∀ c ∈ field, isWordChar c = true)
    (hnil : v ≠ []) (hv : ∀ c ∈ v, isBlank c = false) (hfield : ¬ Spells introduction field) :
    ruleBody (comparisonText field op v) = trimEnd (cutThen true (comparisonText field op v)) := by
  have hdrop : dropIf (comparisonText field op v) = comparisonText field op v :=
    dropIf_eq_self (mt (startsIf_iff hword).1 hfield) (blankFirst_cons (by decide) _)
  rw [ruleBody, trim_comparisonText hne hword hnil hv, hdrop]

/-! ## What a comparison says -/

/-- A body that begins with no word has no field and holds of no row. -/
theorem Clause.holds_of_no_field {body : List Char}
    (hhead : ∀ c ∈ body.head?, isBlank c = false ∧ isWordChar c = false) (row : Row) :
    (Clause.read body).holds row = false := by
  have hstart : trimStart body = body :=
    (trimStart_eq_self_iff body).2 fun c hc => (hhead c hc).1
  have hfield : (trim body).takeWhile isWordChar = [] := by
    rw [trim, hstart]
    cases htrim : trimEnd body with
    | nil => rfl
    | cons c more =>
        have hc := hhead c (head?_trimEnd (htrim ▸ rfl))
        rw [List.takeWhile_cons_of_neg (by simp [hc.2])]
  have hread : Condition.read? body = none := by
    simp only [Condition.read?, Condition.readWith?, hfield, if_true]
  rw [Clause.read, hread]
  rfl

/-- A clause with the symbol of a relational operator compares the field with what is left behind
it. -/
theorem Clause.holds_relational {tail : List Char} (hop : op.isRelational = true) (hne : field ≠ [])
    (hword : ∀ c ∈ field, isWordChar c = true) (htail : tail.head? ≠ some '=')
    (hlast : ∀ c ∈ (op.symbol.toList ++ tail).getLast?, isBlank c = false) (row : Row) :
    (Clause.read (field ++ (' ' :: (op.symbol.toList ++ tail)))).holds row =
      (Operand.read? op (trim tail)).any fun o =>
        holdsOfCell op o (row.lookup? (String.ofList field)) := by
  rw [Clause.read, Condition.read?_relational hop hne hword htail hlast]
  cases Operand.read? op (trim tail) <;> rfl

/-- A field `then` cuts everything off. -/
theorem cutThen_of_consequence (hne : field ≠ []) (hword : ∀ c ∈ field, isWordChar c = true)
    (hfield : Spells Keyword.consequence.word field) :
    cutThen true (comparisonText field op v) = [] := by
  obtain ⟨c, more, rfl⟩ := List.exists_cons_of_ne_nil hne
  have hopens : startsThen (comparisonText (c :: more) op v) = true := by
    rw [startsThen_eq_opens, comparisonText,
      Keyword.opens_append _ (blankFirst_cons (by decide) _)]
    exact (opens_consequence_iff hword).2 hfield
  rw [comparisonText, List.cons_append] at hopens ⊢
  rw [cutThen, hopens]
  rfl

/-- Without an operand there is no comparison. -/
theorem Clause.holds_without_operand (hop : op.isRelational = true) (hne : field ≠ [])
    (hword : ∀ c ∈ field, isWordChar c = true) (row : Row) :
    (Clause.read (trimEnd (field ++ (' ' :: (op.symbol.toList ++ [' ']))))).holds row = false := by
  have hlast : ∀ c ∈ (op.symbol.toList ++ []).getLast?, isBlank c = false := by
    rw [List.append_nil]
    exact (bare_of_no_blank (no_blank_symbol hop).1).2
  have hbody : trimEnd (field ++ (' ' :: (op.symbol.toList ++ [' ']))) =
      field ++ (' ' :: (op.symbol.toList ++ [])) := by
    have hends : ∀ c ∈ (field ++ (' ' :: op.symbol.toList)).getLast?, isBlank c = false := by
      obtain ⟨s, more, hsymbol, -⟩ := Condition.exists_symbol_eq_cons hop
      rw [List.append_nil, hsymbol] at hlast
      rw [hsymbol, List.getLast?_append_of_ne_nil _ (List.cons_ne_nil _ _),
        List.getLast?_cons_cons]
      exact hlast
    have hspace : trimEnd [' '] = [] := trimEnd_eq_nil blank_of_mem_space
    have htrim := trimEnd_append hends [' ']
    rw [hspace] at htrim
    simpa only [List.append_assoc, List.cons_append, List.append_nil] using htrim
  have hnone : Operand.read? op (trim []) = none := by
    cases op with
    | greater | greaterOrEqual | less | lessOrEqual => rfl
    | equal | notEqual | contains | notContains => cases hop
  rw [hbody, holds_relational hop hne hword (by simp) hlast, hnone]
  rfl

/-- The clause of a comparison whose field is no keyword. Where the operand is `then`, nothing is
left to compare with. -/
theorem Clause.holds_comparison (hop : op.isRelational = true) (hne : field ≠ [])
    (hword : ∀ c ∈ field, isWordChar c = true) (hnil : v ≠ []) (hv : ∀ c ∈ v, isBlank c = false)
    (hfield : ¬ Spells Keyword.consequence.word field) (row : Row) :
    (Clause.read (trimEnd (cutThen true (comparisonText field op v)))).holds row =
      (!startsThen v && (Operand.read? op v).any fun o =>
        holdsOfCell op o (row.lookup? (String.ofList field))) := by
  rw [cutThen_comparisonText hop hword hv hfield]
  cases startsThen v with
  | true => rw [if_pos rfl, holds_without_operand hop hne hword, Bool.not_true, Bool.false_and]
  | false =>
      have hbare : Bare v := bare_of_no_blank hv
      have hlast : ∀ c ∈ (op.symbol.toList ++ (' ' :: v)).getLast?, isBlank c = false := by
        rw [← List.singleton_append, ← List.append_assoc, List.getLast?_append_of_ne_nil _ hnil]
        exact hbare.2
      have hbody : trimEnd (comparisonText field op v) = comparisonText field op v := by
        rw [trimEnd_eq_self_iff]
        exact ((trim_eq_self_iff _).1 (trim_comparisonText hne hword hnil hv)).2
      have hvalue : trim (' ' :: v) = v := by
        rw [trim_cons (by decide), trim_eq_self_iff]
        exact hbare
      rw [if_neg Bool.false_ne_true, ← comparisonText, hbody, comparisonText,
        holds_relational hop hne hword (by simp) hlast, hvalue]
      rfl

/-- A rule text with a single comparison holds of a row exactly if the comparison does, unless the
field or the operand is taken for a keyword. -/
theorem Expression.holds_comparison (hop : op.isRelational = true) (hne : field ≠ [])
    (hword : ∀ c ∈ field, isWordChar c = true) (hnil : v ≠ []) (hv : ∀ c ∈ v, isBlank c = false)
    (row : Row) : (Expression.read (comparisonText field op v)).holds row =
      (decide (¬ Reserved field v) && (Operand.read? op v).any fun o =>
        holdsOfCell op o (row.lookup? (String.ofList field))) := by
  have hclause : (Expression.read (comparisonText field op v)).holds row =
      (Clause.read (ruleBody (comparisonText field op v))).holds row := by
    rw [Expression.read_unsplit (unsplit_comparisonText hop (no_blank_field hword) hv)]
    simp [Expression.holds]
  rw [hclause]
  by_cases hif : Spells introduction field
  · have hhead := head?_ruleBody_of_introduction hop hne hword hnil hv hif
    rw [Clause.holds_of_no_field hhead, decide_eq_false (not_not.2 (.inl hif)), Bool.false_and]
  rw [ruleBody_comparisonText hne hword hnil hv hif]
  by_cases hthen : Spells Keyword.consequence.word field
  · rw [cutThen_of_consequence hne hword hthen, decide_eq_false (not_not.2 (.inr (.inl hthen))),
      Bool.false_and]
    exact Clause.holds_of_no_field (fun c hc => by cases hc) row
  · have hreserved : decide (¬ Reserved field v) = !startsThen v := by
      simp [Reserved, hif, hthen]
    rw [Clause.holds_comparison hop hne hword hnil hv hthen, hreserved]

/-! ## Operands that are no decimal literal -/

/-- A number is not taken for a keyword. -/
theorem startsThen_of_writes {o : Operand} (hop : op.isRelational = true)
    (h : Operand.Writes op v o) : startsThen v = false := by
  cases h with
  | text hplain =>
      rw [hop] at hplain
      cases hplain
  | @number digits minus _ hne hnumeric =>
      obtain ⟨d, more, rfl⟩ := List.exists_cons_of_ne_nil hne
      cases minus with
      | true => rfl
      | false =>
          have hd : Operand.isNumeric d = true := hnumeric d List.mem_cons_self
          have hnot : foldAscii 't' ≠ foldAscii d := by
            rw [foldAscii_of_isNumeric hd]
            rintro rfl
            exact absurd hd (by decide)
          show startsThen (d :: more) = false
          simp [startsThen, dropPhrase?, hnot]

/-- An operand that is no decimal literal is no number, unless it goes on behind a literal. -/
theorem Operand.eq_notANumber {o : Operand} (hop : op.isRelational = true)
    (h : Operand.Writes op v o) (hnot : ¬ IsDecimal v) (hover : ∀ literal, ¬ Overruns literal v) :
    o = .number notANumber := by
  cases h with
  | text hplain =>
      rw [hop] at hplain
      cases hplain
  | number minus _ hne hnumeric =>
      rw [parseNumber_of_not_isDecimal minus hne hnumeric hnot hover]

/-- What goes on behind a literal is written as a number, and so is the literal. -/
theorem Overruns.writes {literal : List Char} (hop : op.isRelational = true)
    (h : Overruns literal v) :
    Operand.Writes op v (.number (parseNumber literal)) ∧
      Operand.Writes op literal (.number (parseNumber literal)) := by
  have hvalue := parseNumber_of_overruns h
  obtain ⟨hliteral, hpoint, more, rfl, hmore⟩ := h
  obtain ⟨minus, digits, rfl, hnumeric, -, d, hd, -⟩ := hliteral
  have hne : digits ≠ [] := List.ne_nil_of_mem hd
  refine ⟨?_, .number minus hop hne hnumeric⟩
  rw [← hvalue, List.append_assoc]
  exact .number minus hop (List.append_ne_nil_of_left_ne_nil hne _)
    (isNumeric_append_point hnumeric hmore)

/-- Two numbers of the same value compare alike. -/
theorem Expression.holds_comparison_congr {w : List Char} {o : Operand}
    (hop : op.isRelational = true) (hne : field ≠ []) (hword : ∀ c ∈ field, isWordChar c = true)
    (hv : Operand.Writes op v o) (hw : Operand.Writes op w o) (row : Row) :
    (Expression.read (comparisonText field op v)).holds row =
      (Expression.read (comparisonText field op w)).holds row := by
  have hblank : ∀ {u : List Char}, Operand.Writes op u o → ∀ c ∈ u, isBlank c = false := by
    intro u hu
    cases hu with
    | text hplain =>
        rw [hop] at hplain
        cases hplain
    | number minus _ _ hnumeric => exact Operand.no_blank_signed minus hnumeric
  have hread : ∀ {u : List Char}, Operand.Writes op u o → Operand.read? op u = some o :=
    fun hu => (Operand.read?_eq_some_iff ((trim_eq_self_iff _).2 hu.bare)).2 hu
  rw [holds_comparison hop hne hword hv.ne_nil (hblank hv),
    holds_comparison hop hne hword hw.ne_nil (hblank hw), hread hv, hread hw]
  simp [Reserved, startsThen_of_writes hop hv, startsThen_of_writes hop hw]

/-- A comparison with an operand that is no decimal literal holds of no row, unless the operand goes
on with a second point behind a literal: then the comparison is the one with that literal. -/
theorem Expression.malformed_comparison (hop : op.isRelational = true) (hne : field ≠ [])
    (hword : ∀ c ∈ field, isWordChar c = true) (hnil : v ≠ []) (hv : ∀ c ∈ v, isBlank c = false)
    (hnot : ¬ IsDecimal v) :
    ((∀ literal, ¬ Overruns literal v) → ∀ row,
        (Expression.read (comparisonText field op v)).holds row = false) ∧
      ∀ literal, Overruns literal v → ∀ row,
        (Expression.read (comparisonText field op v)).holds row =
          (Expression.read (comparisonText field op literal)).holds row := by
  constructor
  · intro hover row
    rw [holds_comparison hop hne hword hnil hv]
    cases hread : Operand.read? op v with
    | none => simp
    | some o =>
        have htrim : trim v = v := (trim_eq_self_iff v).2 (bare_of_no_blank hv)
        have hwrites := (Operand.read?_eq_some_iff htrim).1 hread
        rw [Operand.eq_notANumber hop hwrites hnot hover, Option.any_some,
          holdsOfCell_notANumber hop, Bool.and_false]
  · intro literal hover row
    obtain ⟨hwrites, hliteral⟩ := hover.writes hop
    exact holds_comparison_congr hop hne hword hwrites hliteral row

/-- A version with three parts is compared as its first two parts. What begins with two points is
compared with nothing. -/
theorem Expression.malformed_comparison_version :
    (∀ row, (Expression.read "Sales <= ..5".toList).holds row = false) ∧
      ¬ IsDecimal "1.2.3".toList ∧ Overruns "1.2".toList "1.2.3".toList ∧
        ∀ row, (Expression.read "Sales > 1.2.3".toList).holds row =
          (Expression.read "Sales > 1.2".toList).holds row := by
  have hword : ∀ c ∈ "Sales".toList, isWordChar c = true := List.all_eq_true.1 (by decide)
  have hover : Overruns "1.2".toList "1.2.3".toList :=
    ⟨by decide, by decide, ['3'], rfl, List.all_eq_true.1 (by decide)⟩
  have hnone : ∀ literal, ¬ Overruns literal "..5".toList := by
    rintro literal ⟨hliteral, -, more, heq, -⟩
    have hfronts : ∀ front ∈ "..5".toList.inits, ¬ IsDecimal front := by decide
    exact hfronts literal ((List.mem_inits _ _).2 ⟨_, heq.symm⟩) hliteral
  have hdots : "Sales <= ..5".toList = comparisonText "Sales".toList .lessOrEqual "..5".toList :=
    rfl
  have hversion : "Sales > 1.2.3".toList = comparisonText "Sales".toList .greater "1.2.3".toList :=
    rfl
  refine ⟨?_, by decide, hover, ?_⟩
  · rw [hdots]
    exact (malformed_comparison rfl (by decide) hword (by decide) (no_blank_of_any (by decide))
      (by decide)).1 hnone
  · rw [hversion]
    exact (malformed_comparison rfl (by decide) hword (by decide) (no_blank_of_any (by decide))
      (by decide)).2 "1.2".toList hover

/-- The operand is no decimal literal, yet the comparison holds. -/
theorem Expression.version_compared :
    (∀ c ∈ "Sales".toList, isWordChar c = true) ∧ (∀ c ∈ "1.2.3".toList, isBlank c = false) ∧
      ¬ IsDecimal "1.2.3".toList ∧
      comparisonText "Sales".toList .greater "1.2.3".toList = "Sales > 1.2.3".toList ∧
      (Expression.read "Sales > 1.2.3".toList).holds ⟨[("Sales", "5")]⟩ = true := by
  refine ⟨List.all_eq_true.1 (by decide), no_blank_of_any (by decide), by decide, by decide, ?_⟩
  decide

end Rulebook
