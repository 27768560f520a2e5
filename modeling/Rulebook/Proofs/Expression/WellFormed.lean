import Rulebook.Proofs.Condition.WellFormed
import Rulebook.Proofs.Expression.Splitting

/-!
# Rule texts fail closed

An empty group would hold of every row. No rule text is read as one: there is always a group, and
each group has a clause (`Expression.wellFormed_read`). So where nothing was recognised, every group
has a clause that holds of no row, and neither does the expression (`Expression.read_fails_closed`).
A text of keywords alone is such a text.
-/

set_option autoImplicit false

namespace Rulebook

open Text

/-! ## Keywords -/

/-- The words that are no part of a condition: the introduction, the conclusion and the
connectives. -/
def keywords : List (List Char) :=
  [introduction, Keyword.consequence.word, (Keyword.ofConnective .and).word,
    (Keyword.ofConnective .or).word]

/-- White space or a letter of a keyword, in either case. -/
def isInert (c : Char) : Bool := isBlank (foldAscii c) || keywords.flatten.contains (foldAscii c)

/-- The opening of every operator has a character that is in no keyword. -/
theorem exists_not_isInert {entry : Spelling × Operator} (h : entry ∈ spellings) :
    ∃ d ∈ entry.1.opening, isInert d = false := by
  have htable : ∀ entry ∈ spellings, entry.1.opening.any (fun d => !isInert d) = true := by decide
  simpa using htable entry h

/-- A text of white space and letters of keywords is no condition. -/
theorem Condition.read?_of_inert {text : List Char} (h : ∀ c ∈ text, isInert c = true) :
    Condition.read? text = none := by
  rw [Option.eq_none_iff_forall_ne_some]
  intro c hread
  obtain ⟨field, rest, -, -, hrest, entry, hentry, hfits⟩ := exists_readAs?_of_read? hread
  obtain ⟨behind, hdrop, -⟩ := readAs?_eq_some_iff.1 hfits
  obtain ⟨spelled, more, rfl, hspells⟩ := Spelling.exists_spells_of_drop? hdrop
  obtain ⟨d, hd, hnot⟩ := exists_not_isInert hentry
  -- the character occurs in the text, in one case or the other
  have hmem : foldAscii d ∈ spelled.map foldAscii :=
    (show spelled.map foldAscii = _ from hspells) ▸ List.mem_map_of_mem hd
  obtain ⟨e, he, hfold⟩ := List.mem_map.1 hmem
  have hinert := h e (hrest e (List.mem_append_left _ he))
  rw [isInert, hfold, ← isInert, hnot] at hinert
  cases hinert

/-! ## Expressions that are read -/

namespace Expression

/-- There is a group, no group is empty, and every clause is well formed. -/
structure WellFormed (e : Expression) : Prop where
  groups_ne_nil : e.groups ≠ []
  group_ne_nil : ∀ group ∈ e.groups, group ≠ []
  clauses : ∀ group ∈ e.groups, ∀ clause ∈ group, clause.WellFormed

variable {e : Expression} {text : List Char}

/-- Each clause of a rule text is read from a part of the text. -/
theorem exists_isInfix_of_mem {group : List Clause} (hgroup : group ∈ (read text).groups)
    {clause : Clause} (hclause : clause ∈ group) :
    ∃ part, part <:+: text ∧ clause = Clause.read part := by
  obtain ⟨groupText, hgroupText, rfl⟩ := List.mem_map.1 hgroup
  obtain ⟨part, hpart, rfl⟩ := List.mem_map.1 hclause
  exact ⟨part, ((isInfix_of_mem_splitAt hpart).trans (isInfix_of_mem_splitAt hgroupText)).trans
    (ruleBody_isInfix text), rfl⟩

theorem wellFormed_read (text : List Char) : (read text).WellFormed where
  groups_ne_nil := by
    rw [read, Ne, List.map_eq_nil_iff]
    exact splitAt_ne_nil _ _
  group_ne_nil := by
    intro group hgroup
    obtain ⟨groupText, -, rfl⟩ := List.mem_map.1 hgroup
    rw [Ne, List.map_eq_nil_iff]
    exact splitAt_ne_nil _ _
  clauses := by
    intro group hgroup clause hclause
    obtain ⟨part, -, rfl⟩ := exists_isInfix_of_mem hgroup hclause
    exact Clause.wellFormed_read part

/-! ## Expressions that hold of no row -/

theorem holds_eq_false_of_isNever (h : e.isNever = true) (row : Row) : e.holds row = false := by
  rw [holds, List.any_eq_false]
  intro group hgroup hall
  obtain ⟨clause, hclause, hnever⟩ := List.any_eq_true.1 (List.all_eq_true.1 h group hgroup)
  have hholds := List.all_eq_true.1 hall clause hclause
  cases clause with
  | condition c => cases hnever
  | never source => cases hholds

/-- Where nothing was recognised, every group has a clause that was not. -/
theorem WellFormed.isNever (h : e.WellFormed) (hnone : e.conditions = []) : e.isNever = true := by
  rw [Expression.isNever, List.all_eq_true]
  intro group hgroup
  obtain ⟨clause, more, rfl⟩ := List.exists_cons_of_ne_nil (h.group_ne_nil group hgroup)
  have hclause := List.filterMap_eq_nil_iff.1 hnone clause
    (List.mem_flatten.2 ⟨_, hgroup, List.mem_cons_self⟩)
  cases clause with
  | condition c => cases hclause
  | never source => rfl

/-- In a text of white space and letters of keywords nothing is recognised. -/
theorem conditions_read_of_inert (h : ∀ c ∈ text, isInert c = true) :
    (read text).conditions = [] := by
  rw [conditions, List.filterMap_eq_nil_iff]
  intro clause hclause
  obtain ⟨group, hgroup, hmem⟩ := List.mem_flatten.1 hclause
  obtain ⟨part, hpart, rfl⟩ := exists_isInfix_of_mem hgroup hmem
  rw [Clause.read, Condition.read?_of_inert fun c hc => h c (hpart.mem hc)]
  rfl

end Expression

/-! ## Texts of keywords -/

/-- Every word of a text is a keyword. A text of white space has no word at all. -/
def KeywordsOnly (text : List Char) : Prop :=
  ∀ word ∈ text.splitOnP isBlank, word = [] ∨ ∃ keyword ∈ keywords, Spells keyword word

instance (text : List Char) : Decidable (KeywordsOnly text) :=
  inferInstanceAs (Decidable (∀ word ∈ text.splitOnP isBlank, _))

/-- What stands in a text separates its words or is in one of them. -/
theorem exists_mem_splitOnP {α : Type} {p : α → Bool} {x : α} {xs : List α} (hx : x ∈ xs) :
    p x = true ∨ ∃ word ∈ xs.splitOnP p, x ∈ word := by
  induction xs with
  | nil => cases hx
  | cons y xs ih =>
      rw [List.splitOnP_cons_eq_if_modifyHead]
      obtain ⟨first, more, hwords⟩ := List.exists_cons_of_ne_nil (List.splitOnP_ne_nil p xs)
      rw [hwords] at ih ⊢
      rcases List.mem_cons.1 hx with rfl | hx
      · cases hp : p x with
        | true => exact .inl rfl
        | false => exact .inr ⟨x :: first, List.mem_cons_self, List.mem_cons_self⟩
      · rcases ih hx with hp | ⟨word, hword, hmem⟩
        · exact .inl hp
        · right
          split
          · exact ⟨word, List.mem_cons_of_mem _ hword, hmem⟩
          · rcases List.mem_cons.1 hword with rfl | hmore
            · exact ⟨y :: word, List.mem_cons_self, List.mem_cons_of_mem _ hmem⟩
            · exact ⟨word, List.mem_cons_of_mem _ hmore, hmem⟩

theorem KeywordsOnly.isInert {text : List Char} (h : KeywordsOnly text) :
    ∀ c ∈ text, isInert c = true := by
  have hletters : ∀ keyword ∈ keywords, keyword.map foldAscii = keyword := by decide
  intro c hc
  rw [Rulebook.isInert, Bool.or_eq_true]
  rcases exists_mem_splitOnP (p := isBlank) hc with hblank | ⟨word, hword, hmem⟩
  · exact .inl (by rwa [isBlank_foldAscii])
  · right
    rcases h word hword with rfl | ⟨keyword, hkeyword, hspells⟩
    · cases hmem
    · have hfold : word.map foldAscii = keyword := by
        rw [show word.map foldAscii = _ from hspells, hletters keyword hkeyword]
      rw [List.contains_iff_mem]
      exact List.mem_flatten.2 ⟨keyword, hkeyword, hfold ▸ List.mem_map_of_mem hmem⟩

/-- **A rule text that is not understood holds of no row.** Every rule text is read as groups of
clauses, none of them empty and each clause well formed. In a text of keywords alone no clause is
recognised, and a text of which none is recognised holds of no row. -/
theorem Expression.read_fails_closed (text : List Char) :
    (Expression.read text).WellFormed ∧
      (KeywordsOnly text → (Expression.read text).conditions = []) ∧
      ((Expression.read text).conditions = [] →
        (Expression.read text).isNever = true ∧
          ∀ row, (Expression.read text).holds row = false) := by
  have hwell := Expression.wellFormed_read text
  refine ⟨hwell, ?_, ?_⟩
  · intro honly
    exact Expression.conditions_read_of_inert honly.isInert
  · intro hnone
    have hnever := hwell.isNever hnone
    exact ⟨hnever, Expression.holds_eq_false_of_isNever hnever⟩

theorem Expression.read_fails_closed_unread :
    (Expression.read "If Region ~~ North and Sales > many then x".toList).conditions = [] ∧
      (Expression.read "If Region ~~ North and Sales > many then x".toList).isNever = true ∧
      KeywordsOnly " IF or\u00a0AND\tthen ".toList ∧
      (∀ row, (Expression.read " IF or\u00a0AND\tthen ".toList).holds row = false) ∧
      KeywordsOnly " \u3000".toList ∧
      ∀ row, (Expression.read " \u3000".toList).holds row = false := by
  have hunread :
      (Expression.read "If Region ~~ North and Sales > many then x".toList).conditions = [] := by
    decide
  have honly : KeywordsOnly " IF or\u00a0AND\tthen ".toList := by decide
  have hblank : KeywordsOnly " \u3000".toList := by decide
  obtain ⟨-, -, hnever⟩ := read_fails_closed "If Region ~~ North and Sales > many then x".toList
  obtain ⟨-, hkeywords, hnone⟩ := read_fails_closed " IF or\u00a0AND\tthen ".toList
  obtain ⟨-, hspaces, hempty⟩ := read_fails_closed " \u3000".toList
  exact ⟨hunread, (hnever hunread).1, honly, (hnone (hkeywords honly)).2, hblank,
    (hempty (hspaces hblank)).2⟩

end Rulebook
