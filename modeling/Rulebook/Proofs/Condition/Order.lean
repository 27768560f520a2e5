import Rulebook.Proofs.Condition.Spellings

/-!
# The order of the table

At most one entry of the table fits a text, but for `is not` and `is`, which may both do so
(`Condition.eq_or_rivals_of_fit`). So the entries may be tried in any order in which `is not` comes
before `is`, and in no other (`Condition.permuted_reads`): where `is` comes first,
`Status is not open` is read as an equality with `not open`.
-/

set_option autoImplicit false

namespace Rulebook

open Text

namespace Condition

variable {field rest : List Char} {first second entry : Spelling × Operator}
  {table : List (Spelling × Operator)} {c d : Condition}

/-! ## Entries that fit the same text -/

/-- The two entries that may fit the same text. -/
def Rivals (first second : Spelling × Operator) : Prop :=
  (first = isNot ∧ second = bareIs) ∨ (first = bareIs ∧ second = isNot)

/-- Two entries of the table that fit the same text are the same, or they are `is not` and `is`. -/
theorem eq_or_rivals_of_fit (hfirst : first ∈ spellings) (hsecond : second ∈ spellings)
    (hc : readAs? field rest first = some c) (hd : readAs? field rest second = some d) :
    first = second ∨ Rivals first second := by
  by_cases hsame : first = second
  · exact .inl hsame
  · right
    rcases apart_of_ne hfirst hsecond hsame with hapart | hapart
    · exact .inl (not_both_of_apart hapart hc hd)
    · exact .inr (not_both_of_apart hapart hd hc).symm

/-- A text without a field is no condition under any table; of any other text, every table is asked
about the same field and the same rest. -/
theorem readWith?_cases (text : List Char) : (∀ table, readWith? table text = none) ∨
    ∃ field rest, ∀ table, readWith? table text = table.findSome? (readAs? field rest) := by
  by_cases hfield : (trim text).takeWhile isWordChar = []
  · left
    intro table
    simp only [readWith?, if_pos hfield]
  · right
    refine ⟨(trim text).takeWhile isWordChar, trimStart ((trim text).dropWhile isWordChar), ?_⟩
    intro table
    simp only [readWith?, if_neg hfield]

/-! ## Tables in another order -/

/-- Of two entries that fit the same text, the first one is that of the rivals which comes first in
the table. -/
theorem pairwise_of_idxOf_lt (hperm : table.Perm spellings) (hrivals : Rivals first second)
    (hlt : table.idxOf first < table.idxOf second) (field rest : List Char) :
    table.Pairwise fun a b => (readAs? field rest a).isSome → (readAs? field rest b).isSome →
      a = first ∧ b = second := by
  have hnodup : table.Nodup := hperm.nodup_iff.2 (by decide)
  rw [List.pairwise_iff_getElem]
  intro i j hi hj hij hfits hfits'
  obtain ⟨c, hc⟩ := Option.isSome_iff_exists.1 hfits
  obtain ⟨d, hd⟩ := Option.isSome_iff_exists.1 hfits'
  have hfirst : table.idxOf table[i] = i := hnodup.idxOf_getElem i hi
  have hsecond : table.idxOf table[j] = j := hnodup.idxOf_getElem j hj
  rcases eq_or_rivals_of_fit (hperm.subset (List.getElem_mem hi))
    (hperm.subset (List.getElem_mem hj)) hc hd with hsame | hboth
  · -- an entry stands in one place only
    rw [hsame, hsecond] at hfirst
    omega
  · -- the entries at the two places are the rivals, and they are not the wrong way round
    have hnot : ¬ (table[i] = second ∧ table[j] = first) := by
      rintro ⟨hi', hj'⟩
      rw [hi'] at hfirst
      rw [hj'] at hsecond
      omega
    rcases hrivals with ⟨rfl, rfl⟩ | ⟨rfl, rfl⟩
    · exact hboth.resolve_right hnot
    · exact hboth.resolve_left hnot

/-- In a table in another order, an entry that fits is the one that is taken, unless it is the later
one of the rivals and the earlier one fits too. -/
theorem findSome?_permuted (hperm : table.Perm spellings) (hrivals : Rivals first second)
    (hlt : table.idxOf first < table.idxOf second) (hentry : entry ∈ spellings)
    (hread : readAs? field rest entry = some c)
    (hnone : entry = second → readAs? field rest first = none) :
    table.findSome? (readAs? field rest) = some c := by
  apply findSome?_of_pairwise (pairwise_of_idxOf_lt hperm hrivals hlt field rest)
    (hperm.symm.subset hentry) hread
  rintro other ⟨rfl, hlater⟩
  exact hnone hlater

/-- As long as `is not` comes before `is`, the same entry is taken as in the table of the
language. -/
theorem findSome?_eq_of_isNot_first (hperm : table.Perm spellings)
    (hlt : table.idxOf isNot < table.idxOf bareIs) (field rest : List Char) :
    table.findSome? (readAs? field rest) = spellings.findSome? (readAs? field rest) := by
  have htaken : ∀ {entry c}, entry ∈ spellings → readAs? field rest entry = some c →
      (entry = bareIs → readAs? field rest isNot = none) →
        table.findSome? (readAs? field rest) = spellings.findSome? (readAs? field rest) := by
    intro entry c hentry hread hnone
    rw [findSome?_permuted hperm (.inl ⟨rfl, rfl⟩) hlt hentry hread hnone,
      findSome?_readAs? hentry hread hnone]
  cases hnot : readAs? field rest isNot with
  | some c =>
      apply htaken (by decide) hnot
      intro hbare
      cases hbare
  | none =>
      cases hfound : spellings.findSome? (readAs? field rest) with
      | some c =>
          obtain ⟨entry, hentry, hread⟩ := List.exists_of_findSome?_eq_some hfound
          rw [htaken hentry hread fun _ => hnot, hfound]
      | none =>
          rw [List.findSome?_eq_none_iff] at hfound ⊢
          intro entry hentry
          exact hfound entry (hperm.subset hentry)

/-- Where `is` comes before `is not`, it takes the word `not` for a part of its operand. -/
theorem readWith?_of_bareIs_first (hperm : table.Perm spellings)
    (hlt : table.idxOf bareIs < table.idxOf isNot) :
    readWith? table "Status is not open".toList = some ⟨"Status", .equal, .text "not open"⟩ := by
  have hfits : readAs? "Status".toList "is not open".toList bareIs =
      some ⟨"Status", .equal, .text "not open"⟩ := rfl
  have htaken := findSome?_permuted hperm (.inr ⟨rfl, rfl⟩) hlt (by decide) hfits
    fun hsame => by cases hsame
  exact htaken

/-- The entries of the table may be tried in another order exactly if `is not` still comes before
`is`. No other two entries fit the same text. -/
theorem permuted_reads (hperm : table.Perm spellings) :
    (table.idxOf isNot < table.idxOf bareIs ↔ ∀ text, readWith? table text = read? text) ∧
      ∀ text, ∀ first ∈ spellings, ∀ second ∈ spellings, (readWith? [first] text).isSome →
        (readWith? [second] text).isSome → first = second ∨ Rivals first second := by
  constructor
  · constructor
    · intro hlt text
      rcases readWith?_cases text with hnone | ⟨field, rest, hasked⟩
      · rw [read?, hnone, hnone]
      · rw [read?, hasked, hasked, findSome?_eq_of_isNot_first hperm hlt]
    · intro hreads
      by_contra hnot
      have hne : table.idxOf isNot ≠ table.idxOf bareIs := by
        intro hsame
        have hentries := (List.idxOf_inj (hperm.symm.subset (by decide))).1 hsame
        cases hentries
      have hread := hreads "Status is not open".toList
      rw [readWith?_of_bareIs_first hperm (by omega)] at hread
      have hread' : read? "Status is not open".toList =
          some ⟨"Status", .notEqual, .text "open"⟩ := rfl
      rw [hread'] at hread
      cases congrArg operator (Option.some.inj hread)
  · intro text first hfirst second hsecond hfits hfits'
    rcases readWith?_cases text with hnone | ⟨field, rest, hasked⟩
    · rw [hnone] at hfits
      cases hfits
    · rw [hasked, List.findSome?_singleton] at hfits hfits'
      obtain ⟨c, hc⟩ := Option.isSome_iff_exists.1 hfits
      obtain ⟨d, hd⟩ := Option.isSome_iff_exists.1 hfits'
      exact eq_or_rivals_of_fit hfirst hsecond hc hd

/-- The table from its end to its beginning, but for `is not`, which is tried first. -/
def reversedSpellings : List (Spelling × Operator) := isNot :: spellings.reverse.erase isNot

theorem permuted_reads_reversed :
    reversedSpellings.Perm spellings ∧
      reversedSpellings.take 4 = [isNot, bareIs, (.symbol "=", .equal), (.symbol "<", .less)] ∧
      readWith? reversedSpellings "Status == open".toList =
        some ⟨"Status", .equal, .text "open"⟩ ∧
      ((readWith? [isNot] "Status is not open".toList).isSome ∧
        (readWith? [bareIs] "Status is not open".toList).isSome) := by
  have hperm : reversedSpellings.Perm spellings := by decide
  have hread : read? "Status == open".toList = some ⟨"Status", .equal, .text "open"⟩ := rfl
  refine ⟨hperm, by decide, ?_, by decide⟩
  rw [(permuted_reads hperm).1.1 (by decide), hread]

end Condition

end Rulebook
