import Rulebook.Proofs.Condition.Layout
import Mathlib.Data.List.Pairwise

/-!
# Which spelling of the table is taken

The entries of the table exclude one another (`not_both_of_apart`): two of them are spelled with
different first characters, or one is the other with `=` behind it, which begins no operand. Only
`is not` and `is` may both fit the same text. So the entry that fits is the one that is taken,
whatever its place in the table (`findSome?_readAs?`), unless it is `is` and `is not` fits too.
-/

set_option autoImplicit false

namespace Rulebook

open Text

/-! ## Operators that are dropped -/

theorem dropLiteral?_append (literal rest : List Char) :
    dropLiteral? literal (literal ++ rest) = some rest := by
  induction literal with
  | nil => rfl
  | cons l literal ih => simpa [dropLiteral?] using ih

theorem dropLiteral?_eq_some_iff {literal text rest : List Char} :
    dropLiteral? literal text = some rest ↔ text = literal ++ rest := by
  constructor
  · intro h
    induction literal generalizing text with
    | nil => exact Option.some.inj h
    | cons l literal ih =>
        cases text with
        | nil => cases h
        | cons c text =>
            rw [dropLiteral?] at h
            split at h
            · rename_i hc
              rw [hc, ih h, List.cons_append]
            · cases h
  · rintro rfl
    exact dropLiteral?_append literal rest

namespace Spelling

/-- The first word of an operator as spelled, or its symbol. -/
def opening : Spelling → List Char
  | words first _ => first.toList
  | symbol s => s.toList

/-- The first character of an operator as spelled, in lower case. -/
def initial? : Spelling → Option Char
  | words first _ => first.toList.head?.map foldAscii
  | symbol s => s.toList.head?.map foldAscii

theorem initial?_eq_opening (spelling : Spelling) :
    spelling.initial? = spelling.opening.head?.map foldAscii := by
  cases spelling <;> rfl

variable {spelling : Spelling} {text rest : List Char}

/-- A text from which an operator is dropped begins with its first word or its symbol. -/
theorem exists_spells_of_drop? (h : spelling.drop? text = some rest) :
    ∃ spelled more, text = spelled ++ more ∧ Spells spelling.opening spelled := by
  cases spelling with
  | words first more =>
      obtain ⟨_, hdrop, -⟩ := Option.bind_eq_some_iff.1 h
      obtain ⟨behind, hphrase, -⟩ := Option.bind_eq_some_iff.1 hdrop
      obtain ⟨spelled, hspells, htext⟩ := dropPhrase?_eq_some_iff.1 hphrase
      exact ⟨spelled, behind, htext, hspells⟩
  | symbol s => exact ⟨s.toList, rest, dropLiteral?_eq_some_iff.1 h, rfl⟩

/-- So it begins with the first character of the operator. -/
theorem initial?_of_drop? (h : spelling.drop? text = some rest) {a : Char}
    (ha : a ∈ spelling.initial?) : a ∈ text.head?.map foldAscii := by
  obtain ⟨spelled, more, rfl, hspells⟩ := exists_spells_of_drop? h
  rw [initial?_eq_opening, ← List.head?_map, ← show spelled.map foldAscii = _ from hspells] at ha
  cases spelled with
  | nil => cases ha
  | cons c spelled => exact ha

end Spelling

/-! ## Operands behind a shorter symbol -/

/-- No operand begins with an equals sign. -/
theorem Operand.read?_equals (op : Operator) (text : List Char) :
    Operand.read? op (trim ('=' :: text)) = none := by
  -- the sign is no white space, so trimming leaves it in front
  have htrim : trim ('=' :: text) = '=' :: trimEnd text := by
    have hstart : trimStart ('=' :: text) = '=' :: text := rfl
    rw [trim, hstart, ← List.singleton_append, trimEnd_append (by simp [isBlank, inRanges,
      blankRanges])]
    rfl
  rw [htrim, Operand.read?]
  split
  · refine if_neg fun h => ?_
    have hnumeric : Operand.isNumeric '=' = true := (List.all_eq_true.1 h.2) '=' List.mem_cons_self
    revert hnumeric
    decide
  · refine if_neg fun h => ?_
    have hplain : Operand.isPlain '=' = true := (List.all_eq_true.1 h.2) '=' List.mem_cons_self
    revert hplain
    decide

/-! ## The table -/

/-- Of the entries that fit, the first one is taken: an entry that fits is it if none that is
related to it fits, where of two entries that fit the first is always related to the second. -/
theorem findSome?_of_pairwise {α β : Type} {f : α → Option β} {R : α → α → Prop} {l : List α}
    (h : l.Pairwise fun a b => (f a).isSome → (f b).isSome → R a b) {x : α} (hx : x ∈ l) {y : β}
    (hfx : f x = some y) (hno : ∀ a, R a x → f a = none) : l.findSome? f = some y := by
  induction l with
  | nil => cases hx
  | cons a l ih =>
      rw [List.pairwise_cons] at h
      rcases List.mem_cons.1 hx with rfl | hmem
      · rw [List.findSome?_cons, hfx]
      · have ha : f a = none := by
          by_contra hsome
          have hR := h.1 x hmem (Option.isSome_iff_ne_none.2 hsome) (hfx ▸ rfl)
          exact hsome (hno a hR)
        rw [List.findSome?_cons, ha]
        exact ih h.2 hmem

namespace Condition

/-- The entry for `is not`. -/
def isNot : Spelling × Operator := (.words "is" ["not"], .notEqual)

/-- The entry for `is`. -/
def bareIs : Spelling × Operator := (.words "is" [], .equal)

/-- Two entries that do not both fit a text: they begin with different characters, or the first is
the second with `=` behind it. The entries for `is not` and `is` are let through. -/
def Apart (first second : Spelling × Operator) : Prop :=
  (first.1.initial?.isSome ∧ second.1.initial?.isSome ∧
      first.1.initial? ≠ second.1.initial?) ∨
    (∃ s ∈ ["=", ">", "<"], first.1 = .symbol (s ++ "=") ∧ second.1 = .symbol s) ∨
    (first = isNot ∧ second = bareIs)

instance (first second : Spelling × Operator) : Decidable (Apart first second) :=
  inferInstanceAs (Decidable (_ ∨ _ ∨ _))

theorem apart_spellings : spellings.Pairwise Apart := by decide

/-- Of two different entries of the table, one is apart from the other. -/
theorem apart_of_ne {first second : Spelling × Operator} (hfirst : first ∈ spellings)
    (hsecond : second ∈ spellings) (hne : first ≠ second) :
    Apart first second ∨ Apart second first := by
  -- the table is sorted by which of two entries comes first, the relation is symmetric
  have hpairs : spellings.Pairwise fun first second => Apart first second ∨ Apart second first :=
    apart_spellings.imp .inl
  have hsymm : Std.Symm fun first second : Spelling × Operator =>
    Apart first second ∨ Apart second first := ⟨fun _ _ => Or.symm⟩
  exact hpairs.forall hfirst hsecond hne

variable {field rest : List Char} {entry first second : Spelling × Operator} {c d : Condition}

/-- An entry fits if its operator can be dropped and an operand is left. -/
theorem readAs?_eq_some_iff : readAs? field rest entry = some c ↔
    ∃ behind, entry.1.drop? rest = some behind ∧
      ∃ operand, Operand.read? entry.2 (trim behind) = some operand ∧
        c = ⟨String.ofList field, entry.2, operand⟩ := by
  simp only [readAs?, Option.bind_eq_bind, Option.bind_eq_some_iff, Option.pure_def,
    Option.some.injEq, eq_comm (b := c)]

/-- Where the operators of two entries that are apart can both be dropped, the second leaves an
equals sign in front of what the first leaves, or they are `is not` and `is`. -/
theorem drop?_of_apart (h : Apart first second) {text behind behind' : List Char}
    (hfirst : first.1.drop? text = some behind) (hsecond : second.1.drop? text = some behind') :
    behind' = '=' :: behind ∨ (first = isNot ∧ second = bareIs) := by
  rcases h with ⟨hsome, hsome', hne⟩ | ⟨s, -, hlong, hshort⟩ | hentries
  · -- the text would begin with both characters
    obtain ⟨a, ha⟩ := Option.isSome_iff_exists.1 hsome
    obtain ⟨b, hb⟩ := Option.isSome_iff_exists.1 hsome'
    have hhead := Spelling.initial?_of_drop? hfirst ha
    have hhead' := Spelling.initial?_of_drop? hsecond hb
    rw [ha, hb, ← Option.mem_def.1 hhead, ← Option.mem_def.1 hhead'] at hne
    exact absurd rfl hne
  · rw [hlong, Spelling.drop?, dropLiteral?_eq_some_iff] at hfirst
    rw [hshort, Spelling.drop?, dropLiteral?_eq_some_iff, hfirst, String.toList_append,
      List.append_assoc] at hsecond
    exact .inl (List.append_cancel_left hsecond).symm
  · exact .inr hentries

/-- Of two entries that are apart, only `is not` and `is` fit the same text. -/
theorem not_both_of_apart (h : Apart first second) (hfirst : readAs? field rest first = some c)
    (hsecond : readAs? field rest second = some d) : first = isNot ∧ second = bareIs := by
  obtain ⟨behind, hdrop, -⟩ := readAs?_eq_some_iff.1 hfirst
  obtain ⟨behind', hdrop', operand, hread, -⟩ := readAs?_eq_some_iff.1 hsecond
  rcases drop?_of_apart h hdrop hdrop' with rfl | hentries
  · -- the equals sign would be left to the operand
    rw [Operand.read?_equals] at hread
    cases hread
  · exact hentries

/-- The entry that fits is the one that is taken, unless it is `is` and `is not` fits too. -/
theorem findSome?_readAs? (hentry : entry ∈ spellings) (hread : readAs? field rest entry = some c)
    (hnot : entry = bareIs → readAs? field rest isNot = none) :
    spellings.findSome? (readAs? field rest) = some c := by
  have hpairs : spellings.Pairwise fun first second => (readAs? field rest first).isSome →
      (readAs? field rest second).isSome → first = isNot ∧ second = bareIs := by
    refine apart_spellings.imp fun h hfirst hsecond => ?_
    obtain ⟨c, hc⟩ := Option.isSome_iff_exists.1 hfirst
    obtain ⟨d, hd⟩ := Option.isSome_iff_exists.1 hsecond
    exact not_both_of_apart h hc hd
  refine findSome?_of_pairwise hpairs hentry hread ?_
  rintro other ⟨rfl, hbare⟩
  exact hnot hbare

end Condition

end Rulebook
