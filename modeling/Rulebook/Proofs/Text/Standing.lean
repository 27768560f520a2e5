import Rulebook.Operator
import Rulebook.Proofs.Text.Classes

/-!
# Words that stand in a text

A `Keyword` stands in a text where it is spelled, in any case of its letters, at the beginning or
behind a blank, and where the text ends behind it or goes on with a character that closes it. This
is the proposition `Keyword.Stands`; `Keyword.standsFrom` decides it from left to right
(`Keyword.stands_iff`). Blanks keep words apart: with blanks between two texts, a keyword stands in
the whole exactly if it stands in one of the two (`Keyword.standsFrom_gap`).
-/

set_option autoImplicit false

namespace Rulebook.Text

/-! ## Spellings of a word -/

/-- The same word apart from the case of its ASCII letters. -/
def Spells (word spelled : List Char) : Prop := spelled.map foldAscii = word.map foldAscii

instance (word spelled : List Char) : Decidable (Spells word spelled) :=
  inferInstanceAs (Decidable (_ = _))

/-- Letters of either case are no white space. -/
theorem isBlank_foldAscii (c : Char) : isBlank (foldAscii c) = isBlank c := by
  by_cases hlt : c.toNat < 128
  · exact forall_ascii (p := fun c => isBlank (foldAscii c) = isBlank c) (by decide) hlt
  · -- beyond ASCII there are no letters to fold
    rw [foldAscii, if_neg fun h => hlt (Nat.lt_of_le_of_lt h.2 (by decide))]

theorem no_blank_of_any {text : List Char} (h : text.any isBlank = false) :
    ∀ c ∈ text, isBlank c = false := by
  simpa using h

/-- What is no white space separates no words. -/
theorem isAsciiBlank_eq_false {c : Char} (h : isBlank c = false) : isAsciiBlank c = false := by
  rw [← Bool.not_eq_true]
  intro hblank
  rw [isBlank_of_isAsciiBlank hblank] at h
  cases h

/-- A word without white space has none in any spelling. -/
theorem Spells.no_blank {word spelled : List Char} (h : Spells word spelled)
    (hword : ∀ c ∈ word, isBlank c = false) : ∀ c ∈ spelled, isBlank c = false := by
  intro c hc
  have hmem : foldAscii c ∈ word.map foldAscii := h ▸ List.mem_map_of_mem hc
  obtain ⟨w, hw, hfold⟩ := List.mem_map.1 hmem
  rw [← isBlank_foldAscii c, ← hfold, isBlank_foldAscii]
  exact hword w hw

theorem Spells.ne_nil {word spelled : List Char} (h : Spells word spelled) (hword : word ≠ []) :
    spelled ≠ [] := by
  rintro rfl
  exact hword (List.map_eq_nil_iff.1 (Eq.symm h))

/-- A text that begins with a word does not begin with white space. -/
theorem Spells.no_blank_first {word spelled : List Char} (h : Spells word spelled)
    (hne : word ≠ []) (hword : ∀ c ∈ word, isBlank c = false) (rest : List Char) :
    ∀ c ∈ (spelled ++ rest).head?, isBlank c = false := by
  obtain ⟨d, more, rfl⟩ := List.exists_cons_of_ne_nil (h.ne_nil hne)
  intro c hc
  exact Option.some.inj hc ▸ h.no_blank hword d List.mem_cons_self

/-- What stands in front of the rest is a spelling of the word. -/
theorem dropPhrase?_eq_some_iff {word text rest : List Char} :
    dropPhrase? word text = some rest ↔
      ∃ spelled, Spells word spelled ∧ text = spelled ++ rest := by
  induction word generalizing text with
  | nil => simp [dropPhrase?, Spells]
  | cons w word ih =>
      cases text with
      | nil =>
          simp only [dropPhrase?, reduceCtorEq, false_iff]
          rintro ⟨spelled, hspells, htext⟩
          rw [(List.append_eq_nil_iff.1 htext.symm).1] at hspells
          simp [Spells] at hspells
      | cons c text =>
          by_cases h : foldAscii w = foldAscii c
          · rw [dropPhrase?, if_pos h, ih]
            constructor
            · rintro ⟨spelled, hspells, rfl⟩
              exact ⟨c :: spelled, by simp [Spells, h, show _ = _ from hspells], rfl⟩
            · rintro ⟨spelled, hspells, htext⟩
              cases spelled with
              | nil => simp [Spells] at hspells
              | cons d spelled =>
                  simp only [List.cons_append, List.cons.injEq] at htext
                  exact ⟨spelled, (List.cons.inj hspells).2, htext.2⟩
          · simp only [dropPhrase?, h, if_false, reduceCtorEq, false_iff]
            rintro ⟨spelled, hspells, htext⟩
            cases spelled with
            | nil => simp [Spells] at hspells
            | cons d spelled =>
                simp only [List.cons_append, List.cons.injEq] at htext
                exact h (htext.1 ▸ (List.cons.inj hspells).1).symm

/-- The text is at its end, or a blank comes first. -/
def BlankFirst (text : List Char) : Prop := ∀ c ∈ text.head?, isAsciiBlank c = true

theorem blankFirst_nil : BlankFirst [] := fun c hc => by cases hc

theorem blankFirst_cons {c : Char} (hc : isAsciiBlank c = true) (text : List Char) :
    BlankFirst (c :: text) :=
  fun _ hd => Option.some.inj hd ▸ hc

theorem BlankFirst.append {text more : List Char} (h : BlankFirst text) (hmore : BlankFirst more) :
    BlankFirst (text ++ more) := by
  cases text with
  | nil => exact hmore
  | cons c text => exact h

/-- A word does not reach over a blank behind the text. -/
theorem dropPhrase?_append {word : List Char} (hword : ∀ c ∈ word, isBlank c = false)
    {more : List Char} (hmore : BlankFirst more) (text : List Char) :
    dropPhrase? word (text ++ more) = (dropPhrase? word text).map (· ++ more) := by
  induction word generalizing text with
  | nil => simp [dropPhrase?]
  | cons w word ih =>
      cases text with
      | cons c text =>
          by_cases h : foldAscii w = foldAscii c
          · simpa [dropPhrase?, h] using ih (fun c hc => hword c (List.mem_cons_of_mem w hc)) text
          · simp [dropPhrase?, h]
      | nil =>
          cases more with
          | nil => simp [dropPhrase?]
          | cons c more =>
              -- the word would have to go on with a blank
              have hne : foldAscii w ≠ foldAscii c := by
                intro h
                have hw := hword w List.mem_cons_self
                rw [← isBlank_foldAscii w, h, isBlank_foldAscii,
                  isBlank_of_isAsciiBlank (hmore c rfl)] at hw
                cases hw
              simp [dropPhrase?, hne]

/-! ## Keywords -/

/-- A word to look for, with the characters that close it. -/
structure Keyword where
  word : List Char
  closes : Char → Bool
  ne_nil : word ≠ []
  no_blank : ∀ c ∈ word, isBlank c = false
  closes_blank : ∀ c, isAsciiBlank c = true → closes c = true

namespace Keyword

/-- The word of a connective, which has to be followed by a blank. -/
def ofConnective (connective : Connective) : Keyword where
  word := connective.keyword.toList
  closes := isAsciiBlank
  ne_nil := by cases connective <;> decide
  no_blank := no_blank_of_any (by cases connective <;> decide)
  closes_blank := fun _ h => h

/-- An ASCII character that is no word character. -/
def endsWord (c : Char) : Bool := c.toNat < 128 && !isWordChar c

/-- The word `then`, which any ASCII character closes that is no word character. -/
def consequence : Keyword where
  word := ['t', 'h', 'e', 'n']
  closes := endsWord
  ne_nil := List.cons_ne_nil _ _
  no_blank := no_blank_of_any (by decide)
  closes_blank := by
    intro c h
    simp only [isAsciiBlank, Bool.or_eq_true, decide_eq_true_eq] at h
    rcases h with (((rfl | rfl) | rfl) | rfl) | rfl <;> decide

/-- Whether the text begins with the word and something that closes it. -/
def opens (k : Keyword) (text : List Char) : Bool :=
  match dropPhrase? k.word text with
  | some rest => rest.head?.all k.closes
  | none => false

/-- Whether the word stands in a text; `atStart` says whether it may stand at its beginning. -/
def standsFrom (k : Keyword) (atStart : Bool) : List Char → Bool
  | [] => false
  | c :: text => (atStart && k.opens (c :: text)) || k.standsFrom (isAsciiBlank c) text

/-- The word stands in a text: at the beginning or behind a blank, and closed. -/
def Stands (k : Keyword) (text : List Char) : Prop :=
  ∃ before spelled behind, text = before ++ (spelled ++ behind) ∧ Spells k.word spelled ∧
    (∀ c ∈ before.getLast?, isAsciiBlank c = true) ∧ ∀ c ∈ behind.head?, k.closes c = true

variable {k : Keyword}

theorem opens_iff {text : List Char} : k.opens text = true ↔ ∃ spelled behind,
    text = spelled ++ behind ∧ Spells k.word spelled ∧ ∀ c ∈ behind.head?, k.closes c = true := by
  cases h : dropPhrase? k.word text with
  | none =>
      simp only [opens, h, Bool.false_eq_true, false_iff]
      rintro ⟨spelled, behind, htext, hspells, -⟩
      rw [dropPhrase?_eq_some_iff.2 ⟨spelled, hspells, htext⟩] at h
      cases h
  | some rest =>
      simp only [opens, h, Option.all_eq_true]
      constructor
      · intro hrest
        obtain ⟨spelled, hspells, htext⟩ := dropPhrase?_eq_some_iff.1 h
        exact ⟨spelled, rest, htext, hspells, hrest⟩
      · rintro ⟨spelled, behind, htext, hspells, hbehind⟩
        rw [dropPhrase?_eq_some_iff.2 ⟨spelled, hspells, htext⟩, Option.some.injEq] at h
        exact h ▸ hbehind

theorem opens_nil (k : Keyword) : k.opens [] = false := by
  unfold opens
  cases hword : k.word with
  | nil => exact absurd hword k.ne_nil
  | cons w word => rfl

/-- Blanks behind a text do not matter to what it begins with. -/
theorem opens_append (k : Keyword) {more : List Char} (hmore : BlankFirst more) (text : List Char) :
    k.opens (text ++ more) = k.opens text := by
  unfold opens
  rw [dropPhrase?_append k.no_blank hmore]
  cases dropPhrase? k.word text with
  | none => rfl
  | some rest =>
      cases rest with
      -- only where the word reaches to the end of the text does a blank come behind it
      | nil => simpa [Option.all_eq_true] using fun c hc => k.closes_blank c (hmore c hc)
      | cons d rest => rfl

/-- A keyword does not begin with a blank. -/
theorem opens_cons_blank (k : Keyword) {c : Char} (hc : isAsciiBlank c = true) (text : List Char) :
    k.opens (c :: text) = false := by
  calc k.opens (c :: text) = k.opens ([] ++ c :: text) := rfl
    _ = k.opens [] := k.opens_append (blankFirst_cons hc text) []
    _ = false := k.opens_nil

/-! ## Where a keyword stands -/

/-- Whether a word may stand behind a text; `atStart` says so of the beginning. -/
def mayFollow (atStart : Bool) (text : List Char) : Bool := text.getLast?.elim atStart isAsciiBlank

theorem mayFollow_cons (atStart : Bool) (c : Char) (text : List Char) :
    mayFollow atStart (c :: text) = mayFollow (isAsciiBlank c) text := by
  rw [mayFollow, List.getLast?_cons, mayFollow]
  cases text.getLast? with
  | none => rfl
  | some d => rfl

theorem standsFrom_iff {atStart : Bool} {text : List Char} :
    k.standsFrom atStart text = true ↔ ∃ before rest, text = before ++ rest ∧
      mayFollow atStart before = true ∧ k.opens rest = true := by
  induction text generalizing atStart with
  | nil =>
      simp only [standsFrom, Bool.false_eq_true, false_iff]
      rintro ⟨before, rest, htext, -, hopens⟩
      rw [(List.append_eq_nil_iff.1 htext.symm).2, opens_nil] at hopens
      cases hopens
  | cons c text ih =>
      rw [standsFrom, Bool.or_eq_true, Bool.and_eq_true, ih]
      constructor
      · rintro (⟨hstart, hopens⟩ | ⟨before, rest, rfl, hmay, hopens⟩)
        · exact ⟨[], c :: text, rfl, hstart, hopens⟩
        · exact ⟨c :: before, rest, rfl, by rw [mayFollow_cons]; exact hmay, hopens⟩
      · rintro ⟨before, rest, htext, hmay, hopens⟩
        cases before with
        | nil => exact .inl ⟨hmay, by rw [htext]; exact hopens⟩
        | cons d before =>
            obtain ⟨rfl, rfl⟩ := List.cons.inj htext
            exact .inr ⟨before, rest, rfl, by rw [← mayFollow_cons atStart]; exact hmay, hopens⟩

/-- Looking from left to right finds out whether a keyword stands in a text. -/
theorem stands_iff {text : List Char} : k.Stands text ↔ k.standsFrom true text = true := by
  have hmay : ∀ before : List Char,
      mayFollow true before = true ↔ ∀ c ∈ before.getLast?, isAsciiBlank c = true := by
    intro before
    cases h : before.getLast? with
    | none => simp [mayFollow, h]
    | some c => simp [mayFollow, h]
  rw [standsFrom_iff]
  constructor
  · rintro ⟨before, spelled, behind, rfl, hspells, hbefore, hbehind⟩
    exact ⟨before, spelled ++ behind, rfl, (hmay before).2 hbefore,
      opens_iff.2 ⟨spelled, behind, rfl, hspells, hbehind⟩⟩
  · rintro ⟨before, rest, rfl, hbefore, hopens⟩
    obtain ⟨spelled, behind, rfl, hspells, hbehind⟩ := opens_iff.1 hopens
    exact ⟨before, spelled, behind, rfl, hspells, (hmay before).1 hbefore, hbehind⟩

instance (k : Keyword) (text : List Char) : Decidable (k.Stands text) :=
  decidable_of_iff _ stands_iff.symm

theorem standsFrom_append (k : Keyword) {more : List Char} (hmore : BlankFirst more)
    (atStart : Bool) (text : List Char) : k.standsFrom atStart (text ++ more) =
      (k.standsFrom atStart text || k.standsFrom (mayFollow atStart text) more) := by
  induction text generalizing atStart with
  | nil => rfl
  | cons c text ih =>
      rw [List.cons_append, standsFrom, ← List.cons_append, opens_append k hmore, ih, standsFrom,
        mayFollow_cons, Bool.or_assoc]

/-- Behind blanks a keyword stands just as at the beginning. -/
theorem standsFrom_blanks (k : Keyword) {gap : List Char}
    (hgap : ∀ c ∈ gap, isAsciiBlank c = true) (rest : List Char) :
    k.standsFrom true (gap ++ rest) = k.standsFrom true rest := by
  induction gap with
  | nil => rfl
  | cons c gap ih =>
      have hc := hgap c List.mem_cons_self
      rw [List.cons_append, standsFrom, opens_cons_blank k hc, hc, Bool.and_false, Bool.false_or]
      exact ih fun d hd => hgap d (List.mem_cons_of_mem c hd)

/-- Blanks between two texts keep the words of one apart from those of the other. -/
theorem standsFrom_gap (k : Keyword) {gap : List Char} (hne : gap ≠ [])
    (hgap : ∀ c ∈ gap, isAsciiBlank c = true) (atStart : Bool) (text rest : List Char) :
    k.standsFrom atStart (text ++ (gap ++ rest)) =
      (k.standsFrom atStart text || k.standsFrom true rest) := by
  cases gap with
  | nil => exact absurd rfl hne
  | cons c gap =>
      have hc := hgap c List.mem_cons_self
      rw [List.cons_append, standsFrom_append k (blankFirst_cons hc _), standsFrom,
        opens_cons_blank k hc, hc, Bool.and_false, Bool.false_or,
        standsFrom_blanks k fun d hd => hgap d (List.mem_cons_of_mem c hd)]

theorem standsFrom_false (k : Keyword) {text : List Char} (h : ∀ c ∈ text, isBlank c = false) :
    k.standsFrom false text = false := by
  induction text with
  | nil => rfl
  | cons c text ih =>
      obtain ⟨hc, htext⟩ := List.forall_mem_cons.1 h
      rw [standsFrom, isAsciiBlank_eq_false hc, ih htext]
      rfl

/-- In a single word a keyword stands at most at the beginning. -/
theorem standsFrom_eq_opens (k : Keyword) {text : List Char}
    (h : ∀ c ∈ text, isBlank c = false) : k.standsFrom true text = k.opens text := by
  cases text with
  | nil => exact k.opens_nil.symm
  | cons c text =>
      obtain ⟨hc, htext⟩ := List.forall_mem_cons.1 h
      rw [standsFrom, isAsciiBlank_eq_false hc, standsFrom_false k htext, Bool.true_and,
        Bool.or_false]

/-- One keyword does not stand in a spelling of another one that does not begin with it. -/
theorem standsFrom_spelled {k other : Keyword} {spelled : List Char}
    (hspells : Spells other.word spelled)
    (hapart : ¬ k.word.map foldAscii <+: other.word.map foldAscii) (atStart : Bool) :
    k.standsFrom atStart spelled = false := by
  rw [← Bool.not_eq_true, standsFrom_iff]
  rintro ⟨before, rest, rfl, hmay, hopens⟩
  obtain ⟨found, behind, rfl, hother, -⟩ := opens_iff.1 hopens
  cases hlast : before.getLast? with
  | none =>
      rw [List.getLast?_eq_none_iff.1 hlast, List.nil_append] at hspells
      refine hapart ⟨behind.map foldAscii, ?_⟩
      rw [← show _ = _ from hother, ← List.map_append]
      exact hspells
  | some c =>
      -- a spelling has no blank in it behind which the keyword could stand
      have hc := hspells.no_blank other.no_blank c
        (List.mem_append_left _ (List.mem_of_getLast? hlast))
      rw [mayFollow, hlast, Option.elim_some] at hmay
      rw [isBlank_of_isAsciiBlank hmay] at hc
      cases hc

end Keyword

end Rulebook.Text
