import Rulebook.Proofs.Condition.Spellings
import Rulebook.Proofs.Text.Classes

/-!
# Reading conditions as they are written

Reading a condition finds the field, the operator and the operand that were written, whatever the
spelling of the operator, the case of its words and the white space around the parts
(`Condition.written_condition_read`). The one exception is the spelling `is` with an operand that
goes on behind a word `not`, since the two together spell `is not`. The reader is taken in its
steps: `readWith?_eq_findSome?` finds the field, `Spelling.drop?_writes` drops the operator and
`Operand.read?_eq_some_iff` says what is an operand.
-/

set_option autoImplicit false

namespace Rulebook

open Text

/-! ## Operators -/

namespace Spelling

/-- The words of a spelling, or its symbol. -/
def tokens : Spelling → List (List Char)
  | words first more => first.toList :: more.map String.toList
  | symbol s => [s.toList]

/-- No token of a spelling is empty or has white space in it. -/
def Proper (spelling : Spelling) : Prop :=
  ∀ token ∈ spelling.tokens, token ≠ [] ∧ token.any isBlank = false

instance (spelling : Spelling) : Decidable spelling.Proper :=
  inferInstanceAs (Decidable (∀ token ∈ spelling.tokens, _))

theorem proper_of_mem {entry : Spelling × Operator} (h : entry ∈ spellings) : entry.1.Proper := by
  revert entry
  decide

end Spelling

/-- Further words are dropped with the white space in front of them. -/
theorem FurtherWords.dropWords?_append {more : List String} {text : List Char}
    (h : FurtherWords more text)
    (hproper : ∀ word ∈ more, word.toList ≠ [] ∧ word.toList.any isBlank = false)
    (rest : List Char) : Spelling.dropWords? more (text ++ rest) = some rest := by
  induction h with
  | nil => rfl
  | @cons word more gap spelled behind hne hblank hspells _ ih =>
      obtain ⟨hword, hmore⟩ := List.forall_mem_cons.1 hproper
      obtain ⟨c, gap, rfl⟩ := List.exists_cons_of_ne_nil hne
      have hc : isBlank c = true := hblank c List.mem_cons_self
      have hstart : trimStart (c :: gap ++ (spelled ++ (behind ++ rest))) =
          spelled ++ (behind ++ rest) := by
        rw [trimStart_append hblank, trimStart_eq_self_iff]
        exact hspells.no_blank_first hword.1 (no_blank_of_any hword.2) _
      have hphrase : dropPhrase? word.toList (spelled ++ (behind ++ rest)) =
          some (behind ++ rest) := dropPhrase?_eq_some_iff.2 ⟨spelled, hspells, rfl⟩
      rw [List.append_assoc, List.append_assoc, List.cons_append, Spelling.dropWords?, if_pos hc,
        ← List.cons_append, hstart, hphrase, Option.bind_some]
      exact ih hmore

namespace Spelling

variable {spelling : Spelling} {spelled rest : List Char}

/-- An operator is dropped as it was written, if no word goes on behind its words. -/
theorem drop?_writes (h : spelling.Writes spelled) (hproper : spelling.Proper)
    (hrest : spelling.isWorded = true → startsWord rest = false) :
    spelling.drop? (spelled ++ rest) = some rest := by
  cases h with
  | @words first more spelled words hspells hwords =>
      have hmore : ∀ word ∈ more, word.toList ≠ [] ∧ word.toList.any isBlank = false :=
        fun word hword => hproper word.toList
          (List.mem_cons_of_mem _ (List.mem_map_of_mem hword))
      have hphrase : dropPhrase? first.toList (spelled ++ (words ++ rest)) = some (words ++ rest) :=
        dropPhrase?_eq_some_iff.2 ⟨spelled, hspells, rfl⟩
      rw [List.append_assoc, drop?, hphrase, Option.bind_some, hwords.dropWords?_append hmore,
        Option.bind_some, atBoundary?, hrest rfl]
      rfl
  | symbol s => exact dropLiteral?_append s.toList rest

/-- What is written for an operator begins with a token. -/
theorem Writes.exists_token (h : spelling.Writes spelled) :
    ∃ token ∈ spelling.tokens, ∃ first more, spelled = first ++ more ∧ Spells token first := by
  cases h with
  | @words first more spelled words hspells _ =>
      exact ⟨first.toList, List.mem_cons_self, spelled, words, rfl, hspells⟩
  | symbol s => exact ⟨s.toList, List.mem_cons_self, s.toList, [], by simp, rfl⟩

theorem Writes.ne_nil (h : spelling.Writes spelled) (hproper : spelling.Proper) : spelled ≠ [] := by
  obtain ⟨token, htoken, first, more, rfl, hspells⟩ := h.exists_token
  intro hnil
  exact hspells.ne_nil (hproper token htoken).1 (List.append_eq_nil_iff.1 hnil).1

theorem Writes.no_blank_first (h : spelling.Writes spelled) (hproper : spelling.Proper)
    (rest : List Char) : ∀ c ∈ (spelled ++ rest).head?, isBlank c = false := by
  obtain ⟨token, htoken, first, more, rfl, hspells⟩ := h.exists_token
  rw [List.append_assoc]
  exact hspells.no_blank_first (hproper token htoken).1 (no_blank_of_any (hproper token htoken).2) _

end Spelling

/-! ## Operands -/

namespace Operand

variable {op : Operator} {v digits : List Char} {o : Operand}

theorem isBlank_of_isNumeric {c : Char} (h : isNumeric c = true) : isBlank c = false := by
  rw [← Bool.not_eq_true]
  intro hblank
  have hnot := forall_isBlank (p := fun c => isNumeric c = false) (by decide) hblank
  rw [h] at hnot
  cases hnot

theorem unsigned_signText (minus : Bool) (h : ∀ c ∈ digits, isNumeric c = true) :
    unsigned (signText minus ++ digits) = digits := by
  cases minus with
  | true => rfl
  | false =>
      change unsigned digits = digits
      rw [unsigned.eq_def]
      split
      · have hminus : isNumeric '-' = true := h '-' List.mem_cons_self
        exact absurd hminus (by decide)
      · rfl

/-- A text is a sign, if there is one, and what stands behind it. -/
theorem exists_eq_signText (text : List Char) :
    ∃ minus, text = signText minus ++ unsigned text := by
  rw [unsigned.eq_def]
  split
  · exact ⟨true, rfl⟩
  · exact ⟨false, rfl⟩

/-- A number in digits and points, with or without a sign, has no white space in it. -/
theorem no_blank_signed (minus : Bool) (h : ∀ c ∈ digits, isNumeric c = true) :
    ∀ c ∈ signText minus ++ digits, isBlank c = false := by
  intro c hc
  rcases List.mem_append.1 hc with hsign | hdigit
  · cases minus with
    | true =>
        obtain rfl := List.mem_singleton.1 hsign
        decide
    | false => cases hsign
  · exact isBlank_of_isNumeric (h c hdigit)

theorem Writes.ne_nil (h : Writes op v o) : v ≠ [] := by
  cases h with
  | number minus _ hne _ => exact fun hnil => hne (List.append_eq_nil_iff.1 hnil).2
  | text _ hne _ _ => exact hne

theorem Writes.bare (h : Writes op v o) : Bare v := by
  cases h with
  | number minus _ _ hnumeric => exact bare_of_no_blank (no_blank_signed minus hnumeric)
  | text _ _ htrim _ => exact (trim_eq_self_iff v).1 htrim

theorem Writes.isPlain (h : Writes op v o) (hop : op.isRelational = false) :
    ∀ c ∈ v, Operand.isPlain c = true := by
  cases h with
  | number _ hrelational _ _ =>
      rw [hrelational] at hop
      cases hop
  | text _ _ _ hplain => exact hplain

/-- A trimmed text is read as an operand exactly if it is written as one. -/
theorem read?_eq_some_iff (htrim : trim v = v) : read? op v = some o ↔ Writes op v o := by
  constructor
  · intro h
    rw [read?] at h
    split at h
    · rename_i hop
      split at h
      · rename_i hv
        obtain rfl := Option.some.inj h
        obtain ⟨minus, hsigned⟩ := exists_eq_signText v
        rw [hsigned]
        exact .number minus hop hv.1 (List.all_eq_true.1 hv.2)
      · cases h
    · rename_i hop
      split at h
      · rename_i hv
        obtain rfl := Option.some.inj h
        exact .text (Bool.not_eq_true _ ▸ hop) hv.1 htrim (List.all_eq_true.1 hv.2)
      · cases h
  · intro h
    cases h with
    | number minus hop hne hnumeric =>
        rw [read?, if_pos hop, unsigned_signText minus hnumeric]
        exact if_pos ⟨hne, List.all_eq_true.2 hnumeric⟩
    | text hop hne _ hplain =>
        rw [read?, hop, if_neg Bool.false_ne_true]
        exact if_pos ⟨hne, List.all_eq_true.2 hplain⟩

end Operand

/-! ## Fields -/

namespace Condition

/-- The field of a condition is the word at its front; what is left for the operator begins behind
the white space that follows. -/
theorem readWith?_eq_findSome? {table : List (Spelling × Operator)}
    {lead field before rest trail : List Char} (hlead : ∀ c ∈ lead, isBlank c = true)
    (hne : field ≠ []) (hword : ∀ c ∈ field, isWordChar c = true)
    (hbefore : ∀ c ∈ before, isBlank c = true) (hrest : rest ≠ []) (hbare : Bare rest)
    (hends : ∀ c ∈ (before ++ rest).head?, isWordChar c = false)
    (htrail : ∀ c ∈ trail, isBlank c = true) :
    readWith? table (lead ++ (field ++ (before ++ (rest ++ trail)))) =
      table.findSome? (readAs? field rest) := by
  have htrim : trim (lead ++ (field ++ (before ++ (rest ++ trail)))) =
      field ++ (before ++ rest) := by
    have hfirst : ∀ c ∈ (field ++ (before ++ (rest ++ trail))).head?, isBlank c = false := by
      rw [List.head?_append_of_ne_nil _ hne]
      exact fun c hc => isBlank_of_isWordChar (hword c (List.mem_of_head? hc))
    have hlast : ∀ c ∈ (field ++ (before ++ rest)).getLast?, isBlank c = false := by
      rw [← List.append_assoc, List.getLast?_append_of_ne_nil _ hrest]
      exact hbare.2
    rw [trim_append hlead, trim, (trimStart_eq_self_iff _).2 hfirst, ← List.append_assoc before,
      ← List.append_assoc, trimEnd_append hlast, trimEnd_eq_nil htrail, List.append_nil]
  have hfield : (field ++ (before ++ rest)).takeWhile isWordChar = field := by
    rw [List.takeWhile_append_of_pos hword]
    cases hmore : before ++ rest with
    | nil => simp
    | cons c more => simp [hends c (by rw [hmore]; rfl)]
  have hbehind : (field ++ (before ++ rest)).dropWhile isWordChar = before ++ rest := by
    rw [List.dropWhile_append_of_pos hword]
    cases hmore : before ++ rest with
    | nil => rfl
    | cons c more => exact List.dropWhile_cons_of_neg (by simp [hends c (by rw [hmore]; rfl)])
  have hstart : trimStart (before ++ rest) = rest := by
    rw [trimStart_append hbefore, (trimStart_eq_self_iff rest).2 hbare.1]
  simp only [readWith?, htrim, hfield, hbehind, hstart, if_neg hne]

/-- What is read as a condition begins with a field, and what stands behind the field fits one of
the spellings. -/
theorem exists_readAs?_of_read? {text : List Char} {c : Condition} (h : read? text = some c) :
    ∃ field rest, field ≠ [] ∧ (∀ d ∈ field, isWordChar d = true) ∧ (∀ d ∈ rest, d ∈ text) ∧
      ∃ entry ∈ spellings, readAs? field rest entry = some c := by
  simp only [read?, readWith?] at h
  split at h
  · cases h
  · rename_i hne
    have hrest : trimStart ((trim text).dropWhile isWordChar) <:+ trim text :=
      (List.dropWhile_suffix isBlank).trans (List.dropWhile_suffix isWordChar)
    exact ⟨_, _, hne, fun d hd => List.mem_takeWhile_imp hd,
      fun d hd => mem_of_mem_trim (hrest.mem hd), List.exists_of_findSome?_eq_some h⟩

/-! ## The spelling `is` with an operand that begins with `not` -/

section Negation

variable {field spelled behind v : List Char} {c : Condition}

/-- Behind `is`, the spelling `is not` asks for the word `not` at the front of the operand. -/
theorem drop?_isNot (hspells : Spells "is".toList spelled) (hne : behind ≠ [])
    (hblank : ∀ c ∈ behind, isBlank c = true) (hbare : Bare v) :
    isNot.1.drop? (spelled ++ (behind ++ v)) =
      (dropPhrase? negation v).bind Spelling.atBoundary? := by
  obtain ⟨b, gap, rfl⟩ := List.exists_cons_of_ne_nil hne
  have hb : isBlank b = true := hblank b List.mem_cons_self
  have hphrase : dropPhrase? "is".toList (spelled ++ (b :: gap ++ v)) = some (b :: gap ++ v) :=
    dropPhrase?_eq_some_iff.2 ⟨spelled, hspells, rfl⟩
  have hstart : trimStart (b :: gap ++ v) = v := by
    rw [trimStart_append hblank, (trimStart_eq_self_iff v).2 hbare.1]
  have hnot : "not".toList = negation := rfl
  rw [isNot, Spelling.drop?, hphrase, Option.bind_some, List.cons_append, Spelling.dropWords?,
    if_pos hb, ← List.cons_append, hstart, hnot, Option.bind_assoc]
  rfl

/-- If `is not` fits behind `is`, the operand goes on behind a word `not`. -/
theorem startsNot_of_readAs?_isNot (hspells : Spells "is".toList spelled) (hne : behind ≠ [])
    (hblank : ∀ c ∈ behind, isBlank c = true) (hbare : Bare v)
    (h : readAs? field (spelled ++ (behind ++ v)) isNot = some c) : StartsNot v := by
  obtain ⟨rest, hdrop, operand, hread, -⟩ := readAs?_eq_some_iff.1 h
  rw [drop?_isNot hspells hne hblank hbare] at hdrop
  obtain ⟨found, hphrase, hboundary⟩ := Option.bind_eq_some_iff.1 hdrop
  obtain ⟨negated, hnegated, rfl⟩ := dropPhrase?_eq_some_iff.1 hphrase
  rw [Spelling.atBoundary?] at hboundary
  split at hboundary
  · cases hboundary
  · rename_i hword
    obtain rfl := Option.some.inj hboundary
    have hwritten := (Operand.read?_eq_some_iff (trim_trim found)).1 hread
    refine ⟨negated, found, rfl, hnegated, ?_, Bool.not_eq_true _ ▸ hword⟩
    -- an operand is left, so the text does not end with the word
    rintro rfl
    exact hwritten.ne_nil rfl

/-- If the operand goes on behind a word `not`, the spelling `is not` fits, and what is left behind
the word is the operand. -/
theorem readAs?_isNot (hspells : Spells "is".toList spelled) (hne : behind ≠ [])
    (hblank : ∀ c ∈ behind, isBlank c = true) {negated rest : List Char}
    (hnegated : Spells negation negated) (hrest : rest ≠ []) (hword : startsWord rest = false)
    (hbare : Bare (negated ++ rest))
    (hplain : ∀ c ∈ negated ++ rest, Operand.isPlain c = true) :
    readAs? field (spelled ++ (behind ++ (negated ++ rest))) isNot =
      some ⟨String.ofList field, .notEqual, .text (String.ofList (trim rest))⟩ := by
  have hphrase : dropPhrase? negation (negated ++ rest) = some rest :=
    dropPhrase?_eq_some_iff.2 ⟨negated, hnegated, rfl⟩
  have hdrop : isNot.1.drop? (spelled ++ (behind ++ (negated ++ rest))) = some rest := by
    rw [drop?_isNot hspells hne hblank hbare, hphrase, Option.bind_some, Spelling.atBoundary?,
      hword]
    rfl
  have hleft : trim rest ≠ [] := by
    rw [Ne, trim_eq_nil_iff]
    intro hall
    have hlast := hbare.2 (rest.getLast hrest) (by
      rw [List.getLast?_append_of_ne_nil _ hrest, List.getLast?_eq_some_getLast hrest]
      rfl)
    rw [hall _ (List.getLast_mem hrest)] at hlast
    cases hlast
  have hread : Operand.read? .notEqual (trim rest) = some (.text (String.ofList (trim rest))) :=
    (Operand.read?_eq_some_iff (trim_trim rest)).2 (.text rfl hleft (trim_trim rest)
      fun c hc => hplain c (List.mem_append_right _ (mem_of_mem_trim hc)))
  exact readAs?_eq_some_iff.2 ⟨rest, hdrop, _, hread, rfl⟩

end Negation

end Condition

/-! ## Written conditions -/

namespace Spelling

/-- A symbol of the table does not begin with a word character. -/
theorem startsWord_token {entry : Spelling × Operator} (h : entry ∈ spellings)
    (hsymbol : entry.1.isWorded = false) : ∀ token ∈ entry.1.tokens, startsWord token = false := by
  revert entry
  decide

/-- A symbol is written as it is. -/
theorem Writes.mem_tokens {spelling : Spelling} {spelled : List Char}
    (h : spelling.Writes spelled) (hsymbol : spelling.isWorded = false) :
    spelled ∈ spelling.tokens := by
  cases h with
  | words _ _ => cases hsymbol
  | symbol s => exact List.mem_singleton_self _

theorem writes_is {spelled : List Char} (h : (Spelling.words "is" []).Writes spelled) :
    Spells "is".toList spelled := by
  generalize hspelling : Spelling.words "is" [] = spelling at h
  cases h with
  | words hspells hmore =>
      obtain ⟨rfl, rfl⟩ := Spelling.words.inj hspelling
      cases hmore
      rwa [List.append_nil]
  | symbol s => cases hspelling

end Spelling

/-- The entry of the table with the spelling `is` alone means equality. -/
theorem Condition.eq_bareIs {entry : Spelling × Operator} (h : entry ∈ spellings)
    (hspelling : entry.1 = .words "is" []) : entry = bareIs := by
  revert entry
  decide

namespace WrittenCondition

variable (w : WrittenCondition)

/-- What is left for the operator begins with it and ends with the operand. -/
theorem readWith?_text (table : List (Spelling × Operator)) :
    Condition.readWith? table w.text =
      table.findSome? (Condition.readAs? w.field (w.spelled ++ (w.behind ++ w.value))) := by
  have hproper : w.spelling.Proper := Spelling.proper_of_mem w.listed
  have hvalue : w.value ≠ [] := w.fits.ne_nil
  have hrest : w.spelled ++ (w.behind ++ w.value) ≠ [] :=
    fun hnil => w.writes.ne_nil hproper (List.append_eq_nil_iff.1 hnil).1
  have hbare : Bare (w.spelled ++ (w.behind ++ w.value)) := by
    refine ⟨w.writes.no_blank_first hproper _, ?_⟩
    rw [← List.append_assoc, List.getLast?_append_of_ne_nil _ hvalue]
    exact w.fits.bare.2
  have hends : ∀ c ∈ (w.before ++ (w.spelled ++ (w.behind ++ w.value))).head?,
      isWordChar c = false := by
    intro c hc
    cases hbefore : w.before with
    | cons b gap =>
        -- white space ends the field
        rw [hbefore] at hc
        obtain rfl := Option.some.inj hc
        exact isWordChar_of_isBlank (w.before_blank b (hbefore ▸ List.mem_cons_self))
    | nil =>
        -- without white space there, the operator is a symbol
        have hsymbol : w.spelling.isWorded = false :=
          Bool.not_eq_true _ ▸ fun hworded => (w.apart hworded).1 hbefore
        have hstarts : startsWord w.spelled = false :=
          Spelling.startsWord_token w.listed hsymbol _ (w.writes.mem_tokens hsymbol)
        obtain ⟨d, spelled, hspelled⟩ := List.exists_cons_of_ne_nil (w.writes.ne_nil hproper)
        rw [hspelled] at hstarts
        rw [hbefore, hspelled] at hc
        exact Option.some.inj hc ▸ hstarts
  have htext : w.text = w.lead ++ (w.field ++ (w.before ++
      ((w.spelled ++ (w.behind ++ w.value)) ++ w.trail))) := by
    simp only [text, List.append_assoc]
  rw [htext]
  exact Condition.readWith?_eq_findSome? w.lead_blank w.field_ne_nil w.field_word w.before_blank
    hrest hbare hends w.trail_blank

/-- The entry by which a condition was written fits it. -/
theorem readAs?_listed : Condition.readAs? w.field (w.spelled ++ (w.behind ++ w.value))
    (w.spelling, w.operator) = some w.condition := by
  have hword : w.spelling.isWorded = true → startsWord (w.behind ++ w.value) = false := by
    intro hworded
    obtain ⟨b, gap, hbehind⟩ := List.exists_cons_of_ne_nil (w.apart hworded).2
    rw [hbehind, List.cons_append]
    exact isWordChar_of_isBlank (w.behind_blank b (hbehind ▸ List.mem_cons_self))
  have hdrop := Spelling.drop?_writes w.writes (Spelling.proper_of_mem w.listed) hword
  have htrim : trim w.value = w.value := (trim_eq_self_iff _).2 w.fits.bare
  have hvalue : trim (w.behind ++ w.value) = w.value := by
    rw [trim_append w.behind_blank, htrim]
  have hread : Operand.read? w.operator (trim (w.behind ++ w.value)) = some w.operand := by
    rw [hvalue]
    exact (Operand.read?_eq_some_iff htrim).2 w.fits
  exact Condition.readAs?_eq_some_iff.2 ⟨_, hdrop, _, hread, rfl⟩

/-- A condition that is not negated by its operand is read as it is meant. -/
theorem read?_of_not_negated (h : ¬ w.Negated) : Condition.read? w.text = some w.condition := by
  rw [Condition.read?, w.readWith?_text]
  refine Condition.findSome?_readAs? w.listed w.readAs?_listed fun hbare => ?_
  obtain ⟨hspelling, -⟩ := Prod.mk.inj hbare
  rw [Option.eq_none_iff_forall_ne_some]
  intro c hread
  have hspells : Spells "is".toList w.spelled := Spelling.writes_is (hspelling ▸ w.writes)
  have hne : w.behind ≠ [] := (w.apart (hspelling ▸ rfl)).2
  exact h ⟨hspelling,
    Condition.startsNot_of_readAs?_isNot hspells hne w.behind_blank w.fits.bare hread⟩

/-- A condition that is negated by its operand is read as `is not` with what is left behind the
word. -/
theorem read?_of_negated (hspelling : w.spelling = .words "is" []) {negated rest : List Char}
    (hvalue : w.value = negated ++ rest) (hnegated : Spells negation negated) (hrest : rest ≠ [])
    (hword : startsWord rest = false) : Condition.read? w.text =
      some ⟨String.ofList w.field, .notEqual, .text (String.ofList (trim rest))⟩ := by
  have hequal : w.operator = .equal :=
    (Prod.mk.inj (Condition.eq_bareIs w.listed hspelling)).2
  have hspells : Spells "is".toList w.spelled := Spelling.writes_is (hspelling ▸ w.writes)
  have hne : w.behind ≠ [] := (w.apart (hspelling ▸ rfl)).2
  have hplain : ∀ c ∈ w.value, Operand.isPlain c = true := w.fits.isPlain (hequal ▸ rfl)
  have hbare := w.fits.bare
  rw [hvalue] at hplain hbare
  rw [Condition.read?, w.readWith?_text, hvalue]
  exact Condition.findSome?_readAs? (by decide)
    (Condition.readAs?_isNot hspells hne w.behind_blank hnegated hrest hword hbare hplain)
    fun h => by cases h

/-- The two readings differ, so a condition that is negated by its operand is never read as it is
meant. -/
theorem read?_eq_iff : Condition.read? w.text = some w.condition ↔ ¬ w.Negated := by
  refine ⟨?_, w.read?_of_not_negated⟩
  rintro hread ⟨hspelling, negated, rest, hvalue, hnegated, hrest, hword⟩
  have hequal : w.operator = .equal :=
    (Prod.mk.inj (Condition.eq_bareIs w.listed hspelling)).2
  rw [w.read?_of_negated hspelling hvalue hnegated hrest hword] at hread
  have hoperator : Operator.notEqual = w.operator := congrArg Condition.operator
    (Option.some.inj hread)
  rw [hequal] at hoperator
  cases hoperator

end WrittenCondition

/-- **What is written is read.** A condition is read as it is meant, whatever the spelling of its
operator, the case of the words and the white space around the parts, but for one exception: the
spelling `is` with an operand that goes on behind a word `not`. The two are taken for `is not`, and
what is left behind the word is the operand. -/
theorem Condition.written_condition_read (w : WrittenCondition) :
    (Condition.read? w.text = some w.condition ↔ ¬ w.Negated) ∧
      ∀ negated rest, w.spelling = .words "is" [] → w.value = negated ++ rest →
        Spells negation negated → rest ≠ [] → startsWord rest = false →
          Condition.read? w.text =
            some ⟨String.ofList w.field, .notEqual, .text (String.ofList (trim rest))⟩ :=
  ⟨w.read?_eq_iff, fun _ _ hspelling hvalue hnegated hrest hword =>
    w.read?_of_negated hspelling hvalue hnegated hrest hword⟩

/-- A condition over several lines, with white space and letters beyond ASCII. -/
def gadgets : WrittenCondition where
  lead := "\u00a0 ".toList
  field := "Product_2".toList
  before := "\n".toList
  spelling := .words "does" ["not", "contain"]
  operator := .notContains
  spelled := "DOES \u2003not\tContain".toList
  behind := "  ".toList
  value := "größe 7.5-b".toList
  operand := .text "größe 7.5-b"
  trail := "\u3000".toList
  lead_blank := List.all_eq_true.1 (by decide)
  field_ne_nil := by decide
  field_word := List.all_eq_true.1 (by decide)
  before_blank := List.all_eq_true.1 (by decide)
  listed := by decide
  writes := @Spelling.Writes.words "does" ["not", "contain"] "DOES".toList _ (by decide)
    (@FurtherWords.cons "not" ["contain"] " \u2003".toList "not".toList _ (by decide)
      (List.all_eq_true.1 (by decide)) (by decide)
      (@FurtherWords.cons "contain" [] "\t".toList "Contain".toList _ (by decide)
        (List.all_eq_true.1 (by decide)) (by decide) .nil))
  behind_blank := List.all_eq_true.1 (by decide)
  fits := .text rfl (by decide) (by decide) (List.all_eq_true.1 (by decide))
  trail_blank := List.all_eq_true.1 (by decide)
  apart := fun _ => by decide

/-- A condition with `is` whose operand begins with a word `not`. -/
def notHere : WrittenCondition where
  lead := []
  field := "Status".toList
  before := " ".toList
  spelling := .words "is" []
  operator := .equal
  spelled := "Is".toList
  behind := "\t".toList
  value := "NOT  here".toList
  operand := .text "NOT  here"
  trail := []
  lead_blank := List.all_eq_true.1 (by decide)
  field_ne_nil := by decide
  field_word := List.all_eq_true.1 (by decide)
  before_blank := List.all_eq_true.1 (by decide)
  listed := by decide
  writes := @Spelling.Writes.words "is" [] "Is".toList [] (by decide) .nil
  behind_blank := List.all_eq_true.1 (by decide)
  fits := .text rfl (by decide) (by decide) (List.all_eq_true.1 (by decide))
  trail_blank := List.all_eq_true.1 (by decide)
  apart := fun _ => by decide

theorem Condition.written_condition_read_gadgets :
    gadgets.text = "\u00a0 Product_2\nDOES \u2003not\tContain  größe 7.5-b\u3000".toList ∧
      Condition.read? gadgets.text = some ⟨"Product_2", .notContains, .text "größe 7.5-b"⟩ ∧
      notHere.text = "Status Is\tNOT  here".toList ∧
      Condition.read? notHere.text = some ⟨"Status", .notEqual, .text "here"⟩ := by
  have hspelling : gadgets.spelling ≠ .words "is" [] := by decide
  have hplain : ¬ gadgets.Negated := fun h => hspelling h.1
  exact ⟨by decide, (Condition.written_condition_read gadgets).1.2 hplain, by decide,
    (Condition.written_condition_read notHere).2 "NOT".toList "  here".toList rfl (by decide)
      (by decide) (by decide) (by decide)⟩

end Rulebook
