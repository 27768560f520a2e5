import Rulebook.Proofs.Expression.Reading

/-!
# Rule texts of one clause

A text is `Unsplit` if no separator begins anywhere in it; so is then every part of it. The body of
a rule text is a part of it (`ruleBody_isInfix`), so a rule text without separators is read as a
single clause (`Expression.read_unsplit`).
-/

set_option autoImplicit false

namespace Rulebook

open Text

/-! ## Texts without separators -/

/-- No separator with the word of the connective begins in the text. -/
def Unsplit (connective : Connective) (text : List Char) : Prop :=
  ∀ rest, rest <:+ text → dropSeparator? connective.keyword.toList rest = none

variable {connective : Connective} {c : Char} {text part rest : List Char}

/-- A separator stays one whatever follows. -/
theorem isSome_dropSeparator?_append {word : List Char} (h : (dropSeparator? word text).isSome)
    (more : List Char) : (dropSeparator? word (text ++ more)).isSome := by
  obtain ⟨found, hfound⟩ := Option.isSome_iff_exists.1 h
  cases text with
  | nil => cases hfound
  | cons c text =>
      obtain ⟨hc, d, behind, hphrase, hd, -⟩ := dropSeparator?_eq_some_iff.1 hfound
      obtain ⟨spelled, hspells, hsplit⟩ := dropPhrase?_eq_some_iff.1 hphrase
      have hne : (text.dropWhile isAsciiBlank).isEmpty = false := by
        simp [hsplit]
      have hdrop : (text ++ more).dropWhile isAsciiBlank =
          spelled ++ d :: (behind ++ more) := by
        rw [List.dropWhile_append, hne, if_neg Bool.false_ne_true, hsplit, List.append_assoc,
          List.cons_append]
      exact Option.isSome_iff_exists.2 ⟨_, dropSeparator?_eq_some_iff.2 ⟨hc, d, behind ++ more,
        dropPhrase?_eq_some_iff.2 ⟨spelled, hspells, hdrop⟩, hd, rfl⟩⟩

theorem unsplit_nil : Unsplit connective [] := by
  intro rest hrest
  rw [List.suffix_nil.1 hrest]
  rfl

theorem Unsplit.cons (hnone : dropSeparator? connective.keyword.toList (c :: text) = none)
    (h : Unsplit connective text) : Unsplit connective (c :: text) := by
  intro rest hrest
  rcases List.suffix_cons_iff.1 hrest with rfl | hrest
  · exact hnone
  · exact h rest hrest

/-- A word in front of a text adds no separator. -/
theorem Unsplit.append (hpart : ∀ c ∈ part, isBlank c = false) (h : Unsplit connective text) :
    Unsplit connective (part ++ text) := by
  induction part with
  | nil => exact h
  | cons c part ih =>
      obtain ⟨hc, hpart⟩ := List.forall_mem_cons.1 hpart
      refine (ih hpart).cons ?_
      simp [dropSeparator?, isAsciiBlank_eq_false hc]

/-- A part of a text has no separators of its own. -/
theorem Unsplit.of_isInfix (h : Unsplit connective text) (hpart : part <:+: text) :
    Unsplit connective part := by
  intro rest hrest
  obtain ⟨before, behind, rfl⟩ := hpart
  obtain ⟨front, rfl⟩ := hrest
  have hnone := h (rest ++ behind) ⟨before ++ front, by simp only [List.append_assoc]⟩
  rw [← Option.not_isSome_iff_eq_none]
  intro hsome
  have hmore := isSome_dropSeparator?_append hsome behind
  rw [hnone] at hmore
  cases hmore

theorem Unsplit.splitAt_eq (h : Unsplit connective text) : splitAt connective text = [text] := by
  rw [splitAt]
  induction text with
  | nil => rfl
  | cons c text ih =>
      have htail : Unsplit connective text := h.of_isInfix (List.suffix_cons c text).isInfix
      rw [splitFrom, h _ List.suffix_rfl, ih htail]
      rfl

/-! ## The body of a rule text -/

theorem dropIf_suffix (text : List Char) : dropIf text <:+ text := by
  rw [dropIf.eq_def]
  split
  · rename_i c rest hphrase
    split
    · obtain ⟨spelled, -, rfl⟩ := dropPhrase?_eq_some_iff.1 hphrase
      exact ((List.dropWhile_suffix isBlank).trans (List.suffix_cons c rest)).trans
        (List.suffix_append spelled (c :: rest))
    · exact List.suffix_rfl
  · exact List.suffix_rfl

theorem cutThen_isPrefix (atStart : Bool) (text : List Char) : cutThen atStart text <+: text := by
  induction text generalizing atStart with
  | nil => exact List.prefix_rfl
  | cons c text ih =>
      rw [cutThen]
      split
      · exact List.nil_prefix
      · exact (List.prefix_cons_inj c).2 (ih _)

theorem ruleBody_isInfix (text : List Char) : ruleBody text <:+: text := by
  have htrim : trim text <:+: text :=
    (trimEnd_isPrefix _).isInfix.trans (List.dropWhile_suffix isBlank).isInfix
  exact ((trimEnd_isPrefix _).isInfix.trans (cutThen_isPrefix true _).isInfix).trans
    ((dropIf_suffix _).isInfix.trans htrim)

/-- A rule text without separators is read as a single clause. -/
theorem Expression.read_unsplit (h : ∀ connective, Unsplit connective text) :
    Expression.read text = ⟨[[Clause.read (ruleBody text)]]⟩ := by
  have hbody : ∀ connective, splitAt connective (ruleBody text) = [ruleBody text] :=
    fun connective => ((h connective).of_isInfix (ruleBody_isInfix text)).splitAt_eq
  rw [Expression.read, hbody, List.map_singleton, hbody, List.map_singleton]

end Rulebook
