import Rulebook.Text.Lowercase

/-!
# Two ways of lower case

`lower` and `foldChars` differ only at a capital sigma, which `lower` turns into the final form at
the end of a word: both ways give the same for a text in which none ends a word
(`NoFinalSigma.lower_eq`). A text whose folded form holds no sigma had none to begin with
(`lower_eq_foldChars`).
-/

set_option autoImplicit false

namespace Rulebook.Text

theorem lowerChar_capitalSigma : lowerChar 'Σ' = ['σ'] := by decide

/-- No capital sigma ends a word in the text. -/
def NoFinalSigma (text : List Char) : Prop :=
  ∀ front back, text = front ++ 'Σ' :: back → endsWord front.reverse back = false

/-- Where no capital sigma ends a word, what stands around a character does not matter. -/
theorem lowerFrom_eq_foldChars {text before : List Char}
    (h : ∀ front back, text = front ++ 'Σ' :: back →
      endsWord (front.reverse ++ before) back = false) :
    lowerFrom before text = foldChars text := by
  induction text generalizing before with
  | nil => rfl
  | cons c text ih =>
      have hmore : lowerFrom (c :: before) text = foldChars text := by
        refine ih fun front back htext => ?_
        simpa using h (c :: front) back (congrArg (c :: ·) htext)
      rw [lowerFrom, hmore, foldChars, foldChars, List.flatMap_cons]
      by_cases hc : c = 'Σ'
      · subst hc
        have hhere : endsWord before text = false := h [] text rfl
        rw [if_pos rfl, hhere, lowerChar_capitalSigma]
        rfl
      · rw [if_neg hc]

theorem NoFinalSigma.lower_eq {text : List Char} (h : NoFinalSigma text) :
    lower text = foldChars text :=
  lowerFrom_eq_foldChars fun front back htext => by simpa using h front back htext

theorem noFinalSigma_of_not_mem {text : List Char} (h : 'Σ' ∉ text) : NoFinalSigma text := by
  rintro front back rfl
  exact absurd (List.mem_append_right front List.mem_cons_self) h

/-- A capital sigma leaves a sigma of one form or the other. -/
theorem exists_sigma_of_mem {text : List Char} (h : 'Σ' ∈ text) (before : List Char) :
    'σ' ∈ lowerFrom before text ∨ 'ς' ∈ lowerFrom before text := by
  induction text generalizing before with
  | nil => cases h
  | cons c text ih =>
      rw [lowerFrom, List.mem_append, List.mem_append]
      rcases List.mem_cons.1 h with rfl | hmem
      · rw [if_pos rfl]
        split
        · exact .inr (.inl List.mem_cons_self)
        · exact .inl (.inl List.mem_cons_self)
      · exact (ih hmem (c :: before)).imp .inr .inr

/-- Where folding gives no sigma, a whole text is lowered character by character. -/
theorem lower_eq_foldChars {text : List Char} (h : 'σ' ∉ foldChars text) :
    lower text = foldChars text := by
  refine (noFinalSigma_of_not_mem fun hmem => h ?_).lower_eq
  refine List.mem_flatMap.2 ⟨'Σ', hmem, ?_⟩
  rw [lowerChar_capitalSigma]
  exact List.mem_singleton_self 'σ'

/-- Two texts that fold to the same text without sigma have the same lower case. -/
theorem lower_eq_of_foldChars_eq {s t : List Char} (h : foldChars s = foldChars t)
    (hsigma : 'σ' ∉ foldChars t) : lower s = lower t := by
  rw [lower_eq_foldChars (h ▸ hsigma), lower_eq_foldChars hsigma, h]

end Rulebook.Text
