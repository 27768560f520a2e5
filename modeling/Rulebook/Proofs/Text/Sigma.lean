import Rulebook.Proofs.Text.Classes
import Rulebook.Proofs.Text.Lowering
import Rulebook.Proofs.Text.Trimming

/-!
# Lower case of a part of a text

Lower case looks around a character only at a capital sigma, which ends a word or does not. So a
part of a text has the lower case in it that it has by itself exactly if each of its capital sigmas
ends a word in the one if it does in the other (`lowerWithin_eq_lower_iff`), and then the lower case
of the part occurs in that of the text (`lower_infix`). This is so for a part that stands between
characters without a case (`keepsSigmas_of_uncased`), as what is trimmed does (`lower_trim_infix`).
-/

set_option autoImplicit false

namespace Rulebook.Text

variable {before text after : List Char}

/-! ## Lower case between two texts -/

/-- Lower case of a character between `before`, read backwards, and `after`. -/
def lowerBetween (before : List Char) (c : Char) (after : List Char) : List Char :=
  if c = 'Σ' then [if endsWord before after then 'ς' else 'σ'] else lowerChar c

/-- Lower case of a text between `before`, read backwards, and `after`. -/
def lowerWithin (before : List Char) : List Char → List Char → List Char
  | [], _ => []
  | c :: text, after => lowerBetween before c (text ++ after) ++ lowerWithin (c :: before) text after

/-- A text is lowered part by part, each as it stands in the text. -/
theorem lowerFrom_append (before text after : List Char) : lowerFrom before (text ++ after) =
    lowerWithin before text after ++ lowerFrom (text.reverse ++ before) after := by
  induction text generalizing before with
  | nil => rfl
  | cons c text ih =>
      -- the first character of the part has the rest of it and `after` behind it
      rw [List.cons_append, lowerFrom, ih, lowerWithin, lowerBetween, List.append_assoc,
        List.reverse_cons, List.append_assoc, List.singleton_append]

theorem lowerWithin_nil (before text : List Char) :
    lowerWithin before text [] = lowerFrom before text := by
  have happend := lowerFrom_append before text []
  rwa [List.append_nil, lowerFrom, List.append_nil, eq_comm] at happend

/-- Two places differ for a character only if it is a capital sigma that ends a word at one of
them. -/
theorem lowerBetween_eq_iff {before' after' : List Char} {c : Char} :
    lowerBetween before c after = lowerBetween before' c after' ↔
      (c = 'Σ' → endsWord before after = endsWord before' after') := by
  by_cases hc : c = 'Σ'
  · simp only [lowerBetween, hc, forall_const]
    cases endsWord before after <;> cases endsWord before' after' <;> decide
  · simp [lowerBetween, hc]

theorem length_lowerBetween (before before' after after' : List Char) (c : Char) :
    (lowerBetween before c after).length = (lowerBetween before' c after').length := by
  unfold lowerBetween
  split <;> rfl

/-- Two places differ for a text only at a capital sigma in it. -/
theorem lowerWithin_eq_iff {before' after' : List Char} :
    lowerWithin before text after = lowerWithin before' text after' ↔
      ∀ front back, text = front ++ 'Σ' :: back →
        endsWord (front.reverse ++ before) (back ++ after) =
          endsWord (front.reverse ++ before') (back ++ after') := by
  induction text generalizing before before' with
  | nil => simp [lowerWithin]
  | cons c text ih =>
      -- the first character may be a capital sigma, the others follow it
      have hsplit : lowerWithin before (c :: text) after = lowerWithin before' (c :: text) after' ↔
          lowerBetween before c (text ++ after) = lowerBetween before' c (text ++ after') ∧
            lowerWithin (c :: before) text after = lowerWithin (c :: before') text after' := by
        constructor
        · intro h
          exact List.append_inj h (length_lowerBetween _ _ _ _ _)
        · rintro ⟨hfirst, hmore⟩
          rw [lowerWithin, hfirst, hmore, lowerWithin]
      rw [hsplit, lowerBetween_eq_iff, ih]
      constructor
      · rintro ⟨hfirst, hmore⟩ front back htext
        cases front with
        | nil =>
            obtain ⟨rfl, rfl⟩ := List.cons.inj htext
            exact hfirst rfl
        | cons d front =>
            obtain ⟨rfl, rfl⟩ := List.cons.inj htext
            simpa using hmore front back rfl
      · intro h
        refine ⟨?_, ?_⟩
        · rintro rfl
          exact h [] text rfl
        · rintro front back rfl
          simpa using h (c :: front) back rfl

/-! ## Parts that keep their lower case -/

/-- Each capital sigma of a text between two others ends a word there if it does in the text by
itself, and only then. -/
def KeepsSigmas (before text after : List Char) : Prop :=
  ∀ front back, text = front ++ 'Σ' :: back →
    endsWord (front.reverse ++ before.reverse) (back ++ after) = endsWord front.reverse back

/-- A part of a text is lowered as it is by itself exactly if it keeps its sigmas. -/
theorem lowerWithin_eq_lower_iff :
    lowerWithin before.reverse text after = lower text ↔ KeepsSigmas before text after := by
  rw [lower, ← lowerWithin_nil, lowerWithin_eq_iff]
  simp only [List.append_nil, KeepsSigmas]

/-- The lower case of a part that keeps its sigmas occurs in that of the whole. -/
theorem lower_infix (h : KeepsSigmas before text after) :
    lower text <:+: lower (before ++ (text ++ after)) := by
  refine ⟨lowerWithin [] before (text ++ after), lowerFrom (text.reverse ++ before.reverse) after, ?_⟩
  rw [← lowerWithin_eq_lower_iff.2 h, List.append_assoc, ← lowerFrom_append, lower,
    lowerFrom_append [] before, List.append_nil]

theorem keepsSigmas_of_no_sigma (h : 'Σ' ∉ text) : KeepsSigmas before text after := by
  rintro front back rfl
  exact absurd (List.mem_append_right front List.mem_cons_self) h

/-- What begins with a character without a case does not matter behind a text. -/
theorem nextIsCased_append (h : nextIsCased after = false) :
    nextIsCased (text ++ after) = nextIsCased text := by
  induction text with
  | nil => exact h
  | cons c text ih =>
      simp only [nextIsCased, List.cons_append, List.dropWhile_cons]
      -- a character that is passed over leaves the matter to what follows it
      cases isCaseIgnorable c with
      | true => exact ih
      | false => rfl

/-- A part between characters without a case keeps its sigmas. -/
theorem keepsSigmas_of_uncased (hbefore : nextIsCased before.reverse = false)
    (hafter : nextIsCased after = false) : KeepsSigmas before text after := by
  intro front back _
  rw [endsWord, nextIsCased_append hbefore, nextIsCased_append hafter, ← endsWord]

/-! ## White space -/

theorem isCased_of_isBlank {c : Char} (h : isBlank c = true) : isCased c = false :=
  forall_isBlank (p := fun c => isCased c = false) (by decide) h

theorem nextIsCased_of_blank (h : ∀ c ∈ text, isBlank c = true) : nextIsCased text = false := by
  rw [nextIsCased]
  split
  · rfl
  · rename_i c rest hdrop
    have hmem : c ∈ text.dropWhile isCaseIgnorable := hdrop ▸ List.mem_cons_self
    exact isCased_of_isBlank (h c ((List.dropWhile_sublist _).mem hmem))

/-- The lower case of what is trimmed occurs in that of the whole text. -/
theorem lower_trim_infix (text : List Char) : lower (trim text) <:+: lower text := by
  obtain ⟨lead, trail, htext, hlead, htrail⟩ := exists_trim_append text
  have hbefore : nextIsCased lead.reverse = false :=
    nextIsCased_of_blank fun c hc => hlead c (List.mem_reverse.1 hc)
  have hkeeps : KeepsSigmas lead (trim text) trail :=
    keepsSigmas_of_uncased hbefore (nextIsCased_of_blank htrail)
  have hinfix := lower_infix hkeeps
  rwa [← htext] at hinfix

end Rulebook.Text
