import Rulebook.Proofs.Expression.Reading

/-!
# What follows `then`

Whatever stands in front of a conclusion, the conclusion itself is never read: its word may be
spelled in any case and anything may follow it (`Expression.read_append_conclusion`). A text in front
can hold further keywords and white space of any kind, so what is left of it is followed through the
three steps that find the body of a rule text. Behind each of them there is a conclusion again
(`Concludes.trim`, `Concludes.dropIf`), until it is cut off (`Concludes.trimEnd_cutThen`).
-/

set_option autoImplicit false

namespace Rulebook

open Text

variable {front text : List Char}

/-- The text is `front` with a conclusion behind it. Where nothing is in front, the gap may be missing
as well. -/
inductive Concludes : List Char → List Char → Prop where
  | behind (front : List Char) (c : Conclusion) : Concludes front (front ++ c.text)
  | alone (c : Conclusion) : Concludes [] (c.spelled ++ c.tail)

/-! ## White space around -/

theorem Conclusion.trimStart_eq_self (c : Conclusion) :
    trimStart (c.spelled ++ c.tail) = c.spelled ++ c.tail :=
  (trimStart_eq_self_iff _).2
    (c.spells.no_blank_first (Keyword.ne_nil _) (Keyword.no_blank _) c.tail)

theorem Conclusion.trimStart_text (c : Conclusion) : trimStart c.text = c.spelled ++ c.tail := by
  rw [Conclusion.text, trimStart_append fun ch hch => isBlank_of_isAsciiBlank (c.gap.blank ch hch),
    c.trimStart_eq_self]

namespace Concludes

theorem trimStart (h : Concludes front text) :
    Concludes (trimStart front) (trimStart text) := by
  cases h with
  | alone c =>
      rw [c.trimStart_eq_self]
      exact .alone c
  | behind front c =>
      rw [Text.trimStart, Text.trimStart, List.dropWhile_append]
      split
      · -- all that stands in front is white space
        rename_i hnone
        rw [List.isEmpty_iff.1 hnone, ← Text.trimStart, c.trimStart_text]
        exact .alone c
      · exact .behind _ c

theorem trimEnd (h : Concludes front text) : Concludes front (trimEnd text) := by
  cases h with
  | alone c =>
      rw [trimEnd_append c.spelled_last]
      exact .alone c.trimmed
  | behind front c =>
      rw [c.trimEnd_append_text]
      exact .behind front c.trimmed

theorem trim (h : Concludes front text) : Concludes (Text.trimStart front) (trim text) :=
  h.trimStart.trimEnd

end Concludes

/-! ## An introducing `if` -/

/-- What is left of the text in front of a conclusion when an introducing `if` is put aside. The
conclusion brings the white space that such a word needs behind it. -/
def introduced (front : List Char) : List Char :=
  match dropPhrase? introduction front with
  | some [] => []
  | some (c :: rest) => if isBlank c then trimStart rest else front
  | none => front

/-- A conclusion by itself is not introduced by `if`. -/
theorem Conclusion.dropIf_eq_self (c : Conclusion) :
    dropIf (c.spelled ++ c.tail) = c.spelled ++ c.tail := by
  obtain ⟨gap, spelled, tail, hspells, hcloses⟩ := c
  obtain ⟨first, more, rfl⟩ := List.exists_cons_of_ne_nil (hspells.ne_nil (Keyword.ne_nil _))
  have hfirst : foldAscii first = foldAscii 't' := (List.cons.inj hspells).1
  have hne : foldAscii 'i' ≠ foldAscii first := by
    rw [hfirst]
    decide
  simp [dropIf, dropPhrase?, hne]

namespace Concludes

theorem dropIf (h : Concludes front text) : Concludes (introduced front) (dropIf text) := by
  cases h with
  | alone c =>
      rw [c.dropIf_eq_self]
      exact .alone c
  | behind front c =>
      have hmore : BlankFirst c.text := c.gap.blankFirst_append _
      rw [Rulebook.dropIf, ← introduction, dropPhrase?_append introduction_no_blank hmore,
        introduced]
      cases dropPhrase? introduction front with
      | none => exact .behind front c
      | some rest =>
          cases rest with
          | nil =>
              -- the white space behind `if` is that of the gap
              obtain ⟨d, blanks, hgap, hd, hblanks⟩ := c.gap.exists_text_eq
              have htext : c.text = d :: (blanks ++ (c.spelled ++ c.tail)) := by
                rw [Conclusion.text, hgap, List.cons_append]
              have hrest : Text.trimStart (blanks ++ (c.spelled ++ c.tail)) =
                  c.spelled ++ c.tail := by
                rw [trimStart_append fun e he => isBlank_of_isAsciiBlank (hblanks e he),
                  c.trimStart_eq_self]
              simp only [Option.map_some, List.nil_append, htext, isBlank_of_isAsciiBlank hd,
                if_true, hrest]
              exact .alone c
          | cons d rest =>
              simp only [Option.map_some, List.cons_append]
              split
              · exact (behind rest c).trimStart
              · exact .behind front c

end Concludes

/-! ## Cutting at the first `then` -/

/-- Where `then` stands in a text already, nothing behind it matters. -/
theorem cutThen_append_of_stands {atStart : Bool} {text more : List Char}
    (hstands : Keyword.consequence.standsFrom atStart text = true) (hmore : BlankFirst more) :
    cutThen atStart (text ++ more) = cutThen atStart text := by
  induction text generalizing atStart with
  | nil => cases hstands
  | cons c text ih =>
      rw [List.cons_append, cutThen, cutThen, startsThen_eq_opens, startsThen_eq_opens,
        ← List.cons_append, Keyword.opens_append _ hmore]
      rw [Keyword.standsFrom, Bool.or_eq_true] at hstands
      rcases hstands with hhere | hlater
      · rw [if_pos hhere, if_pos hhere]
      · rw [ih hlater]

namespace Concludes

/-- Of a text with a conclusion the same is left as of what stands in front. -/
theorem trimEnd_cutThen (h : Concludes front text) :
    Text.trimEnd (cutThen true text) = Text.trimEnd (cutThen true front) := by
  cases h with
  | alone c => rw [cutThen_eq_nil c.opens, cutThen]
  | behind front c =>
      have hmore : BlankFirst c.text := c.gap.blankFirst_append _
      cases hstands : Keyword.consequence.standsFrom true front with
      | true => rw [cutThen_append_of_stands hstands hmore]
      | false =>
          have hfront : cutThen true front = front := by
            rw [← List.append_nil front, cutThen_append hstands blankFirst_nil]
            rfl
          rw [cutThen_append hstands hmore, cutThen_conclusion, hfront,
            trimEnd_append_blanks fun d hd => isBlank_of_isAsciiBlank (c.gap.blank d hd)]

/-- The body of a text with a conclusion depends on what stands in front alone. -/
theorem ruleBody_eq (h : Concludes front text) :
    ruleBody text = Text.trimEnd (cutThen true (introduced (Text.trimStart front))) :=
  h.trim.dropIf.trimEnd_cutThen

end Concludes

/-- **What follows `then` has no influence.** Behind any text, one conclusion can be put in place of
another: neither the blanks in front of the word nor the case of its letters matter, nor does
anything behind it. -/
theorem Expression.read_append_conclusion (front : List Char) (c d : Conclusion) :
    Expression.read (front ++ c.text) = Expression.read (front ++ d.text) := by
  rw [Expression.read, Expression.read, (Concludes.behind front c).ruleBody_eq,
    (Concludes.behind front d).ruleBody_eq]

/-- The first `then` that is a word by itself counts, not one that goes on with an underscore. -/
example : ruleBody "if A is 1 then_ and\tTHEN or B is 2".toList = "A is 1 then_ and".toList := by
  decide +kernel

end Rulebook
