import Rulebook.Proofs.Text.Standing
import Rulebook.Proofs.Text.Trimming

/-!
# How rule texts are written

A `Written` rule text is a disjunction of conjunctions of leaves with everything that may be chosen
in writing it down: the case of the keywords, the blanks around them, an introducing `if`, a `then`
with whatever follows it, and outer white space. A `Leaf` is any text that could not be mistaken for
more than one condition; it need not be a condition that is recognised.
-/

set_option autoImplicit false

namespace Rulebook

open Text

/-! ## Texts joined by a keyword -/

/-- Blanks between words. -/
structure Gap where
  text : List Char
  ne_nil : text ≠ []
  blank : ∀ c ∈ text, isAsciiBlank c = true

/-- A keyword between two texts, in some case of its letters and with blanks on both sides. -/
structure Joint (k : Keyword) where
  before : Gap
  spelled : List Char
  after : Gap
  spells : Spells k.word spelled

/-- The joint as it is written. -/
def Joint.text {k : Keyword} (joint : Joint k) : List Char :=
  joint.before.text ++ (joint.spelled ++ joint.after.text)

/-- One or more things with joints between them. -/
inductive Joined (k : Keyword) (α : Type) where
  | one (x : α)
  | cons (x : α) (joint : Joint k) (rest : Joined k α)

namespace Joined

variable {k : Keyword} {α : Type}

/-- The things that are joined. -/
def parts : Joined k α → List α
  | one x => [x]
  | cons x _ rest => x :: rest.parts

/-- The first of them. -/
def head : Joined k α → α
  | one x => x
  | cons x _ _ => x

/-- The whole as it is written. -/
def text (render : α → List Char) : Joined k α → List Char
  | one x => render x
  | cons x joint rest => render x ++ (joint.text ++ rest.text render)

end Joined

/-! ## Rule texts -/

/-- A part of a rule text that stands for one condition: trimmed, not empty, and without a keyword
that would take it apart. -/
structure Leaf where
  text : List Char
  ne_nil : text ≠ []
  trimmed : trim text = text
  no_and : ¬ (Keyword.ofConnective .and).Stands text
  no_or : ¬ (Keyword.ofConnective .or).Stands text
  no_then : ¬ Keyword.consequence.Stands text

/-- Leaves joined by `and`. -/
abbrev Conjunction := Joined (Keyword.ofConnective .and) Leaf

/-- Conjunctions joined by `or`. -/
abbrev Disjunction := Joined (Keyword.ofConnective .or) Conjunction

/-- The conjunction as it is written. -/
def Conjunction.text (group : Conjunction) : List Char := Joined.text Leaf.text group

/-- The disjunction as it is written. -/
def Disjunction.text (body : Disjunction) : List Char := Joined.text Conjunction.text body

/-- The word that may introduce a rule text. -/
def introduction : List Char := ['i', 'f']

theorem introduction_no_blank : ∀ c ∈ introduction, isBlank c = false :=
  no_blank_of_any (by decide)

/-- The text is the introducing word, or begins with it and white space. -/
def StartsIf (text : List Char) : Prop :=
  ∃ spelled behind, text = spelled ++ behind ∧ Spells introduction spelled ∧
    ∀ c ∈ behind.head?, isBlank c = true

/-- The introducing `if` with white space behind it. -/
structure Opening where
  spelled : List Char
  gap : List Char
  spells : Spells introduction spelled
  gap_ne_nil : gap ≠ []
  gap_blank : ∀ c ∈ gap, isBlank c = true

/-- The opening as it is written. -/
def Opening.text (opening : Opening) : List Char := opening.spelled ++ opening.gap

/-- The word `then` with whatever follows it. -/
structure Conclusion where
  gap : Gap
  spelled : List Char
  tail : List Char
  spells : Spells Keyword.consequence.word spelled
  tail_closes : ∀ c ∈ tail.head?, Keyword.consequence.closes c = true

/-- The conclusion as it is written. -/
def Conclusion.text (conclusion : Conclusion) : List Char :=
  conclusion.gap.text ++ (conclusion.spelled ++ conclusion.tail)

/-- A rule text with everything that may be chosen in writing it. Without an opening its first leaf
must not look like one. -/
structure Written where
  lead : List Char
  opening : Option Opening
  body : Disjunction
  conclusion : Option Conclusion
  trail : List Char
  lead_blank : ∀ c ∈ lead, isBlank c = true
  trail_blank : ∀ c ∈ trail, isBlank c = true
  plain_start : opening = none → ¬ StartsIf body.head.head.text

/-- The rule text as it is written. -/
def Written.text (w : Written) : List Char :=
  w.lead ++ (w.opening.elim [] Opening.text ++
    (w.body.text ++ (w.conclusion.elim [] Conclusion.text ++ w.trail)))

/-! ## Both ends of what is written -/

/-- There is something, and no white space at either end of it. -/
structure Solid (text : List Char) : Prop where
  ne_nil : text ≠ []
  bare : Bare text

theorem Leaf.solid (leaf : Leaf) : Solid leaf.text :=
  ⟨leaf.ne_nil, (trim_eq_self_iff leaf.text).1 leaf.trimmed⟩

/-- What stands between two solid texts does not matter to the ends of the whole. -/
theorem Solid.append {first last : List Char} (hfirst : Solid first) (hlast : Solid last)
    (middle : List Char) : Solid (first ++ (middle ++ last)) := by
  refine ⟨fun h => hfirst.ne_nil (List.append_eq_nil_iff.1 h).1, ?_, ?_⟩
  · rw [List.head?_append_of_ne_nil _ hfirst.ne_nil]
    exact hfirst.bare.1
  · rw [← List.append_assoc, List.getLast?_append_of_ne_nil _ hlast.ne_nil]
    exact hlast.bare.2

theorem Gap.exists_text_eq (gap : Gap) :
    ∃ c blanks, gap.text = c :: blanks ∧ isAsciiBlank c = true ∧
      ∀ d ∈ blanks, isAsciiBlank d = true := by
  obtain ⟨c, blanks, htext⟩ := List.exists_cons_of_ne_nil gap.ne_nil
  have hblank := gap.blank
  rw [htext, List.forall_mem_cons] at hblank
  exact ⟨c, blanks, htext, hblank⟩

theorem Gap.blankFirst_append (gap : Gap) (rest : List Char) : BlankFirst (gap.text ++ rest) := by
  obtain ⟨c, blanks, htext, hc, -⟩ := gap.exists_text_eq
  rw [htext]
  exact blankFirst_cons hc (blanks ++ rest)

namespace Joined

variable {k : Keyword} {α : Type} {render : α → List Char}

theorem solid_text (h : ∀ x, Solid (render x)) (j : Joined k α) : Solid (j.text render) := by
  induction j with
  | one x => exact h x
  | cons x joint rest ih => exact (h x).append ih joint.text

/-- The first part comes first, and a blank behind it. -/
theorem exists_text_eq (render : α → List Char) (j : Joined k α) :
    ∃ more, j.text render = render j.head ++ more ∧ BlankFirst more := by
  cases j with
  | one x => exact ⟨[], (List.append_nil _).symm, blankFirst_nil⟩
  | cons x joint rest =>
      refine ⟨joint.text ++ rest.text render, rfl, ?_⟩
      rw [Joint.text, List.append_assoc]
      exact joint.before.blankFirst_append _

/-- A keyword that stands in no part and is not the one at the joints does not stand in the
whole. -/
theorem standsFrom_text {other : Keyword}
    (hapart : ¬ other.word.map foldAscii <+: k.word.map foldAscii)
    (h : ∀ x, other.standsFrom true (render x) = false) (j : Joined k α) :
    other.standsFrom true (j.text render) = false := by
  induction j with
  | one x => exact h x
  | cons x joint rest ih =>
      rw [text, Joint.text, List.append_assoc, List.append_assoc,
        Keyword.standsFrom_gap other joint.before.ne_nil joint.before.blank,
        Keyword.standsFrom_gap other joint.after.ne_nil joint.after.blank, h,
        Keyword.standsFrom_spelled joint.spells hapart, ih]
      rfl

end Joined

theorem Conjunction.solid (group : Conjunction) : Solid group.text :=
  Joined.solid_text Leaf.solid group

theorem Disjunction.solid (body : Disjunction) : Solid body.text :=
  Joined.solid_text Conjunction.solid body

/-! No `and` in a leaf, no `or` in a conjunction and no `then` in a disjunction can be taken for one
that is written between or behind them. -/

theorem Leaf.standsFrom_and (leaf : Leaf) :
    (Keyword.ofConnective .and).standsFrom true leaf.text = false := by
  rw [← Bool.not_eq_true, ← Keyword.stands_iff]
  exact leaf.no_and

theorem Conjunction.standsFrom_or (group : Conjunction) :
    (Keyword.ofConnective .or).standsFrom true group.text = false := by
  refine Joined.standsFrom_text (by decide) (fun leaf => ?_) group
  rw [← Bool.not_eq_true, ← Keyword.stands_iff]
  exact leaf.no_or

theorem Disjunction.standsFrom_then (body : Disjunction) :
    Keyword.consequence.standsFrom true body.text = false := by
  refine Joined.standsFrom_text (by decide)
    (fun group => Joined.standsFrom_text (by decide) (fun leaf => ?_) group) body
  rw [← Bool.not_eq_true, ← Keyword.stands_iff]
  exact leaf.no_then

end Rulebook
