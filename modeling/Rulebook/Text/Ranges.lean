/-!
# Sets of characters as ranges

A set of characters is a list of closed ranges of codes, ascending and apart. `inRanges` looks a
code up and stops at the first range beyond it; `inRanges_iff` says that for ascending ranges this
is membership in one of them.
-/

set_option autoImplicit false

namespace Rulebook.Text

/-- Looks `n` up in ascending ranges. -/
def inRanges : List (Nat × Nat) → Nat → Bool
  | [], _ => false
  | (first, last) :: rest, n => if n < first then false else n ≤ last || inRanges rest n

/-- The ranges are not empty, ascend and do not touch. -/
def ascending : List (Nat × Nat) → Bool
  | [] => true
  | [r] => r.1 ≤ r.2
  | r :: s :: rest => r.1 ≤ r.2 && r.2 + 1 < s.1 && ascending (s :: rest)

theorem ascending_tail {r : Nat × Nat} {rest : List (Nat × Nat)}
    (h : ascending (r :: rest) = true) : ascending rest = true := by
  cases rest with
  | nil => rfl
  | cons s rest =>
      simp only [ascending, Bool.and_eq_true] at h
      exact h.2

theorem lt_of_ascending {r : Nat × Nat} {rest : List (Nat × Nat)}
    (h : ascending (r :: rest) = true) : ∀ s ∈ rest, r.1 < s.1 := by
  induction rest generalizing r with
  | nil => simp
  | cons s rest ih =>
      simp only [ascending, Bool.and_eq_true, decide_eq_true_eq] at h
      intro t ht
      rcases List.mem_cons.mp ht with rfl | ht
      · omega
      · have := ih h.2 t ht
        omega

theorem inRanges_iff {rs : List (Nat × Nat)} (h : ascending rs = true) (n : Nat) :
    inRanges rs n = true ↔ ∃ r ∈ rs, r.1 ≤ n ∧ n ≤ r.2 := by
  induction rs with
  | nil => simp [inRanges]
  | cons r rest ih =>
      have ih := ih (ascending_tail h)
      have below := lt_of_ascending h
      by_cases hn : n < r.1
      · simp only [inRanges, hn, if_true, Bool.false_eq_true, false_iff, not_exists, not_and]
        intro s hs
        rcases List.mem_cons.mp hs with rfl | hs
        · omega
        · have := below s hs
          omega
      · have cons : inRanges (r :: rest) n = true ↔ n ≤ r.2 ∨ inRanges rest n = true := by
          simp [inRanges, hn]
        rw [cons, ih]
        constructor
        · rintro (h | ⟨s, hs, h⟩)
          · exact ⟨r, List.mem_cons_self, by omega, h⟩
          · exact ⟨s, List.mem_cons_of_mem r hs, h⟩
        · rintro ⟨s, hs, hn, hl⟩
          rcases List.mem_cons.mp hs with rfl | hs
          · exact Or.inl hl
          · exact Or.inr ⟨s, hs, hn, hl⟩

end Rulebook.Text
