/-!
# Up to the first entry that passes

A search that stops at the first entry that passes a test sees the entries up to that one, or all of
them if none passes (`UpToFirst`). Every list has such a part (`exists_upToFirst`); in it no entry
but the last one passes (`UpToFirst.dropLast`), and the last one, if it does, is what the search
finds (`UpToFirst.filter_getLast?`).
-/

set_option autoImplicit false

namespace Rulebook

/-- The entries of a list up to and including the first that passes a test, or all of them if none
does. -/
inductive UpToFirst {α : Type} (p : α → Bool) (entries : List α) : List α → Prop where
  | found {front back : List α} {entry : α} : entries = front ++ entry :: back →
      (∀ x ∈ front, p x = false) → p entry = true → UpToFirst p entries (front ++ [entry])
  | none : (∀ x ∈ entries, p x = false) → UpToFirst p entries entries

namespace UpToFirst

variable {α : Type} {p : α → Bool} {entries seen : List α}

/-- An entry that does not pass is gone over. -/
theorem cons {x : α} (hx : p x = false) (h : UpToFirst p entries seen) :
    UpToFirst p (x :: entries) (x :: seen) := by
  cases h with
  | @found front back entry hsplit hfront hentry =>
      have hmore : x :: entries = (x :: front) ++ entry :: back := by rw [hsplit, List.cons_append]
      exact found hmore (List.forall_mem_cons.2 ⟨hx, hfront⟩) hentry
  | none hall => exact none (List.forall_mem_cons.2 ⟨hx, hall⟩)

/-- No entry but the last one passes. -/
theorem dropLast (h : UpToFirst p entries seen) : ∀ x ∈ seen.dropLast, p x = false := by
  intro x hx
  cases h with
  | found _ hfront _ =>
      rw [List.dropLast_concat] at hx
      exact hfront x hx
  | none hall => exact hall x (List.dropLast_subset _ hx)

/-- The last entry, if it passes, is the first of all that passes. -/
theorem filter_getLast? (h : UpToFirst p entries seen) :
    seen.getLast?.filter p = entries.find? p := by
  cases h with
  | @found front back entry hsplit hfront hentry =>
      have hnone : front.find? p = Option.none :=
        List.find?_eq_none.2 fun x hx => by simp [hfront x hx]
      rw [List.getLast?_concat, Option.filter_some_pos hentry, hsplit, List.find?_append, hnone,
        Option.none_or, List.find?_cons_of_pos hentry]
  | none hall =>
      have hfails : ∀ x ∈ entries, ¬ p x = true := fun x hx => by simp [hall x hx]
      rw [List.find?_eq_none.2 hfails, Option.filter_eq_none_iff]
      intro x hx
      exact hfails x (List.mem_of_getLast? hx)

end UpToFirst

/-- Every search ends, at the first entry that passes or behind the last one. -/
theorem exists_upToFirst {α : Type} (p : α → Bool) (entries : List α) :
    ∃ seen, UpToFirst p entries seen := by
  induction entries with
  | nil => exact ⟨[], .none (by simp)⟩
  | cons x entries ih =>
      cases hx : p x with
      | true => exact ⟨[] ++ [x], .found rfl (by simp) hx⟩
      | false =>
          obtain ⟨seen, hseen⟩ := ih
          exact ⟨x :: seen, hseen.cons hx⟩

end Rulebook
