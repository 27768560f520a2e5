import Rulebook.RuleSet
import Mathlib.Data.List.Induction
import Mathlib.Data.List.Nodup

/-!
# The order of slots

The order of a rule set names every slot once, so it is a permutation of the numbers below the
number of rules. This module states what the operations do to such an order:

- `closeGap` takes one slot out and renumbers the rest: the result is a permutation of the
  numbers below one less (`closeGap_perm`), and reading it in the list without that slot is reading
  what is left of the order in the whole list (`getElem?_eraseIdx_shift`);
- `moved?` swaps a slot with its neighbour in the order (`moved?_swapped`), unless the slot is not
  there or has no neighbour on that side (`moved?_eq_none_iff`).
-/

set_option autoImplicit false

namespace Rulebook

variable {α : Type}

/-- An entry of a list with what comes before and behind it. -/
theorem exists_split_of_getElem? {entries : List α} {i : Nat} {entry : α}
    (h : entries[i]? = some entry) :
    ∃ front back, entries = front ++ entry :: back ∧ front.length = i := by
  obtain ⟨hi, rfl⟩ := List.getElem?_eq_some_iff.1 h
  refine ⟨entries.take i, entries.drop (i + 1), ?_, by simp; omega⟩
  rw [← List.drop_eq_getElem_cons hi, List.take_append_drop]

theorem eraseIdx_append_cons (front back : List α) (entry : α) :
    (front ++ entry :: back).eraseIdx front.length = front ++ back := by
  rw [List.eraseIdx_append_of_length_le (Nat.le_refl _), Nat.sub_self, List.eraseIdx_cons_zero]

theorem set_append_cons (front back : List α) (old new : α) :
    (front ++ old :: back).set front.length new = front ++ new :: back := by
  rw [List.set_append_right _ _ (Nat.le_refl _), Nat.sub_self, List.set_cons_zero]

/-- Reading the slots of a list in turn gives the list. -/
theorem filterMap_getElem?_range (entries : List α) :
    (List.range entries.length).filterMap (fun i => entries[i]?) = entries := by
  induction entries using List.reverseRecOn with
  | nil => rfl
  | append_singleton entries entry ih =>
      have hfront : ∀ i ∈ List.range entries.length,
          (entries ++ [entry])[i]? = entries[i]? := fun i hi =>
        List.getElem?_append_left (List.mem_range.1 hi)
      rw [List.length_append, List.length_singleton, List.range_succ, List.filterMap_append,
        List.filterMap_congr hfront, ih]
      simp

/-- Swapping takes place behind everything that comes before. -/
theorem swapNext_append (front back : List α) (a b : α) :
    swapNext front.length (front ++ a :: b :: back) = front ++ b :: a :: back := by
  induction front with
  | nil => rfl
  | cons x front ih =>
      simp only [List.length_cons, List.cons_append, swapNext, ih]

/-- What a move does to a list: the entry changes places with the one in front of it or with the
one behind it. -/
def Swapped : Direction → α → List α → List α → Prop
  | .up, entry, before, after => ∃ front other back,
      before = front ++ other :: entry :: back ∧ after = front ++ entry :: other :: back
  | .down, entry, before, after => ∃ front other back,
      before = front ++ entry :: other :: back ∧ after = front ++ other :: entry :: back

/-- The entry stands already at the end of the list to which a direction leads. -/
def AtEnd : Direction → α → List α → Prop
  | .up, entry, entries => entries.head? = some entry
  | .down, entry, entries => entries.getLast? = some entry

theorem Swapped.perm {direction : Direction} {entry : α} {before after : List α}
    (h : Swapped direction entry before after) : after.Perm before := by
  cases direction with
  | up =>
      obtain ⟨front, other, back, rfl, rfl⟩ := h
      exact (List.Perm.swap other entry back).append_left front
  | down =>
      obtain ⟨front, other, back, rfl, rfl⟩ := h
      exact (List.Perm.swap entry other back).append_left front

namespace RuleSet

/-! ## Closing a gap -/

/-- The number that a slot bears once the slot given is taken out. -/
def shift (slot i : Nat) : Nat := if slot < i then i - 1 else i

theorem closeGap_eq (slot : Nat) (order : List Nat) :
    closeGap slot order = (order.filter (· ≠ slot)).map (shift slot) := rfl

/-- A slot is the renumbered form of another one than the slot taken out. -/
theorem exists_shift_eq (slot i : Nat) : ∃ j, j ≠ slot ∧ shift slot j = i := by
  by_cases h : i < slot
  · exact ⟨i, by omega, by rw [shift, if_neg (by omega)]⟩
  · exact ⟨i + 1, by omega, by rw [shift, if_pos (by omega), Nat.add_sub_cancel]⟩

theorem shift_injOn {slot i j : Nat} (hi : i ≠ slot) (hj : j ≠ slot)
    (h : shift slot i = shift slot j) : i = j := by
  unfold shift at h
  split at h <;> split at h <;> omega

/-- Renumbering keeps what is below the number of slots below one less. -/
theorem shift_lt_iff {slot i n : Nat} (hslot : slot ≤ n) (hi : i ≠ slot) :
    shift slot i < n ↔ i < n + 1 := by
  unfold shift
  split <;> omega

/-- The renumbered slot holds what the slot held before. -/
theorem getElem?_eraseIdx_shift {slot i : Nat} (hi : i ≠ slot) (entries : List α) :
    (entries.eraseIdx slot)[shift slot i]? = entries[i]? := by
  unfold shift
  split
  · rename_i h
    rw [List.getElem?_eraseIdx_of_ge (by omega), Nat.sub_add_cancel (by omega)]
  · rw [List.getElem?_eraseIdx_of_lt (by omega)]

theorem mem_closeGap_iff {slot k : Nat} {order : List Nat} :
    k ∈ closeGap slot order ↔ ∃ i ∈ order, i ≠ slot ∧ shift slot i = k := by
  simp [closeGap_eq, and_assoc]

theorem nodup_closeGap {slot : Nat} {order : List Nat} (h : order.Nodup) :
    (closeGap slot order).Nodup := by
  rw [closeGap_eq]
  refine List.Nodup.map_on ?_ (h.filter _)
  intro i hi j hj hij
  simp only [List.mem_filter, decide_eq_true_eq] at hi hj
  exact shift_injOn hi.2 hj.2 hij

/-- The slots before and behind the one taken out keep their order. -/
theorem closeGap_append_cons {slot : Nat} {front back : List Nat} (hfront : slot ∉ front)
    (hback : slot ∉ back) :
    closeGap slot (front ++ slot :: back) = front.map (shift slot) ++ back.map (shift slot) := by
  have hkeep : ∀ slots : List Nat, slot ∉ slots → slots.filter (· ≠ slot) = slots := by
    intro slots hslots
    refine List.filter_eq_self.2 fun i hi => ?_
    simpa using ne_of_mem_of_not_mem hi hslots
  rw [closeGap_eq, List.filter_append, List.filter_cons_of_neg (by simp), hkeep front hfront,
    hkeep back hback, List.map_append]

/-- Taking a slot out of a permutation of the slots leaves one of one slot fewer. -/
theorem closeGap_perm {slot n : Nat} {order : List Nat} (hslot : slot ≤ n)
    (h : order.Perm (List.range (n + 1))) : (closeGap slot order).Perm (List.range n) := by
  have hnodup : order.Nodup := h.nodup_iff.2 List.nodup_range
  -- neither list has a slot twice, so it is enough that they have the same slots
  refine (List.perm_ext_iff_of_nodup (nodup_closeGap hnodup) List.nodup_range).2 fun k => ?_
  rw [mem_closeGap_iff, List.mem_range]
  constructor
  · rintro ⟨i, hi, hne, rfl⟩
    rw [shift_lt_iff hslot hne]
    exact List.mem_range.1 (h.mem_iff.1 hi)
  · intro hk
    obtain ⟨i, hne, rfl⟩ := exists_shift_eq slot k
    exact ⟨i, h.mem_iff.2 (List.mem_range.2 ((shift_lt_iff hslot hne).1 hk)), hne, rfl⟩

/-! ## Moving a slot -/

section Moving

variable {slot : Nat} {front : List Nat}

/-- A slot stands behind everything before its first occurrence. -/
theorem idxOf?_append_cons (h : slot ∉ front) (back : List Nat) :
    (front ++ slot :: back).idxOf? slot = some front.length := by
  induction front with
  | nil => simp [List.idxOf?_cons]
  | cons i front ih =>
      simp only [List.mem_cons, not_or] at h
      have hne : (i == slot) = false := by
        simpa using fun e => h.1 e.symm
      simp [List.idxOf?_cons, hne, ih h.2]

theorem moved?_of_not_mem {order : List Nat} (h : slot ∉ order) (direction : Direction) :
    moved? slot direction order = none := by
  simp [moved?, List.idxOf?_eq_none_iff.2 h]

theorem moved?_up_first (back : List Nat) : moved? slot .up (slot :: back) = none := by
  simp [moved?, List.idxOf?_cons]

theorem moved?_up {above : Nat} (h : slot ∉ front ++ [above]) (back : List Nat) :
    moved? slot .up (front ++ above :: slot :: back) = some (front ++ slot :: above :: back) := by
  have hplace := idxOf?_append_cons h back
  rw [List.append_assoc, List.singleton_append, List.length_append, List.length_singleton]
    at hplace
  simp [moved?, hplace, swapNext_append]

theorem moved?_down_last (h : slot ∉ front) : moved? slot .down (front ++ [slot]) = none := by
  simp [moved?, idxOf?_append_cons h []]

theorem moved?_down (h : slot ∉ front) (below : Nat) (back : List Nat) :
    moved? slot .down (front ++ slot :: below :: back) =
      some (front ++ below :: slot :: back) := by
  simp [moved?, idxOf?_append_cons h (below :: back), swapNext_append]

end Moving

theorem moved?_swapped {slot : Nat} {direction : Direction} {order next : List Nat}
    (h : moved? slot direction order = some next) : Swapped direction slot order next := by
  by_cases hslot : slot ∈ order
  · -- what the move does depends on whether something stands before the slot, or behind it
    obtain ⟨front, back, rfl, hfront⟩ := List.eq_append_cons_of_mem hslot
    cases direction with
    | up =>
        rcases List.eq_nil_or_concat' front with rfl | ⟨front, above, rfl⟩
        · rw [List.nil_append, moved?_up_first] at h
          cases h
        · rw [List.append_assoc, List.singleton_append, moved?_up hfront, Option.some.injEq] at h
          exact ⟨front, above, back, by simp, h.symm⟩
    | down =>
        cases back with
        | nil =>
            rw [moved?_down_last hfront] at h
            cases h
        | cons below back =>
            rw [moved?_down hfront, Option.some.injEq] at h
            exact ⟨front, below, back, rfl, h.symm⟩
  · rw [moved?_of_not_mem hslot] at h
    cases h

/-- A slot stays where it is exactly if it is not there or has no neighbour on that side. -/
theorem moved?_eq_none_iff {slot : Nat} {direction : Direction} {order : List Nat}
    (hnodup : order.Nodup) :
    moved? slot direction order = none ↔ slot ∉ order ∨ AtEnd direction slot order := by
  by_cases hslot : slot ∈ order
  · obtain ⟨front, back, rfl, hfront⟩ := List.eq_append_cons_of_mem hslot
    have hback : slot ∉ back := (List.nodup_cons.1 (List.nodup_append.1 hnodup).2.1).1
    simp only [hslot, not_true_eq_false, false_or]
    cases direction with
    | up =>
        cases front with
        | nil => simp [moved?_up_first, AtEnd]
        | cons first front =>
            have hne : first ≠ slot := fun e => hfront (by simp [e])
            obtain ⟨rest, above, hrest⟩ := (List.eq_nil_or_concat' (first :: front)).resolve_left
              (List.cons_ne_nil first front)
            have hmoved : moved? slot .up (first :: front ++ slot :: back) ≠ none := by
              rw [hrest, List.append_assoc, List.singleton_append, moved?_up (hrest ▸ hfront)]
              exact Option.some_ne_none _
            -- the order begins with another slot, so this one is not at that end
            simpa [AtEnd, hne] using hmoved
    | down =>
        cases back with
        | nil => simp [moved?_down_last hfront, AtEnd]
        | cons below back =>
            have hlast : (below :: back).getLast? ≠ some slot := fun e =>
              hback (List.mem_of_getLast? e)
            simp [moved?_down hfront, AtEnd, List.getLast?_append, hlast]
  · simp [moved?_of_not_mem hslot, hslot]

end RuleSet

end Rulebook
