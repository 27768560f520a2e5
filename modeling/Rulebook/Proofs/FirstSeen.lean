import Mathlib.Algebra.BigOperators.Group.List.Lemmas
import Mathlib.Algebra.GroupWithZero.Nat
import Mathlib.Data.List.Dedup
import Mathlib.Data.List.Induction

/-!
# Entries in the order in which they are first seen

`List.eraseDups` lists each entry of a list once, in the order of first occurrences
(`pairwise_idxOf_eraseDups`); how often each is there adds up to the length of the list
(`sum_count_eraseDups`). To write one entry for another makes one less of them, if both are there
(`length_eraseDups_replaced`).

Where entries are of several kinds, `firstOf` lists the first entry of each kind. The kinds may be
told apart in any way that distinguishes the same entries (`firstOf_congr`). If the entries of a
kind are alike in some respect, the first ones are enough to see in which order that respect varies
(`eraseDups_map_firstOf`), and the sizes of the kinds in which a test is passed add up to the number
of entries that pass (`sum_countP_firstOf`).
-/

set_option autoImplicit false

namespace Rulebook

variable {α : Type} [BEq α] [LawfulBEq α]

theorem eraseDups_concat (as : List α) (b : α) :
    (as ++ [b]).eraseDups = if b ∈ as then as.eraseDups else as.eraseDups ++ [b] := by
  rw [List.eraseDups_append]
  by_cases h : b ∈ as
  · simp [List.removeAll, h]
  · simp [List.removeAll, h, List.eraseDups_cons]

/-- What comes first among the entries is first seen first. -/
theorem pairwise_idxOf_eraseDups (as : List α) :
    as.eraseDups.Pairwise fun a b => as.idxOf a < as.idxOf b := by
  -- entries are taken from the end, so that first occurrences stay where they are
  induction as using List.reverseRecOn with
  | nil => simp
  | append_singleton as b ih =>
      have hold : ∀ a ∈ as.eraseDups, (as ++ [b]).idxOf a = as.idxOf a := by
        intro a ha
        exact List.idxOf_append_of_mem (List.mem_eraseDups.1 ha)
      have hkept : as.eraseDups.Pairwise fun a c => (as ++ [b]).idxOf a < (as ++ [b]).idxOf c := by
        refine ih.imp_of_mem ?_
        intro a c ha hc hlt
        rw [hold a ha, hold c hc]
        exact hlt
      rw [eraseDups_concat]
      split
      · exact hkept
      · rename_i hnew
        refine List.pairwise_append.2 ⟨hkept, List.pairwise_singleton _ b, ?_⟩
        intro a ha c hc
        obtain rfl := List.mem_singleton.1 hc
        rw [hold a ha, List.idxOf_append_of_notMem hnew]
        have hlt : as.idxOf a < as.length := List.idxOf_lt_length_of_mem (List.mem_eraseDups.1 ha)
        omega

theorem nodup_eraseDups (as : List α) : as.eraseDups.Nodup := by
  refine (pairwise_idxOf_eraseDups as).imp ?_
  rintro a b hlt rfl
  exact absurd hlt (Nat.lt_irrefl _)

theorem sum_count_eraseDups (as : List α) : (as.eraseDups.map as.count).sum = as.length := by
  classical
  -- the library states the sum for the comparison that comes with decidable equality
  obtain rfl : ‹BEq α› = instBEqOfDecidableEq := lawful_beq_subsingleton _ _
  have hperm : as.eraseDups.Perm as.dedup := by
    refine (List.perm_ext_iff_of_nodup (nodup_eraseDups as) (List.nodup_dedup as)).2 ?_
    intro a
    rw [List.mem_eraseDups, List.mem_dedup]
  rw [(hperm.map as.count).sum_eq]
  exact List.sum_map_count_dedup_eq_length as

/-! ## The number of different entries -/

/-- Lists with the same entries have as many different ones. -/
theorem length_eraseDups_congr {as bs : List α} (h : ∀ a, a ∈ as ↔ a ∈ bs) :
    as.eraseDups.length = bs.eraseDups.length := by
  have hperm : as.eraseDups.Perm bs.eraseDups := by
    refine (List.perm_ext_iff_of_nodup (nodup_eraseDups as) (nodup_eraseDups bs)).2 fun a => ?_
    rw [List.mem_eraseDups, List.mem_eraseDups, h]
  exact hperm.length_eq

/-- One more entry is a further one, or it is there already. -/
theorem length_eraseDups_cons (a : α) (as : List α) :
    (a :: as).eraseDups.length = as.eraseDups.length + if a ∈ as then 0 else 1 := by
  have hlast : ∀ x, x ∈ a :: as ↔ x ∈ as ++ [a] := fun x =>
    (List.perm_append_singleton a as).symm.mem_iff
  rw [length_eraseDups_congr hlast, eraseDups_concat]
  split
  · rfl
  · rw [List.length_append, List.length_singleton]

/-- To write one value for another takes one from the number of different values if both are
there, and nothing otherwise. -/
theorem length_eraseDups_replaced [DecidableEq α] {a b : α} (hne : a ≠ b) (as : List α) :
    (as.map fun x => if x = a then b else x).eraseDups.length +
        (if a ∈ as ∧ b ∈ as then 1 else 0) = as.eraseDups.length := by
  by_cases ha : a ∈ as
  · -- with the value that was replaced, the new entries are the old ones with the other value
    have hsame : ∀ x, x ∈ a :: (as.map fun x => if x = a then b else x) ↔ x ∈ b :: as := by
      intro x
      simp only [List.mem_cons, List.mem_map]
      constructor
      · rintro (rfl | ⟨y, hy, rfl⟩)
        · exact .inr ha
        · split
          · exact .inl rfl
          · exact .inr hy
      · rintro (rfl | hx)
        · exact .inr ⟨a, ha, if_pos rfl⟩
        · by_cases hxa : x = a
          · exact .inl hxa
          · exact .inr ⟨x, hx, if_neg hxa⟩
    have hgone : a ∉ as.map fun x => if x = a then b else x := by
      rw [List.mem_map]
      rintro ⟨y, -, hy⟩
      split at hy
      · exact hne hy.symm
      · contradiction
    have hlength := length_eraseDups_congr hsame
    rw [length_eraseDups_cons, length_eraseDups_cons, if_neg hgone] at hlength
    by_cases hb : b ∈ as
    · rw [if_pos hb] at hlength
      rw [if_pos ⟨ha, hb⟩]
      exact hlength
    · rw [if_neg hb] at hlength
      rw [if_neg fun h => hb h.2]
      omega
  · have hunchanged : (as.map fun x => if x = a then b else x) = as := by
      refine (List.map_congr_left fun x hx => if_neg ?_).trans (List.map_id' as)
      exact ne_of_mem_of_not_mem hx ha
    rw [if_neg fun h => ha h.1, Nat.add_zero, hunchanged]

/-! ## First entries of each kind -/

section Kinds

variable {α β γ : Type} [BEq β] [BEq γ]

/-- The first entry of each kind, where a function gives the kind of an entry. -/
def firstOf (kind : α → β) (as : List α) : List α :=
  as.eraseDupsBy fun a b => kind a == kind b

/-- The entries behind the first one count only if they are of another kind. -/
theorem firstOf_cons (kind : α → β) (a : α) (as : List α) :
    firstOf kind (a :: as) = a :: firstOf kind (as.filter fun b => kind b != kind a) := by
  rw [firstOf, List.eraseDupsBy_cons, firstOf]
  simp only [bne, Bool.decide_eq_false]

variable [LawfulBEq β] [LawfulBEq γ] {kind : α → β} {other : α → γ}

/-- Only which entries are of one kind matters. -/
theorem firstOf_congr (h : ∀ a b, kind a = kind b ↔ other a = other b) (as : List α) :
    firstOf kind as = firstOf other as := by
  have hsame : (fun a b => kind a == kind b) = fun a b => other a == other b := by
    funext a b
    rw [Bool.eq_iff_iff, beq_iff_eq, beq_iff_eq]
    exact h a b
  rw [firstOf, firstOf, hsame]

/-- One more entry is the first of its kind, or it is left out. -/
theorem firstOf_concat (kind : α → β) (as : List α) (b : α) :
    firstOf kind (as ++ [b]) =
      if kind b ∈ as.map kind then firstOf kind as else firstOf kind as ++ [b] := by
  -- the induction is on the number of entries, some of which the first one takes away
  induction hlength : as.length using Nat.strong_induction_on generalizing as with
  | _ n ih =>
      cases as with
      | nil => rfl
      | cons a as =>
          rw [List.cons_append, firstOf_cons, firstOf_cons, List.filter_append]
          by_cases h : kind b = kind a
          · simp [h]
          · have hshorter : (as.filter fun c => kind c != kind a).length < n := by
              have hle := List.length_filter_le (fun c => kind c != kind a) as
              rw [List.length_cons] at hlength
              omega
            have hmem : kind b ∈ (as.filter fun c => kind c != kind a).map kind ↔
                kind b ∈ (a :: as).map kind := by
              simp only [List.mem_map, List.mem_filter, bne_iff_ne, List.mem_cons]
              constructor
              · rintro ⟨c, ⟨hc, -⟩, hkind⟩
                exact ⟨c, .inr hc, hkind⟩
              · rintro ⟨c, rfl | hc, hkind⟩
                · exact absurd hkind.symm h
                · exact ⟨c, ⟨hc, by rw [hkind]; exact h⟩, hkind⟩
            have hkept : [b].filter (fun c => kind c != kind a) = [b] := by simp [h]
            rw [hkept, ih _ hshorter _ rfl]
            simp only [hmem]
            split <;> rfl

/-- The first entries show every kind once, in the order in which the kinds are first seen. -/
theorem map_firstOf (kind : α → β) (as : List α) :
    (firstOf kind as).map kind = (as.map kind).eraseDups := by
  induction as using List.reverseRecOn with
  | nil => rfl
  | append_singleton as b ih =>
      rw [firstOf_concat, List.map_append, List.map_singleton, eraseDups_concat, ← ih]
      split
      · rfl
      · rw [List.map_append, List.map_singleton]

theorem mem_of_mem_firstOf {as : List α} {a : α} (h : a ∈ firstOf kind as) : a ∈ as := by
  induction as using List.reverseRecOn with
  | nil => exact h
  | append_singleton as b ih =>
      rw [firstOf_concat] at h
      split at h
      · exact List.mem_append_left _ (ih h)
      · rcases List.mem_append.1 h with h | h
        · exact List.mem_append_left _ (ih h)
        · exact List.mem_append_right _ h

/-- Every kind has one first entry. -/
theorem exists_filter_firstOf_eq (kind : α → β) {as : List α} {a : α} (h : a ∈ as) :
    ∃ b, (firstOf kind as).filter (fun c => kind c == kind a) = [b] := by
  have hmem : kind a ∈ (as.map kind).eraseDups :=
    List.mem_eraseDups.2 (List.mem_map_of_mem h)
  have hlength : ((firstOf kind as).filter fun c => kind c == kind a).length = 1 := by
    calc ((firstOf kind as).filter fun c => kind c == kind a).length
        = ((firstOf kind as).map kind).count (kind a) := by
          rw [← List.countP_eq_length_filter, List.count, List.countP_map]
          rfl
      _ = (as.map kind).eraseDups.count (kind a) := by rw [map_firstOf]
      _ = 1 := List.count_eq_one_of_mem (nodup_eraseDups _) hmem
  exact List.length_eq_one_iff.1 hlength

/-- If entries of one kind are alike in some respect, the first entries vary in it as all do. -/
theorem eraseDups_map_firstOf (h : ∀ a b, kind a = kind b → other a = other b) (as : List α) :
    ((firstOf kind as).map other).eraseDups = (as.map other).eraseDups := by
  induction as using List.reverseRecOn with
  | nil => rfl
  | append_singleton as b ih =>
      have hsame : other b ∈ (firstOf kind as).map other ↔ other b ∈ as.map other := by
        rw [← List.mem_eraseDups, ih, List.mem_eraseDups]
      rw [firstOf_concat, List.map_append, List.map_singleton, eraseDups_concat]
      split
      · rename_i hseen
        obtain ⟨a, ha, hkind⟩ := List.mem_map.1 hseen
        rw [if_pos (List.mem_map.2 ⟨a, ha, h a b hkind⟩), ih]
      · rw [List.map_append, List.map_singleton, eraseDups_concat, ih]
        simp only [hsame]

/-- To ask for entries that are alike within each kind, it is enough to ask for first ones. -/
theorem firstOf_filter {p : α → Bool} (h : ∀ a b, kind a = kind b → p a = p b) (as : List α) :
    firstOf kind (as.filter p) = (firstOf kind as).filter p := by
  induction as using List.reverseRecOn with
  | nil => rfl
  | append_singleton as b ih =>
      rw [List.filter_append, firstOf_concat]
      cases hp : p b with
      | false =>
          have hdropped : [b].filter p = [] := by simp [hp]
          rw [hdropped, List.append_nil, ih]
          split
          · rfl
          · rw [List.filter_append, hdropped, List.append_nil]
      | true =>
          have hkept : [b].filter p = [b] := by simp [hp]
          -- an entry that is kept has its kind among those that are kept
          have hmem : kind b ∈ (as.filter p).map kind ↔ kind b ∈ as.map kind := by
            simp only [List.mem_map, List.mem_filter]
            constructor
            · rintro ⟨a, ⟨ha, -⟩, hkind⟩
              exact ⟨a, ha, hkind⟩
            · rintro ⟨a, ha, hkind⟩
              exact ⟨a, ⟨ha, by rw [h a b hkind, hp]⟩, hkind⟩
          rw [hkept, firstOf_concat]
          simp only [hmem, ih]
          split
          · rfl
          · rw [List.filter_append, hkept]

/-- The sizes of the kinds that pass a test add up to the number of entries that pass. -/
theorem sum_countP_firstOf {p : α → Bool} (h : ∀ a b, kind a = kind b → p a = p b) (as : List α) :
    (((firstOf kind as).filter p).map fun a => as.countP fun b => kind b == kind a).sum =
      as.countP p := by
  have hcounts : ∀ a ∈ firstOf kind (as.filter p),
      (as.countP fun b => kind b == kind a) = ((as.filter p).map kind).count (kind a) := by
    intro a ha
    have hp : p a = true := (List.mem_filter.1 (mem_of_mem_firstOf ha)).2
    rw [List.count, List.countP_map, List.countP_filter]
    apply List.countP_congr
    intro b _
    constructor
    · intro hkind
      have hb : p b = true := by rw [h b a (eq_of_beq hkind), hp]
      simpa [hb] using hkind
    · intro hboth
      simp only [Bool.and_eq_true] at hboth
      exact hboth.1
  calc (((firstOf kind as).filter p).map fun a => as.countP fun b => kind b == kind a).sum
      = ((firstOf kind (as.filter p)).map
          fun a => ((as.filter p).map kind).count (kind a)).sum := by
        rw [← firstOf_filter h, List.map_congr_left hcounts]
    _ = (((firstOf kind (as.filter p)).map kind).map ((as.filter p).map kind).count).sum := by
        rw [List.map_map]
        rfl
    _ = ((as.filter p).map kind).length := by rw [map_firstOf, sum_count_eraseDups]
    _ = as.countP p := by rw [List.length_map, List.countP_eq_length_filter]

end Kinds

end Rulebook
