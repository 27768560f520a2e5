import Rulebook.Proofs.RuleSet.Refusals

/-!
# Drafts that are restored

A rule set is restored from drafts that are admitted one after the other (`RuleSet.Admissible`) and
an order that is a permutation of their slots. `RuleSet.Faulty` lists what else there may be, with
the fault that is reported (`RuleSet.restore_eq_error_iff`): the first draft that cannot stand
beside those before it counts before anything that is wrong with the order, and a slot that is not
there or that is named twice counts before one that is missing.
-/

set_option autoImplicit false

namespace Rulebook

open Text

namespace RuleSet

/-- Trimmed, the names of the drafts are not empty and differ from each other, and no text is
blank. -/
structure Admissible (drafts : List Draft) : Prop where
  names_ne_empty : ∀ d ∈ drafts, trimString d.name ≠ ""
  names_nodup : (drafts.map fun d => trimString d.name).Nodup
  texts_not_blank : ∀ d ∈ drafts, trimString d.text ≠ ""

/-- What is wrong with stored drafts and their order. -/
inductive Faulty (drafts : List Draft) (order : List Nat) : Fault → Prop where
  /-- The draft is the first that is unfit beside those before it. -/
  | draft {front back : List Draft} {d : Draft} {rejection : Rejection} :
      drafts = front ++ d :: back → Admissible front →
      Unfit ⟨front.map Draft.admitted, []⟩ none d.name d.text rejection →
      Faulty drafts order (.rejected rejection)
  | stray : Admissible drafts → (∃ slot ∈ order, drafts.length ≤ slot) ∨ ¬ order.Nodup →
      Faulty drafts order (.strayOrder order drafts.length)
  | incomplete : Admissible drafts → (∀ slot ∈ order, slot < drafts.length) → order.Nodup →
      (∃ slot < drafts.length, slot ∉ order) →
      Faulty drafts order (.incompleteOrder order drafts.length)

/-! ## Drafts -/

variable {drafts : List Draft}

theorem names_admitted (drafts : List Draft) :
    (drafts.map Draft.admitted).map Rule.name = drafts.map fun d => trimString d.name := by
  rw [List.map_map]
  rfl

/-- When drafts are accepted, and as which rules. -/
theorem acceptAll_nil_eq_ok_iff {rules : List Rule} :
    acceptAll [] drafts = .ok rules ↔ rules = drafts.map Draft.admitted ∧ Admissible drafts := by
  have hnone : (([] : List Rule).map Rule.name).Nodup := List.nodup_nil
  rw [acceptAll_eq_ok_iff hnone, List.nil_append, names_admitted]
  constructor
  · rintro ⟨hrules, hdrafts, hnodup⟩
    exact ⟨hrules, fun d hd => (hdrafts d hd).1, hnodup, fun d hd => (hdrafts d hd).2⟩
  · rintro ⟨hrules, hnames, hnodup, htexts⟩
    exact ⟨hrules, fun d hd => ⟨hnames d hd, htexts d hd⟩, hnodup⟩

/-- Drafts are refused as the first of them that is refused beside what those before it have
become. -/
theorem acceptAll_eq_error_iff {rules : List Rule} {rejection : Rejection} :
    acceptAll rules drafts = .error rejection ↔
      ∃ front d back all, drafts = front ++ d :: back ∧ acceptAll rules front = .ok all ∧
        accept all d.name d.text = .error rejection := by
  -- the induction is on the drafts still to come, beside whatever rules there are
  induction drafts generalizing rules with
  | nil => simp [acceptAll]
  | cons d drafts ih =>
      rw [acceptAll, bind_eq_error_iff]
      constructor
      · rintro (hrefused | ⟨accepted, haccept, hrest⟩)
        · exact ⟨[], d, drafts, rules, rfl, rfl, hrefused⟩
        · obtain ⟨front, other, back, all, rfl, hfront, hrefused⟩ := ih.1 hrest
          refine ⟨d :: front, other, back, all, rfl, ?_, hrefused⟩
          rw [acceptAll, bind_eq_ok_iff]
          exact ⟨accepted, haccept, hfront⟩
      · rintro ⟨front, other, back, all, hsplit, hfront, hrefused⟩
        cases front with
        | nil =>
            obtain ⟨rfl, rfl⟩ := List.cons.inj hsplit
            obtain rfl := Except.ok.inj hfront
            exact .inl hrefused
        | cons first front =>
            obtain ⟨rfl, rfl⟩ := List.cons.inj hsplit
            rw [acceptAll, bind_eq_ok_iff] at hfront
            obtain ⟨accepted, haccept, hfront⟩ := hfront
            exact .inr ⟨accepted, haccept, ih.2 ⟨front, other, back, all, rfl, hfront, hrefused⟩⟩

/-! ## Orders -/

variable {order : List Nat} {size : Nat}

theorem not_isStray_iff :
    ¬ isStray size order = true ↔ (∀ slot ∈ order, slot < size) ∧ order.Nodup := by
  rw [Bool.not_eq_true, isStray_eq_false_iff]

theorem isStray_iff :
    isStray size order = true ↔ (∃ slot ∈ order, size ≤ slot) ∨ ¬ order.Nodup := by
  rw [← not_iff_not, not_isStray_iff]
  simp

/-- An order without stray slots is too short exactly if it misses a slot. -/
theorem length_ne_iff (hstray : ¬ isStray size order = true) :
    order.length ≠ size ↔ ∃ slot < size, slot ∉ order := by
  obtain ⟨hbound, hnodup⟩ := not_isStray_iff.1 hstray
  have hperm : order.Perm (List.range size) ↔ order.length = size := by
    rw [perm_range_iff]
    exact and_iff_right (Bool.eq_false_iff.2 hstray)
  rw [ne_eq, ← hperm, List.perm_ext_iff_of_nodup hnodup List.nodup_range]
  constructor
  · intro hdiffer
    by_contra hall
    apply hdiffer
    intro slot
    rw [List.mem_range]
    exact ⟨hbound slot, fun hslot => not_not.1 fun hmissing => hall ⟨slot, hslot, hmissing⟩⟩
  · rintro ⟨slot, hslot, hmissing⟩ hsame
    exact hmissing ((hsame slot).2 (List.mem_range.2 hslot))

/-- What the two guards on an order refuse. -/
theorem guard_eq_error_iff {rules : List Rule} {fault : Fault} :
    (if isStray rules.length order then .error (.strayOrder order rules.length)
      else if order.length ≠ rules.length then .error (.incompleteOrder order rules.length)
      else .ok ⟨rules, order⟩ : Except Fault RuleSet) = .error fault ↔
    ((∃ slot ∈ order, rules.length ≤ slot) ∨ ¬ order.Nodup) ∧
        fault = .strayOrder order rules.length ∨
      ((∀ slot ∈ order, slot < rules.length) ∧ order.Nodup) ∧
        (∃ slot < rules.length, slot ∉ order) ∧ fault = .incompleteOrder order rules.length := by
  rw [← isStray_iff, ← not_isStray_iff]
  by_cases hstray : isStray rules.length order = true
  · simp [hstray, eq_comm (b := fault)]
  · rw [← length_ne_iff hstray, if_neg hstray]
    by_cases hlength : order.length = rules.length
    · simp [hstray, hlength]
    · simp [hstray, hlength, eq_comm (b := fault)]

/-! ## Restoring -/

/-- When a rule set is restored. -/
theorem exists_restore_eq_ok_iff :
    (∃ set, restore drafts order = .ok set) ↔
      Admissible drafts ∧ order.Perm (List.range drafts.length) := by
  simp only [restore_eq_ok_iff, names_admitted]
  constructor
  · rintro ⟨set, -, hdrafts, hnodup, hperm⟩
    exact ⟨⟨fun d hd => (hdrafts d hd).1, hnodup, fun d hd => (hdrafts d hd).2⟩, hperm⟩
  · rintro ⟨⟨hnames, hnodup, htexts⟩, hperm⟩
    exact ⟨_, rfl, fun d hd => ⟨hnames d hd, htexts d hd⟩, hnodup, hperm⟩

/-- A draft is refused beside admitted ones if it is unfit beside them. -/
theorem accept_admitted_eq_error_iff {front : List Draft} {d : Draft} {rejection : Rejection} :
    accept (front.map Draft.admitted) d.name d.text = .error rejection ↔
      Unfit ⟨front.map Draft.admitted, []⟩ none d.name d.text rejection := by
  have hnames : ∀ n, n ∈ (front.map Draft.admitted).map Rule.name ↔
      Taken ⟨front.map Draft.admitted, []⟩ none n := by
    intro n
    rw [← mem_names_iff]
  exact accept_eq_error_iff hnames

/-- Drafts and order are refused in the cases listed and in no other. -/
theorem restore_eq_error_iff {fault : Fault} :
    restore drafts order = .error fault ↔ Faulty drafts order fault := by
  simp only [restore, bind_eq_error_iff, mapError_eq_error_iff, mapError_eq_ok_iff,
    acceptAll_eq_error_iff, acceptAll_nil_eq_ok_iff, guard_eq_error_iff]
  constructor
  · rintro (⟨rejection, ⟨front, d, back, all, hsplit, ⟨rfl, hfront⟩, hrefused⟩, rfl⟩ |
      ⟨rules, ⟨rfl, hdrafts⟩, hguard⟩)
    · exact .draft hsplit hfront (accept_admitted_eq_error_iff.1 hrefused)
    · rw [List.length_map] at hguard
      rcases hguard with ⟨hstray, rfl⟩ | ⟨⟨hbound, hnodup⟩, hmissing, rfl⟩
      · exact .stray hdrafts hstray
      · exact .incomplete hdrafts hbound hnodup hmissing
  · intro h
    cases h with
    | draft hsplit hfront hunfit =>
        exact .inl ⟨_, ⟨_, _, _, _, hsplit, ⟨rfl, hfront⟩,
          accept_admitted_eq_error_iff.2 hunfit⟩, rfl⟩
    | stray hdrafts hstray =>
        refine .inr ⟨_, ⟨rfl, hdrafts⟩, ?_⟩
        rw [List.length_map]
        exact .inl ⟨hstray, rfl⟩
    | incomplete hdrafts hbound hnodup hmissing =>
        refine .inr ⟨_, ⟨rfl, hdrafts⟩, ?_⟩
        rw [List.length_map]
        exact .inr ⟨⟨hbound, hnodup⟩, hmissing, rfl⟩

/-- What is wrong is the order exactly if the drafts are admitted and the order is no permutation of
their slots. -/
theorem Faulty.code_eq_iff {fault : Fault} (h : Faulty drafts order fault) :
    fault.code = "INVALID_SNAPSHOT" ↔
      Admissible drafts ∧ ¬ order.Perm (List.range drafts.length) := by
  constructor
  · intro hcode
    cases h with
    | draft => simp [Fault.code] at hcode
    | stray hdrafts hstray =>
        refine ⟨hdrafts, ?_⟩
        intro hperm
        rw [perm_range_iff, ← Bool.not_eq_true] at hperm
        exact hperm.1 (isStray_iff.2 hstray)
    | incomplete hdrafts _ _ hmissing =>
        obtain ⟨slot, hslot, hmissing⟩ := hmissing
        exact ⟨hdrafts, fun hperm => hmissing (hperm.mem_iff.2 (List.mem_range.2 hslot))⟩
  · rintro ⟨hdrafts, hperm⟩
    cases h with
    | @draft front back d rejection hsplit hfront hunfit =>
        -- admitted drafts with an order of their own would be restored, and they are refused
        obtain ⟨set, hset⟩ := exists_restore_eq_ok_iff.2 ⟨hdrafts, List.Perm.refl _⟩
        have hrefused : restore drafts (List.range drafts.length) = .error (.rejected rejection) :=
          restore_eq_error_iff.2 (.draft hsplit hfront hunfit)
        rw [hset] at hrefused
        cases hrefused
    | stray => rfl
    | incomplete => rfl

end RuleSet

end Rulebook
