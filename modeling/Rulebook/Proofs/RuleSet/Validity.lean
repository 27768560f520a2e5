import Rulebook.Proofs.RuleSet.Order
import Rulebook.Proofs.Success
import Rulebook.Proofs.Text.Trimming
import Mathlib.Data.List.Perm.Subperm

/-!
# Valid rule sets

`RuleSet.Valid` is the invariant of rule sets: the order is a permutation of the slots, no two rules
share a name, and every rule is `Sound`, so its name is trimmed and not empty, its text is not blank
and its expression is that of its text. Each operation has one lemma that says when it succeeds and
with what (`add_eq_ok_iff`, `edit_eq_ok_iff`, `delete_eq_ok_iff`, `restore_eq_ok_iff`). From these
follows that every step keeps the invariant (`Step.valid`), and that it holds of every rule set that
is reached at all (`Reached.valid`). What is stored of a valid rule set restores it
(`Valid.restore_drafts`).
-/

set_option autoImplicit false

namespace Rulebook

open Text

/-- A rule as it is admitted: with a trimmed name, a text that is not blank and the expression of
its text. -/
structure Rule.Sound (rule : Rule) : Prop where
  name_ne_empty : rule.name ≠ ""
  name_trimmed : trimString rule.name = rule.name
  text_not_blank : trimString rule.text ≠ ""
  expression_eq : rule.expression = Expression.read rule.text.toList

/-- The rule that an admitted draft becomes. -/
def Draft.admitted (d : Draft) : Rule := Rule.make (trimString d.name) d.text

/-- What is stored of a sound rule is admitted as that rule. -/
theorem Rule.Sound.admitted_draft {rule : Rule} (h : rule.Sound) : rule.draft.admitted = rule := by
  simp only [Draft.admitted, Rule.draft, Rule.make, h.name_trimmed, ← h.expression_eq]

namespace RuleSet

/-- The order names every slot once, names differ, and all rules are sound. -/
structure Valid (set : RuleSet) : Prop where
  order_perm : set.order.Perm (List.range set.size)
  names_nodup : (set.rules.map Rule.name).Nodup
  rules_sound : ∀ rule ∈ set.rules, rule.Sound

/-! ## What the operations do -/

/-- When a name and a text are accepted, and as which name. -/
theorem accept_eq_ok_iff {others : List Rule} {name text accepted : String} :
    accept others name text = .ok accepted ↔
      accepted = trimString name ∧ trimString name ≠ "" ∧
        trimString name ∉ others.map Rule.name ∧ trimString text ≠ "" := by
  have htaken : others.any (fun rule => rule.name = trimString name) = true ↔
      trimString name ∈ others.map Rule.name := by
    simp
  simp only [accept, htaken]
  split
  · simp [*]
  · split
    · simp [*]
    · split
      · simp [*]
      · simp [*, eq_comm (b := accepted)]

theorem add_eq_ok_iff {set next : RuleSet} {name text : String} {slot : Nat} :
    set.add name text = .ok (slot, next) ↔
      accept set.rules name text = .ok (trimString name) ∧ slot = set.size ∧
        next = ⟨set.rules ++ [Rule.make (trimString name) text], set.order ++ [set.size]⟩ := by
  rw [add, bind_eq_ok_iff]
  constructor
  · rintro ⟨accepted, haccept, hnext⟩
    obtain ⟨rfl, -⟩ := accept_eq_ok_iff.1 haccept
    obtain ⟨rfl, rfl⟩ := Prod.mk.inj (pure_eq_ok_iff.1 hnext)
    exact ⟨haccept, rfl, rfl⟩
  · rintro ⟨haccept, rfl, rfl⟩
    exact ⟨trimString name, haccept, rfl⟩

theorem require_eq_ok_iff {set : RuleSet} {slot : Nat} {rule : Rule} :
    set.require slot = .ok rule ↔ set.get? slot = some rule := by
  cases h : set.get? slot with
  | none => simp [require, h]
  | some found => simp [require, h]

theorem edit_eq_ok_iff {set next : RuleSet} {slot : Nat} {name text : String} :
    set.edit slot name text = .ok next ↔
      (∃ rule, set.get? slot = some rule) ∧
        accept (set.rules.eraseIdx slot) name text = .ok (trimString name) ∧
        next = ⟨set.rules.set slot (Rule.make (trimString name) text), set.order⟩ := by
  simp only [edit, bind_eq_ok_iff, mapError_eq_ok_iff, pure_eq_ok_iff, require_eq_ok_iff]
  constructor
  · rintro ⟨rule, hrule, accepted, haccept, rfl⟩
    obtain ⟨rfl, -⟩ := accept_eq_ok_iff.1 haccept
    exact ⟨⟨rule, hrule⟩, haccept, rfl⟩
  · rintro ⟨⟨rule, hrule⟩, haccept, rfl⟩
    exact ⟨rule, hrule, trimString name, haccept, rfl⟩

theorem delete_eq_ok_iff {set next : RuleSet} {slot : Nat} {rule : Rule} :
    set.delete slot = .ok (rule, next) ↔
      set.get? slot = some rule ∧ next = ⟨set.rules.eraseIdx slot, closeGap slot set.order⟩ := by
  simp only [delete, bind_eq_ok_iff, pure_eq_ok_iff, require_eq_ok_iff, Prod.mk.injEq]
  constructor
  · rintro ⟨found, hfound, rfl, rfl⟩
    exact ⟨hfound, rfl⟩
  · rintro ⟨hrule, rfl⟩
    exact ⟨rule, hrule, rfl, rfl⟩

/-- A move gives the swapped order, or leaves the rule set as it is. -/
theorem move_eq (set : RuleSet) (slot : Nat) (direction : Direction) :
    (∃ order, moved? slot direction set.order = some order ∧
        set.move slot direction = (true, ⟨set.rules, order⟩)) ∨
      moved? slot direction set.order = none ∧ set.move slot direction = (false, set) := by
  cases h : moved? slot direction set.order with
  | none => simp [move, h]
  | some order => simp [move, h]

/-! ## Restoring -/

/-- Names with one more at the end. -/
theorem nodup_names_concat_iff {rules : List Rule} {rule : Rule} :
    ((rules ++ [rule]).map Rule.name).Nodup ↔
      rule.name ∉ rules.map Rule.name ∧ (rules.map Rule.name).Nodup := by
  rw [List.map_append, List.map_singleton, (List.perm_append_singleton _ _).nodup_iff,
    List.nodup_cons]

/-- When drafts are accepted beside rules that are there already, and as which rules. -/
theorem acceptAll_eq_ok_iff {rules all : List Rule} {drafts : List Draft}
    (hrules : (rules.map Rule.name).Nodup) :
    acceptAll rules drafts = .ok all ↔
      all = rules ++ drafts.map Draft.admitted ∧
        (∀ d ∈ drafts, trimString d.name ≠ "" ∧ trimString d.text ≠ "") ∧
        ((rules ++ drafts.map Draft.admitted).map Rule.name).Nodup := by
  -- the induction is on the drafts still to come, beside any rules with different names
  induction drafts generalizing rules with
  | nil => simp [acceptAll, hrules, eq_comm (b := all)]
  | cons d drafts ih =>
      have hassoc : rules ++ (d :: drafts).map Draft.admitted =
          (rules ++ [d.admitted]) ++ drafts.map Draft.admitted := by
        simp
      rw [acceptAll, bind_eq_ok_iff, hassoc]
      constructor
      · rintro ⟨accepted, haccept, hrest⟩
        obtain ⟨rfl, hname, hnew, htext⟩ := accept_eq_ok_iff.1 haccept
        have hnext : ((rules ++ [d.admitted]).map Rule.name).Nodup :=
          nodup_names_concat_iff.2 ⟨hnew, hrules⟩
        obtain ⟨hall, hdrafts, hnodup⟩ := (ih hnext).1 hrest
        exact ⟨hall, List.forall_mem_cons.2 ⟨⟨hname, htext⟩, hdrafts⟩, hnodup⟩
      · rintro ⟨hall, hdrafts, hnodup⟩
        obtain ⟨⟨hname, htext⟩, hdrafts⟩ := List.forall_mem_cons.1 hdrafts
        have hnext : ((rules ++ [d.admitted]).map Rule.name).Nodup := by
          rw [List.map_append] at hnodup
          exact (List.nodup_append.1 hnodup).1
        have hnew := (nodup_names_concat_iff.1 hnext).1
        exact ⟨trimString d.name, accept_eq_ok_iff.2 ⟨rfl, hname, hnew, htext⟩,
          (ih hnext).2 ⟨hall, hdrafts, hnodup⟩⟩

/-- No slot strays exactly if all are there and each is named for the first time. -/
theorem strays_eq_false_iff {size : Nat} {seen order : List Nat} :
    strays size seen order = false ↔
      (∀ slot ∈ order, slot < size) ∧ order.Nodup ∧ ∀ slot ∈ order, slot ∉ seen := by
  -- the induction is on the slots still to come, whatever was seen before them
  induction order generalizing seen with
  | nil => simp [strays]
  | cons slot order ih =>
      simp only [strays, Bool.or_eq_false_iff, decide_eq_false_iff_not, Nat.not_le,
        List.contains_eq_mem, ih, List.mem_cons, forall_eq_or_imp, List.nodup_cons, not_or]
      constructor
      · rintro ⟨⟨hslot, hseen⟩, hbound, hnodup, hnew⟩
        exact ⟨⟨hslot, hbound⟩, ⟨fun hmem => (hnew slot hmem).1 rfl, hnodup⟩, hseen,
          fun other hother => (hnew other hother).2⟩
      · rintro ⟨⟨hslot, hbound⟩, ⟨hmem, hnodup⟩, hseen, hnew⟩
        refine ⟨⟨hslot, hseen⟩, hbound, hnodup, ?_⟩
        intro other hother
        exact ⟨ne_of_mem_of_not_mem hother hmem, hnew other hother⟩

theorem isStray_eq_false_iff {size : Nat} {order : List Nat} :
    isStray size order = false ↔ (∀ slot ∈ order, slot < size) ∧ order.Nodup := by
  rw [isStray, strays_eq_false_iff]
  simp

/-- An order has no stray slot and the length of the rules exactly if it is a permutation of the
slots. -/
theorem perm_range_iff {size : Nat} {order : List Nat} :
    order.Perm (List.range size) ↔ isStray size order = false ∧ order.length = size := by
  rw [isStray_eq_false_iff]
  constructor
  · intro h
    have hbound : ∀ slot ∈ order, slot < size :=
      fun slot hslot => List.mem_range.1 (h.mem_iff.1 hslot)
    exact ⟨⟨hbound, h.nodup_iff.2 List.nodup_range⟩, by simpa using h.length_eq⟩
  · rintro ⟨⟨hbound, hnodup⟩, hlength⟩
    have hsub : order ⊆ List.range size :=
      fun slot hslot => List.mem_range.2 (hbound slot hslot)
    exact (List.subperm_of_subset hnodup hsub).perm_of_length_le (by simp [hlength])

theorem restore_eq_ok_iff {drafts : List Draft} {order : List Nat} {set : RuleSet} :
    restore drafts order = .ok set ↔
      set = ⟨drafts.map Draft.admitted, order⟩ ∧
        (∀ d ∈ drafts, trimString d.name ≠ "" ∧ trimString d.text ≠ "") ∧
        ((drafts.map Draft.admitted).map Rule.name).Nodup ∧
        order.Perm (List.range drafts.length) := by
  -- the two guards let an order through that is a permutation of the slots
  have hguard : ∀ rules : List Rule,
      (if isStray rules.length order then .error (.strayOrder order rules.length)
        else if order.length ≠ rules.length then .error (.incompleteOrder order rules.length)
        else .ok ⟨rules, order⟩ : Except Fault RuleSet) = .ok set ↔
      set = ⟨rules, order⟩ ∧ order.Perm (List.range rules.length) := by
    intro rules
    rw [perm_range_iff]
    split
    · simp [*]
    · split
      · simp [*]
      · simp_all [eq_comm (b := set)]
  have hnone : (([] : List Rule).map Rule.name).Nodup := List.nodup_nil
  simp only [restore, bind_eq_ok_iff, mapError_eq_ok_iff, hguard]
  constructor
  · rintro ⟨rules, hrules, hset, hperm⟩
    obtain ⟨rfl, hdrafts, hnodup⟩ := (acceptAll_eq_ok_iff hnone).1 hrules
    rw [List.nil_append, List.length_map] at hperm
    exact ⟨hset, hdrafts, hnodup, hperm⟩
  · rintro ⟨hset, hdrafts, hnodup, hperm⟩
    refine ⟨drafts.map Draft.admitted,
      (acceptAll_eq_ok_iff hnone).2 ⟨rfl, hdrafts, hnodup⟩, hset, ?_⟩
    rw [List.length_map]
    exact hperm

/-! ## The invariant -/

theorem sound_of_accept {others : List Rule} {name text accepted : String}
    (h : accept others name text = .ok accepted) : (Rule.make (trimString name) text).Sound := by
  obtain ⟨-, hname, -, htext⟩ := accept_eq_ok_iff.1 h
  exact ⟨hname, trimString_trimString name, htext, rfl⟩

namespace Valid

variable {set next : RuleSet}

theorem mem_order_iff (h : set.Valid) {slot : Nat} : slot ∈ set.order ↔ slot < set.size := by
  rw [h.order_perm.mem_iff, List.mem_range]

theorem order_nodup (h : set.Valid) : set.order.Nodup :=
  h.order_perm.nodup_iff.2 List.nodup_range

/-- The rules by priority are all rules, each once. -/
theorem ordered_perm (h : set.Valid) : set.ordered.Perm set.rules := by
  have hperm := h.order_perm.filterMap set.get?
  rw [show (List.range set.size).filterMap set.get? = set.rules from
    filterMap_getElem?_range set.rules] at hperm
  exact hperm

theorem empty : RuleSet.empty.Valid :=
  ⟨List.Perm.refl _, List.nodup_nil, by simp [RuleSet.empty]⟩

theorem add (h : set.Valid) {name text : String} {slot : Nat}
    (hadd : set.add name text = .ok (slot, next)) : next.Valid := by
  obtain ⟨haccept, -, rfl⟩ := add_eq_ok_iff.1 hadd
  obtain ⟨-, -, hnew, -⟩ := accept_eq_ok_iff.1 haccept
  refine ⟨?_, ?_, ?_⟩
  · simpa [size, List.range_succ] using h.order_perm.append_right [set.size]
  · exact nodup_names_concat_iff.2 ⟨hnew, h.names_nodup⟩
  · intro rule hrule
    rcases List.mem_append.1 hrule with hrule | hrule
    · exact h.rules_sound rule hrule
    · rw [List.mem_singleton.1 hrule]
      exact sound_of_accept haccept

theorem edit (h : set.Valid) {slot : Nat} {name text : String}
    (hedit : set.edit slot name text = .ok next) : next.Valid := by
  obtain ⟨⟨old, hold⟩, haccept, rfl⟩ := edit_eq_ok_iff.1 hedit
  obtain ⟨-, -, hnew, -⟩ := accept_eq_ok_iff.1 haccept
  obtain ⟨front, back, hrules, rfl⟩ := exists_split_of_getElem? hold
  obtain ⟨hperm, hnames, hsound⟩ := h
  simp only [hrules, eraseIdx_append_cons] at hnew
  simp only [hrules] at hnames hsound
  -- with the edited rule taken out, the names are those that the new name was compared with
  have hmiddle : ∀ rule : Rule, ((front ++ rule :: back).map Rule.name).Nodup ↔
      rule.name ∉ (front ++ back).map Rule.name ∧ ((front ++ back).map Rule.name).Nodup :=
    fun rule => (List.perm_middle.map Rule.name).nodup_iff.trans List.nodup_cons
  refine ⟨?_, ?_, ?_⟩
  · simpa [size] using hperm
  · simp only [hrules, set_append_cons]
    exact (hmiddle _).2 ⟨hnew, ((hmiddle old).1 hnames).2⟩
  · intro rule hrule
    simp only [hrules, set_append_cons, List.mem_append, List.mem_cons] at hrule
    rcases hrule with hrule | rfl | hrule
    · exact hsound rule (by simp [hrule])
    · exact sound_of_accept haccept
    · exact hsound rule (by simp [hrule])

theorem delete (h : set.Valid) {slot : Nat} {rule : Rule}
    (hdelete : set.delete slot = .ok (rule, next)) : next.Valid := by
  obtain ⟨hrule, rfl⟩ := delete_eq_ok_iff.1 hdelete
  obtain ⟨hslot, -⟩ := List.getElem?_eq_some_iff.1 hrule
  have hsub := List.eraseIdx_sublist set.rules slot
  refine ⟨?_, h.names_nodup.sublist (hsub.map Rule.name), fun rule hrule =>
    h.rules_sound rule (hsub.subset hrule)⟩
  refine closeGap_perm ?_ ?_
  · rw [size, List.length_eraseIdx_of_lt hslot]
    omega
  · rw [size, List.length_eraseIdx_of_lt hslot, Nat.sub_add_cancel (by omega)]
    exact h.order_perm

theorem move (h : set.Valid) (slot : Nat) (direction : Direction) :
    (set.move slot direction).2.Valid := by
  rcases move_eq set slot direction with ⟨order, hmoved, heq⟩ | ⟨-, heq⟩
  · rw [heq]
    exact ⟨(moved?_swapped hmoved).perm.trans h.order_perm, h.names_nodup, h.rules_sound⟩
  · rw [heq]
    exact h

theorem restore {drafts : List Draft} {order : List Nat}
    (hrestore : RuleSet.restore drafts order = .ok set) : set.Valid := by
  obtain ⟨rfl, hdrafts, hnodup, hperm⟩ := restore_eq_ok_iff.1 hrestore
  refine ⟨by simpa [size] using hperm, hnodup, fun rule hrule => ?_⟩
  obtain ⟨d, hd, rfl⟩ := List.mem_map.1 hrule
  exact ⟨(hdrafts d hd).1, trimString_trimString d.name, (hdrafts d hd).2, rfl⟩

/-- What is stored of a valid rule set restores it. -/
theorem restore_drafts (h : set.Valid) : RuleSet.restore set.drafts set.order = .ok set := by
  have hadmitted : set.drafts.map Draft.admitted = set.rules := by
    rw [drafts, List.map_map]
    exact (List.map_congr_left fun rule hrule => (h.rules_sound rule hrule).admitted_draft).trans
      (List.map_id' set.rules)
  refine restore_eq_ok_iff.2 ⟨by rw [hadmitted], ?_, by rw [hadmitted]; exact h.names_nodup, ?_⟩
  · intro d hd
    obtain ⟨rule, hrule, rfl⟩ := List.mem_map.1 hd
    have hsound := h.rules_sound rule hrule
    exact ⟨by rw [Rule.draft, hsound.name_trimmed]; exact hsound.name_ne_empty,
      hsound.text_not_blank⟩
  · rw [drafts, List.length_map]
    exact h.order_perm

end Valid

/-! ## Runs -/

/-- One change that goes through. -/
inductive Step : RuleSet → RuleSet → Prop where
  | add {set next : RuleSet} {name text : String} {slot : Nat} :
      set.add name text = .ok (slot, next) → Step set next
  | edit {set next : RuleSet} {slot : Nat} {name text : String} :
      set.edit slot name text = .ok next → Step set next
  | delete {set next : RuleSet} {slot : Nat} {rule : Rule} :
      set.delete slot = .ok (rule, next) → Step set next
  | move {set : RuleSet} (slot : Nat) (direction : Direction) :
      Step set (set.move slot direction).2

/-- The rule sets that changes lead to, from no rules at all or from what was stored. -/
inductive Reached : RuleSet → Prop where
  | empty : Reached .empty
  | restore {drafts : List Draft} {order : List Nat} {set : RuleSet} :
      RuleSet.restore drafts order = .ok set → Reached set
  | step {set next : RuleSet} : Reached set → Step set next → Reached next

theorem Step.valid {set next : RuleSet} (hstep : Step set next) (h : set.Valid) : next.Valid := by
  cases hstep with
  | add hadd => exact h.add hadd
  | edit hedit => exact h.edit hedit
  | delete hdelete => exact h.delete hdelete
  | move slot direction => exact h.move slot direction

/-- Every rule set that is reached is valid. -/
theorem Reached.valid {set : RuleSet} (h : Reached set) : set.Valid := by
  induction h with
  | empty => exact Valid.empty
  | restore hrestore => exact Valid.restore hrestore
  | step _ hstep ih => exact hstep.valid ih

end RuleSet

end Rulebook
