import Rulebook.Proofs.RuleSet.Ranking
import Rulebook.Proofs.Workbook.Restoring

/-!
# How far a change of rules reaches

A label is the name of the first rule by priority that applies, so a rule that comes, goes, changes
or moves can only matter where no rule above it applies. `labelAmong_front` says that once for every
list of rules: either the rules in front decide, whatever follows, or they do not matter. From it
come four lemmas, one for each way in which the list may change, and `Reached.relabelling_local`,
which says for every change of the rules into which labels a label may turn.
-/

set_option autoImplicit false

namespace Rulebook

open Text

/-! ## Labels among listed rules -/

/-- The label of a row under rules listed by priority. -/
def labelAmong (row : Row) (rules : List Rule) : String :=
  (rules.find? fun rule => rule.applies row).elim "" Rule.name

section Among

variable {row : Row} {above below : List Rule}

theorem RuleSet.labelOf_eq (set : RuleSet) (row : Row) :
    set.labelOf row = labelAmong row set.ordered := rfl

/-- The rules in front give the label by themselves, or it is the one that the others give. -/
theorem labelAmong_front (row : Row) (above : List Rule) :
    (∃ name ∈ above.map Rule.name, ∀ below, labelAmong row (above ++ below) = name) ∨
      ∀ below, labelAmong row (above ++ below) = labelAmong row below := by
  cases h : above.find? fun rule => rule.applies row with
  | none =>
      refine .inr fun below => ?_
      rw [labelAmong, List.find?_append, h, Option.none_or, ← labelAmong]
  | some rule =>
      refine .inl ⟨rule.name, List.mem_map_of_mem (List.mem_of_find?_eq_some h), fun below => ?_⟩
      rw [labelAmong, List.find?_append, h, Option.some_or, Option.elim_some]

theorem labelAmong_cons (row : Row) (rule : Rule) (rules : List Rule) :
    labelAmong row (rule :: rules) =
      if rule.applies row then rule.name else labelAmong row rules := by
  cases h : rule.applies row with
  | true => simp [labelAmong, h]
  | false => simp [labelAmong, h]

/-- A label that is not empty is the name of one of the rules. -/
theorem labelAmong_mem (row : Row) (rules : List Rule) :
    labelAmong row rules ∈ "" :: rules.map Rule.name := by
  rcases labelAmong_front row rules with ⟨name, hname, h⟩ | h
  · rw [← List.append_nil rules, h [], List.append_nil]
    exact List.mem_cons_of_mem _ hname
  · rw [← List.append_nil rules, h []]
    exact List.mem_cons_self

/-- A rule that comes last gives its name only to rows without a label. -/
theorem labelAmong_concat (hnames : "" ∉ above.map Rule.name) (rule : Rule) :
    (labelAmong row above ≠ "" → labelAmong row (above ++ [rule]) = labelAmong row above) ∧
      (labelAmong row above = "" →
        labelAmong row (above ++ [rule]) = "" ∨ labelAmong row (above ++ [rule]) = rule.name) := by
  rcases labelAmong_front row above with ⟨name, hname, h⟩ | h
  · have hold : labelAmong row above = name := by rw [← h [], List.append_nil]
    rw [h [rule], hold]
    refine ⟨fun _ => rfl, ?_⟩
    rintro rfl
    exact absurd hname hnames
  · have hold : labelAmong row above = "" := by
      rw [← List.append_nil above, h []]
      rfl
    rw [h [rule]]
    refine ⟨fun hne => absurd hold hne, fun _ => ?_⟩
    simpa using labelAmong_mem row [rule]

/-- Without a rule, the rows that it labelled get labels from the rules below it, if any. -/
theorem labelAmong_removed {rule : Rule}
    (hnames : ((above ++ rule :: below).map Rule.name).Nodup) (row : Row) :
    (labelAmong row (above ++ rule :: below) ≠ rule.name →
        labelAmong row (above ++ below) = labelAmong row (above ++ rule :: below)) ∧
      (labelAmong row (above ++ rule :: below) = rule.name →
        labelAmong row (above ++ below) ∈ "" :: below.map Rule.name) := by
  rcases labelAmong_front row above with ⟨name, hname, h⟩ | h
  · rw [h, h]
    refine ⟨fun _ => rfl, ?_⟩
    rintro rfl
    -- the rule would share its name with one above it
    rw [List.map_append, List.map_cons] at hnames
    exact absurd rfl ((List.nodup_append.1 hnames).2.2 _ hname _ List.mem_cons_self)
  · rw [h, h, labelAmong_cons]
    refine ⟨fun hne => ?_, fun _ => labelAmong_mem row below⟩
    split
    · rename_i happlies
      rw [if_pos happlies] at hne
      exact absurd rfl hne
    · rfl

/-- What stands in the place of a rule does not matter to rows that a rule above it labels. -/
theorem labelAmong_replaced {old : Rule}
    (hnames : ("" :: (above ++ old :: below).map Rule.name).Nodup)
    (hlabel : labelAmong row (above ++ old :: below) ∈ above.map Rule.name) (new : Rule) :
    labelAmong row (above ++ new :: below) = labelAmong row (above ++ old :: below) := by
  rcases labelAmong_front row above with ⟨name, -, h⟩ | h
  · rw [h, h]
  · rw [h] at hlabel
    -- a label from further down is empty or a name that no rule above bears
    rw [List.map_append, ← List.cons_append, List.nodup_append] at hnames
    rcases List.mem_cons.1 (labelAmong_mem row (old :: below)) with hempty | hbelow
    · rw [hempty] at hlabel
      exact absurd hlabel (List.nodup_cons.1 hnames.1).1
    · exact absurd rfl (hnames.2.2 _ (List.mem_cons_of_mem _ hlabel) _ hbelow)

/-- If two neighbours change places, only rows to which both of them apply get another label. -/
theorem labelAmong_swapped (row : Row) (above below : List Rule) (higher lower : Rule) :
    labelAmong row (above ++ lower :: higher :: below) =
        labelAmong row (above ++ higher :: lower :: below) ∨
      (labelAmong row (above ++ higher :: lower :: below) = higher.name ∧
        labelAmong row (above ++ lower :: higher :: below) = lower.name) := by
  rcases labelAmong_front row above with ⟨name, -, h⟩ | h
  · exact .inl (by rw [h, h])
  · rw [h, h]
    simp only [labelAmong_cons]
    cases higher.applies row with
    | false => exact .inl rfl
    | true =>
        cases lower.applies row with
        | false => exact .inl rfl
        | true => exact .inr ⟨rfl, rfl⟩

end Among

/-- No two rules share a name, and none has an empty one. -/
theorem RuleSet.Valid.nodup_names_ordered {set : RuleSet} (h : set.Valid) :
    ("" :: set.ordered.map Rule.name).Nodup := by
  refine List.nodup_cons.2 ⟨?_, (h.ordered_perm.map Rule.name).nodup_iff.2 h.names_nodup⟩
  intro hempty
  obtain ⟨rule, hrule, hname⟩ := List.mem_map.1 hempty
  exact (h.rules_sound rule (RuleSet.mem_rules_of_mem_ordered hrule)).name_ne_empty hname

namespace Workbook

/-! ## The workbook after a change of rules -/

section Changed

variable {wb next : Workbook} {slot : Nat} {name text : String} {effect : Effect}

theorem change_addRule (h : wb.change (.addRule name text) = .ok (effect, next)) :
    ∃ slot rules, wb.rules.add name text = .ok (slot, rules) ∧
      next = recompute { wb with rules := rules } := by
  obtain ⟨amended, hamend, heq⟩ := map_eq_ok_iff.1 h
  obtain ⟨⟨slot, rules⟩, hadd, hamended⟩ := bind_eq_ok_iff.1 hamend
  obtain rfl := pure_eq_ok_iff.1 hamended
  exact ⟨slot, rules, mapError_eq_ok_iff.1 hadd, (Prod.mk.inj heq).2.symm⟩

theorem change_editRule (h : wb.change (.editRule slot name text) = .ok (effect, next)) :
    ∃ rules, wb.rules.edit slot name text = .ok rules ∧
      next = recompute { wb with rules := rules } := by
  obtain ⟨amended, hamend, heq⟩ := map_eq_ok_iff.1 h
  obtain ⟨rules, hedit, hamended⟩ := bind_eq_ok_iff.1 hamend
  obtain rfl := pure_eq_ok_iff.1 hamended
  exact ⟨rules, hedit, (Prod.mk.inj heq).2.symm⟩

theorem change_deleteRule {rule : Rule}
    (h : wb.change (.deleteRule slot) = .ok (.removed rule, next)) :
    ∃ rules, wb.rules.delete slot = .ok (rule, rules) ∧
      next = recompute { wb with rules := rules } := by
  obtain ⟨amended, hamend, heq⟩ := map_eq_ok_iff.1 h
  obtain ⟨⟨removed, rules⟩, hdelete, hamended⟩ := bind_eq_ok_iff.1 hamend
  obtain rfl := pure_eq_ok_iff.1 hamended
  obtain ⟨heffect, hnext⟩ := Prod.mk.inj heq
  obtain rfl := Effect.removed.inj heffect
  exact ⟨rules, hdelete, hnext.symm⟩

theorem change_moveRule {direction : Direction} {moved : Bool}
    (h : wb.change (.moveRule slot direction) = .ok (.moved moved, next)) :
    ∃ rules, wb.rules.move slot direction = (moved, rules) ∧
      next = recompute { wb with rules := rules } := by
  obtain ⟨amended, hamend, heq⟩ := map_eq_ok_iff.1 h
  obtain rfl := Except.ok.inj hamend
  obtain ⟨heffect, hnext⟩ := Prod.mk.inj heq
  obtain rfl := Effect.moved.inj heffect
  exact ⟨_, rfl, hnext.symm⟩

end Changed

/-- Row by row, a label of the first workbook turns into one of the second as allowed. -/
def Relabels (allowed : String → String → Prop) (wb next : Workbook) : Prop :=
  List.Forall₂ (fun row other => ∃ old new, row.label? = some old ∧ other.label? = some new ∧
    allowed old new) wb.rows next.rows

variable {imported : List Row} {wb : Workbook}

/-- If the rules did not ask for labels, a full pass under other rules turns each label as these
turn the label of the row as it stands. -/
theorem Reached.relabels_recompute (h : Reached imported wb) (hfree : wb.rules.LabelFree)
    {allowed : String → String → Prop} {rules : RuleSet}
    (hallowed : ∀ row, allowed (wb.rules.labelOf row) (rules.labelOf row)) :
    Relabels allowed wb (recompute { wb with rules := rules }) := by
  refine List.forall₂_map_right_iff.2 (List.forall₂_same.2 fun row hrow => ?_)
  exact ⟨_, _, h.settled.label?_eq hfree hrow, Row.label?_withLabel row _, hallowed row⟩

/-- Let no rule ask for labels, a rule that comes in possibly apart. A rule that is added leaves
every label as it is, and gives its name at most to rows without one. A rule that is deleted leaves
all labels but its own; these become empty or the name of a rule that stood below it. Editing a rule
leaves all labels that name a rule above it. A rule that is moved past its neighbour can only take
labels over: the one that now stands higher takes labels of the other one. If it is not moved, the
workbook stays as it is. -/
theorem Reached.relabelling_local (h : Reached imported wb) (hfree : wb.rules.LabelFree) :
    (∀ name text effect next, wb.change (.addRule name text) = .ok (effect, next) →
      Relabels (fun old new => (old ≠ "" → new = old) ∧
        (old = "" → new = "" ∨ new = trimString name)) wb next) ∧
    (∀ slot rule next, wb.change (.deleteRule slot) = .ok (.removed rule, next) →
      ∃ above below, wb.rules.get? slot = some rule ∧
        wb.rules.ordered = above ++ rule :: below ∧
        Relabels (fun old new => (old ≠ rule.name → new = old) ∧
          (old = rule.name → new = "" ∨ ∃ other ∈ below, other.name = new)) wb next) ∧
    (∀ slot name text effect next, wb.change (.editRule slot name text) = .ok (effect, next) →
      ∃ edited above below, wb.rules.get? slot = some edited ∧
        wb.rules.ordered = above ++ edited :: below ∧
        Relabels (fun old new => (∃ other ∈ above, other.name = old) → new = old) wb next) ∧
    (∀ slot direction next, wb.change (.moveRule slot direction) = .ok (.moved true, next) →
      ∃ higher lower above below,
        (direction = .up ∧ wb.rules.get? slot = some lower ∨
          direction = .down ∧ wb.rules.get? slot = some higher) ∧
        wb.rules.ordered = above ++ higher :: lower :: below ∧
        next.rules.ordered = above ++ lower :: higher :: below ∧
        Relabels (fun old new => new = old ∨ old = higher.name ∧ new = lower.name) wb next) ∧
    (∀ slot direction next, wb.change (.moveRule slot direction) = .ok (.moved false, next) →
      next = wb) := by
  have hvalid := h.rules.valid
  have hnames := hvalid.nodup_names_ordered
  refine ⟨?_, ?_, ?_, ?_, ?_⟩
  · intro name text effect next hchange
    obtain ⟨slot, rules, hadd, rfl⟩ := change_addRule hchange
    apply h.relabels_recompute hfree
    intro row
    rw [RuleSet.labelOf_eq, RuleSet.labelOf_eq, hvalid.ordered_add hadd]
    exact labelAmong_concat (List.nodup_cons.1 hnames).1 _
  · intro slot rule next hchange
    obtain ⟨rules, hdelete, rfl⟩ := change_deleteRule hchange
    obtain ⟨above, below, hbefore, hafter⟩ := hvalid.ordered_delete hdelete
    rw [hbefore] at hnames
    refine ⟨above, below, (RuleSet.delete_eq_ok_iff.1 hdelete).1, hbefore,
      h.relabels_recompute hfree fun row => ?_⟩
    rw [RuleSet.labelOf_eq, RuleSet.labelOf_eq, hbefore, hafter]
    obtain ⟨hkept, htaken⟩ := labelAmong_removed (List.nodup_cons.1 hnames).2 row
    refine ⟨hkept, fun hlabel => ?_⟩
    simpa using htaken hlabel
  · intro slot name text effect next hchange
    obtain ⟨rules, hedit, rfl⟩ := change_editRule hchange
    obtain ⟨⟨edited, hedited⟩, -⟩ := RuleSet.edit_eq_ok_iff.1 hedit
    obtain ⟨above, below, hbefore, hafter⟩ := hvalid.ordered_edit hedited hedit
    rw [hbefore] at hnames
    refine ⟨edited, above, below, hedited, hbefore, h.relabels_recompute hfree fun row => ?_⟩
    rw [RuleSet.labelOf_eq, RuleSet.labelOf_eq, hbefore, hafter]
    intro habove
    exact labelAmong_replaced hnames (List.mem_map.2 habove) _
  · intro slot direction next hchange
    obtain ⟨rules, hmove, rfl⟩ := change_moveRule hchange
    obtain ⟨moved, hmoved, hswapped⟩ := hvalid.ordered_move hmove
    -- which of the two neighbours is the one that was moved depends on the direction
    have hlocal : ∀ above below higher lower, wb.rules.ordered = above ++ higher :: lower :: below →
        rules.ordered = above ++ lower :: higher :: below →
        Relabels (fun old new => new = old ∨ old = higher.name ∧ new = lower.name) wb
          (recompute { wb with rules := rules }) := by
      intro above below higher lower hbefore hafter
      apply h.relabels_recompute hfree
      intro row
      rw [RuleSet.labelOf_eq, RuleSet.labelOf_eq, hbefore, hafter]
      exact labelAmong_swapped row above below higher lower
    cases direction with
    | up =>
        obtain ⟨above, other, below, hbefore, hafter⟩ := hswapped
        exact ⟨other, moved, above, below, .inl ⟨rfl, hmoved⟩, hbefore, hafter,
          hlocal above below other moved hbefore hafter⟩
    | down =>
        obtain ⟨above, other, below, hbefore, hafter⟩ := hswapped
        exact ⟨moved, other, above, below, .inr ⟨rfl, hmoved⟩, hbefore, hafter,
          hlocal above below moved other hbefore hafter⟩
  · intro slot direction next hchange
    obtain ⟨rules, hmove, rfl⟩ := change_moveRule hchange
    rcases RuleSet.move_eq wb.rules slot direction with ⟨order, -, heq⟩ | ⟨-, heq⟩
    · cases heq.symm.trans hmove
    · obtain ⟨-, rfl⟩ := Prod.mk.inj (heq.symm.trans hmove)
      exact h.recompute_eq hfree

theorem relabelling_local_arranged :
    arranged.rules.LabelFree ∧ arranged.rows.map Row.label? = [some "north", some ""] ∧
    (∃ next, arranged.change (.addRule " any " "Region is East") = .ok (.added 3, next) ∧
      next.rows.map Row.label? = [some "north", some "any"] ∧
      Relabels (fun old new => (old ≠ "" → new = old) ∧
        (old = "" → new = "" ∨ new = trimString " any ")) arranged next) ∧
    (∃ rule next, arranged.change (.deleteRule 2) = .ok (.removed rule, next) ∧
      rule.name = "north" ∧ next.rows.map Row.label? = [some "widgets", some ""] ∧
      ∃ above below, arranged.rules.ordered = above ++ rule :: below ∧
        Relabels (fun old new => (old ≠ rule.name → new = old) ∧
          (old = rule.name → new = "" ∨ ∃ other ∈ below, other.name = new)) arranged next) := by
  have hfree : arranged.rules.LabelFree :=
    (by decide : ∀ rule ∈ arranged.rules.rules, rule.expression.references Row.ruleColumn = false)
  obtain ⟨hadd, hdelete, -⟩ := reached_arranged.relabelling_local hfree
  obtain ⟨above, below, -, hordered, hrelabels⟩ := hdelete 2 _ _ rfl
  exact ⟨hfree, by decide, ⟨_, rfl, by decide, hadd " any " "Region is East" (.added 3) _ rfl⟩,
    _, _, rfl, by decide, by decide, above, below, hordered, hrelabels⟩

end Workbook

end Rulebook
