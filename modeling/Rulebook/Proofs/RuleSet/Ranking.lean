import Rulebook.Proofs.RuleSet.Validity

/-!
# Rules by priority

To its users a rule set is two plain lists of names and texts: the drafts by slot
(`RuleSet.drafts`) and the same drafts by priority (`RuleSet.ranking`). The order of slots, which
relates the two, is not seen. `Reached.operations_refine_lists` says what every operation does to
the two lists: adding appends to both, deleting takes one entry out of both, editing replaces one
entry in both, and moving swaps two neighbours of the ranking.
-/

set_option autoImplicit false

namespace Rulebook

open Text

variable {α β : Type}

/-- One entry is taken out and the rest keeps its order. -/
def Removed (entry : α) (before after : List α) : Prop :=
  ∃ front back, before = front ++ entry :: back ∧ after = front ++ back

/-- One entry is replaced at its place. -/
def Replaced (old new : α) (before after : List α) : Prop :=
  ∃ front back, before = front ++ old :: back ∧ after = front ++ new :: back

theorem Removed.map (f : α → β) {entry : α} {before after : List α}
    (h : Removed entry before after) : Removed (f entry) (before.map f) (after.map f) := by
  obtain ⟨front, back, rfl, rfl⟩ := h
  exact ⟨front.map f, back.map f, by simp, by simp⟩

theorem Replaced.map (f : α → β) {old new : α} {before after : List α}
    (h : Replaced old new before after) :
    Replaced (f old) (f new) (before.map f) (after.map f) := by
  obtain ⟨front, back, rfl, rfl⟩ := h
  exact ⟨front.map f, back.map f, by simp, by simp⟩

theorem Swapped.map (f : α → β) {direction : Direction} {entry : α} {before after : List α}
    (h : Swapped direction entry before after) :
    Swapped direction (f entry) (before.map f) (after.map f) := by
  cases direction with
  | up =>
      obtain ⟨front, other, back, rfl, rfl⟩ := h
      exact ⟨front.map f, f other, back.map f, by simp, by simp⟩
  | down =>
      obtain ⟨front, other, back, rfl, rfl⟩ := h
      exact ⟨front.map f, f other, back.map f, by simp, by simp⟩

/-- The entry that is moved is there. -/
theorem Swapped.mem {direction : Direction} {entry : α} {before after : List α}
    (h : Swapped direction entry before after) : entry ∈ before := by
  cases direction with
  | up =>
      obtain ⟨front, other, back, rfl, -⟩ := h
      simp
  | down =>
      obtain ⟨front, other, back, rfl, -⟩ := h
      simp

/-- Reading the entries of two lists that differ by a swap gives two such lists again. -/
theorem Swapped.filterMap {f : α → Option β} {direction : Direction} {entry : α} {found : β}
    {before after : List α} (h : Swapped direction entry before after)
    (hentry : f entry = some found) (hall : ∀ x ∈ before, ∃ y, f x = some y) :
    Swapped direction found (before.filterMap f) (after.filterMap f) := by
  cases direction with
  | up =>
      obtain ⟨front, other, back, rfl, rfl⟩ := h
      obtain ⟨y, hy⟩ := hall other (by simp)
      exact ⟨front.filterMap f, y, back.filterMap f, by simp [hentry, hy], by simp [hentry, hy]⟩
  | down =>
      obtain ⟨front, other, back, rfl, rfl⟩ := h
      obtain ⟨y, hy⟩ := hall other (by simp)
      exact ⟨front.filterMap f, y, back.filterMap f, by simp [hentry, hy], by simp [hentry, hy]⟩

/-- An entry stands at the end exactly if what it is read as does, if no other is read as that. -/
theorem atEnd_map_iff {f : α → β} {direction : Direction} {entry : α} {entries : List α}
    (hinj : ∀ x ∈ entries, f x = f entry → x = entry) :
    AtEnd direction (f entry) (entries.map f) ↔ AtEnd direction entry entries := by
  have key : ∀ found : Option α, (∀ x ∈ found, x ∈ entries) →
      (found.map f = some (f entry) ↔ found = some entry) := by
    intro found hfound
    cases found with
    | none => simp
    | some x =>
        simp only [Option.map_some, Option.some.injEq]
        exact ⟨hinj x (hfound x rfl), fun e => e ▸ rfl⟩
  cases direction with
  | up =>
      rw [AtEnd, AtEnd, List.head?_map]
      exact key _ fun x hx => List.mem_of_mem_head? hx
  | down =>
      rw [AtEnd, AtEnd, List.getLast?_map]
      exact key _ fun x hx => List.mem_of_getLast? hx

namespace RuleSet

/-- What is stored of the rules, by priority. -/
def ranking (set : RuleSet) : List Draft := set.ordered.map Rule.draft

namespace Valid

variable {set next : RuleSet} {slot : Nat}

/-- Every slot of the order holds a rule. -/
theorem get?_of_mem_order (h : set.Valid) {i : Nat} (hi : i ∈ set.order) :
    ∃ rule, set.get? i = some rule :=
  ⟨_, List.getElem?_eq_getElem (h.mem_order_iff.1 hi)⟩

/-- Two slots that hold rules of one name are one slot. -/
theorem slot_eq_of_name_eq (h : set.Valid) {i j : Nat} {a b : Rule} (hi : set.get? i = some a)
    (hj : set.get? j = some b) (hname : a.name = b.name) : i = j := by
  obtain ⟨hlt, -⟩ := List.getElem?_eq_some_iff.1 hi
  refine (List.getElem?_inj (by simpa using hlt) h.names_nodup).1 ?_
  rw [List.getElem?_map, List.getElem?_map, show set.rules[i]? = some a from hi,
    show set.rules[j]? = some b from hj, Option.map_some, Option.map_some, hname]

/-- Where a slot stands in the order, and nowhere else. -/
theorem exists_order_split (h : set.Valid) {rule : Rule} (hrule : set.get? slot = some rule) :
    ∃ front back, set.order = front ++ slot :: back ∧ slot ∉ front ∧ slot ∉ back := by
  obtain ⟨hlt, -⟩ := List.getElem?_eq_some_iff.1 hrule
  obtain ⟨front, back, horder, hfront⟩ := List.eq_append_cons_of_mem (h.mem_order_iff.2 hlt)
  have hnodup := h.order_nodup
  rw [horder, List.nodup_append, List.nodup_cons] at hnodup
  exact ⟨front, back, horder, hfront, hnodup.2.1.1⟩

/-! ## The rules by priority after each operation -/

theorem ordered_add (h : set.Valid) {name text : String}
    (hadd : set.add name text = .ok (slot, next)) :
    next.ordered = set.ordered ++ [Rule.make (trimString name) text] := by
  obtain ⟨-, -, hnext⟩ := add_eq_ok_iff.1 hadd
  -- the slots that the order had before hold the same rules as before
  have hold : ∀ i ∈ set.order, next.get? i = set.get? i := fun i hi => by
    rw [hnext]
    exact List.getElem?_append_left (h.mem_order_iff.1 hi)
  have hnew : next.get? set.size = some (Rule.make (trimString name) text) := by
    simp [hnext, get?, size]
  rw [ordered, show next.order = set.order ++ [set.size] by rw [hnext], List.filterMap_append,
    List.filterMap_congr hold, List.filterMap_cons_some hnew, List.filterMap_nil, ordered]

theorem ordered_delete (h : set.Valid) {rule : Rule}
    (hdelete : set.delete slot = .ok (rule, next)) : Removed rule set.ordered next.ordered := by
  obtain ⟨hrule, rfl⟩ := delete_eq_ok_iff.1 hdelete
  obtain ⟨front, back, horder, hfront, hback⟩ := h.exists_order_split hrule
  -- the renumbered slots hold the rules that they held before
  have hkeep : ∀ slots : List Nat, slot ∉ slots →
      (slots.map (shift slot)).filterMap (fun i => (set.rules.eraseIdx slot)[i]?) =
        slots.filterMap set.get? := by
    intro slots hslots
    rw [List.filterMap_map]
    exact List.filterMap_congr fun i hi =>
      getElem?_eraseIdx_shift (ne_of_mem_of_not_mem hi hslots) set.rules
  refine ⟨front.filterMap set.get?, back.filterMap set.get?, ?_, ?_⟩
  · simp [ordered, horder, hrule]
  · rw [← hkeep front hfront, ← hkeep back hback, ← List.filterMap_append,
      ← closeGap_append_cons hfront hback, ← horder]
    rfl

theorem ordered_edit (h : set.Valid) {name text : String} {old : Rule}
    (hold : set.get? slot = some old) (hedit : set.edit slot name text = .ok next) :
    Replaced old (Rule.make (trimString name) text) set.ordered next.ordered := by
  obtain ⟨-, -, hnext⟩ := edit_eq_ok_iff.1 hedit
  obtain ⟨front, back, horder, hfront, hback⟩ := h.exists_order_split hold
  have hkeep : ∀ slots : List Nat, slot ∉ slots →
      slots.filterMap next.get? = slots.filterMap set.get? := by
    intro slots hslots
    refine List.filterMap_congr fun i hi => ?_
    rw [hnext]
    exact List.getElem?_set_ne (ne_of_mem_of_not_mem hi hslots).symm
  have hnew : next.get? slot = some (Rule.make (trimString name) text) := by
    rw [hnext]
    exact List.getElem?_set_self (List.getElem?_eq_some_iff.1 hold).1
  refine ⟨front.filterMap set.get?, back.filterMap set.get?, ?_, ?_⟩
  · simp [ordered, horder, hold]
  · rw [← hkeep front hfront, ← hkeep back hback]
    simp [ordered, show next.order = set.order by rw [hnext], horder, hnew]

/-- A slot stands at an end of the order exactly if its rule stands there in the ranking. -/
theorem atEnd_ranking_iff (h : set.Valid) {rule : Rule} (hrule : set.get? slot = some rule)
    (direction : Direction) :
    AtEnd direction rule.draft set.ranking ↔ AtEnd direction slot set.order := by
  -- both lists are compared through the drafts that the slots of the order hold
  let read : Nat → Option Draft := fun i => (set.get? i).map Rule.draft
  have hread : set.ranking.map some = set.order.map read := by
    have hsome : (set.order.map set.get?).filter Option.isSome = set.order.map set.get? := by
      refine List.filter_eq_self.2 fun found hfound => ?_
      obtain ⟨i, hi, rfl⟩ := List.mem_map.1 hfound
      obtain ⟨r, hr⟩ := h.get?_of_mem_order hi
      rw [hr, Option.isSome_some]
    have hordered : set.ordered.map some = set.order.map set.get? := by
      rw [ordered, List.map_filterMap_some_eq_filter_map_isSome, hsome]
    have hread := congrArg (List.map (Option.map Rule.draft)) hordered
    simpa [ranking, read, Function.comp_def] using hread
  have hinj : ∀ i ∈ set.order, read i = read slot → i = slot := by
    intro i hi e
    obtain ⟨r, hr⟩ := h.get?_of_mem_order hi
    simp only [read, hr, hrule, Option.map_some, Option.some.injEq] at e
    exact h.slot_eq_of_name_eq hr hrule (congrArg Draft.name e)
  rw [← atEnd_map_iff (f := some) fun x _ e => Option.some.inj e, hread, ← atEnd_map_iff hinj,
    show read slot = some rule.draft by simp [read, hrule]]

/-- A move swaps the rule with its neighbour. -/
theorem ordered_move (h : set.Valid) {direction : Direction}
    (hmove : set.move slot direction = (true, next)) :
    ∃ rule, set.get? slot = some rule ∧ Swapped direction rule set.ordered next.ordered := by
  rcases move_eq set slot direction with ⟨order, hmoved, heq⟩ | ⟨-, heq⟩
  · obtain ⟨-, rfl⟩ := Prod.mk.inj (heq.symm.trans hmove)
    have hswapped := moved?_swapped hmoved
    obtain ⟨rule, hrule⟩ := h.get?_of_mem_order hswapped.mem
    exact ⟨rule, hrule, hswapped.filterMap hrule fun i hi => h.get?_of_mem_order hi⟩
  · rw [heq] at hmove
    cases hmove

/-- A move does nothing exactly if the slot is not there or its rule is already at that end. -/
theorem move_eq_false_iff (h : set.Valid) (slot : Nat) (direction : Direction) :
    (set.move slot direction).1 = false ↔
      ∀ rule, set.get? slot = some rule → AtEnd direction rule.draft set.ranking := by
  have hmoved : (set.move slot direction).1 = false ↔ moved? slot direction set.order = none := by
    rcases move_eq set slot direction with ⟨order, hmoved, heq⟩ | ⟨hmoved, heq⟩
    · simp [hmoved, heq]
    · simp [hmoved, heq]
  rw [hmoved, moved?_eq_none_iff h.order_nodup, h.mem_order_iff]
  cases hrule : set.get? slot with
  | none =>
      have hge : ¬ slot < set.size := Nat.not_lt.2 (List.getElem?_eq_none_iff.1 hrule)
      simp [hge]
  | some rule =>
      have hlt : slot < set.size := (List.getElem?_eq_some_iff.1 hrule).1
      simp [hlt, h.atEnd_ranking_iff hrule]

/-! ## The two lists after each operation -/

/-- The ranking arranges the drafts of all slots, and no two of them share a name. -/
theorem ranking_arranges (h : set.Valid) :
    (set.ranking.map Draft.name).Nodup ∧ set.ranking.Perm set.drafts := by
  have hnames : set.ranking.map Draft.name = set.ordered.map Rule.name := by
    simp [ranking, Rule.draft]
  rw [hnames]
  exact ⟨(h.ordered_perm.map Rule.name).nodup_iff.2 h.names_nodup, h.ordered_perm.map Rule.draft⟩

theorem lists_add (h : set.Valid) {name text : String}
    (hadd : set.add name text = .ok (slot, next)) :
    slot = set.drafts.length ∧ next.drafts = set.drafts ++ [⟨trimString name, text⟩] ∧
      next.ranking = set.ranking ++ [⟨trimString name, text⟩] := by
  have hranking : next.ranking = set.ranking ++ [⟨trimString name, text⟩] := by
    rw [ranking, h.ordered_add hadd, List.map_append]
    rfl
  obtain ⟨-, hslot, hnext⟩ := add_eq_ok_iff.1 hadd
  exact ⟨by simp [hslot, drafts, size], by simp [hnext, drafts, Rule.make, Rule.draft], hranking⟩

theorem lists_delete (h : set.Valid) {rule : Rule}
    (hdelete : set.delete slot = .ok (rule, next)) :
    set.get? slot = some rule ∧ next.drafts = set.drafts.eraseIdx slot ∧
      Removed rule.draft set.ranking next.ranking := by
  have hremoved := (h.ordered_delete hdelete).map Rule.draft
  obtain ⟨hrule, rfl⟩ := delete_eq_ok_iff.1 hdelete
  exact ⟨hrule, by simp [drafts, List.eraseIdx_map], hremoved⟩

theorem lists_edit (h : set.Valid) {name text : String}
    (hedit : set.edit slot name text = .ok next) :
    ∃ rule, set.get? slot = some rule ∧
      next.drafts = set.drafts.set slot ⟨trimString name, text⟩ ∧
      Replaced rule.draft ⟨trimString name, text⟩ set.ranking next.ranking := by
  obtain ⟨⟨rule, hrule⟩, -, hnext⟩ := edit_eq_ok_iff.1 hedit
  refine ⟨rule, hrule, ?_, (h.ordered_edit hrule hedit).map Rule.draft⟩
  rw [hnext]
  simp [drafts, List.map_set, Rule.make, Rule.draft]

theorem lists_move (h : set.Valid) {direction : Direction} {moved : Bool}
    (hmove : set.move slot direction = (moved, next)) :
    next.drafts = set.drafts ∧
      (moved = true → ∃ rule, set.get? slot = some rule ∧
        Swapped direction rule.draft set.ranking next.ranking) ∧
      (moved = false → next.ranking = set.ranking) ∧
      (moved = false ↔ set.get? slot = none ∨
        ∃ rule, set.get? slot = some rule ∧ AtEnd direction rule.draft set.ranking) := by
  have hfalse := h.move_eq_false_iff slot direction
  rw [hmove] at hfalse
  have hends : moved = false ↔ set.get? slot = none ∨
      ∃ rule, set.get? slot = some rule ∧ AtEnd direction rule.draft set.ranking := by
    rw [hfalse]
    cases set.get? slot with
    | none => simp
    | some rule => simp
  rcases move_eq set slot direction with ⟨order, -, heq⟩ | ⟨-, heq⟩
  · obtain ⟨rfl, rfl⟩ := Prod.mk.inj (heq.symm.trans hmove)
    obtain ⟨rule, hrule, hswapped⟩ := h.ordered_move hmove
    exact ⟨rfl, fun _ => ⟨rule, hrule, hswapped.map Rule.draft⟩, nofun, hends⟩
  · obtain ⟨rfl, rfl⟩ := Prod.mk.inj (heq.symm.trans hmove)
    exact ⟨rfl, nofun, fun _ => rfl, hends⟩

end Valid

/-- In every rule set that is reached, no two entries of the ranking share a name and the ranking
arranges the drafts of all slots. Adding appends the trimmed name with its text to both lists and
gives the old length. Deleting takes the rule of the slot out of both and gives it. Editing
replaces the entry of the slot in both at its place. Moving leaves the slots alone and swaps the
entry of the slot with its neighbour in the ranking, or does nothing, which happens exactly if the
slot is not there or its entry is at that end already. -/
theorem Reached.operations_refine_lists {set : RuleSet} (h : Reached set) :
    ((set.ranking.map Draft.name).Nodup ∧ set.ranking.Perm set.drafts) ∧
    (∀ name text slot next, set.add name text = .ok (slot, next) →
      slot = set.drafts.length ∧
        next.drafts = set.drafts ++ [⟨trimString name, text⟩] ∧
        next.ranking = set.ranking ++ [⟨trimString name, text⟩]) ∧
    (∀ slot rule next, set.delete slot = .ok (rule, next) →
      set.get? slot = some rule ∧
        next.drafts = set.drafts.eraseIdx slot ∧
        Removed rule.draft set.ranking next.ranking) ∧
    (∀ slot name text next, set.edit slot name text = .ok next →
      ∃ rule, set.get? slot = some rule ∧
        next.drafts = set.drafts.set slot ⟨trimString name, text⟩ ∧
        Replaced rule.draft ⟨trimString name, text⟩ set.ranking next.ranking) ∧
    (∀ slot direction moved next, set.move slot direction = (moved, next) →
      next.drafts = set.drafts ∧
        (moved = true → ∃ rule, set.get? slot = some rule ∧
          Swapped direction rule.draft set.ranking next.ranking) ∧
        (moved = false → next.ranking = set.ranking) ∧
        (moved = false ↔ set.get? slot = none ∨
          ∃ rule, set.get? slot = some rule ∧ AtEnd direction rule.draft set.ranking)) := by
  have hvalid := h.valid
  refine ⟨hvalid.ranking_arranges, ?_, ?_, ?_, ?_⟩
  · intro name text slot next hadd
    exact hvalid.lists_add hadd
  · intro slot rule next hdelete
    exact hvalid.lists_delete hdelete
  · intro slot name text next hedit
    exact hvalid.lists_edit hedit
  · intro slot direction moved next hmove
    exact hvalid.lists_move hmove

/-- Three rules, the last of which has the highest priority. -/
def widgetsFirst : RuleSet :=
  ⟨[Rule.make "north" "Region is North", Rule.make "big" "Sales > 1000",
    Rule.make "widgets" "Product contains widget"], [2, 0, 1]⟩

theorem operations_refine_lists_widgetsFirst :
    Reached widgetsFirst ∧
      (∃ rule next, widgetsFirst.delete 1 = .ok (rule, next) ∧ rule.name = "big" ∧
        next.drafts = [⟨"north", "Region is North"⟩, ⟨"widgets", "Product contains widget"⟩] ∧
        Removed rule.draft widgetsFirst.ranking next.ranking) ∧
      (widgetsFirst.move 2 .up).1 = false ∧ (widgetsFirst.move 2 .down).1 = true := by
  have hreached : Reached widgetsFirst :=
    .restore (show RuleSet.restore widgetsFirst.drafts [2, 0, 1] = .ok widgetsFirst from rfl)
  obtain ⟨-, -, hdelete, -, hmove⟩ := hreached.operations_refine_lists
  obtain ⟨-, hdrafts, hremoved⟩ := hdelete 1 _ _ rfl
  refine ⟨hreached, ⟨_, _, rfl, rfl, hdrafts, hremoved⟩, ?_, rfl⟩
  exact (hmove 2 .up _ _ rfl).2.2.2.2 (.inr ⟨_, rfl, rfl⟩)

end RuleSet

end Rulebook
