import Rulebook.Proofs.FirstSeen
import Rulebook.Proofs.GroupKey

/-!
# New selections for a key

The key after a new selection has the fields that are selected: first those of the key, in their
order there, then the others in the order in which they are first selected (`reselect_eq_ok_iff`).
These are never the same, so nothing but an empty selection is refused (`reselect_eq_error_iff`), and
a selection of the fields that are there already changes nothing, whatever their order in it
(`reselect_selected`).
-/

set_option autoImplicit false

namespace Rulebook

/-- Appending what is new, one entry after the other, appends every new entry once, where it is
first seen. -/
theorem foldl_appendNew_eq (entries selection : List String) :
    selection.foldl appendNew entries =
      entries ++ selection.eraseDups.filter fun s => s ∉ entries := by
  -- the induction takes the latest entry from the end, as it is the one that is appended
  induction selection using List.reverseRecOn with
  | nil => simp
  | append_singleton selection s ih =>
      rw [List.foldl_concat, ih, appendNew, eraseDups_concat]
      by_cases hold : s ∈ entries
      · -- an entry from the start is dropped from the others
        rw [if_pos (List.mem_append_left _ hold)]
        split
        · rfl
        · simp [hold]
      · have hmem : s ∈ entries ++ (selection.eraseDups.filter fun s => s ∉ entries) ↔
            s ∈ selection := by
          simp [hold]
        simp only [hmem]
        split
        · rfl
        · simp [hold]

namespace GroupKey

variable {key next : GroupKey} {selection : List String}

/-- The fields of a key that stay under a new selection, in the order of the key. -/
def kept (key : GroupKey) (selection : List String) : List String :=
  key.fields.filter fun field => field ∈ selection

/-- The fields that a new selection adds to a key, in the order in which they are first selected. -/
def added (key : GroupKey) (selection : List String) : List String :=
  selection.eraseDups.filter fun field => field ∉ key.fields

theorem mem_kept_iff {field : String} :
    field ∈ key.kept selection ↔ field ∈ key.fields ∧ field ∈ selection := by
  simp [kept]

theorem mem_added_iff {field : String} :
    field ∈ key.added selection ↔ field ∈ selection ∧ field ∉ key.fields := by
  simp [added]

theorem pairwise_idxOf_added (key : GroupKey) (selection : List String) :
    (key.added selection).Pairwise fun a b => selection.idxOf a < selection.idxOf b :=
  (pairwise_idxOf_eraseDups selection).filter _

/-- What is kept and what is added is what is selected. -/
theorem mem_kept_append_added_iff {field : String} :
    field ∈ key.kept selection ++ key.added selection ↔ field ∈ selection := by
  rw [List.mem_append, mem_kept_iff, mem_added_iff]
  by_cases h : field ∈ key.fields
  · simp [h]
  · simp [h]

/-- What is kept and what is added never meet. -/
theorem nodup_kept_append_added (h : key.Valid) (selection : List String) :
    (key.kept selection ++ key.added selection).Nodup := by
  refine List.nodup_append.2 ⟨h.fields_nodup.filter _, (nodup_eraseDups selection).filter _, ?_⟩
  rintro field hkept other hadded rfl
  exact (mem_added_iff.1 hadded).2 (mem_kept_iff.1 hkept).1

theorem reselect_eq (key : GroupKey) (selection : List String) :
    key.reselect selection = ofFields (key.kept selection ++ key.added selection) := by
  have hkept : key.fields.filter selection.contains = key.kept selection := by
    apply List.filter_congr
    intro field _
    exact List.contains_eq_mem field selection
  have hadded : (selection.eraseDups.filter fun field => field ∉ key.kept selection) =
      key.added selection := by
    apply List.filter_congr
    intro field hfield
    have hselected : field ∈ selection := List.mem_eraseDups.1 hfield
    simp [mem_kept_iff, hselected]
  rw [reselect, foldl_appendNew_eq, hkept, hadded]

theorem kept_append_added_eq_nil_iff :
    key.kept selection ++ key.added selection = [] ↔ selection = [] := by
  simp only [List.eq_nil_iff_forall_not_mem, mem_kept_append_added_iff]

/-- A new selection for a valid key is refused only if nothing is selected: fields that are kept and
fields that are added never meet. -/
theorem reselect_eq_error_iff (h : key.Valid) {rejection : Rejection} :
    key.reselect selection = .error rejection ↔
      selection = [] ∧ rejection = .emptyGroupKey := by
  rw [reselect_eq, ofFields_eq_error_iff, kept_append_added_eq_nil_iff]
  constructor
  · rintro (hempty | ⟨front, field, back, hsplit, -, hmem, -⟩)
    · exact hempty
    · -- a field that repeats an earlier one would be there twice
      have hnodup := nodup_kept_append_added h selection
      rw [hsplit] at hnodup
      exact absurd rfl ((List.nodup_append.1 hnodup).2.2 field hmem field List.mem_cons_self)
  · exact .inl

/-- A selection that is not empty makes a key, of what is kept and what is added. -/
theorem reselect_eq_ok_iff (h : key.Valid) :
    key.reselect selection = .ok next ↔
      selection ≠ [] ∧ next.fields = key.kept selection ++ key.added selection := by
  rw [reselect_eq, ofFields_eq_ok_iff]
  constructor
  · rintro ⟨hvalid, hfields⟩
    refine ⟨fun hempty => hvalid.fields_ne_nil ?_, hfields⟩
    rw [hfields, kept_append_added_eq_nil_iff, hempty]
  · rintro ⟨hne, hfields⟩
    have hvalid : next.Valid := by
      refine ⟨?_, ?_⟩
      · rw [hfields]
        exact fun hempty => hne (kept_append_added_eq_nil_iff.1 hempty)
      · rw [hfields]
        exact nodup_kept_append_added h selection
    exact ⟨hvalid, hfields⟩

/-- To select just the fields that are there changes nothing. -/
theorem reselect_selected (h : key.Valid)
    (hsame : ∀ field, field ∈ selection ↔ field ∈ key.fields) :
    key.reselect selection = .ok key := by
  have hkept : key.kept selection = key.fields := by
    apply List.filter_eq_self.2
    intro field hfield
    exact decide_eq_true ((hsame field).2 hfield)
  have hadded : key.added selection = [] := by
    apply List.eq_nil_iff_forall_not_mem.2
    intro field hfield
    obtain ⟨hselected, hnew⟩ := mem_added_iff.1 hfield
    exact hnew ((hsame field).1 hselected)
  refine (reselect_eq_ok_iff h).2 ⟨?_, by rw [hkept, hadded, List.append_nil]⟩
  rintro rfl
  obtain ⟨field, hfield⟩ := List.exists_mem_of_ne_nil _ h.fields_ne_nil
  exact List.not_mem_nil ((hsame field).2 hfield)

/-- A new selection for a valid key, which every key is that is made (`ofFields_eq_ok_iff`), is
refused only if it is empty. Otherwise it gives a key without repetitions that has the selected
fields and no others: the fields of the key that are selected, in their order there, and behind them
the other selected fields in the order in which they are first selected. Another selection of the
same fields, in whatever order and however often each, leaves this key as it is. -/
theorem reselect_keeps_order (h : key.Valid) (selection : List String) :
    (∀ rejection, key.reselect selection = .error rejection ↔
      selection = [] ∧ rejection = .emptyGroupKey) ∧
    (selection ≠ [] → ∃ next new, key.reselect selection = .ok next ∧
      next.fields = (key.fields.filter fun field => field ∈ selection) ++ new ∧
      (∀ field, field ∈ new ↔ field ∈ selection ∧ field ∉ key.fields) ∧
      (new.Pairwise fun a b => selection.idxOf a < selection.idxOf b) ∧
      next.fields.Nodup ∧
      (∀ field, field ∈ next.fields ↔ field ∈ selection) ∧
      ∀ other, (∀ field, field ∈ other ↔ field ∈ selection) → next.reselect other = .ok next) := by
  refine ⟨fun _ => reselect_eq_error_iff h, fun hne => ?_⟩
  let next : GroupKey := ⟨key.kept selection ++ key.added selection⟩
  have hnext : key.reselect selection = .ok next := (reselect_eq_ok_iff h).2 ⟨hne, rfl⟩
  have hvalid : next.Valid := by
    rw [reselect_eq, ofFields_eq_ok_iff] at hnext
    exact hnext.1
  have hmem : ∀ field, field ∈ next.fields ↔ field ∈ selection :=
    fun field => mem_kept_append_added_iff
  refine ⟨next, key.added selection, hnext, rfl, fun field => mem_added_iff,
    pairwise_idxOf_added key selection, hvalid.fields_nodup, hmem, fun other hother => ?_⟩
  exact reselect_selected hvalid fun field => (hother field).trans (hmem field).symm

/-- One field is dropped, one is new and selected twice, and two stay in the order of the key. -/
theorem reselect_keeps_order_channel :
    GroupKey.Valid ⟨["Rule", "Region", "Product"]⟩ ∧
      ["Product", "Channel", "Rule", "Channel"] ≠ [] ∧
      reselect ⟨["Rule", "Region", "Product"]⟩ ["Product", "Channel", "Rule", "Channel"] =
        .ok ⟨["Rule", "Product", "Channel"]⟩ ∧
      reselect ⟨["Rule", "Product", "Channel"]⟩ ["Channel", "Rule", "Rule", "Product"] =
        .ok ⟨["Rule", "Product", "Channel"]⟩ := by
  have hvalid : GroupKey.Valid ⟨["Rule", "Region", "Product"]⟩ := ⟨by decide, by decide⟩
  have hne : ["Product", "Channel", "Rule", "Channel"] ≠ [] := by decide
  obtain ⟨next, new, hnext, -, -, -, -, -, hagain⟩ :=
    (reselect_keeps_order hvalid ["Product", "Channel", "Rule", "Channel"]).2 hne
  have hmade : reselect ⟨["Rule", "Region", "Product"]⟩ ["Product", "Channel", "Rule", "Channel"] =
      .ok ⟨["Rule", "Product", "Channel"]⟩ := by decide
  obtain rfl := Except.ok.inj (hmade.symm.trans hnext)
  refine ⟨hvalid, hne, hmade, hagain _ fun field => ?_⟩
  simp only [List.mem_cons, List.not_mem_nil, or_false]
  grind

end GroupKey

end Rulebook
