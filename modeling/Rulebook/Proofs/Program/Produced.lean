import Rulebook.Program
import Rulebook.Proofs.Workbook.Opening

/-!
# The workbook of a run

`Program.produce` opens, regroups, chooses what is added up and makes a full pass. Seen at once
(`produce_eq_ok_iff`), it succeeds exactly if a snapshot is stored that can be restored and the
fields asked for do not repeat one, and gives the restored workbook with what the settings ask for
(`asked`), after a full pass. What it gives is in turn produced from its own stored form
(`produce_render`), if no rule asks for labels.
-/

set_option autoImplicit false

namespace Rulebook

open Workbook

namespace Program

variable {s : WorkbookSettings} {found : Contents} {wb opened next : Workbook}

/-- The workbook with the group fields and the field to add up for which settings ask, if they do.
The summary is not put right. -/
def asked (s : WorkbookSettings) (wb : Workbook) : Workbook :=
  { wb with
    groupKey := if s.groupFields = [] then wb.groupKey else ⟨s.groupFields⟩
    sumField := if s.sumField.isSome then namedField s.sumField else wb.sumField }

theorem during_eq_ok_iff {α : Type} {context : String} {result : Except Fault α} {a : α} :
    during context result = .ok a ↔ result = .ok a := by
  rw [during, mapError_eq_ok_iff]

/-! ## Grouping and adding up -/

theorem change_group_eq_ok_iff {fields : List String} {effect : Effect} :
    wb.change (.group fields) = .ok (effect, next) ↔
      effect = .done ∧ fields ≠ [] ∧ fields.Nodup ∧
        next = resummarize { wb with groupKey := ⟨fields⟩ } := by
  simp only [change, amend, map_eq_ok_iff, bind_eq_ok_iff, mapError_eq_ok_iff, pure_eq_ok_iff]
  constructor
  · rintro ⟨amended, ⟨key, hkey, rfl⟩, heq⟩
    obtain ⟨⟨hne, hnodup⟩, rfl⟩ := GroupKey.ofFields_eq_ok_iff.1 hkey
    obtain ⟨rfl, rfl⟩ := Prod.mk.inj heq
    exact ⟨rfl, hne, hnodup, rfl⟩
  · rintro ⟨rfl, hne, hnodup, rfl⟩
    exact ⟨_, ⟨⟨fields⟩, GroupKey.ofFields_eq_ok_iff.2 ⟨⟨hne, hnodup⟩, rfl⟩, rfl⟩, rfl⟩

/-- To be grouped by fields, a workbook needs fields that do not repeat one. -/
theorem regrouped_eq_ok_iff {fields : List String} :
    regrouped fields wb = .ok next ↔ fields.Nodup ∧
      next = if fields = [] then wb else resummarize { wb with groupKey := ⟨fields⟩ } := by
  rw [regrouped]
  split
  · rename_i hnone
    subst hnone
    simp [eq_comm (b := next)]
  · rename_i hsome
    rw [map_eq_ok_iff]
    constructor
    · rintro ⟨⟨effect, changed⟩, hchange, rfl⟩
      obtain ⟨-, -, hnodup, hnext⟩ := change_group_eq_ok_iff.1 hchange
      exact ⟨hnodup, hnext⟩
    · rintro ⟨hnodup, rfl⟩
      exact ⟨(.done, _), change_group_eq_ok_iff.2 ⟨rfl, hsome, hnodup, rfl⟩, rfl⟩

/-- The full pass at the end makes the same of the workbook whether summaries were put right on the
way or not. -/
theorem recompute_summed (s : WorkbookSettings) (opened : Workbook) :
    (summed s.sumField (if s.groupFields = [] then opened
      else resummarize { opened with groupKey := ⟨s.groupFields⟩ })).recompute =
      (asked s opened).recompute := by
  cases hsum : s.sumField with
  | none =>
      rw [summed, asked, hsum]
      split
      · rfl
      · rfl
  | some field =>
      rw [summed, asked, hsum]
      split
      · rfl
      · rfl

/-- When a run has a workbook, and which. -/
theorem produce_eq_ok_iff :
    produce s found = .ok wb ↔ ∃ snap opened, Snapshot.stored? found = some snap ∧
      restore snap = .ok opened ∧ s.groupFields.Nodup ∧ wb = (asked s opened).recompute := by
  simp only [produce, bind_eq_ok_iff, during_eq_ok_iff, pure_eq_ok_iff, ofFile_eq_ok_iff,
    regrouped_eq_ok_iff]
  constructor
  · rintro ⟨opened, ⟨snap, hstored, hrestore⟩, grouped, ⟨hnodup, rfl⟩, rfl⟩
    exact ⟨snap, opened, hstored, hrestore, hnodup, recompute_summed s opened⟩
  · rintro ⟨snap, opened, hstored, hrestore, hnodup, rfl⟩
    exact ⟨opened, ⟨snap, hstored, hrestore⟩, _, ⟨hnodup, rfl⟩, recompute_summed s opened⟩

/-! ## What is produced from what was produced -/

/-- A workbook that is grouped by fields or adds up a field is one that changes lead to. -/
theorem reached_recompute_asked {imported : List Row} (h : Reached imported opened)
    (hnodup : s.groupFields.Nodup) : Reached imported (asked s opened).recompute := by
  have hgrouped : Reached imported (if s.groupFields = [] then opened
      else resummarize { opened with groupKey := ⟨s.groupFields⟩ }) := by
    split
    · exact h
    · rename_i hsome
      have hchange : opened.change (.group s.groupFields) =
          .ok (.done, resummarize { opened with groupKey := ⟨s.groupFields⟩ }) :=
        change_group_eq_ok_iff.2 ⟨rfl, hsome, hnodup, rfl⟩
      have hafter := h.changed (.group s.groupFields)
      rw [after, hchange] at hafter
      exact hafter
  rw [← recompute_summed]
  cases s.sumField with
  | none => exact hgrouped.changed .recompute
  | some field => exact (hgrouped.changed (.sum (some field))).changed .recompute

theorem asked_eq_self (hkey : s.groupFields = [] ∨ wb.groupKey = ⟨s.groupFields⟩)
    (hsum : s.sumField = none ∨ wb.sumField = namedField s.sumField) : asked s wb = wb := by
  have hsamekey : (if s.groupFields = [] then wb.groupKey else ⟨s.groupFields⟩) = wb.groupKey := by
    rcases hkey with hnone | hkey
    · rw [if_pos hnone]
    · rw [← hkey, ite_self]
  have hsamesum : (if s.sumField.isSome then namedField s.sumField else wb.sumField) =
      wb.sumField := by
    rcases hsum with hnone | hsum
    · rw [hnone]
      rfl
    · rw [← hsum, ite_self]
  rw [asked, hsamekey, hsamesum]

/-- Settings ask for nothing more once a workbook is as they ask. -/
theorem asked_recompute_asked (s : WorkbookSettings) (opened : Workbook) :
    asked s (asked s opened).recompute = (asked s opened).recompute := by
  apply asked_eq_self
  · by_cases hnone : s.groupFields = []
    · exact .inl hnone
    · exact .inr (if_neg hnone)
  · cases hsum : s.sumField with
    | none => exact .inl rfl
    | some field =>
        have hgiven : s.sumField.isSome = true := by rw [hsum, Option.isSome_some]
        rw [← hsum]
        exact .inr (if_pos hgiven)

/-- A workbook that was produced has a snapshot that can be stored. -/
theorem storable_of_produce (h : produce s found = .ok wb) : wb.snapshot.Storable := by
  obtain ⟨snap, opened, hstored, hrestore, hnodup, rfl⟩ := produce_eq_ok_iff.1 h
  obtain ⟨hrows, hslots⟩ := Snapshot.storable_of_stored? hstored
  have hreached : Reached snap.rows (asked s opened).recompute :=
    reached_recompute_asked (.restored hrestore) hnodup
  refine ⟨hreached.nodup_columns hrows, ?_⟩
  -- no run changes the order, so its slots are the ones that were read
  intro slot hslot
  exact hslots slot (order_of_restore hrestore ▸ hslot)

/-- The stored form of a workbook that was produced is read back. -/
theorem stored?_render (h : produce s found = .ok wb) :
    Snapshot.stored? (.text wb.snapshot.render) = some wb.snapshot :=
  Snapshot.read?_render (storable_of_produce h)

/-- If no rule asks for labels, the workbook of a run is produced from its stored form again. -/
theorem produce_render (h : produce s found = .ok wb) (hfree : wb.rules.LabelFree) :
    produce s (.text wb.snapshot.render) = .ok wb := by
  have hread := stored?_render h
  obtain ⟨snap, opened, hstored, hrestore, hnodup, rfl⟩ := produce_eq_ok_iff.1 h
  have hreached : Reached snap.rows (asked s opened).recompute :=
    reached_recompute_asked (.restored hrestore) hnodup
  have hsame := hreached.recompute_eq hfree
  refine produce_eq_ok_iff.2 ⟨_, _, hread, hreached.restore_eq_recompute, hnodup, ?_⟩
  rw [hsame, asked_recompute_asked, hsame]

end Program

end Rulebook
