import Rulebook.Proofs.Workbook.Storage

/-!
# Opening files

What is stored in a file is a snapshot, the one in which every field is left out if there is no file
(`Snapshot.stored?`). A workbook is opened exactly if a snapshot is stored and can be restored, and
then it is the restored one (`ofFile_eq_ok_iff`); without a file it is empty (`restore_blank`).
Whatever is read can be stored again (`Snapshot.storable_of_stored?`).
-/

set_option autoImplicit false

namespace Rulebook

open Json

namespace Snapshot

/-- The snapshot in which every field is left out. -/
def blank : Snapshot := ⟨[], [], [], [], none⟩

/-- What is stored in a file. -/
def stored? : Contents → Option Snapshot
  | .absent => some blank
  | .text s => read? s
  | .garbled => none
  | .inaccessible => none

variable {s : Snapshot}

/-! ## What is read can be stored -/

theorem exists_of_mem_optional_list? {α : Type} {item? : Json → Option α} {found : Option Json}
    {xs : List α} (h : optional? (list? item?) [] found = some xs) {x : α} (hx : x ∈ xs) :
    ∃ item, item? item = some x := by
  cases found with
  | none =>
      obtain rfl := Option.some.inj h
      cases hx
  | some j => exact exists_of_mem_list? h hx

theorem le_maxWord_of_nat? {j : Json} {n : Nat} (h : nat? j = some n) : n ≤ maxWord := by
  cases j with
  | integer k =>
      rw [nat?] at h
      split at h
      · rename_i hfits
        obtain rfl := Option.some.inj h
        have hlt : k.toNat < Nat.pow 2 64 := (Int.toNat_lt hfits.1).2 hfits.2
        rw [maxWord]
        omega
      · cases h
  | _ => cases h

theorem storable_of_ofJson? {j : Json} (h : ofJson? j = some s) : s.Storable := by
  obtain ⟨fields, -, h⟩ := Option.bind_eq_some_iff.1 h
  split at h
  · obtain ⟨rows, hrows, h⟩ := Option.bind_eq_some_iff.1 h
    obtain ⟨drafts, -, h⟩ := Option.bind_eq_some_iff.1 h
    obtain ⟨order, horder, h⟩ := Option.bind_eq_some_iff.1 h
    obtain ⟨groupFields, -, h⟩ := Option.bind_eq_some_iff.1 h
    obtain ⟨sumField, -, h⟩ := Option.bind_eq_some_iff.1 h
    obtain rfl := Option.some.inj h
    refine ⟨fun row hrow => ?_, fun slot hslot => ?_⟩
    · obtain ⟨item, hitem⟩ := exists_of_mem_optional_list? hrows hrow
      exact Row.nodup_of_ofJson? hitem
    · obtain ⟨item, hitem⟩ := exists_of_mem_optional_list? horder hslot
      exact le_maxWord_of_nat? hitem
  · cases h

/-- What is stored in a file can be stored. -/
theorem storable_of_stored? {file : Contents} (h : stored? file = some s) : s.Storable := by
  cases file with
  | absent =>
      obtain rfl := Option.some.inj h
      exact ⟨by simp [blank], by simp [blank]⟩
  | text text =>
      obtain ⟨j, -, hj⟩ := Option.bind_eq_some_iff.1 h
      exact storable_of_ofJson? hj
  | garbled => cases h
  | inaccessible => cases h

end Snapshot

namespace Workbook

variable {file : Contents} {s : Snapshot} {wb : Workbook}

/-- Where nothing is stored, the workbook is empty. -/
theorem restore_blank : restore Snapshot.blank = .ok empty := rfl

/-- A workbook is opened exactly if a snapshot is stored that can be restored. -/
theorem ofFile_eq_ok_iff :
    ofFile file = .ok wb ↔ ∃ s, Snapshot.stored? file = some s ∧ restore s = .ok wb := by
  cases file with
  | absent =>
      have hopen : ofFile .absent = .ok empty := rfl
      simp [Snapshot.stored?, hopen, restore_blank]
  | text text =>
      cases h : Snapshot.read? text with
      | none =>
          have hopen : ofFile (.text text) = .error .unreadableJson := by
            rw [ofFile, assembleFile, assembleText, h]
            rfl
          simp [Snapshot.stored?, h, hopen]
      | some s => simp [Snapshot.stored?, h, ofFile_text h]
  | garbled =>
      have hopen : ofFile .garbled = .error .inaccessibleFile := rfl
      simp [Snapshot.stored?, hopen]
  | inaccessible =>
      have hopen : ofFile .inaccessible = .error .inaccessibleFile := rfl
      simp [Snapshot.stored?, hopen]

/-- Restoring keeps the order of the slots. -/
theorem order_of_restore (h : restore s = .ok wb) : wb.rules.order = s.order := by
  obtain ⟨rules, key, hrules, -, rfl⟩ := restore_eq_ok_iff.1 h
  obtain ⟨rfl, -⟩ := RuleSet.restore_eq_ok_iff.1 hrules
  rfl

/-- A restored workbook is grouped as stored, by labels if no fields are stored, and adds up the
stored field. -/
theorem view_of_restore (h : restore s = .ok wb) :
    wb.groupKey.fields = (if s.groupFields = [] then [Row.ruleColumn] else s.groupFields) ∧
      wb.sumField = namedField s.sumField := by
  obtain ⟨rules, key, -, hkey, rfl⟩ := restore_eq_ok_iff.1 h
  exact ⟨(storedKey_eq_ok_iff.1 hkey).2, rfl⟩

end Workbook

end Rulebook
