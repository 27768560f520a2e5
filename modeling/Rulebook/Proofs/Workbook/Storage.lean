import Rulebook.Proofs.Row.Codec
import Rulebook.Proofs.Rule.Codec
import Rulebook.Proofs.Workbook.Restoring
import Rulebook.Workbook.Session

/-!
# Storing workbooks

A snapshot is read from each of its texts, compact or indented, as it was written
(`Snapshot.read?_toJson_compact`, `Snapshot.read?_render`). Nothing is asked of the texts in it: any
string may name a column or stand in a cell, a rule or a group key. A saved workbook is therefore
opened again from its file, whatever run led to it, and is then as after a full pass.
-/

set_option autoImplicit false

namespace Rulebook

open Json

namespace Snapshot

/-- No row has a column twice, as in any map, and the slots of the order are machine words. -/
structure Storable (s : Snapshot) : Prop where
  columns_nodup : ∀ row ∈ s.rows, row.columns.Nodup
  slots_fit : ∀ slot ∈ s.order, slot ≤ maxWord

variable {s : Snapshot}

theorem nat?_slot {slot : Nat} (h : slot ≤ maxWord) : nat? (.integer slot) = some slot := by
  have hfits : slot < Nat.pow 2 64 := Nat.lt_of_le_of_lt h (by decide)
  rw [nat?, if_pos ⟨Int.natCast_nonneg slot, Int.ofNat_lt.2 hfits⟩, Int.toNat_natCast]

/-- The fields of a snapshot are found in its JSON object. -/
theorem record?_toJson (s : Snapshot) :
    s.toJson.record? fieldNames =
      some [some (.array (s.rows.map Row.toJson)), some (.array (s.drafts.map Draft.toJson)),
        some (.array (s.order.map fun (slot : Nat) => .integer slot)),
        some (Json.ofStrings s.groupFields), some (s.sumField.elim .null .string)] := by
  simp [toJson, record?, member?, fieldNames]

/-- A snapshot is read from its JSON object. -/
theorem ofJson?_toJson (h : s.Storable) : ofJson? s.toJson = some s := by
  have hrows : list? Row.ofJson? (.array (s.rows.map Row.toJson)) = some s.rows :=
    list?_map fun row hrow => Row.ofJson?_toJson (h.columns_nodup row hrow)
  have hdrafts : list? Draft.ofJson? (.array (s.drafts.map Draft.toJson)) = some s.drafts :=
    list?_map fun d _ => d.ofJson?_toJson
  have horder : list? nat? (.array (s.order.map fun (slot : Nat) => .integer slot)) =
      some s.order :=
    list?_map fun slot hslot => nat?_slot (h.slots_fit slot hslot)
  simp only [ofJson?, record?_toJson, Option.bind_eq_bind, Option.bind_some, optional?, hrows,
    hdrafts, horder, list?_ofStrings, nullable?_string]
  rfl

/-- The JSON object of a snapshot is nested three deep at most. -/
theorem writable_toJson (h : s.Storable) : Writable 0 s.toJson := by
  have hrows : Writable 1 (.array (s.rows.map Row.toJson)) :=
    .array (by decide) (List.forall_mem_map.2 fun row _ => row.writable_toJson (by decide))
  have hdrafts : Writable 1 (.array (s.drafts.map Draft.toJson)) :=
    .array (by decide) (List.forall_mem_map.2 fun d _ => d.writable_toJson (by decide))
  have horder : Writable 1 (.array (s.order.map fun (slot : Nat) => .integer slot)) :=
    .array (by decide) (List.forall_mem_map.2 fun slot hslot => .integer 2 (by
      have hfits := h.slots_fit slot hslot
      constructor <;> omega))
  have hgroup : Writable 1 (Json.ofStrings s.groupFields) :=
    .array (by decide) (List.forall_mem_map.2 fun field _ => .string 2 field)
  have hsum : Writable 1 (s.sumField.elim .null .string) := by
    cases s.sumField with
    | none => exact .null 1
    | some field => exact .string 1 field
  refine .object (by decide) ?_
  simp only [List.forall_mem_cons]
  exact ⟨hrows, hdrafts, horder, hgroup, hsum, by simp⟩

/-- A snapshot is read from its compact text. -/
theorem read?_toJson_compact (h : s.Storable) : read? s.toJson.compact = some s := by
  rw [read?, read?_compact (writable_toJson h), Option.bind_some, ofJson?_toJson h]

/-- A snapshot is read from the text under which it is stored. -/
theorem read?_render (h : s.Storable) : read? s.render = some s := by
  rw [read?, render, read?_pretty (writable_toJson h), Option.bind_some, ofJson?_toJson h]

end Snapshot

namespace Workbook

variable {imported : List Row} {wb : Workbook} {s : Snapshot}

/-- No row of a workbook has a column twice, if no row that came in had one twice. -/
theorem Reached.nodup_columns (h : Reached imported wb)
    (hrows : ∀ row ∈ imported, row.columns.Nodup) : ∀ row ∈ wb.rows, row.columns.Nodup := by
  obtain ⟨⟨before, hbefore, hlabelled⟩, -⟩ := h.settled
  intro row hrow
  -- the row is one that came in, with a label written to it
  rw [hlabelled] at hrow
  obtain ⟨original, horiginal, label, rfl, -⟩ := wb.rules.exists_of_mem_labelRows hbefore hrow
  exact Row.nodup_insert (hrows original horiginal) Row.ruleColumn label

/-- A workbook has a snapshot that can be stored, if the rows that came in had no column twice and
every slot is a machine word. -/
theorem Reached.storable (h : Reached imported wb) (hrows : ∀ row ∈ imported, row.columns.Nodup)
    (hsize : wb.rules.size ≤ maxWord) : wb.snapshot.Storable := by
  refine ⟨h.nodup_columns hrows, ?_⟩
  intro slot hslot
  exact Nat.le_trans (Nat.le_of_lt (h.rules.valid.mem_order_iff.1 hslot)) hsize

/-- A file that holds a snapshot has the workbook of the snapshot before any pass. -/
theorem assembleFile_text {text : String} (h : Snapshot.read? text = some s) :
    assembleFile (.text text) = (assemble s).map some := by
  rw [assembleFile, assembleText, h]

/-- A file that holds a snapshot is opened as the snapshot is restored. -/
theorem ofFile_text {text : String} (h : Snapshot.read? text = some s) :
    ofFile (.text text) = restore s := by
  rw [ofFile, assembleFile_text h, restore]
  cases assemble s with
  | error fault => rfl
  | ok assembled => rfl

end Workbook

namespace Session

/-- A session whose file holds a snapshot goes over to the workbook that the snapshot restores. -/
theorem step_reopen {session : Session} {text : String} {s : Snapshot} {wb : Workbook}
    (hfile : session.file = .text text) (hread : Snapshot.read? text = some s)
    (hrestore : Workbook.restore s = .ok wb) :
    (session.step .reopen).1 = .ok (.effect .done) ∧
      (session.step .reopen).2.workbook = wb := by
  obtain ⟨assembled, hassemble, rfl⟩ := map_eq_ok_iff.1 hrestore
  rw [step, hfile, Workbook.assembleFile_text hread, hassemble]
  exact ⟨rfl, rfl⟩

theorem step_save {session : Session} (h : session.file ≠ .inaccessible) :
    session.step .save = (.ok (.saved session.workbook.snapshot.render),
      { session with file := .text session.workbook.snapshot.render }) := by
  rw [step, save]
  split
  · rename_i hfile
    exact absurd hfile h
  all_goals rfl

end Session

namespace Snapshot

/-- Every snapshot is read back from its compact and from its indented text. Where the file can be
written, saving a workbook therefore succeeds, and so does opening the file, which gives the
workbook after a full pass. -/
theorem stored_read_back :
    (∀ s : Snapshot, s.Storable →
      read? s.toJson.compact = some s ∧ read? s.render = some s) ∧
    (∀ (imported : List Row) (session : Session),
      Workbook.Reached imported session.workbook → (∀ row ∈ imported, row.columns.Nodup) →
      session.workbook.rules.size ≤ maxWord → session.file ≠ .inaccessible →
      ∃ text saved, session.step .save = (.ok (.saved text), saved) ∧
        saved.workbook = session.workbook ∧
        Workbook.ofFile saved.file = .ok session.workbook.recompute ∧
        (saved.step .reopen).1 = .ok (.effect .done) ∧
        (saved.step .reopen).2.workbook = session.workbook.recompute) := by
  refine ⟨fun s hs => ⟨read?_toJson_compact hs, read?_render hs⟩, ?_⟩
  intro imported session hreached hrows hsize hfile
  have hread := read?_render (hreached.storable hrows hsize)
  have hrestore := hreached.restore_eq_recompute
  refine ⟨_, _, Session.step_save hfile, rfl, ?_, Session.step_reopen rfl hread hrestore⟩
  rw [Workbook.ofFile_text hread, hrestore]

/-- A snapshot of texts that have to be escaped or are empty, with slots that name no rule. -/
def awkward : Snapshot where
  rows := [.ofCells [("a\"b\\", "\n\t\x01"), ("", "é\u2028\x7f")], .empty]
  drafts := [⟨"", "/\x08"⟩]
  order := [7, 18446744073709551615]
  groupFields := []
  sumField := some ""

theorem stored_read_back_awkward :
    awkward.Storable ∧ read? awkward.toJson.compact = some awkward ∧
      read? awkward.render = some awkward ∧
      ∃ text saved,
        Session.step ⟨Workbook.relabelled, .garbled, .zero⟩ .save = (.ok (.saved text), saved) ∧
        Workbook.ofFile saved.file = .ok Workbook.relabelled.recompute ∧
        (saved.step .reopen).2.workbook = Workbook.relabelled.recompute := by
  have hawkward : awkward.Storable := by
    refine ⟨?_, by decide⟩
    simp only [awkward, List.forall_mem_cons]
    exact ⟨Row.nodup_ofCells _, List.nodup_nil, by simp⟩
  have hregions : ∀ row ∈ Workbook.regions, row.columns.Nodup := by
    simp only [Workbook.regions, List.forall_mem_cons]
    exact ⟨Row.nodup_ofCells _, Row.nodup_ofCells _, by simp⟩
  obtain ⟨hcompact, hindented⟩ := stored_read_back.1 awkward hawkward
  obtain ⟨text, saved, hsave, -, hopen, -, hreopen⟩ :=
    stored_read_back.2 Workbook.regions ⟨Workbook.relabelled, .garbled, .zero⟩
      Workbook.reached_relabelled hregions (by decide) (by decide)
  exact ⟨hawkward, hcompact, hindented, text, saved, hsave, hopen, hreopen⟩

end Snapshot

end Rulebook
