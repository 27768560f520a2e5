import Rulebook.Proofs.RuleSet.Restoring
import Rulebook.Proofs.Workbook.Opening

/-!
# Which snapshots are restored

`Snapshot.Sound` says what a snapshot has to be to be restored, `Snapshot.Faulty` what is reported
of one that is not: what is wrong with the rules counts before a field of the group key that is
there twice. `Workbook.restore_decides` says that nothing else decides, and what the restored
workbook has of the snapshot.
-/

set_option autoImplicit false

namespace Rulebook

open Text

/-- The draft with its name trimmed. -/
def Draft.trimmed (d : Draft) : Draft := ⟨trimString d.name, d.text⟩

namespace Snapshot

/-- The drafts are admitted one after the other, the order names each of their slots once, and no
field of the group key is there twice. -/
structure Sound (s : Snapshot) : Prop where
  drafts_admissible : RuleSet.Admissible s.drafts
  order_perm : s.order.Perm (List.range s.drafts.length)
  fields_nodup : s.groupFields.Nodup

/-- What is wrong with a snapshot. -/
inductive Faulty (s : Snapshot) : Fault → Prop where
  | rules {fault : Fault} : RuleSet.Faulty s.drafts s.order fault → Faulty s fault
  /-- The field is the first that repeats an earlier one. -/
  | fields {front back : List String} {field : String} : RuleSet.Admissible s.drafts →
      s.order.Perm (List.range s.drafts.length) → s.groupFields = front ++ field :: back →
      front.Nodup → field ∈ front → Faulty s (.rejected (.duplicateGroupField field))

/-- The order is what is wrong exactly if the drafts are admitted and it is no permutation of their
slots. -/
theorem Faulty.code_eq_iff {s : Snapshot} {fault : Fault} (h : s.Faulty fault) :
    fault.code = "INVALID_SNAPSHOT" ↔
      RuleSet.Admissible s.drafts ∧ ¬ s.order.Perm (List.range s.drafts.length) := by
  cases h with
  | rules h => exact h.code_eq_iff
  | fields _ hperm => simp [Fault.code, hperm]

end Snapshot

namespace Workbook

variable {s : Snapshot} {fields : List String}

/-! ## Stored group keys -/

theorem exists_storedKey_eq_ok_iff : (∃ key, storedKey fields = .ok key) ↔ fields.Nodup := by
  simp only [storedKey_eq_ok_iff]
  constructor
  · rintro ⟨key, hnodup, -⟩
    exact hnodup
  · intro hnodup
    exact ⟨⟨_⟩, hnodup, rfl⟩

theorem storedKey_eq_error_iff {rejection : Rejection} :
    storedKey fields = .error rejection ↔
      ∃ front field back, fields = front ++ field :: back ∧ front.Nodup ∧ field ∈ front ∧
        rejection = .duplicateGroupField field := by
  by_cases hnone : fields = []
  · simp [storedKey, hnone]
  · rw [storedKey, if_neg hnone, GroupKey.ofFields_eq_error_iff]
    exact or_iff_right fun h => hnone h.1

/-! ## Snapshots -/

theorem exists_restore_eq_ok_iff : (∃ wb, restore s = .ok wb) ↔ s.Sound := by
  simp only [restore_eq_ok_iff]
  constructor
  · rintro ⟨wb, rules, key, hrules, hkey, -⟩
    obtain ⟨hdrafts, hperm⟩ := RuleSet.exists_restore_eq_ok_iff.1 ⟨rules, hrules⟩
    exact ⟨hdrafts, hperm, exists_storedKey_eq_ok_iff.1 ⟨key, hkey⟩⟩
  · rintro ⟨hdrafts, hperm, hfields⟩
    obtain ⟨rules, hrules⟩ := RuleSet.exists_restore_eq_ok_iff.2 ⟨hdrafts, hperm⟩
    obtain ⟨key, hkey⟩ := exists_storedKey_eq_ok_iff.2 hfields
    exact ⟨_, rules, key, hrules, hkey, rfl⟩

/-- A snapshot is refused in the cases listed and in no other. -/
theorem restore_eq_error_iff {fault : Fault} :
    restore s = .error fault ↔ s.Faulty fault := by
  simp only [restore, assemble, map_eq_error_iff, bind_eq_error_iff, mapError_eq_error_iff,
    RuleSet.restore_eq_error_iff, storedKey_eq_error_iff]
  constructor
  · rintro (hfaulty | ⟨rules, hrules, ⟨_, ⟨front, field, back, hsplit, hnodup, hfield, rfl⟩, rfl⟩ |
      ⟨key, -, hpure⟩⟩)
    · exact .rules hfaulty
    · obtain ⟨hdrafts, hperm⟩ := RuleSet.exists_restore_eq_ok_iff.1 ⟨rules, hrules⟩
      exact .fields hdrafts hperm hsplit hnodup hfield
    · exact absurd hpure pure_ne_error
  · intro h
    cases h with
    | rules hfaulty => exact .inl hfaulty
    | fields hdrafts hperm hsplit hnodup hfield =>
        obtain ⟨rules, hrules⟩ := RuleSet.exists_restore_eq_ok_iff.2 ⟨hdrafts, hperm⟩
        exact .inr ⟨rules, hrules, .inl ⟨_, ⟨_, _, _, hsplit, hnodup, hfield, rfl⟩, rfl⟩⟩

/-- What a restored workbook has of its snapshot. -/
theorem snapshot_of_restore {wb : Workbook} (h : restore s = .ok wb) :
    wb.snapshot = ⟨wb.rows, s.drafts.map Draft.trimmed, s.order,
      if s.groupFields = [] then [Row.ruleColumn] else s.groupFields,
      (s.sumField.map trimString).filter (· ≠ "")⟩ := by
  obtain ⟨hkey, hfield⟩ := view_of_restore h
  have hdrafts : wb.rules.drafts = s.drafts.map Draft.trimmed := by
    obtain ⟨rules, key, hrules, -, rfl⟩ := restore_eq_ok_iff.1 h
    obtain ⟨rfl, -⟩ := RuleSet.restore_eq_ok_iff.1 hrules
    exact List.map_map
  rw [snapshot, hdrafts, order_of_restore h, hkey, hfield, namedField_eq]

/-- A snapshot is restored exactly if it is sound. Otherwise the fault is the first of those that
are looked for, and it is one of the order exactly if the drafts are admitted and the order is no
permutation of their slots. The restored workbook stores the drafts with trimmed names, the order,
the fields of the group key, or the usual one if there are none, and the trimmed field to add up;
its rows differ from the stored ones at most in their labels. -/
theorem restore_decides (s : Snapshot) :
    ((∃ wb, restore s = .ok wb) ↔ s.Sound) ∧
    (∀ fault, (restore s = .error fault ↔ s.Faulty fault) ∧
      (s.Faulty fault → (fault.code = "INVALID_SNAPSHOT" ↔
        RuleSet.Admissible s.drafts ∧ ¬ s.order.Perm (List.range s.drafts.length)))) ∧
    ∀ wb, restore s = .ok wb →
      wb.snapshot = ⟨wb.rows, s.drafts.map Draft.trimmed, s.order,
        if s.groupFields = [] then [Row.ruleColumn] else s.groupFields,
        (s.sumField.map trimString).filter (· ≠ "")⟩ ∧
      List.Forall₂ Row.SameData s.rows wb.rows := by
  refine ⟨exists_restore_eq_ok_iff, ?_, ?_⟩
  · intro fault
    exact ⟨restore_eq_error_iff, fun hfaulty => hfaulty.code_eq_iff⟩
  · intro wb hrestore
    exact ⟨snapshot_of_restore hrestore, (Reached.restored hrestore).settled.sameData⟩

/-- Drafts with blanks around their names and an order of its own. -/
def padded : Snapshot :=
  ⟨[], [⟨" north ", "Region is North"⟩, ⟨"big", " Sales > 10 "⟩], [1, 0], [], some " Sales "⟩

/-- A name that is taken, a slot that is not there and a field that is there twice. -/
def mistaken : Snapshot :=
  ⟨[], [⟨"big", "Sales > 10"⟩, ⟨" big", ""⟩], [0, 2], ["Rule", "Rule"], none⟩

theorem restore_decides_padded :
    (∃ wb, restore padded = .ok wb ∧ wb.snapshot =
      ⟨wb.rows, [⟨"north", "Region is North"⟩, ⟨"big", " Sales > 10 "⟩], [1, 0], ["Rule"],
        some "Sales"⟩) ∧
    restore mistaken = .error (.rejected (.duplicateName "big")) := by
  obtain ⟨haccepted, -, hkept⟩ := restore_decides padded
  obtain ⟨wb, hrestore⟩ := haccepted.2 ⟨⟨by decide, by decide, by decide⟩, by decide, by decide⟩
  have hdrafts : padded.drafts.map Draft.trimmed =
      [⟨"north", "Region is North"⟩, ⟨"big", " Sales > 10 "⟩] := by decide
  have hfield : (padded.sumField.map trimString).filter (· ≠ "") = some "Sales" := by decide
  refine ⟨⟨wb, hrestore, ?_⟩, ?_⟩
  · rw [(hkept wb hrestore).1, hdrafts, hfield]
    rfl
  · obtain ⟨-, hrefused, -⟩ := restore_decides mistaken
    have hadmissible : RuleSet.Admissible [⟨"big", "Sales > 10"⟩] :=
      ⟨by decide, by decide, by decide⟩
    have htrim : trimString " big" = "big" := by decide
    have hname : trimString " big" ≠ "" := by decide
    have hunfit : RuleSet.Unfit ⟨[⟨"big", "Sales > 10"⟩].map Draft.admitted, []⟩ none " big" ""
        (.duplicateName (trimString " big")) := by
      refine .duplicateName hname ⟨0, Draft.admitted ⟨"big", "Sales > 10"⟩, rfl, by simp, ?_⟩
      decide
    rw [htrim] at hunfit
    -- the first of its mistakes is the one that is reported
    exact (hrefused _).1.2 (.rules (.draft rfl hadmissible hunfit))

end Workbook

end Rulebook
