import Rulebook.GroupKey
import Mathlib.Data.List.Nodup

/-!
# Valid group keys

A key is `Valid` if it has a field and none twice. `GroupKey.ofFields` makes a key of exactly the
lists of which this is true (`ofFields_eq_ok_iff`); of the others it refuses the empty one, and of a
list with repetitions it names the first field that repeats an earlier one
(`ofFields_eq_error_iff`).
-/

set_option autoImplicit false

namespace Rulebook

theorem firstRepeated?_eq_none_iff {seen fields : List String} :
    firstRepeated? seen fields = none ↔ fields.Nodup ∧ ∀ s ∈ fields, s ∉ seen := by
  induction fields generalizing seen with
  | nil => simp [firstRepeated?]
  | cons s fields ih =>
      by_cases h : s ∈ seen
      · simp [firstRepeated?, h]
      · simp only [firstRepeated?, h, if_false, ih, List.nodup_cons, List.mem_cons,
          forall_eq_or_imp, not_or, not_false_eq_true, true_and]
        -- an entry is seen from here on, so the rest has to be new to it as well
        constructor
        · rintro ⟨hnodup, hnew⟩
          exact ⟨⟨fun hmem => (hnew s hmem).1 rfl, hnodup⟩, fun t ht => (hnew t ht).2⟩
        · rintro ⟨⟨hs, hnodup⟩, hnew⟩
          exact ⟨hnodup, fun t ht => ⟨ne_of_mem_of_not_mem ht hs, hnew t ht⟩⟩

/-- The repeated entry that is found is the first of all that repeat one before them or one seen
already. -/
theorem firstRepeated?_eq_some_iff {seen fields : List String} {field : String} :
    firstRepeated? seen fields = some field ↔
      ∃ front back, fields = front ++ field :: back ∧ front.Nodup ∧ (∀ s ∈ front, s ∉ seen) ∧
        (field ∈ front ∨ field ∈ seen) := by
  -- the induction is on the fields still to come, whatever was seen before them
  induction fields generalizing seen with
  | nil => simp [firstRepeated?]
  | cons s fields ih =>
      rw [firstRepeated?]
      split
      · rename_i hseen
        constructor
        · intro h
          obtain rfl := Option.some.inj h
          exact ⟨[], fields, rfl, List.nodup_nil, by simp, .inr hseen⟩
        · rintro ⟨front, back, hfields, -, hnew, -⟩
          cases front with
          | nil => rw [(List.cons.inj hfields).1]
          | cons t front =>
              obtain rfl := (List.cons.inj hfields).1
              exact absurd hseen (hnew s List.mem_cons_self)
      · rename_i hseen
        rw [ih]
        constructor
        · rintro ⟨front, back, rfl, hnodup, hnew, hfield⟩
          have hs : s ∉ front := fun hmem => hnew s hmem List.mem_cons_self
          refine ⟨s :: front, back, rfl, List.nodup_cons.2 ⟨hs, hnodup⟩, ?_, ?_⟩
          · exact List.forall_mem_cons.2 ⟨hseen, fun t ht hmem =>
              hnew t ht (List.mem_cons_of_mem s hmem)⟩
          · rcases hfield with hfield | hfield
            · exact .inl (List.mem_cons_of_mem s hfield)
            · rcases List.mem_cons.1 hfield with rfl | hfield
              · exact .inl List.mem_cons_self
              · exact .inr hfield
        · rintro ⟨front, back, hfields, hnodup, hnew, hfield⟩
          cases front with
          | nil =>
              obtain rfl := (List.cons.inj hfields).1
              simp [hseen] at hfield
          | cons t front =>
              obtain ⟨rfl, rfl⟩ := List.cons.inj hfields
              obtain ⟨hs, hnodup⟩ := List.nodup_cons.1 hnodup
              refine ⟨front, back, rfl, hnodup, fun u hu hmem => ?_, ?_⟩
              · rcases List.mem_cons.1 hmem with rfl | hmem
                · exact hs hu
                · exact hnew u (List.mem_cons_of_mem s hu) hmem
              · rcases hfield with hfield | hfield
                · rcases List.mem_cons.1 hfield with rfl | hfield
                  · exact .inr List.mem_cons_self
                  · exact .inl hfield
                · exact .inr (List.mem_cons_of_mem s hfield)

namespace GroupKey

/-- There is a field, and none is there twice. -/
structure Valid (key : GroupKey) : Prop where
  fields_ne_nil : key.fields ≠ []
  fields_nodup : key.fields.Nodup

theorem ofFields_eq_ok_iff {fields : List String} {key : GroupKey} :
    ofFields fields = .ok key ↔ key.Valid ∧ key.fields = fields := by
  have hvalid : (key.Valid ∧ key.fields = fields) ↔
      fields ≠ [] ∧ fields.Nodup ∧ key = ⟨fields⟩ := by
    constructor
    · rintro ⟨⟨hne, hnodup⟩, rfl⟩
      exact ⟨hne, hnodup, rfl⟩
    · rintro ⟨hne, hnodup, rfl⟩
      exact ⟨⟨hne, hnodup⟩, rfl⟩
  rw [hvalid]
  by_cases hne : fields = []
  · simp [ofFields, hne]
  · cases h : firstRepeated? [] fields with
    | none =>
        have hnodup : fields.Nodup := (firstRepeated?_eq_none_iff.1 h).1
        simp [ofFields, hne, h, hnodup, eq_comm (b := key)]
    | some s =>
        have hrepeats : ¬ fields.Nodup := fun hnodup => by
          rw [firstRepeated?_eq_none_iff.2 ⟨hnodup, by simp⟩] at h
          cases h
        simp [ofFields, hne, h, hrepeats]

/-- No list without fields makes a key, and none in which a field repeats an earlier one; the first
that does is named. -/
theorem ofFields_eq_error_iff {fields : List String} {rejection : Rejection} :
    ofFields fields = .error rejection ↔
      (fields = [] ∧ rejection = .emptyGroupKey) ∨
      ∃ front field back, fields = front ++ field :: back ∧ front.Nodup ∧ field ∈ front ∧
        rejection = .duplicateGroupField field := by
  by_cases hne : fields = []
  · simp [ofFields, hne, eq_comm (b := rejection)]
  · have hfirst : ∀ field, firstRepeated? [] fields = some field ↔
        ∃ front back, fields = front ++ field :: back ∧ front.Nodup ∧ field ∈ front := by
      intro field
      rw [firstRepeated?_eq_some_iff]
      simp
    have hrefused : ofFields fields = .error rejection ↔
        ∃ field, firstRepeated? [] fields = some field ∧
          rejection = .duplicateGroupField field := by
      rw [ofFields, if_neg hne]
      cases firstRepeated? [] fields with
      | none => simp
      | some field => simp [eq_comm (b := rejection)]
    rw [hrefused]
    constructor
    · rintro ⟨field, hfield, rfl⟩
      obtain ⟨front, back, hsplit, hnodup, hmem⟩ := (hfirst field).1 hfield
      exact .inr ⟨front, field, back, hsplit, hnodup, hmem, rfl⟩
    · rintro (⟨hnil, -⟩ | ⟨front, field, back, hsplit, hnodup, hmem, rfl⟩)
      · exact absurd hnil hne
      · exact ⟨field, (hfirst field).2 ⟨front, back, hsplit, hnodup, hmem⟩, rfl⟩

theorem valid_standard : standard.Valid := ⟨List.cons_ne_nil _ _, List.nodup_singleton _⟩

end GroupKey

end Rulebook
