import Mathlib.Data.String.Basic
import Rulebook.Json.Canonical
import Rulebook.Json.Record
import Rulebook.Proofs.Json.RoundTrip

/-!
# What canonical order keeps

In canonical form an object has no name twice (`sorted_canonicalMembers`), and a name has the value
that was given to it last, in canonical form (`member?_canonicalMembers`); values given to it before
are lost. A value that can be written can be written in canonical form (`Writable.canonical`).
-/

set_option autoImplicit false

namespace Rulebook

namespace Json

/-- The value that is given to a name last. -/
def lastValue? (members : List (String × Json)) (name : String) : Option Json :=
  (members.reverse.find? fun m => m.1 = name).map Prod.snd

/-- The names of members ascend strictly, so that none is there twice. -/
def Sorted (members : List (String × Json)) : Prop := members.Pairwise fun a b => a.1 < b.1

/-! ## One member -/

variable {name other : String} {value : Json} {members sorted : List (String × Json)}

theorem mem_insertMember {m : String × Json} (hm : m ∈ insertMember name value sorted) :
    m = (name, value) ∨ m ∈ sorted := by
  induction sorted with
  | nil => exact .inl (List.mem_singleton.1 hm)
  | cons first sorted ih =>
      rw [insertMember] at hm
      split at hm
      · exact List.mem_cons.1 hm
      · split at hm
        · rcases List.mem_cons.1 hm with rfl | hm
          · exact .inl rfl
          · exact .inr (List.mem_cons_of_mem first hm)
        · rcases List.mem_cons.1 hm with rfl | hm
          · exact .inr List.mem_cons_self
          · exact (ih hm).imp_right (List.mem_cons_of_mem first)

/-- To put in a member keeps the names ascending. -/
theorem sorted_insertMember (h : Sorted sorted) : Sorted (insertMember name value sorted) := by
  induction sorted with
  | nil => exact List.pairwise_singleton _ _
  | cons first sorted ih =>
      obtain ⟨hfirst, hsorted⟩ := List.pairwise_cons.1 h
      rw [insertMember]
      split
      · -- it comes in front, so it is behind nothing
        rename_i hlt
        refine List.pairwise_cons.2 ⟨?_, h⟩
        intro m hm
        rcases List.mem_cons.1 hm with rfl | hm
        · exact hlt
        · exact lt_trans hlt (hfirst m hm)
      · rename_i hnlt
        split
        · -- it takes the place of the one with its name
          rename_i heq
          subst heq
          exact List.pairwise_cons.2 ⟨hfirst, hsorted⟩
        · rename_i hne
          -- the new member comes somewhere behind the first one
          refine List.pairwise_cons.2 ⟨?_, ih hsorted⟩
          intro m hm
          rcases mem_insertMember hm with rfl | hm
          · exact lt_of_le_of_ne (not_lt.1 hnlt) (Ne.symm hne)
          · exact hfirst m hm

/-- Nothing is asked of the members here: a member with the name is found before the search can go
past the place where the new one is put. -/
theorem find?_insertMember (name : String) (value : Json) (other : String)
    (sorted : List (String × Json)) :
    ((insertMember name value sorted).find? fun m => m.1 = other) =
      if name = other then some (name, value) else sorted.find? fun m => m.1 = other := by
  induction sorted with
  | nil =>
      rw [insertMember, List.find?_cons]
      by_cases h : name = other
      · simp [h]
      · simp [h]
  | cons first sorted ih =>
      rw [insertMember]
      split
      · rw [List.find?_cons]
        by_cases h : name = other
        · simp [h]
        · simp [h]
      · split
        · rename_i heq
          subst heq
          by_cases h : first.1 = other
          · simp [h]
          · simp [h]
        · rename_i hne
          rw [List.find?_cons, List.find?_cons, ih]
          by_cases h : first.1 = other
          · have hname : name ≠ other := h ▸ hne
            simp [h, hname]
          · simp [h]

/-! ## All members -/

theorem sorted_canonicalMembers (members : List (String × Json)) {sorted : List (String × Json)}
    (h : Sorted sorted) : Sorted (canonicalMembers sorted members) := by
  induction members generalizing sorted with
  | nil => exact h
  | cons m members ih => exact ih (sorted_insertMember h)

theorem mem_canonicalMembers {m : String × Json} (hm : m ∈ canonicalMembers sorted members) :
    m ∈ sorted ∨ ∃ given ∈ members, m = (given.1, canonical given.2) := by
  induction members generalizing sorted with
  | nil => exact .inl hm
  | cons first members ih =>
      rcases ih hm with hm | ⟨given, hgiven, rfl⟩
      · rcases mem_insertMember hm with rfl | hm
        · exact .inr ⟨first, List.mem_cons_self, rfl⟩
        · exact .inl hm
      · exact .inr ⟨given, List.mem_cons_of_mem first hgiven, rfl⟩

/-- What is found under a name is what was given to it last, or else what was there before. -/
theorem find?_canonicalMembers (other : String) (members sorted : List (String × Json)) :
    ((canonicalMembers sorted members).find? fun m => m.1 = other) =
      ((members.reverse.find? fun m => m.1 = other).map fun m => (m.1, canonical m.2)).or
        (sorted.find? fun m => m.1 = other) := by
  -- the induction is on the members still to come; they win over those that are there
  induction members generalizing sorted with
  | nil => rfl
  | cons m members ih =>
      obtain ⟨name, value⟩ := m
      rw [canonicalMembers, ih, find?_insertMember, List.reverse_cons, List.find?_append]
      cases members.reverse.find? fun m => m.1 = other with
      | some found => rfl
      | none =>
          -- no later member has the name, so it is this one or what was there before
          by_cases h : name = other
          · simp [h]
          · simp [h]

/-- Of names that are all different each is there once at most. -/
theorem member?_of_sorted (h : Sorted members) (name : String) :
    member? members name = some ((members.find? fun m => m.1 = name).map Prod.snd) := by
  induction members with
  | nil => rfl
  | cons first members ih =>
      obtain ⟨hfirst, hmembers⟩ := List.pairwise_cons.1 h
      by_cases hname : first.1 = name
      · -- all other names are greater
        have hrest : members.filter (fun m => m.1 = name) = [] := by
          apply List.filter_eq_nil_iff.2
          intro m hm heq
          exact absurd (hname.trans (of_decide_eq_true heq).symm) (hfirst m hm).ne
        simp [member?, hname, hrest]
      · rw [List.find?_cons, decide_eq_false hname, ← ih hmembers, member?, member?,
          List.filter_cons_of_neg (by simp [hname])]

/-- In canonical form a name has the value that was given to it last. -/
theorem member?_canonicalMembers (members : List (String × Json)) (name : String) :
    member? (canonicalMembers [] members) name =
      some ((lastValue? members name).map canonical) := by
  rw [member?_of_sorted (sorted_canonicalMembers members .nil), find?_canonicalMembers, lastValue?]
  cases members.reverse.find? fun m => m.1 = name with
  | none => rfl
  | some found => rfl

/-! ## Whole values -/

theorem canonicalItems_eq_map (items : List Json) :
    canonicalItems items = items.map canonical := by
  induction items with
  | nil => rfl
  | cons item items ih => rw [canonicalItems, ih, List.map_cons]

/-- To sort members nests nothing deeper and makes no new values. -/
theorem Writable.canonical {depth : Nat} {j : Json} (h : Writable depth j) :
    Writable depth j.canonical := by
  induction h with
  | null depth => exact .null depth
  | bool depth b => exact .bool depth b
  | integer depth hn => exact .integer depth hn
  | real depth hx => exact .real depth hx
  | string depth s => exact .string depth s
  | array hdepth _ ih =>
      rw [Json.canonical, canonicalItems_eq_map]
      exact .array hdepth (List.forall_mem_map.2 ih)
  | object hdepth _ ih =>
      rw [Json.canonical]
      refine .object hdepth ?_
      intro m hm
      rcases mem_canonicalMembers hm with hm | ⟨given, hgiven, rfl⟩
      · cases hm
      · exact ih given hgiven

end Json

end Rulebook
