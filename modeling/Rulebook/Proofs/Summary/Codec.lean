import Rulebook.Proofs.GroupKey
import Rulebook.Proofs.Json.Canonical
import Rulebook.Proofs.Summary.Groups
import Rulebook.Summary.Codec

/-!
# Printed summaries

A row of a summary is printed with its members in canonical order (`SummaryRow.printed`). The count
and the sum come last among its members, so they are printed always, and the value of a group field
is, unless the field has the name of one of them (`SummaryRow.prints_printed`). Such an object can
be written if the count is a machine word (`SummaryRow.writable_toJson`).
-/

set_option autoImplicit false

namespace Rulebook

open Json

/-! ## The value that is given last -/

namespace Json

theorem lastValue?_append (front back : List (String × Json)) (name : String) :
    lastValue? (front ++ back) name = (lastValue? back name).or (lastValue? front name) := by
  rw [lastValue?, List.reverse_append, List.find?_append, Option.map_or]
  rfl

theorem lastValue?_singleton (member : String × Json) (name : String) :
    lastValue? [member] name = if member.1 = name then some member.2 else none := by
  by_cases h : member.1 = name
  · simp [lastValue?, h]
  · simp [lastValue?, h]

/-- Entries that are not there twice have the same value first and last. -/
theorem lastValue?_strings {entries : List (String × String)} (h : (entries.map Prod.fst).Nodup)
    (name : String) :
    lastValue? (entries.map fun entry => (entry.1, .string entry.2)) name =
      (entries.find? fun entry => entry.1 = name).map fun entry => .string entry.2 := by
  -- the last entry is at the end of the list, so the first one is split off in front
  induction entries with
  | nil => rfl
  | cons entry entries ih =>
      obtain ⟨hentry, hentries⟩ := List.nodup_cons.1 h
      rw [List.map_cons, ← List.singleton_append, lastValue?_append, lastValue?_singleton,
        ih hentries, List.find?_cons]
      by_cases hname : entry.1 = name
      · have hrest : entries.find? (fun entry => entry.1 = name) = none := by
          apply List.find?_eq_none.2
          intro other hother heq
          have hfst := hname.trans (of_decide_eq_true heq).symm
          exact hentry (hfst ▸ List.mem_map_of_mem hother)
        simp [hname, hrest]
      · simp [hname]

end Json

/-- The members of an object. -/
def Json.members : Json → List (String × Json)
  | .object members => members
  | _ => []

/-- The members of the object that is printed for a row of a summary. -/
def SummaryRow.printed (group : SummaryRow) : List (String × Json) := group.toJson.canonical.members

/-- What the object printed for a row of a summary says of it: the values of the group fields, the
count, and the sum if there is one. The value of a field that has the name of the count, or of a sum
that is there, is left out. -/
structure Prints (key : GroupKey) (sumField : Option String) (group : SummaryRow)
    (members : List (String × Json)) : Prop where
  value : ∀ field ∈ key.fields, field ≠ "Count" → (sumField.isSome → field ≠ "Sum") →
    ∃ text, group.value? field = some text ∧ member? members field = some (some (.string text))
  count : member? members "Count" = some (some (.integer group.count))
  sum_some : sumField.isSome → ∃ sum, group.sum = some sum ∧
    member? members "Sum" = some (some (sumJson sum))
  sum_none : sumField = none → "Sum" ∉ key.fields → member? members "Sum" = some none

namespace SummaryRow

variable {key : GroupKey} {sumField : Option String} {rows : List Row} {group : SummaryRow}

theorem canonical_sumJson (x : Float) : (sumJson x).canonical = sumJson x := by
  rw [sumJson]
  split
  · rfl
  · rfl

/-! ## The members of a row -/

/-- A name stands for the count, or else for the sum, or else for the value of a field. -/
theorem member?_printed (hkeys : (group.keys.map Prod.fst).Nodup) (name : String) :
    member? group.printed name =
      some ((if "Count" = name then some (.integer group.count) else none).or
        ((group.sum.bind fun x => if "Sum" = name then some (sumJson x) else none).or
          ((group.value? name).map .string))) := by
  have hmembers : group.printed = canonicalMembers [] (group.keys.map (fun entry =>
      (entry.1, .string entry.2)) ++ (group.sum.map fun x => ("Sum", sumJson x)).toList ++
        [("Count", .integer group.count)]) := rfl
  have hsum : (lastValue? (group.sum.map fun x => ("Sum", sumJson x)).toList name) =
      group.sum.bind fun x => if "Sum" = name then some (sumJson x) else none := by
    cases group.sum with
    | none => rfl
    | some x => exact lastValue?_singleton ("Sum", sumJson x) name
  rw [hmembers, member?_canonicalMembers, lastValue?_append, lastValue?_append,
    lastValue?_singleton, lastValue?_strings hkeys, hsum, value?]
  -- the values are as they are in canonical form
  congr 1
  by_cases hcount : "Count" = name
  · simp [hcount, canonical]
  · cases group.sum with
    | none =>
        simp [hcount, Function.comp_def, canonical]
    | some x =>
        by_cases hname : "Sum" = name
        · simp [hcount, hname, canonical_sumJson]
        · simp [hcount, hname, Function.comp_def, canonical]

theorem value?_isSome_iff {field : String} :
    (group.value? field).isSome ↔ field ∈ group.keys.map Prod.fst := by
  simp [value?]

/-! ## The rows of a summary -/

/-- A row of a summary has an entry for each field of the key, counts no more rows than there are,
and has a sum if a field is added up. -/
theorem of_mem_summarize (hgroup : group ∈ summarize rows key sumField) :
    group.keys.map Prod.fst = key.fields ∧ group.count ≤ rows.length ∧
      group.sum.isSome = sumField.isSome := by
  rw [summarize_eq] at hgroup
  obtain ⟨values, hvalues, rfl⟩ := List.mem_map.1 hgroup
  obtain ⟨row, -, rfl⟩ := List.mem_map.1 (List.mem_eraseDups.1 hvalues)
  refine ⟨?_, ?_, ?_⟩
  · apply List.map_fst_zip
    simp [tallyOver, groupValues]
  · exact List.length_filter_le _ rows
  · rw [Tally.toRow, Option.isSome_map]

/-- Each row of a summary is printed as an object that says what it has to. -/
theorem prints_printed (hkey : key.Valid) (hgroup : group ∈ summarize rows key sumField) :
    Prints key sumField group group.printed := by
  obtain ⟨hfields, -, hsum⟩ := of_mem_summarize hgroup
  have hmember := member?_printed (hfields ▸ hkey.fields_nodup)
  refine ⟨?_, ?_, ?_, ?_⟩
  · intro field hfield hcount hname
    rw [← hfields, ← value?_isSome_iff] at hfield
    obtain ⟨text, htext⟩ := Option.isSome_iff_exists.1 hfield
    refine ⟨text, htext, ?_⟩
    -- neither the count nor a sum has the name, so the value is what is left of it
    have hnosum : (group.sum.bind fun x => if "Sum" = field then some (sumJson x) else none) =
        none := by
      cases hgiven : group.sum with
      | none => rfl
      | some x =>
          have hsome : sumField.isSome = true := by rw [← hsum, hgiven, Option.isSome_some]
          rw [Option.bind_some, if_neg (hname hsome).symm]
    rw [hmember, if_neg hcount.symm, hnosum, htext]
    rfl
  · rw [hmember, if_pos rfl]
    rfl
  · intro hsome
    obtain ⟨sum, hgiven⟩ := Option.isSome_iff_exists.1 (hsum.trans hsome)
    refine ⟨sum, hgiven, ?_⟩
    rw [hmember, hgiven]
    rfl
  · -- without a sum the name could only stand for a field
    rintro rfl hnew
    have hnosum : group.sum = none := by simpa using hsum
    have hnovalue : group.value? "Sum" = none := by
      rw [← Option.not_isSome_iff_eq_none, value?_isSome_iff, hfields]
      exact hnew
    rw [hmember, hnosum, hnovalue]
    rfl

/-! ## Writing -/

theorem fitsWord_wholeWord? {x : Float} {n : Int} (h : wholeWord? x = some n) : FitsWord n := by
  have hpow : Nat.pow 2 63 = 2 ^ 63 ∧ maxWord = 2 ^ 64 - 1 := ⟨rfl, rfl⟩
  rw [wholeWord?] at h
  split at h
  · -- what lies beyond the signed words was cut off
    obtain rfl := Option.some.inj h
    rw [FitsWord, wordBounds, hpow.1, hpow.2]
    omega
  · cases h

theorem writable_sumJson (depth : Nat) (x : Float) : Writable depth (sumJson x) := by
  rw [sumJson]
  split
  · rename_i n hn
    exact .integer depth (fitsWord_wholeWord? hn)
  · exact .null depth

theorem writable_toJson {depth : Nat} (hdepth : depth < maxDepth) (hcount : group.count ≤ maxWord) :
    Writable depth group.toJson := by
  refine .object hdepth ?_
  intro m hm
  rcases List.mem_append.1 hm with hm | hm
  · rcases List.mem_append.1 hm with hm | hm
    · obtain ⟨entry, -, rfl⟩ := List.mem_map.1 hm
      exact .string _ _
    · obtain ⟨x, -, rfl⟩ := Option.map_eq_some_iff.1 (Option.mem_toList.1 hm)
      exact writable_sumJson _ x
  · obtain rfl := List.mem_singleton.1 hm
    refine .integer _ ⟨?_, ?_⟩
    · omega
    · exact Int.ofNat_le.2 hcount

end SummaryRow

end Rulebook
