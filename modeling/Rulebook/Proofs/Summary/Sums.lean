import Rulebook.Proofs.Double.Value
import Rulebook.Proofs.Json.RoundTrip
import Rulebook.Proofs.Summary.Codec
import Rulebook.Proofs.Summary.FirstRows

/-!
# Printed sums

The sum of a row of a summary is a whole number, as long as it is finite, and it is printed as a
whole number under `Sum`. The number that is printed is the sum exactly if the sum is a signed
64-bit word; a sum beyond the words is printed as the last word on its side
(`SummaryRow.sum_printed`).
-/

set_option autoImplicit false

namespace Rulebook

open Json Double

namespace SummaryRow

variable {rows : List Row} {key : GroupKey} {sumField : Option String} {group : SummaryRow}
  {sum : Float}

/-- The sum of a row of a summary has been rounded. -/
theorem exists_sum_eq_roundHalfUp (hgroup : group ∈ summarize rows key sumField)
    (hsum : group.sum = some sum) : ∃ total, sum = roundHalfUp total := by
  obtain ⟨row, -, rfl⟩ := exists_groupOf_eq hgroup
  obtain ⟨-, -, rfl⟩ := Option.map_eq_some_iff.1 hsum
  exact ⟨_, rfl⟩

/-- A finite sum is a whole number. -/
theorem exists_toRat?_sum (hgroup : group ∈ summarize rows key sumField)
    (hsum : group.sum = some sum) (hfinite : sum.isFinite = true) :
    ∃ whole : ℤ, toRat? sum = some (whole : ℚ) := by
  obtain ⟨total, rfl⟩ := exists_sum_eq_roundHalfUp hgroup hsum
  have htotal := isFinite_of_roundHalfUp hfinite
  rw [← isSome_toRat?] at htotal
  obtain ⟨v, hv⟩ := Option.isSome_iff_exists.1 htotal
  exact ⟨_, toRat?_roundHalfUp hv⟩

/-- The members of a row that are whole numbers are the sum and the count. -/
theorem sum_mem_members_iff (hsum : group.sum = some sum) {n : ℤ} :
    ("Sum", .integer n) ∈ group.toJson.members ↔ sumJson sum = .integer n := by
  simp [toJson, members, hsum, eq_comm]

/-- A whole sum is printed as the nearest word. -/
theorem sum_mem_members_iff_of_toRat? (hsum : group.sum = some sum) {whole : ℤ}
    (hwhole : toRat? sum = some (whole : ℚ)) {n : ℤ} :
    ("Sum", .integer n) ∈ group.toJson.members ↔ n = max (-2 ^ 63) (min (2 ^ 63 - 1) whole) := by
  rw [sum_mem_members_iff hsum, sumJson, wholeWord?_of_toRat? hwhole]
  simp [eq_comm]

/-- A finite sum of a row of a summary is a whole number, and the object for the row has a whole
number under `Sum`: the sum itself exactly if this is a signed 64-bit word, and else the last word
on its side. As long as the rows can be counted in a machine word, the text of the object is read as
the object. -/
theorem sum_printed (hgroup : group ∈ summarize rows key sumField) (hsum : group.sum = some sum)
    (hfinite : sum.isFinite = true) :
    ∃ whole : ℤ, toRat? sum = some (whole : ℚ) ∧
      (∀ n, ("Sum", .integer n) ∈ group.toJson.members ↔
        n = max (-2 ^ 63) (min (2 ^ 63 - 1) whole)) ∧
      ((∃ n : ℤ, ("Sum", .integer n) ∈ group.toJson.members ∧ toRat? sum = some (n : ℚ)) ↔
        -2 ^ 63 ≤ whole ∧ whole < 2 ^ 63) ∧
      (rows.length ≤ maxWord → read? group.toJson.compact = some group.toJson) := by
  obtain ⟨whole, hwhole⟩ := exists_toRat?_sum hgroup hsum hfinite
  refine ⟨whole, hwhole, fun n => sum_mem_members_iff_of_toRat? hsum hwhole, ?_, ?_⟩
  · simp only [sum_mem_members_iff_of_toRat? hsum hwhole, toRat?_eq_intCast_iff hwhole,
      exists_eq_left]
    omega
  · intro hrows
    obtain ⟨-, hcount, -⟩ := of_mem_summarize hgroup
    exact read?_compact (writable_toJson (by decide) (hcount.trans hrows))

/-- Two rows whose numbers add up to a half more than a whole number. -/
def halves : List Row :=
  [.ofCells [("Rule", "big"), ("Sales", "1499.5")], .ofCells [("Rule", "big"), ("Sales", "1e3")]]

theorem sum_printed_halves :
    ∃ group ∈ summarize halves .standard (some "Sales"), ∃ sum : Float, group.sum = some sum ∧
      sum.isFinite = true ∧ ("Sum", .integer 2500) ∈ group.toJson.members ∧
      toRat? sum = some (2500 : ℤ) ∧ read? group.toJson.compact = some group.toJson := by
  have hgroup : ⟨[("Rule", "big")], 2, some 2500⟩ ∈ summarize halves .standard (some "Sales") :=
    List.mem_singleton_self _
  have hfinite : (2500 : Float).isFinite = true := by decide
  obtain ⟨whole, hwhole, hmember, -, hread⟩ := sum_printed hgroup rfl hfinite
  have hvalue : toRat? 2500 = some ((2500 : ℤ) : ℚ) := @toRat?_ofInt 2500 (by decide)
  obtain rfl := (toRat?_eq_intCast_iff hwhole).1 hvalue
  exact ⟨_, hgroup, 2500, rfl, hfinite, (hmember 2500).2 (by decide), hvalue, hread (by decide)⟩

/-- A row with a number beyond the words. -/
def beyond : List Row := [.ofCells [("Sales", "1e19")]]

/-- A sum beyond the words is printed as another number. -/
theorem sum_beyond_words :
    ∃ group ∈ summarize beyond .standard (some "Sales"), ∃ sum : Float, group.sum = some sum ∧
      sum.isFinite = true ∧ toRat? sum = some ((10 ^ 19 : ℤ) : ℚ) ∧
      ("Sum", .integer (2 ^ 63 - 1)) ∈ group.toJson.members ∧
      ¬ ∃ n : ℤ, ("Sum", .integer n) ∈ group.toJson.members ∧ toRat? sum = some (n : ℚ) := by
  have hgroup : ⟨[("Rule", "Unmatched")], 1, some 1e19⟩ ∈
      summarize beyond .standard (some "Sales") := List.mem_singleton_self _
  have hvalue : toRat? 1e19 = some ((10 ^ 19 : ℤ) : ℚ) := by
    have hfinite : Binary.ofFloat 1e19 = .finite false (5 ^ 19 * 2 ^ 8) 11 := by decide
    rw [toRat?_of_finite hfinite, number_pos]
    norm_num
  refine ⟨_, hgroup, 1e19, rfl, by decide, hvalue,
    (sum_mem_members_iff_of_toRat? rfl hvalue).2 (by decide), ?_⟩
  rintro ⟨n, hmember, hsame⟩
  rw [sum_mem_members_iff_of_toRat? rfl hvalue] at hmember
  rw [toRat?_eq_intCast_iff hvalue] at hsame
  omega

end SummaryRow

end Rulebook
