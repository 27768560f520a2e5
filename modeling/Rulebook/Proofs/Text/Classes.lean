import Rulebook.Text.Blank
import Rulebook.Text.Word

/-!
# Classes of characters that exclude one another

There are 25 characters of white space and 128 of ASCII, so what holds of each of their codes holds
of all of them (`forall_isBlank`, `forall_ascii`). No word character is white space
(`isBlank_of_isWordChar`).
-/

set_option autoImplicit false

namespace Rulebook.Text

/-- The codes of white space, one by one. -/
def blankCodes : List Nat := blankRanges.flatMap fun r => List.range' r.1 (r.2 + 1 - r.1)

theorem toNat_mem_blankCodes {c : Char} (h : isBlank c = true) : c.toNat ∈ blankCodes := by
  obtain ⟨r, hr, hlow, hhigh⟩ := (inRanges_iff ascending_blankRanges c.toNat).1 h
  refine List.mem_flatMap.2 ⟨r, hr, ?_⟩
  rw [List.mem_range'_1]
  omega

/-- What holds of each code of white space holds of white space. -/
theorem forall_isBlank {p : Char → Prop} (h : ∀ n ∈ blankCodes, p (Char.ofNat n)) {c : Char}
    (hc : isBlank c = true) : p c := by
  have hp := h c.toNat (toNat_mem_blankCodes hc)
  rwa [Char.ofNat_toNat] at hp

/-- What holds of each code of ASCII holds of its characters. -/
theorem forall_ascii {p : Char → Prop} (h : ∀ n < 128, p (Char.ofNat n)) {c : Char}
    (hc : c.toNat < 128) : p c := by
  have hp := h c.toNat hc
  rwa [Char.ofNat_toNat] at hp

theorem isWordChar_of_isBlank {c : Char} (h : isBlank c = true) : isWordChar c = false :=
  forall_isBlank (p := fun c => isWordChar c = false) (by decide) h

theorem isBlank_of_isWordChar {c : Char} (h : isWordChar c = true) : isBlank c = false := by
  rw [← Bool.not_eq_true]
  intro hblank
  rw [isWordChar_of_isBlank hblank] at h
  cases h

end Rulebook.Text
