import Mathlib

/-!
# The bits of doubles

A finite double that is not zero is a sign, a mantissa and an exponent in one way only: the mantissa
has 53 bits, or fewer with the least exponent (`Canonical`). Such a value is packed into 64 bits and
unpacked again without loss (`unpack_pack_finite`), and nothing else is unpacked to a finite value
(`canonical_of_unpack`). So doubles are equal where their values are. What is a number stays one when
it is packed (`isNaN_ofUnpacked`) and when its sign is turned (`isNaN_neg`).
-/

set_option autoImplicit false

namespace Rulebook.Double

open Float.Model Float.Model.UnpackedFloat

/-- The mantissas and exponents of finite doubles. -/
structure Canonical (m : Nat) (e : Int) : Prop where
  pos : 0 < m
  lt : m < 2 ^ 53
  le_exponent : -1074 ≤ e
  exponent_le : e ≤ 971
  full : e ≠ -1074 → 2 ^ 52 ≤ m

variable {m : Nat} {e : Int}

/-! ## The parts of a word -/

variable (s : Sign) (exponent : BitVec 11) (mantissa : BitVec 52)

/-- A word is put together from its parts. -/
theorem exists_parts (b : BitVec Format.binary64.numBits) :
    ∃ (s : Sign) (exponent : BitVec 11) (mantissa : BitVec 52),
      packComponents .binary64 s exponent mantissa = b := by
  exact ⟨_, _, _, packComponents_unpackSign_unpackExponent_unpackMantissa b⟩

/-- The leading bit of a full mantissa is not stored. -/
theorem toNat_leading_append : (1#1 ++ mantissa).toNat = 2 ^ 52 + mantissa.toNat := by
  rw [BitVec.toNat_append, ← Nat.shiftLeft_add_eq_or_of_lt mantissa.isLt]
  simp [Nat.shiftLeft_eq]

theorem log2_eq_of_full (hlow : 2 ^ 52 ≤ m) (hhigh : m < 2 ^ 53) : m.log2 = 52 := by
  have hle : 52 ≤ m.log2 := (Nat.le_log2 (by omega)).2 hlow
  have hlt : m.log2 < 53 := (Nat.log2_lt (by omega)).2 hhigh
  omega

/-! ## Packing -/

variable {s}

/-- The exponent is stored with a bias that lets the mantissa count as whole. -/
theorem biased_exponent (e : Int) : (e + (Format.binary64.exponentBias : Nat) +
    (Format.binary64.mantissaBitsWithoutImplicit : Nat)).toNat = (e + 1075).toNat := by
  show (e + (1023 : Nat) + (52 : Nat)).toNat = _
  omega

/-- A full mantissa is stored with its exponent. -/
theorem pack_full (hlow : 2 ^ 52 ≤ m) (hhigh : m < 2 ^ 53) (hleast : -1074 ≤ e) (hmost : e ≤ 971)
    (hm : 0 < m) : UnpackedFloat.pack .binary64 (.finite s m e hm) =
      packComponents .binary64 s (BitVec.ofNat 11 (e + 1075).toNat) (BitVec.ofNat 52 m) := by
  have hfull : m.log2 + 1 = Format.binary64.mantissaBits := by
    rw [log2_eq_of_full hlow hhigh]
    rfl
  simp only [UnpackedFloat.pack, biased_exponent e]
  rw [if_neg (by show ¬ 2 ^ 11 ≤ _; omega), if_pos hfull]

/-- A smaller mantissa is stored without an exponent. -/
theorem pack_small (hhigh : m < 2 ^ 52) (hm : 0 < m) :
    UnpackedFloat.pack .binary64 (.finite s m (-1074) hm) =
      packComponents .binary64 s 0#11 (BitVec.ofNat 52 m) := by
  have hsmall : ¬ m.log2 + 1 = Format.binary64.mantissaBits := by
    have hlt : m.log2 < 52 := (Nat.log2_lt (by omega)).2 hhigh
    show ¬ m.log2 + 1 = 53
    omega
  simp only [UnpackedFloat.pack, biased_exponent (-1074)]
  rw [if_neg (by decide), if_neg hsmall]

/-! ## Unpacking -/

variable {exponent mantissa}

/-- What is stored with an exponent is unpacked with the leading bit. -/
theorem unpack_full (hzero : exponent ≠ 0#11) (hones : exponent ≠ -1#11)
    (hpos : 0 < (1#1 ++ mantissa).toNat) :
    UnpackedFloat.unpack .binary64 (packComponents .binary64 s exponent mantissa) =
      .finite s (1#1 ++ mantissa).toNat (exponent.toNat - 1075) hpos := by
  simp only [UnpackedFloat.unpack, unpackMantissa_packComponents, unpackExponent_packComponents,
    unpackSign_packComponents, Sign.ofBitVec_toBitVec, if_neg hones, if_neg hzero]
  rfl

/-- What is stored without an exponent is unpacked as it is. -/
theorem unpack_small (hne : mantissa ≠ 0#52) (hpos : 0 < mantissa.toNat) :
    UnpackedFloat.unpack .binary64 (packComponents .binary64 s 0#11 mantissa) =
      .finite s mantissa.toNat (-1074) hpos := by
  simp only [UnpackedFloat.unpack, unpackMantissa_packComponents, unpackExponent_packComponents,
    unpackSign_packComponents, Sign.ofBitVec_toBitVec]
  rw [if_neg (by decide), if_pos trivial, dif_neg hne]
  rfl

/-- Only the exponent in which all bits are set marks what is no number. -/
theorem isNaN_unpack_components (hones : exponent ≠ -1#11) :
    (UnpackedFloat.unpack .binary64 (packComponents .binary64 s exponent mantissa)).isNaN =
      false := by
  simp only [UnpackedFloat.unpack, unpackMantissa_packComponents, unpackExponent_packComponents,
    unpackSign_packComponents, if_neg hones]
  split
  · split <;> rfl
  · rfl

/-! ## There and back -/

/-- A canonical value comes back. -/
theorem unpack_pack_finite (h : Canonical m e) (hpos : 0 < m) :
    UnpackedFloat.unpack .binary64 (UnpackedFloat.pack .binary64 (.finite s m e hpos)) =
      .finite s m e hpos := by
  have hleast := h.le_exponent
  have hmost := h.exponent_le
  have hlt := h.lt
  by_cases hfull : 2 ^ 52 ≤ m
  · have hstored : (BitVec.ofNat 11 (e + 1075).toNat).toNat = (e + 1075).toNat := by
      rw [BitVec.toNat_ofNat]
      omega
    have hzero : BitVec.ofNat 11 (e + 1075).toNat ≠ 0#11 := by
      intro heq
      rw [heq] at hstored
      have hnone : (0#11).toNat = 0 := rfl
      omega
    have hones : BitVec.ofNat 11 (e + 1075).toNat ≠ -1#11 := by
      intro heq
      rw [heq] at hstored
      have hall : (-1#11).toNat = 2047 := rfl
      omega
    have hmantissa : (1#1 ++ BitVec.ofNat 52 m).toNat = m := by
      rw [toNat_leading_append, BitVec.toNat_ofNat]
      omega
    have hexponent : ((e + 1075).toNat : Int) - 1075 = e := by omega
    rw [pack_full hfull hlt hleast hmost, unpack_full hzero hones (by rw [hmantissa]; exact hpos)]
    simp only [hmantissa, hstored, hexponent]
  · obtain rfl : e = -1074 := by
      by_contra hne
      exact hfull (h.full hne)
    have hmantissa : (BitVec.ofNat 52 m).toNat = m := by
      rw [BitVec.toNat_ofNat]
      omega
    have hne : BitVec.ofNat 52 m ≠ 0#52 := by
      intro heq
      rw [heq] at hmantissa
      have hnone : (0#52).toNat = 0 := rfl
      omega
    rw [pack_small (by omega), unpack_small hne (by rw [hmantissa]; exact hpos)]
    simp only [hmantissa]

/-- A word that is unpacked to a finite value has a canonical one. -/
theorem canonical_of_unpack {b : BitVec Format.binary64.numBits} {hpos : 0 < m}
    (h : UnpackedFloat.unpack .binary64 b = .finite s m e hpos) : Canonical m e := by
  obtain ⟨sign, exponent, mantissa, rfl⟩ := exists_parts b
  have hsmall := mantissa.isLt
  have hexponent := exponent.isLt
  by_cases hones : exponent = -1#11
  · -- the exponent of infinity and of what is no number
    simp only [UnpackedFloat.unpack, unpackExponent_packComponents, if_pos hones] at h
    split at h <;> cases h
  by_cases hzero : exponent = 0#11
  · by_cases hmantissa : mantissa = 0#52
    · rw [hzero, hmantissa] at h
      cases sign <;> cases h
    · have hstored : 0 < mantissa.toNat := by
        simpa [BitVec.toNat_pos, BitVec.pos_iff_ne_zero]
      rw [hzero, unpack_small hmantissa hstored] at h
      obtain ⟨-, rfl, rfl⟩ := UnpackedFloat.finite.inj h
      exact ⟨hpos, by omega, by omega, by omega, by omega⟩
  · have hleading := toNat_leading_append mantissa
    have hpositive : exponent.toNat ≠ 0 := fun heq => hzero (BitVec.eq_of_toNat_eq heq)
    have hbelow : exponent.toNat ≠ 2047 := fun heq => hones (BitVec.eq_of_toNat_eq heq)
    rw [unpack_full hzero hones (by omega)] at h
    obtain ⟨-, rfl, rfl⟩ := UnpackedFloat.finite.inj h
    exact ⟨hpos, by omega, by omega, by omega, by omega⟩

/-! ## Doubles -/

/-- The double of an unpacked value. -/
def ofUnpacked (u : UnpackedFloat) : Float := .ofModel (.pack u)

/-- A double is the double of what it is unpacked to. -/
theorem ofUnpacked_unpack (x : Float) : ofUnpacked x.toModel.unpack = x := by
  have hbits := pack_unpack_of_valid x.toModel.valid
  simp only [ofUnpacked, Float.Model.pack, Float.Model.unpack, hbits]

theorem canonical_of_finite {x : Float} {hpos : 0 < m}
    (h : x.toModel.unpack = .finite s m e hpos) : Canonical m e :=
  canonical_of_unpack h

theorem unpack_ofUnpacked_finite (h : Canonical m e) (hpos : 0 < m) :
    (ofUnpacked (.finite s m e hpos)).toModel.unpack = .finite s m e hpos :=
  unpack_pack_finite h hpos

/-- The negative of a finite double has the other sign. -/
theorem neg_ofUnpacked_finite (h : Canonical m e) (hpos : 0 < m) :
    -ofUnpacked (.finite s m e hpos) = ofUnpacked (.finite (-s) m e hpos) := by
  show ofUnpacked (ofUnpacked (.finite s m e hpos)).toModel.unpack.neg = _
  rw [unpack_ofUnpacked_finite h hpos]
  rfl

/-- What is equal to a finite double by the comparison of doubles is that double. -/
theorem eq_of_beq_finite {x y : Float} {hpos : 0 < m}
    (h : x.toModel.unpack = .finite s m e hpos) (heq : (y == x) = true) : y = x := by
  obtain ⟨-, -, hsame | ⟨-, hzero⟩ | ⟨-, hzero⟩⟩ := Float.beq_iff_ne_nan_and_eq.1 heq
  · exact hsame
  -- the two zeros are equal, but are not finite in this sense
  · rw [hzero] at h
    cases h
  · rw [hzero] at h
    cases h

/-- A value that is a number is one as a double, even if it is too large for a finite one. -/
theorem isNaN_ofUnpacked {u : UnpackedFloat} (h : u.isNaN = false) :
    (ofUnpacked u).isNaN = false := by
  have hinfinite : ∀ s : Sign,
      (UnpackedFloat.unpack .binary64 (packedInfinity .binary64 s)).isNaN = false := by
    intro s
    cases s <;> rfl
  show (UnpackedFloat.unpack .binary64 (UnpackedFloat.pack .binary64 u)).isNaN = false
  cases u with
  | notANumber => cases h
  | infinity s => exact hinfinite s
  | zero s => cases s <;> rfl
  | finite s m e hpos =>
      simp only [UnpackedFloat.pack, biased_exponent e]
      split
      · exact hinfinite s
      · rename_i hfits
        have hbelow : (e + 1075).toNat + 1 < 2048 := Nat.not_le.1 hfits
        split
        · apply isNaN_unpack_components
          intro hones
          have hstored := congrArg BitVec.toNat hones
          have hall : (-1#11).toNat = 2047 := rfl
          rw [hall, BitVec.toNat_ofNat] at hstored
          omega
        · exact isNaN_unpack_components (by decide)

/-- The negative of a number is one. -/
theorem isNaN_neg {x : Float} (h : x.isNaN = false) : (-x).isNaN = false := by
  have hunpacked : x.toModel.unpack.isNaN = false := h
  show (ofUnpacked x.toModel.unpack.neg).isNaN = false
  apply isNaN_ofUnpacked
  generalize x.toModel.unpack = u at hunpacked
  cases u with
  | notANumber => cases hunpacked
  | infinity s | zero s | finite s m e hpos => rfl

end Rulebook.Double
