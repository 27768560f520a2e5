import Rulebook.Proofs.Text.Standing
import Rulebook.Text.Parts

/-!
# Texts as bytes

`encode` is a text in bytes. Positions in a text count them: behind the width of a front the bytes
of the rest begin (`drop_encode`). A character of ASCII is one byte, and the bytes of any other are
beyond ASCII. So whoever looks for blanks or for a word in any case finds the same among the bytes
as among the characters (`takeWhile_encode`, `foldByte_take_eq_iff`).
-/

set_option autoImplicit false

namespace Rulebook.Text

/-- The bytes of a text. -/
def encode (text : List Char) : List UInt8 := text.flatMap String.utf8EncodeChar

/-- A position between two characters of a text or at one of its ends. -/
def IsBoundary (text : List Char) (position : Nat) : Prop :=
  ∃ front, front <+: text ∧ width front = position

/-- The byte of a space, tab, line feed, form feed or carriage return. -/
def isBlankByte (b : UInt8) : Bool := b = 0x20 || b = 0x09 || b = 0x0A || b = 0x0C || b = 0x0D

/-- The byte of an ASCII letter in lower case, any other byte as it is. -/
def foldByte (b : UInt8) : UInt8 := if 0x41 ≤ b ∧ b ≤ 0x5A then b + 0x20 else b

variable {c : Char} {word spelled text : List Char}

/-! ## Positions -/

theorem encode_nil : encode [] = [] := rfl

theorem encode_cons (c : Char) (text : List Char) :
    encode (c :: text) = String.utf8EncodeChar c ++ encode text := rfl

theorem encode_append (front rest : List Char) :
    encode (front ++ rest) = encode front ++ encode rest :=
  List.flatMap_append

theorem length_encode (text : List Char) : (encode text).length = width text := by
  induction text with
  | nil => rfl
  | cons c text ih => rw [encode_cons, List.length_append, String.length_utf8EncodeChar, ih, width]

theorem width_append (front rest : List Char) :
    width (front ++ rest) = width front + width rest := by
  rw [← length_encode, encode_append, List.length_append, length_encode, length_encode]

/-- Behind the width of a front the bytes of the rest begin. -/
theorem drop_encode (front rest : List Char) :
    (encode (front ++ rest)).drop (width front) = encode rest := by
  rw [encode_append, ← length_encode, List.drop_left]

/-! ## Characters of ASCII and others -/

/-- A character of ASCII is one byte. -/
theorem encode_cons_of_lt (h : c.toNat < 128) (text : List Char) :
    encode (c :: text) = UInt8.ofNat c.toNat :: encode text := by
  have hbyte : String.utf8EncodeChar c = [UInt8.ofNat c.toNat] := if_pos (Nat.le_of_lt_succ h)
  rw [encode_cons, hbyte, List.singleton_append]

/-- The bytes of a character beyond ASCII are beyond ASCII, each with its highest bit set. -/
theorem le_toNat_of_mem_utf8EncodeChar (h : 128 ≤ c.toNat) {b : UInt8}
    (hb : b ∈ String.utf8EncodeChar c) : 128 ≤ b.toNat := by
  have hbeyond : ¬ c.val.toNat ≤ 127 := Nat.not_le.2 h
  have hhigh : ∀ n, 128 ≤ n → n < 256 → 128 ≤ (UInt8.ofNat n).toNat := by
    intro n hlow hlt
    rwa [UInt8.toNat_ofNat', Nat.mod_eq_of_lt hlt]
  rw [String.utf8EncodeChar, if_neg hbeyond] at hb
  split at hb
  · simp only [List.mem_cons, List.not_mem_nil, or_false] at hb
    rcases hb with rfl | rfl <;> exact hhigh _ (by omega) (by omega)
  · split at hb
    · simp only [List.mem_cons, List.not_mem_nil, or_false] at hb
      rcases hb with rfl | rfl | rfl <;> exact hhigh _ (by omega) (by omega)
    · simp only [List.mem_cons, List.not_mem_nil, or_false] at hb
      rcases hb with rfl | rfl | rfl | rfl <;> exact hhigh _ (by omega) (by omega)

theorem exists_encode_cons_of_le (h : 128 ≤ c.toNat) (text : List Char) :
    ∃ b bytes, encode (c :: text) = b :: bytes ∧ 128 ≤ b.toNat := by
  cases hbytes : String.utf8EncodeChar c with
  | nil =>
      have hsize := String.length_utf8EncodeChar c
      rw [hbytes] at hsize
      exact absurd hsize (Nat.ne_of_lt c.utf8Size_pos)
  | cons b bytes =>
      refine ⟨b, bytes ++ encode text, by rw [encode_cons, hbytes, List.cons_append], ?_⟩
      exact le_toNat_of_mem_utf8EncodeChar h (hbytes ▸ List.mem_cons_self)

/-- Characters of ASCII count one byte each. -/
theorem width_eq_length (h : ∀ c ∈ text, c.toNat < 128) : width text = text.length := by
  rw [← length_encode]
  induction text with
  | nil => rfl
  | cons c text ih =>
      obtain ⟨hc, htext⟩ := List.forall_mem_cons.1 h
      rw [encode_cons_of_lt hc, List.length_cons, ih htext, List.length_cons]

/-! ## Blanks -/

theorem toNat_lt_of_isAsciiBlank (h : isAsciiBlank c = true) : c.toNat < 128 := by
  simp only [isAsciiBlank, Bool.or_eq_true, decide_eq_true_eq] at h
  rcases h with (((rfl | rfl) | rfl) | rfl) | rfl <;> decide

theorem isBlankByte_ofNat (h : c.toNat < 128) :
    isBlankByte (UInt8.ofNat c.toNat) = isAsciiBlank c :=
  forall_ascii (p := fun c => isBlankByte (UInt8.ofNat c.toNat) = isAsciiBlank c) (by decide) h

theorem isBlankByte_of_le {b : UInt8} (h : 128 ≤ b.toNat) : isBlankByte b = false := by
  rw [← Bool.not_eq_true]
  intro hblank
  simp only [isBlankByte, Bool.or_eq_true, decide_eq_true_eq] at hblank
  rcases hblank with (((rfl | rfl) | rfl) | rfl) | rfl <;> exact absurd h (by decide)

/-- No byte of a character that is no blank is a blank byte. -/
theorem isBlankByte_of_mem_utf8EncodeChar (h : isAsciiBlank c = false) {b : UInt8}
    (hb : b ∈ String.utf8EncodeChar c) : isBlankByte b = false := by
  by_cases hlt : c.toNat < 128
  · have hbytes := encode_cons_of_lt hlt []
    rw [encode_cons, encode_nil, List.append_nil] at hbytes
    rw [hbytes, List.mem_singleton] at hb
    rw [hb, isBlankByte_ofNat hlt, h]
  · exact isBlankByte_of_le (le_toNat_of_mem_utf8EncodeChar (Nat.not_lt.1 hlt) hb)

/-- A text begins with a blank exactly if its bytes begin with a blank byte. -/
theorem exists_encode_cons (c : Char) (text : List Char) :
    ∃ b bytes, encode (c :: text) = b :: bytes ∧ isBlankByte b = isAsciiBlank c := by
  by_cases hlt : c.toNat < 128
  · exact ⟨_, _, encode_cons_of_lt hlt text, isBlankByte_ofNat hlt⟩
  · obtain ⟨b, bytes, hbytes, hb⟩ := exists_encode_cons_of_le (Nat.not_lt.1 hlt) text
    have hc : isAsciiBlank c = false := by
      rw [← Bool.not_eq_true]
      exact fun hblank => hlt (toNat_lt_of_isAsciiBlank hblank)
    exact ⟨b, bytes, hbytes, by rw [isBlankByte_of_le hb, hc]⟩

/-- The blank bytes in front of a text are those of the blanks in front. -/
theorem takeWhile_encode (text : List Char) :
    (encode text).takeWhile isBlankByte = encode (text.takeWhile isAsciiBlank) := by
  induction text with
  | nil => rfl
  | cons c text ih =>
      cases hc : isAsciiBlank c with
      | true =>
          have hlt := toNat_lt_of_isAsciiBlank hc
          have hb : isBlankByte (UInt8.ofNat c.toNat) = true := by rw [isBlankByte_ofNat hlt, hc]
          rw [encode_cons_of_lt hlt, List.takeWhile_cons_of_pos hb, ih,
            List.takeWhile_cons_of_pos hc, encode_cons_of_lt hlt]
      | false =>
          obtain ⟨b, bytes, hbytes, hb⟩ := exists_encode_cons c text
          rw [hbytes, List.takeWhile_cons_of_neg (by simp [hb, hc]),
            List.takeWhile_cons_of_neg (by simp [hc]), encode_nil]

/-! ## Words -/

theorem foldByte_ofNat (h : c.toNat < 128) :
    foldByte (UInt8.ofNat c.toNat) = UInt8.ofNat (foldAscii c).toNat :=
  forall_ascii (p := fun c => foldByte (UInt8.ofNat c.toNat) = UInt8.ofNat (foldAscii c).toNat)
    (by decide) h

/-- Folding does not lead out of ASCII, nor into it. -/
theorem toNat_foldAscii_lt_iff (c : Char) : (foldAscii c).toNat < 128 ↔ c.toNat < 128 := by
  constructor
  · intro h
    rw [foldAscii] at h
    split at h
    · rename_i hupper
      exact Nat.lt_of_le_of_lt hupper.2 (by decide)
    · exact h
  · exact forall_ascii (p := fun c => (foldAscii c).toNat < 128) (by decide)

theorem foldByte_of_le {b : UInt8} (h : 128 ≤ b.toNat) : foldByte b = b := by
  refine if_neg fun hupper => ?_
  have hle : b.toNat ≤ 0x5A := hupper.2
  omega

/-- Two characters of ASCII are the same letter exactly if their bytes are. -/
theorem foldByte_ofNat_eq_iff {w : Char} (hw : w.toNat < 128) (hc : c.toNat < 128) :
    foldByte (UInt8.ofNat c.toNat) = foldByte (UInt8.ofNat w.toNat) ↔
      foldAscii w = foldAscii c := by
  have hw' : (foldAscii w).toNat < 256 :=
    Nat.lt_trans ((toNat_foldAscii_lt_iff w).2 hw) (by decide)
  have hc' : (foldAscii c).toNat < 256 :=
    Nat.lt_trans ((toNat_foldAscii_lt_iff c).2 hc) (by decide)
  rw [foldByte_ofNat hw, foldByte_ofNat hc, ← UInt8.toNat_inj, UInt8.toNat_ofNat',
    UInt8.toNat_ofNat', Nat.mod_eq_of_lt hw', Nat.mod_eq_of_lt hc', Char.toNat_inj, eq_comm]

/-- The bytes of a text begin with those of a word of ASCII, in any case, exactly if the text begins
with the word. -/
theorem foldByte_take_eq_iff (hword : ∀ w ∈ word, w.toNat < 128) :
    ((encode text).take word.length).map foldByte = (encode word).map foldByte ↔
      (dropPhrase? word text).isSome := by
  induction word generalizing text with
  | nil => simp [dropPhrase?, encode_nil]
  | cons w word ih =>
      obtain ⟨hw, hword⟩ := List.forall_mem_cons.1 hword
      rw [encode_cons_of_lt hw]
      cases text with
      | nil => simp [dropPhrase?, encode_nil]
      | cons c text =>
          rw [dropPhrase?]
          by_cases hc : c.toNat < 128
          · rw [encode_cons_of_lt hc, List.length_cons, List.take_succ_cons, List.map_cons,
              List.map_cons, List.cons.injEq, foldByte_ofNat_eq_iff hw hc, ih hword]
            split
            · rename_i hfold
              simp only [hfold, true_and]
            · rename_i hfold
              simp only [hfold, false_and, Option.isSome_none, Bool.false_eq_true]
          · -- neither its bytes nor the character itself can be those of the word
            obtain ⟨b, bytes, hbytes, hb⟩ := exists_encode_cons_of_le (Nat.not_lt.1 hc) text
            have hlt := (toNat_foldAscii_lt_iff w).2 hw
            have hfold : foldAscii w ≠ foldAscii c := by
              intro h
              rw [h, toNat_foldAscii_lt_iff] at hlt
              exact hc hlt
            have hbyte : foldByte b ≠ foldByte (UInt8.ofNat w.toNat) := by
              intro h
              rw [foldByte_of_le hb, foldByte_ofNat hw] at h
              rw [h, UInt8.toNat_ofNat'] at hb
              have hmod := Nat.mod_le (foldAscii w).toNat (2 ^ 8)
              omega
            rw [hbytes, List.length_cons, List.take_succ_cons, List.map_cons, List.map_cons,
              List.cons.injEq, if_neg hfold]
            simp only [hbyte, false_and, Option.isSome_none, Bool.false_eq_true]

/-- A spelling of a word of ASCII is as wide as the word is long. -/
theorem Spells.width_eq (h : Spells word spelled) (hword : ∀ w ∈ word, w.toNat < 128) :
    width spelled = word.length := by
  have hlength : spelled.length = word.length := by
    rw [← List.length_map foldAscii, show spelled.map foldAscii = _ from h, List.length_map]
  rw [← hlength]
  refine width_eq_length fun c hc => ?_
  have hmem : foldAscii c ∈ word.map foldAscii := h ▸ List.mem_map_of_mem hc
  obtain ⟨w, hw, hfold⟩ := List.mem_map.1 hmem
  rw [← toNat_foldAscii_lt_iff, ← hfold, toNat_foldAscii_lt_iff]
  exact hword w hw

end Rulebook.Text
