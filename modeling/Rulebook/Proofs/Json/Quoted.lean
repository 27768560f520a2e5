import Rulebook.Json.Quoted

/-!
# Strings that are written and read

Each character of a written string is read as one piece, either the character itself or, for the
controls that have no letter, the unit of its code; the piece stands for the character
(`joinPieces?_pieceOf`). So a written string is read as the string it was written for, whatever
follows it (`scanString?_quoted`).
-/

set_option autoImplicit false

namespace Rulebook

namespace Json

open Text (hexValue?)

/-- The controls that have a letter of their own behind the backslash. -/
def hasLetter (c : Char) : Bool :=
  c = '\x08' || c = '\x0c' || c = '\n' || c = '\r' || c = '\t'

/-- The piece that a character is read as: its unit if it is written by number. -/
def pieceOf (c : Char) : Piece :=
  if c.toNat < 0x20 ∧ hasLetter c = false then .unit c.toNat else .char c

theorem hexValue?_hexDigit {n : Nat} (h : n < 16) : hexValue? (hexDigit n) = some n :=
  (by decide : ∀ n < 16, hexValue? (hexDigit n) = some n) n h

/-- The escape of a control spells its code. -/
theorem unit?_hexDigit {n : Nat} (h : n < 0x20) :
    unit? '0' '0' (hexDigit (n / 16)) (hexDigit (n % 16)) = some n := by
  have hzero : hexValue? '0' = some 0 := by decide
  have hhigh : hexValue? (hexDigit (n / 16)) = some (n / 16) := hexValue?_hexDigit (by omega)
  have hlow : hexValue? (hexDigit (n % 16)) = some (n % 16) := hexValue?_hexDigit (by omega)
  simp only [unit?, hzero, hhigh, hlow, bind, Option.bind, pure, Option.some.injEq]
  omega

/-! ## One character -/

theorem scanPieces?_plain {c : Char} (hquote : c ≠ '"') (hslash : c ≠ '\\')
    (hcontrol : ¬ c.toNat < 0x20) (text : List Char) :
    scanPieces? (c :: text) =
      (scanPieces? text).map fun found => (.char c :: found.1, found.2) := by
  rw [scanPieces?.eq_def]
  split
  · rename_i h
    cases h
  · rename_i h
    exact absurd (List.cons.inj h).1 hquote
  · rename_i h
    exact absurd (List.cons.inj h).1 hslash
  · rename_i h
    exact absurd (List.cons.inj h).1 hslash
  · rename_i h
    obtain ⟨rfl, rfl⟩ := List.cons.inj h
    rw [if_neg (by simp [hslash, hcontrol])]
    cases scanPieces? text <;> rfl

theorem scanPieces?_escape {letter c : Char} (hletter : escaped? letter = some c)
    (text : List Char) :
    scanPieces? ('\\' :: letter :: text) =
      (scanPieces? text).map fun found => (.char c :: found.1, found.2) := by
  have hu : letter ≠ 'u' := by
    rintro rfl
    cases hletter
  rw [scanPieces?.eq_def]
  split
  · rename_i h
    cases h
  · rename_i h
    cases h
  · rename_i h
    exact absurd (List.cons.inj (List.cons.inj h).2).1 hu
  · rename_i h
    obtain ⟨rfl, rfl⟩ := List.cons.inj (List.cons.inj h).2
    rw [hletter]
    cases scanPieces? text <;> rfl
  · rename_i hother h
    obtain ⟨rfl, rfl⟩ := List.cons.inj h
    exact absurd rfl (hother letter text rfl)

theorem scanPieces?_unit {a b c d : Char} {n : Nat} (hunit : unit? a b c d = some n)
    (text : List Char) :
    scanPieces? ('\\' :: 'u' :: a :: b :: c :: d :: text) =
      (scanPieces? text).map fun found => (.unit n :: found.1, found.2) := by
  rw [scanPieces?, hunit]
  cases scanPieces? text <;> rfl

/-- A written character is read as its piece. -/
theorem scanPieces?_quotedChar (c : Char) (text : List Char) :
    scanPieces? (quotedChar c ++ text) =
      (scanPieces? text).map fun found => (pieceOf c :: found.1, found.2) := by
  unfold quotedChar
  -- a case for each letter behind a backslash, and one for all other characters
  split
  · exact scanPieces?_escape rfl text
  · exact scanPieces?_escape rfl text
  · exact scanPieces?_escape rfl text
  · exact scanPieces?_escape rfl text
  · exact scanPieces?_escape rfl text
  · exact scanPieces?_escape rfl text
  · exact scanPieces?_escape rfl text
  · rename_i hquote hslash hb hf hn hr ht
    have hletter : hasLetter c = false := by
      simpa [hasLetter] using ⟨⟨⟨⟨hb, hf⟩, hn⟩, hr⟩, ht⟩
    split
    · rename_i hcontrol
      rw [pieceOf, if_pos ⟨hcontrol, hletter⟩]
      exact scanPieces?_unit (unit?_hexDigit hcontrol) text
    · rename_i hcontrol
      rw [pieceOf, if_neg fun hc => hcontrol hc.1]
      exact scanPieces?_plain hquote hslash hcontrol text

/-- A unit that is no half of a surrogate pair is the character of its code. -/
theorem joinPieces?_unit {n : Nat} (hhigh : isHighHalf n = false) (hlow : isLowHalf n = false)
    (pieces : List Piece) :
    joinPieces? (.unit n :: pieces) = (joinPieces? pieces).map (Char.ofNat n :: ·) := by
  rw [joinPieces?.eq_def]
  simp only [hhigh, hlow, Bool.false_eq_true, if_false]

/-- The piece of a character stands for it. -/
theorem joinPieces?_pieceOf (c : Char) (pieces : List Piece) :
    joinPieces? (pieceOf c :: pieces) = (joinPieces? pieces).map (c :: ·) := by
  rw [pieceOf]
  split
  · rename_i hc
    have hhigh : isHighHalf c.toNat = false := by
      simp only [isHighHalf, Bool.and_eq_false_iff, decide_eq_false_iff_not]
      omega
    have hlow : isLowHalf c.toNat = false := by
      simp only [isLowHalf, Bool.and_eq_false_iff, decide_eq_false_iff_not]
      omega
    rw [joinPieces?_unit hhigh hlow, Char.ofNat_toNat]
  · rfl

/-! ## Whole strings -/

theorem scanPieces?_quoted (text rest : List Char) :
    scanPieces? (text.flatMap quotedChar ++ '"' :: rest) = some (text.map pieceOf, rest) := by
  induction text with
  | nil => rfl
  | cons c text ih =>
      rw [List.flatMap_cons, List.append_assoc, scanPieces?_quotedChar, ih]
      rfl

theorem joinPieces?_map (text : List Char) : joinPieces? (text.map pieceOf) = some text := by
  induction text with
  | nil => rfl
  | cons c text ih => rw [List.map_cons, joinPieces?_pieceOf, ih, Option.map_some]

/-- A written string is read behind its opening quote. -/
theorem scanString?_quoted (s : String) (rest : List Char) :
    scanString? (s.toList.flatMap quotedChar ++ '"' :: rest) = some (some s, rest) := by
  rw [scanString?, scanPieces?_quoted, Option.map_some, joinPieces?_map, Option.map_some,
    String.ofList_toList]

end Json

end Rulebook
