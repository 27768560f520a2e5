import Rulebook.Decimal.Layout
import Rulebook.Json.Number

/-!
# Whole numbers that are written and read

The digits of a count are read as the count (`digitsValue_toDigits`), and only zero begins with a
zero. So a whole number that fits a 64-bit word, signed or not, is read as it was written
(`scanNumber?_plainWhole`), if nothing follows that would carry the literal on.
-/

set_option autoImplicit false

namespace Rulebook

open Text Decimal

/-! ## Digits of a count -/

theorem isAsciiDigit_of_isDigit {c : Char} (h : c.isDigit = true) : isAsciiDigit c = true := by
  simpa [isAsciiDigit, Char.isDigit, Char.le_def] using h

theorem isAsciiDigit_of_mem_toDigits {n : Nat} {c : Char} (h : c ∈ Nat.toDigits 10 n) :
    isAsciiDigit c = true :=
  isAsciiDigit_of_isDigit (Nat.isDigit_of_mem_toDigits (by decide) (by decide) h)

/-- There is a first digit. -/
theorem exists_toDigits_eq_cons (n : Nat) :
    ∃ d digits, Nat.toDigits 10 n = d :: digits ∧ isAsciiDigit d = true := by
  cases h : Nat.toDigits 10 n with
  | nil => exact absurd h Nat.toDigits_ne_nil
  | cons d digits =>
      refine ⟨d, digits, rfl, isAsciiDigit_of_mem_toDigits (n := n) ?_⟩
      rw [h]
      exact List.mem_cons_self

theorem digitsValue_toDigits (n : Nat) : digitsValue (Nat.toDigits 10 n) = n := by
  rw [digitsValue, ← Nat.ofDigitChars_eq_foldl, Nat.ofDigitChars_ten_toDigits]

/-- The digits of a count other than zero do not begin with a zero. -/
theorem head?_toDigits {n : Nat} (h : 0 < n) : (Nat.toDigits 10 n).head? ≠ some '0' := by
  -- the induction is on the count without its last digit
  induction n using Nat.strongRecOn with
  | ind n ih =>
      by_cases hn : n < 10
      · have hdigit : ∀ k < 10, 0 < k → Nat.digitChar k ≠ '0' := by decide
        rw [Nat.toDigits_of_lt_base hn]
        intro hzero
        exact hdigit n hn h (Option.some.inj hzero)
      · have hfront := ih (n / 10) (by omega) (by omega)
        obtain ⟨d, digits, hdigits, -⟩ := exists_toDigits_eq_cons (n / 10)
        rw [hdigits] at hfront
        rw [Nat.toDigits_of_base_le (by decide) (Nat.not_lt.1 hn), hdigits]
        exact hfront

namespace Json

/-- A text that does not carry on digits in front of it. -/
def EndsDigits (rest : List Char) : Prop := ∀ c ∈ rest.head?, isAsciiDigit c = false

/-- A text that does not carry on a number in front of it. -/
def EndsNumber (rest : List Char) : Prop :=
  ∀ c ∈ rest.head?, isAsciiDigit c = false ∧ c ≠ '.' ∧ c ≠ 'e' ∧ c ≠ 'E'

theorem endsNumber_nil : EndsNumber [] := by
  intro c hc
  cases hc

variable {rest : List Char}

theorem EndsNumber.endsDigits (h : EndsNumber rest) : EndsDigits rest := fun c hc => (h c hc).1

theorem endsDigits_nil : EndsDigits [] := by
  intro c hc
  cases hc

theorem endsDigits_cons {c : Char} (h : isAsciiDigit c = false) (rest : List Char) :
    EndsDigits (c :: rest) := by
  intro d hd
  obtain rfl := Option.some.inj hd
  exact h

theorem spanDigits_append {digits : List Char} (hdigits : ∀ c ∈ digits, isAsciiDigit c = true)
    (hrest : EndsDigits rest) : spanDigits (digits ++ rest) = (digits, rest) := by
  have hstop : spanDigits rest = ([], rest) := by
    cases rest with
    | nil => rfl
    | cons c rest => simp [spanDigits, hrest c rfl]
  rw [spanDigits, Prod.mk.injEq] at hstop
  rw [spanDigits, List.takeWhile_append_of_pos hdigits, List.dropWhile_append_of_pos hdigits,
    hstop.1, hstop.2, List.append_nil]

/-- The digits of a whole part: a zero alone, or digits that do not begin with one. -/
structure Whole (digits : List Char) : Prop where
  digit : ∀ c ∈ digits, isAsciiDigit c = true
  ne_nil : digits ≠ []
  zero_alone : digits.head? = some '0' → digits = ['0']

theorem whole_toDigits (n : Nat) : Whole (Nat.toDigits 10 n) := by
  refine ⟨fun c hc => isAsciiDigit_of_mem_toDigits hc, Nat.toDigits_ne_nil, ?_⟩
  intro hzero
  rcases Nat.eq_zero_or_pos n with rfl | hpos
  · rfl
  · exact absurd hzero (head?_toDigits hpos)

theorem scanWhole?_append {digits : List Char} (h : Whole digits) (hrest : EndsDigits rest) :
    scanWhole? (digits ++ rest) = some (digits, rest) := by
  obtain ⟨d, more, rfl⟩ := List.exists_cons_of_ne_nil h.ne_nil
  have hspan : spanDigits (d :: more ++ rest) = (d :: more, rest) :=
    spanDigits_append h.digit hrest
  rw [scanWhole?.eq_def]
  split
  · rename_i text heq
    obtain ⟨rfl, rfl⟩ := List.cons.inj heq
    obtain rfl := (List.cons.inj (h.zero_alone rfl)).2
    rfl
  · rw [hspan]
    rfl

theorem scanPlaces_of_no_point (h : rest.head? ≠ some '.') : scanPlaces rest = ([], rest) := by
  rw [scanPlaces.eq_def]
  split
  · exact absurd rfl h
  · rfl

theorem EndsNumber.no_point (h : EndsNumber rest) : rest.head? ≠ some '.' := by
  intro hpoint
  exact (h '.' hpoint).2.1 rfl

theorem scanExponent_of_ends (hrest : EndsNumber rest) : scanExponent rest = (0, rest) := by
  cases rest with
  | nil => rfl
  | cons c rest =>
      obtain ⟨-, -, he, hE⟩ := hrest c rfl
      simp [scanExponent, he, hE]

theorem scanExponent_of_scans {mark : Char} {signed unsigned digits : List Char} {minus : Bool}
    (hmark : mark = 'e' ∨ mark = 'E') (hsign : scanSign signed = (minus, unsigned))
    (hspan : spanDigits unsigned = (digits, rest)) (hne : digits ≠ []) :
    scanExponent (mark :: signed) =
      (if minus then -(digitsValue digits : Int) else digitsValue digits, rest) := by
  simp only [scanExponent, hsign, hspan, if_pos (And.intro hmark hne)]

/-- A whole number between the least signed and the greatest unsigned 64-bit word. -/
def FitsWord (n : Int) : Prop := -(Nat.pow 2 63 : Nat) ≤ n ∧ n ≤ maxWord

theorem literalWhole_toDigits {n : Int} (h : FitsWord n) :
    literalWhole (decide (n < 0)) (Nat.toDigits 10 n.natAbs) = .integer n := by
  obtain ⟨hlow, hhigh⟩ := h
  have hhalf : Nat.pow 2 63 = 2 ^ 63 := rfl
  rw [hhalf] at hlow
  rw [literalWhole, digitsValue_toDigits, hhalf]
  by_cases hn : n < 0
  · have habs : (n.natAbs : Int) = -n := by omega
    rw [if_neg (by simp [hn]), if_pos (by simp [hn]; omega), habs, Int.neg_neg]
  · have habs : (n.natAbs : Int) = n := by omega
    rw [if_pos (by simp [hn]; omega), habs]

/-- A whole part does not begin with a minus sign, so the sign in front of it is found. -/
theorem scanNumber?_signed {unsigned whole afterWhole afterFraction : List Char}
    {fraction : List Char} {exponent : Int} (minus : Bool)
    (hwhole : scanWhole? unsigned = some (whole, afterWhole))
    (hplaces : scanPlaces afterWhole = (fraction, afterFraction))
    (hexponent : scanExponent afterFraction = (exponent, rest)) :
    scanNumber? (signText minus ++ unsigned) =
      if rest.length = afterWhole.length then some (literalWhole minus whole, rest)
      else some (literalReal minus whole fraction exponent, rest) := by
  have hsign : ∀ text, unsigned ≠ '-' :: text := by
    rintro text rfl
    cases hwhole
  cases minus with
  | true =>
      have htext : signText true ++ unsigned = '-' :: unsigned := rfl
      simp only [htext, scanNumber?, hwhole, hplaces, hexponent]
  | false =>
      have htext : signText false ++ unsigned = unsigned := rfl
      rw [htext, scanNumber?.eq_def]
      split
      rename_i minus text heq
      split at heq
      · exact absurd rfl (hsign _)
      · obtain ⟨rfl, rfl⟩ := Prod.mk.inj heq
        simp only [hwhole, hplaces, hexponent]

/-- A whole number that fits a word is read as it was written. -/
theorem scanNumber?_plainWhole {n : Int} (h : FitsWord n) (hrest : EndsNumber rest) :
    scanNumber? (plainWhole n ++ rest) = some (.integer n, rest) := by
  have hwhole := scanWhole?_append (whole_toDigits n.natAbs) hrest.endsDigits
  have hplaces := scanPlaces_of_no_point hrest.no_point
  rw [plainWhole, List.append_assoc, scanNumber?_signed _ hwhole hplaces
    (scanExponent_of_ends hrest), if_pos rfl, literalWhole_toDigits h]

end Json

end Rulebook
