import Rulebook.Proofs.Numeral.Literal

/-!
# The longest number at the front of a text

A text is read as the longest number that it begins with behind its white space, and as no number if
it begins with none (`parseNumber_longest`). The scanner of decimals goes at least as far as any
decimal at the front of a text (`WrittenDecimal.exists_scan?_append`), and what it takes is a decimal
itself, so nothing longer is one. The word `Infinity` and the decimals begin with different
characters, and neither begins with a sign.
-/

set_option autoImplicit false

namespace Rulebook

open Text Decimal Double Json

/-! ## The longest text of a kind -/

/-- What is written for `x` is the longest text of its kind with which a text begins. -/
def Longest {α : Type} (written : α → List Char) (text : List Char) (x : α) : Prop :=
  written x <+: text ∧ ∀ y, written y <+: text → (written y).length ≤ (written x).length

theorem Longest.written_eq {α : Type} {written : α → List Char} {text : List Char} {x y : α}
    (hx : Longest written text x) (hy : Longest written text y) : written x = written y := by
  have hshort : written x <+: written y :=
    List.prefix_of_prefix_length_le hx.1 hy.1 (hy.2 x hx.1)
  exact hshort.eq_of_length (Nat.le_antisymm (hy.2 x hx.1) (hx.2 y hy.1))

variable {text rest : List Char}

/-! ## Decimals -/

theorem length_spanDigits_le (text : List Char) : (spanDigits text).2.length ≤ text.length :=
  (List.dropWhile_suffix _).length_le

theorem length_scanFraction_le (text : List Char) : (scanFraction text).2.length ≤ text.length := by
  obtain ⟨fraction, htext, -⟩ := exists_written_fraction text
  exact List.IsSuffix.length_le ⟨pointText fraction, htext.symm⟩

theorem length_scanExponent_le (text : List Char) : (scanExponent text).2.length ≤ text.length := by
  obtain ⟨exponent, htext, -⟩ := exists_written_exponent text
  exact List.IsSuffix.length_le ⟨exponentText exponent, htext.symm⟩

/-- What is left of a decimal is what its exponent leaves. -/
theorem exists_scan?_of_scans {afterWhole afterFraction whole fraction : List Char}
    (hwhole : spanDigits text = (whole, afterWhole))
    (hfraction : scanFraction afterWhole = (fraction, afterFraction))
    (hsome : ¬ (whole = [] ∧ fraction = [])) :
    ∃ d, scan? text = some (d, (scanExponent afterFraction).2) := by
  refine ⟨⟨digitsValue (whole ++ fraction), (scanExponent afterFraction).1 - fraction.length⟩, ?_⟩
  simp only [scan?, hwhole, hfraction, if_neg hsome]

namespace WrittenDecimal

/-- At the front of any text, a written decimal is taken, and perhaps more of the text. -/
theorem exists_scan?_append (w : WrittenDecimal) (more : List Char) :
    ∃ d rest, scan? (w.text ++ more) = some (d, rest) ∧ rest.length ≤ more.length := by
  obtain ⟨whole, fraction, exponent, hwhole, hfraction, hsome⟩ := w
  have hspan := length_spanDigits_le more
  cases exponent with
  | some e =>
      obtain ⟨n, hscan, -⟩ := e.scanExponent_append more
      obtain ⟨hends, hpoint⟩ := e.head?_append more
      have hparts := scan?_parts hwhole hfraction hsome hends (fun _ => hpoint) hscan
      simp only [text, exponentText, List.append_assoc]
      exact ⟨_, _, hparts, hspan⟩
  | none =>
      -- without an exponent, further digits and an exponent may be taken from what follows
      cases fraction with
      | some digits =>
          have hfront : spanDigits (whole ++ '.' :: (digits ++ more)) =
              (whole, '.' :: (digits ++ more)) :=
            spanDigits_append hwhole (endsDigits_cons (by decide) _)
          have hplaces : scanFraction ('.' :: (digits ++ more)) =
              (digits ++ (spanDigits more).1, (spanDigits more).2) :=
            spanDigits_digits_append hfraction more
          have hnot : ¬ (whole = [] ∧ digits ++ (spanDigits more).1 = []) := by
            rintro ⟨hnone, hnone'⟩
            exact hsome.elim (· hnone) (· (List.append_eq_nil_iff.1 hnone').1)
          obtain ⟨d, hscan⟩ := exists_scan?_of_scans hfront hplaces hnot
          simp only [text, pointText, exponentText, List.append_assoc, List.cons_append,
            List.nil_append]
          exact ⟨d, _, hscan, le_trans (length_scanExponent_le _) hspan⟩
      | none =>
          have hne : whole ≠ [] := hsome.elim id fun h => absurd rfl h
          have hnot : ¬ (whole ++ (spanDigits more).1 = [] ∧
              (scanFraction (spanDigits more).2).1 = []) :=
            fun hnone => hne (List.append_eq_nil_iff.1 hnone.1).1
          obtain ⟨d, hscan⟩ :=
            exists_scan?_of_scans (spanDigits_digits_append hwhole more) rfl hnot
          simp only [text, pointText, exponentText, List.append_assoc, List.nil_append]
          exact ⟨d, _, hscan, le_trans (length_scanExponent_le _)
            (le_trans (length_scanFraction_le _) hspan)⟩

/-- What is taken for a decimal is the longest one. -/
theorem longest_of_scan? {w : WrittenDecimal} {d : Decimal}
    (h : scan? (w.text ++ rest) = some (d, rest)) :
    Longest WrittenDecimal.text (w.text ++ rest) w := by
  refine ⟨List.prefix_append _ _, ?_⟩
  rintro other ⟨more, hmore⟩
  obtain ⟨found, left, hscan, hleft⟩ := other.exists_scan?_append more
  rw [hmore, h] at hscan
  obtain ⟨-, rfl⟩ := Prod.mk.inj (Option.some.inj hscan)
  have hlength := congrArg List.length hmore
  rw [List.length_append, List.length_append] at hlength
  omega

end WrittenDecimal

/-! ## Magnitudes -/

namespace WrittenMagnitude

theorem infinity_text : infinity.text = 'I' :: "nfinity".toList := by decide

theorem scanMagnitude?_infinity_append (more : List Char) :
    scanMagnitude? (infinity.text ++ more) = some positiveInfinity := by
  have hword : dropLiteral? "Infinity".toList (infinity.text ++ more) = some more :=
    dropLiteral?_append _ _
  rw [scanMagnitude?, hword]

theorem scanMagnitude?_decimal_append (w : WrittenDecimal) (more : List Char) :
    scanMagnitude? (w.text ++ more) =
      (scan? (w.text ++ more)).map fun found => found.1.toFloat :=
  scanMagnitude?_of_numeric (w.isNumeric_head more)

/-- Whatever follows a magnitude, one is found. -/
theorem isSome_scanMagnitude?_append (m : WrittenMagnitude) (more : List Char) :
    (scanMagnitude? (m.text ++ more)).isSome = true := by
  cases m with
  | infinity => rw [scanMagnitude?_infinity_append, Option.isSome_some]
  | decimal w =>
      obtain ⟨d, rest, hscan, -⟩ := w.exists_scan?_append more
      change (scanMagnitude? (w.text ++ more)).isSome = true
      rw [scanMagnitude?_decimal_append, hscan, Option.map_some, Option.isSome_some]

/-- A magnitude that stands alone is found. -/
theorem scanMagnitude?_text (m : WrittenMagnitude) : scanMagnitude? m.text = some m.value := by
  rw [← List.append_nil m.text]
  cases m with
  | infinity => exact scanMagnitude?_infinity_append []
  | decimal w =>
      change scanMagnitude? (w.text ++ []) = some w.decimal.toFloat
      rw [scanMagnitude?_decimal_append, List.append_nil, w.scan?_text, Option.map_some]

/-- The word and a decimal do not stand at the same place. -/
theorem infinity_append_ne (w : WrittenDecimal) (more rest : List Char) :
    infinity.text ++ more ≠ w.text ++ rest := by
  intro hsame
  have hfirst : 'I' ∈ (w.text ++ rest).head? := by
    rw [← hsame, infinity_text]
    rfl
  exact absurd (w.isNumeric_head rest 'I' hfirst) (by decide)

theorem longest_infinity (rest : List Char) :
    Longest WrittenMagnitude.text (infinity.text ++ rest) infinity := by
  refine ⟨List.prefix_append _ _, ?_⟩
  rintro m ⟨more, hmore⟩
  cases m with
  | infinity => exact le_rfl
  | decimal w => exact absurd hmore.symm (infinity_append_ne w rest more)

theorem longest_decimal {w : WrittenDecimal}
    (h : Longest WrittenDecimal.text (w.text ++ rest) w) :
    Longest WrittenMagnitude.text (w.text ++ rest) (decimal w) := by
  refine ⟨h.1, ?_⟩
  intro m hm
  cases m with
  | decimal other => exact h.2 other hm
  | infinity =>
      obtain ⟨more, hmore⟩ := hm
      exact absurd hmore (infinity_append_ne w more rest)

/-- What is found for a magnitude is the longest one. -/
theorem exists_longest {x : Float} (h : scanMagnitude? text = some x) :
    ∃ m, Longest WrittenMagnitude.text text m ∧ m.value = x := by
  rw [scanMagnitude?] at h
  split at h
  · rename_i rest hword
    obtain rfl := dropLiteral?_eq_some_iff.1 hword
    exact ⟨infinity, longest_infinity rest, Option.some.inj h⟩
  · obtain ⟨⟨d, rest⟩, hscan, rfl⟩ := Option.map_eq_some_iff.1 h
    obtain ⟨w, rfl, rfl⟩ := exists_written_of_scan? hscan
    exact ⟨decimal w, longest_decimal (WrittenDecimal.longest_of_scan? hscan), rfl⟩

/-- A magnitude has neither a sign nor white space in front. -/
theorem head_append (m : WrittenMagnitude) (more : List Char) :
    ∀ c ∈ (m.text ++ more).head?, (c ≠ '-' ∧ c ≠ '+') ∧ isBlank c = false := by
  intro c hc
  cases m with
  | infinity =>
      rw [infinity_text, List.cons_append, List.head?_cons, Option.mem_some_iff] at hc
      subst hc
      decide
  | decimal w =>
      have hnumeric : Operand.isNumeric c = true := w.isNumeric_head more c hc
      exact ⟨ne_sign_of_isNumeric hnumeric, Operand.isBlank_of_isNumeric hnumeric⟩

end WrittenMagnitude

/-! ## Numbers -/

namespace WrittenNumber

/-- The sign of a number at the front of a text is what is taken for a sign. -/
theorem scanSign_append (n : WrittenNumber) (more : List Char) :
    scanSign (n.text ++ more) = (n.sign.isMinus, n.magnitude.text ++ more) := by
  rw [text, List.append_assoc]
  exact Rulebook.scanSign_append n.sign fun c hc => (n.magnitude.head_append more c hc).1

/-- A number begins with no white space. -/
theorem trimStart_text (n : WrittenNumber) : trimStart n.text = n.text := by
  obtain ⟨sign, m⟩ := n
  rw [trimStart_eq_self_iff]
  intro c hc
  cases sign with
  | plus | minus =>
      rw [← Option.some.inj hc]
      decide
  | absent =>
      have hfirst : c ∈ (m.text ++ []).head? := by rwa [List.append_nil]
      exact (m.head_append [] c hfirst).2

/-- A number that stands alone is read as its value. -/
theorem parseNumber_text (n : WrittenNumber) : parseNumber n.text = n.value := by
  have hsign := n.scanSign_append []
  rw [List.append_nil, List.append_nil] at hsign
  simp only [parseNumber, n.trimStart_text, hsign, n.magnitude.scanMagnitude?_text, value]

/-- The value of a written number is a number. -/
theorem isNaN_value (n : WrittenNumber) : n.value.isNaN = false := by
  have hmagnitude : n.magnitude.value.isNaN = false := by
    cases n.magnitude with
    | infinity => decide
    | decimal w => exact isNaN_toFloat w.decimal
  rw [value]
  split
  · exact isNaN_neg hmagnitude
  · exact hmagnitude

/-- Where no magnitude is found behind the sign, no number stands at the front. -/
theorem not_prefix_of_scanMagnitude? (h : scanMagnitude? (scanSign text).2 = none)
    (n : WrittenNumber) : ¬ n.text <+: text := by
  rintro ⟨more, rfl⟩
  have hfound := n.magnitude.isSome_scanMagnitude?_append more
  rw [n.scanSign_append] at h
  rw [h] at hfound
  cases hfound

/-- The longest magnitude behind a sign makes up the longest number with it. -/
theorem longest_signed (sign : WrittenSign) {m : WrittenMagnitude}
    (h : Longest WrittenMagnitude.text text m) :
    Longest WrittenNumber.text (sign.text ++ text) ⟨sign, m⟩ := by
  obtain ⟨⟨more, rfl⟩, hmost⟩ := h
  refine ⟨⟨more, List.append_assoc _ _ _⟩, ?_⟩
  rintro other ⟨left, hleft⟩
  -- both numbers have what is taken for the sign, and the same text behind it
  have hsign := Rulebook.scanSign_append sign fun c hc => (m.head_append more c hc).1
  rw [← hleft, other.scanSign_append] at hsign
  obtain ⟨-, hbehind⟩ := Prod.mk.inj hsign
  rw [WrittenNumber.text, List.append_assoc, hbehind] at hleft
  have hsame : other.sign.text = sign.text := List.append_cancel_right hleft
  simp only [WrittenNumber.text, List.length_append, hsame]
  exact Nat.add_le_add_left (hmost other.magnitude ⟨left, hbehind⟩) _

/-- What is found behind the sign is the magnitude of the longest number. -/
theorem exists_longest {x : Float} (h : scanMagnitude? (scanSign text).2 = some x) :
    ∃ n, Longest WrittenNumber.text text n ∧ n.value = if (scanSign text).1 then -x else x := by
  obtain ⟨m, hm, rfl⟩ := WrittenMagnitude.exists_longest h
  obtain ⟨sign, hsign, hminus⟩ := exists_written_sign text
  refine ⟨⟨sign, m⟩, ?_, ?_⟩
  · rw [hsign]
    exact longest_signed sign hm
  · rw [hminus, value]

end WrittenNumber

/-- A text is read as the longest number that it begins with behind its white space, and is no
number exactly if it begins with none. That number by itself is read as the same: its sign is applied
to infinity, or to the double that its digits are read as with a digit on either side of a point. -/
theorem parseNumber_longest (text : List Char) :
    ((parseNumber text).isNaN = true ↔ ∀ n : WrittenNumber, ¬ n.text <+: trimStart text) ∧
      (∀ n : WrittenNumber, n.text <+: trimStart text →
        ∃ p, Longest WrittenNumber.text (trimStart text) p) ∧
      ∀ p, Longest WrittenNumber.text (trimStart text) p →
        parseNumber text = parseNumber p.text ∧ parseNumber text = p.value ∧
          ∀ w, p.magnitude = .decimal w → real? w.normalized.text = some w.decimal.toFloat := by
  cases hscan : scanMagnitude? (scanSign (trimStart text)).2 with
  | none =>
      have hnone := WrittenNumber.not_prefix_of_scanMagnitude? hscan
      have hread : parseNumber text = notANumber := by simp only [parseNumber, hscan]
      rw [hread]
      refine ⟨iff_of_true (by decide) hnone, fun n hn => absurd hn (hnone n), ?_⟩
      exact fun p hp => absurd hp.1 (hnone p)
  | some x =>
      obtain ⟨n, hn, hvalue⟩ := WrittenNumber.exists_longest hscan
      have hread : parseNumber text = n.value := by simp only [parseNumber, hscan, hvalue]
      refine ⟨iff_of_false ?_ fun hnone => hnone n hn.1, fun _ _ => ⟨n, hn⟩, ?_⟩
      · rw [hread, n.isNaN_value]
        decide
      · intro p hp
        -- the longest text is one, and it determines the value
        have hself : parseNumber text = parseNumber p.text := by
          rw [hread, ← n.parseNumber_text, hn.written_eq hp]
        exact ⟨hself, hself.trans p.parseNumber_text, fun w _ => w.real?_normalized⟩

/-- Neither the second point behind an exponent nor the unit matters. -/
theorem parseNumber_longest_weight :
    ∃ p, Longest WrittenNumber.text (trimStart "\u3000-.50E+3.5 kg".toList) p ∧
      p.text = "-.50E+3".toList ∧
        parseNumber "\u3000-.50E+3.5 kg".toList = parseNumber "-.50E+3".toList ∧
          parseNumber "\u3000-.50E+3.5 kg".toList = -500.0 := by
  let w : WrittenDecimal :=
    { whole := []
      fraction := some ['5', '0']
      exponent := some ⟨'E', .plus, ['3'], .inr rfl, by simp, by simp [isAsciiDigit]⟩
      whole_digit := by simp
      fraction_digit := by simp [isAsciiDigit]
      some_digit := .inr (by simp) }
  have hscan : scan? (w.text ++ ".5 kg".toList) = some (⟨50, 1⟩, ".5 kg".toList) := by decide
  have hstart : trimStart "\u3000-.50E+3.5 kg".toList =
      WrittenSign.minus.text ++ (w.text ++ ".5 kg".toList) := by decide
  have hp : Longest WrittenNumber.text (trimStart "\u3000-.50E+3.5 kg".toList)
      ⟨.minus, .decimal w⟩ := by
    rw [hstart]
    exact WrittenNumber.longest_signed .minus
      (WrittenMagnitude.longest_decimal (WrittenDecimal.longest_of_scan? hscan))
  obtain ⟨hself, hvalue, -⟩ := (parseNumber_longest "\u3000-.50E+3.5 kg".toList).2.2 _ hp
  have hdecimal : w.decimal = ⟨50, 1⟩ := by decide
  have hdouble : w.decimal.toFloat = 500.0 := by
    rw [hdecimal]
    rfl
  exact ⟨_, hp, by decide, hself, hvalue.trans (congrArg (-·) hdouble)⟩

end Rulebook
