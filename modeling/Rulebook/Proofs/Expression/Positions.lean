import Rulebook.Proofs.Expression.Splitting
import Rulebook.Proofs.Text.Encoding
import Mathlib.Data.List.Forall2

/-!
# Where a text is split

The parts of a text can be found among its bytes: `partRanges` keeps the position at which the part
begins that is being looked at, passes over the bytes one by one, and jumps behind blanks and behind
separators. None of the positions that it finds lies within a character, they are in order, and what
lies between them is what splitting gives (`splitAt_lossless`). The proof follows the run of the
splitter: the ranges from a position on are those of the parts of the rest
(`Splits.forall₂_rangesFrom`).
-/

set_option autoImplicit false

namespace Rulebook

open Text

/-! ## Looking through bytes -/

/-- Where the blank bytes from a position on end. -/
def blanksEnd (bytes : List UInt8) (i : Nat) : Nat :=
  match h : bytes[i]? with
  | some b => if isBlankByte b then blanksEnd bytes (i + 1) else i
  | none => i
termination_by bytes.length - i
decreasing_by
  have hlt := (List.getElem?_eq_some_iff.1 h).1
  omega

/-- Where a separator ends whose word begins at a position: the word stands there in any case, with
at least one blank byte behind it. -/
def separatorEnd? (word bytes : List UInt8) (j : Nat) : Option Nat :=
  match bytes[j + word.length]? with
  | some b =>
      if ((bytes.drop j).take word.length).map foldByte = word.map foldByte ∧ isBlankByte b then
        some (blanksEnd bytes (j + word.length))
      else none
  | none => none

theorem le_blanksEnd (bytes : List UInt8) (i : Nat) : i ≤ blanksEnd bytes i := by
  fun_induction blanksEnd bytes i with
  | case1 i _ _ _ ih => omega
  | case2 => exact Nat.le_refl _
  | case3 => exact Nat.le_refl _

theorem blanksEnd_of_blank {bytes : List UInt8} {i : Nat} {b : UInt8} (h : bytes[i]? = some b)
    (hb : isBlankByte b = true) : blanksEnd bytes i = blanksEnd bytes (i + 1) := by
  rw [blanksEnd]
  split
  · rename_i b' h'
    obtain rfl := Option.some.inj (h.symm.trans h')
    exact if_pos hb
  · rename_i h'
    rw [h] at h'
    cases h'

theorem blanksEnd_of_not {bytes : List UInt8} {i : Nat}
    (h : ∀ b ∈ bytes[i]?, isBlankByte b = false) : blanksEnd bytes i = i := by
  rw [blanksEnd]
  split
  · rename_i b hb
    exact if_neg (Bool.eq_false_iff.1 (h b hb))
  · rfl

/-- Blank bytes end where no further one is found. -/
theorem blanksEnd_eq (bytes : List UInt8) (i : Nat) :
    blanksEnd bytes i = i + ((bytes.drop i).takeWhile isBlankByte).length := by
  fun_induction blanksEnd bytes i with
  | case1 i b h hb ih =>
      obtain ⟨hlt, rfl⟩ := List.getElem?_eq_some_iff.1 h
      rw [ih, List.drop_eq_getElem_cons hlt, List.takeWhile_cons_of_pos hb, List.length_cons]
      omega
  | case2 i b h hb =>
      obtain ⟨hlt, rfl⟩ := List.getElem?_eq_some_iff.1 h
      rw [List.drop_eq_getElem_cons hlt, List.takeWhile_cons_of_neg hb]
      rfl
  | case3 i h =>
      rw [List.drop_eq_nil_of_le (List.getElem?_eq_none_iff.1 h)]
      rfl

theorem le_separatorEnd? {word bytes : List UInt8} {j k : Nat}
    (h : separatorEnd? word bytes j = some k) : j ≤ k := by
  rw [separatorEnd?] at h
  split at h
  · split at h
    · obtain rfl := Option.some.inj h
      exact Nat.le_trans (Nat.le_add_right _ _) (le_blanksEnd _ _)
    · cases h
  · cases h

/-- The ranges of the parts from a position `i` on; the first of them begins at `start`. -/
def rangesFrom (word bytes : List UInt8) (start i : Nat) : List (Nat × Nat) :=
  match h : bytes[i]? with
  | some b =>
      if hb : isBlankByte b then
        match _ : separatorEnd? word bytes (blanksEnd bytes i) with
        | some k => (start, i) :: rangesFrom word bytes k k
        | none => rangesFrom word bytes start (blanksEnd bytes i)
      else rangesFrom word bytes start (i + 1)
  | none => [(start, bytes.length)]
termination_by bytes.length - i
decreasing_by
  all_goals
    have hlt := (List.getElem?_eq_some_iff.1 h).1
  · rename_i hk
    have hblank := blanksEnd_of_blank h hb
    have hle := le_blanksEnd bytes (i + 1)
    have hend := le_separatorEnd? hk
    omega
  · have hblank := blanksEnd_of_blank h hb
    have hle := le_blanksEnd bytes (i + 1)
    omega
  · omega

/-- The ranges of bytes of the parts of a text between the words of a connective. -/
def partRanges (connective : Connective) (text : List Char) : List (Nat × Nat) :=
  rangesFrom (encode connective.keyword.toList) (encode text) 0 0

/-! ## Steps over bytes -/

section Steps

variable {word bytes : List UInt8} {start i : Nat} {b : UInt8}

theorem rangesFrom_end (h : bytes[i]? = none) :
    rangesFrom word bytes start i = [(start, bytes.length)] := by
  rw [rangesFrom]
  split
  · rename_i h'
    rw [h] at h'
    cases h'
  · rfl

theorem rangesFrom_other (h : bytes[i]? = some b) (hb : isBlankByte b = false) :
    rangesFrom word bytes start i = rangesFrom word bytes start (i + 1) := by
  rw [rangesFrom]
  split
  · rename_i b' h'
    obtain rfl := Option.some.inj (h.symm.trans h')
    exact dif_neg (Bool.eq_false_iff.1 hb)
  · rename_i h'
    rw [h] at h'
    cases h'

/-- At a blank byte the separator that may follow decides. -/
theorem rangesFrom_blank (h : bytes[i]? = some b) (hb : isBlankByte b = true) :
    rangesFrom word bytes start i = match separatorEnd? word bytes (blanksEnd bytes i) with
      | some k => (start, i) :: rangesFrom word bytes k k
      | none => rangesFrom word bytes start (blanksEnd bytes i) := by
  rw [rangesFrom]
  split
  · rename_i b' h'
    obtain rfl := Option.some.inj (h.symm.trans h')
    rw [dif_pos hb]
    split <;> simp_all
  · rename_i h'
    rw [h] at h'
    cases h'

/-- Where no separator begins, a blank byte may be passed over by itself, though blank bytes are
jumped over together. -/
theorem rangesFrom_blank_none (h : bytes[i]? = some b) (hb : isBlankByte b = true)
    (hnone : separatorEnd? word bytes (blanksEnd bytes i) = none) :
    rangesFrom word bytes start i = rangesFrom word bytes start (i + 1) := by
  have hjump : rangesFrom word bytes start i = rangesFrom word bytes start (blanksEnd bytes i) := by
    rw [rangesFrom_blank h hb, hnone]
  rw [hjump]
  -- both jumps end at the same byte, unless the next byte is no blank and there is no second jump
  rw [blanksEnd_of_blank h hb] at hnone ⊢
  by_cases hnext : ∃ d, bytes[i + 1]? = some d ∧ isBlankByte d = true
  · obtain ⟨d, hget, hd⟩ := hnext
    rw [rangesFrom_blank hget hd, hnone]
  · rw [blanksEnd_of_not fun d hget => Bool.eq_false_iff.2 fun hd => hnext ⟨d, hget, hd⟩]

/-- Bytes that are not blank are passed over. -/
theorem rangesFrom_skip {front : List UInt8} {rest : List UInt8}
    (hdrop : bytes.drop i = front ++ rest) (hfront : ∀ b ∈ front, isBlankByte b = false) :
    rangesFrom word bytes start i = rangesFrom word bytes start (i + front.length) := by
  induction front generalizing i with
  | nil => rfl
  | cons b front ih =>
      obtain ⟨hb, hfront⟩ := List.forall_mem_cons.1 hfront
      have hget : bytes[i]? = some b := by
        rw [← List.head?_drop, hdrop]
        rfl
      have hnext : bytes.drop (i + 1) = front ++ rest := by
        rw [← List.tail_drop, hdrop]
        rfl
      rw [rangesFrom_other hget hb, ih hnext hfront, List.length_cons, Nat.add_assoc,
        Nat.add_comm 1]

end Steps

/-! ## Steps over characters -/

section Characters

variable {word front text rest : List Char} {c : Char} {start : Nat}

theorem getElem?_encode (front rest : List Char) :
    (encode (front ++ rest))[width front]? = (encode rest).head? := by
  rw [← List.head?_drop, drop_encode]

theorem blanksEnd_encode (front rest : List Char) :
    blanksEnd (encode (front ++ rest)) (width front) =
      width (front ++ rest.takeWhile isAsciiBlank) := by
  rw [blanksEnd_eq, drop_encode, takeWhile_encode, length_encode, width_append]

/-- The word of a separator is found among the bytes where it stands in the text. -/
theorem separatorEnd?_encode (hword : ∀ w ∈ word, w.toNat < 128) (front rest : List Char) :
    separatorEnd? (encode word) (encode (front ++ rest)) (width front) =
      match dropPhrase? word rest with
      | some (d :: behind) =>
          if isAsciiBlank d then
            some (width (front ++ rest) - width (behind.dropWhile isAsciiBlank))
          else none
      | _ => none := by
  have hlength : (encode word).length = word.length := by
    rw [length_encode, width_eq_length hword]
  rw [separatorEnd?, hlength]
  cases hphrase : dropPhrase? word rest with
  | none =>
      have hnot : ¬ ((encode rest).take word.length).map foldByte = (encode word).map foldByte := by
        rw [foldByte_take_eq_iff hword, hphrase]
        exact Bool.false_ne_true
      split
      · rw [drop_encode, if_neg fun h => hnot h.1]
      · rfl
  | some found =>
      have hsame : ((encode rest).take word.length).map foldByte = (encode word).map foldByte := by
        rw [foldByte_take_eq_iff hword, hphrase]
        rfl
      obtain ⟨spelled, hspells, rfl⟩ := dropPhrase?_eq_some_iff.1 hphrase
      have hposition : width front + word.length = width (front ++ spelled) := by
        rw [width_append, hspells.width_eq hword]
      have hget : (encode (front ++ (spelled ++ found)))[width front + word.length]? =
          (encode found).head? := by
        rw [hposition, ← List.append_assoc, getElem?_encode]
      rw [hget, drop_encode, hsame, hposition, ← List.append_assoc, blanksEnd_encode]
      cases found with
      | nil => rfl
      | cons d behind =>
          -- one blank has to stand behind the word, and the separator takes all that follow
          obtain ⟨b, bytes, hbytes, hb⟩ := exists_encode_cons d behind
          rw [hbytes, List.head?_cons]
          cases hd : isAsciiBlank d with
          | false => simp [hb, hd]
          | true =>
              have hbehind : behind.takeWhile isAsciiBlank ++ behind.dropWhile isAsciiBlank =
                  behind := List.takeWhile_append_dropWhile
              have hends : width ((front ++ spelled) ++ (d :: behind).takeWhile isAsciiBlank) =
                  width ((front ++ spelled) ++ d :: behind) -
                    width (behind.dropWhile isAsciiBlank) := by
                have hwidth := congrArg width hbehind
                rw [width_append] at hwidth
                simp only [List.takeWhile_cons_of_pos hd, width_append, width_cons]
                omega
              simp only [hb, hd, and_self, if_true, hends]

/-- Behind the blanks at which a separator may begin, its end is found among the bytes where it is
in the text. -/
theorem separatorEnd?_blanksEnd (hword : ∀ w ∈ word, w.toNat < 128) (hc : isAsciiBlank c = true)
    (front text : List Char) :
    separatorEnd? (encode word) (encode (front ++ c :: text))
        (blanksEnd (encode (front ++ c :: text)) (width front)) =
      (dropSeparator? word (c :: text)).map fun rest =>
        width (front ++ c :: text) - width rest := by
  have htext : front ++ c :: text =
      (front ++ c :: text.takeWhile isAsciiBlank) ++ text.dropWhile isAsciiBlank := by
    rw [List.append_assoc, List.cons_append, List.takeWhile_append_dropWhile]
  rw [blanksEnd_encode, List.takeWhile_cons_of_pos hc, htext, separatorEnd?_encode hword,
    dropSeparator?, if_pos hc]
  cases dropPhrase? word (text.dropWhile isAsciiBlank) with
  | none => rfl
  | some found =>
      cases found with
      | nil => rfl
      | cons d behind =>
          cases hd : isAsciiBlank d with
          | true => simp [hd]
          | false => simp [hd]

/-- A character at which no separator begins is passed over, however many bytes it has. -/
theorem rangesFrom_inside (hword : ∀ w ∈ word, w.toNat < 128)
    (hinside : dropSeparator? word (c :: text) = none) :
    rangesFrom (encode word) (encode (front ++ c :: text)) start (width front) =
      rangesFrom (encode word) (encode (front ++ c :: text)) start (width (front ++ [c])) := by
  cases hc : isAsciiBlank c with
  | false =>
      have hdrop : (encode (front ++ c :: text)).drop (width front) =
          String.utf8EncodeChar c ++ encode text := drop_encode front (c :: text)
      rw [rangesFrom_skip hdrop fun b hb => isBlankByte_of_mem_utf8EncodeChar hc hb,
        String.length_utf8EncodeChar, width_append]
      rfl
  | true =>
      obtain ⟨b, bytes, hbytes, hb⟩ := exists_encode_cons c text
      have hget : (encode (front ++ c :: text))[width front]? = some b := by
        rw [getElem?_encode, hbytes, List.head?_cons]
      have hnone := separatorEnd?_blanksEnd hword hc front text
      rw [hinside, Option.map_none] at hnone
      have hone : width [c] = 1 :=
        width_eq_length (List.forall_mem_singleton.2 (toNat_lt_of_isAsciiBlank hc))
      rw [rangesFrom_blank_none hget (hb.trans hc) hnone, width_append, hone]

/-- A separator ends a part, and the next one begins behind it. -/
theorem rangesFrom_separator (hword : ∀ w ∈ word, w.toNat < 128) {separator : List Char}
    (hfound : dropSeparator? word (separator ++ rest) = some rest) :
    rangesFrom (encode word) (encode (front ++ (separator ++ rest))) start (width front) =
      (start, width front) :: rangesFrom (encode word) (encode (front ++ (separator ++ rest)))
        (width (front ++ separator)) (width (front ++ separator)) := by
  cases htext : separator ++ rest with
  | nil =>
      rw [htext] at hfound
      cases hfound
  | cons c text =>
      have hposition : width (front ++ c :: text) - width rest = width (front ++ separator) := by
        rw [← htext, ← List.append_assoc, width_append, Nat.add_sub_cancel]
      rw [htext] at hfound
      have hc := (dropSeparator?_eq_some_iff.1 hfound).1
      obtain ⟨b, bytes, hbytes, hb⟩ := exists_encode_cons c text
      have hget : (encode (front ++ c :: text))[width front]? = some b := by
        rw [getElem?_encode, hbytes, List.head?_cons]
      have hend := separatorEnd?_blanksEnd hword hc front text
      rw [hfound, Option.map_some, hposition] at hend
      rw [rangesFrom_blank hget (hb.trans hc), hend]

end Characters

/-! ## The ranges of the parts -/

/-- The part lies between the two positions, neither of which is within a character. -/
def Lies (text : List Char) (range : Nat × Nat) (part : List Char) : Prop :=
  ∃ front behind, text = front ++ (part ++ behind) ∧ range = (width front, width (front ++ part))

variable {connective : Connective} {text rest part : List Char} {range : Nat × Nat}

theorem Lies.piece?_eq (h : Lies text range part) : piece? range.1 range.2 text = some part := by
  obtain ⟨front, behind, rfl, rfl⟩ := h
  rw [width_append]
  exact piece?_append front part behind

theorem Lies.boundaries (h : Lies text range part) :
    range.1 ≤ range.2 ∧ IsBoundary text range.1 ∧ IsBoundary text range.2 := by
  obtain ⟨front, behind, rfl, rfl⟩ := h
  refine ⟨?_, ⟨front, List.prefix_append _ _, rfl⟩, ⟨front ++ part, ?_, rfl⟩⟩
  · rw [width_append]
    exact Nat.le_add_right _ _
  · rw [← List.append_assoc]
    exact List.prefix_append _ _

/-- The words of the connectives are ASCII. -/
theorem toNat_lt_of_mem_keyword (connective : Connective) :
    ∀ w ∈ connective.keyword.toList, w.toNat < 128 := by
  have hall : connective.keyword.toList.all (fun w => w.toNat < 128) = true := by
    cases connective <;> rfl
  simpa using hall

/-- From a position on, where `begun` has been read of a part, the ranges are those of the parts of
the rest, the first of which goes on with what has been read. -/
theorem Splits.forall₂_rangesFrom {parts : List (List Char)} (h : Splits connective rest parts)
    {front begun : List Char} (htext : text = front ++ begun ++ rest) :
    List.Forall₂ (Lies text)
      (rangesFrom (encode connective.keyword.toList) (encode text) (width front)
        (width (front ++ begun)))
      (parts.modifyHead (begun ++ ·)) := by
  have hword := toNat_lt_of_mem_keyword connective
  -- `begun` grows with each character of the run, and a joint starts it anew
  induction h generalizing front begun with
  | done =>
      have hget : (encode text)[width (front ++ begun)]? = none := by
        rw [htext, getElem?_encode]
        rfl
      have hends : (encode text).length = width (front ++ (begun ++ [])) := by
        rw [length_encode, htext, List.append_assoc]
      have hlast : text = front ++ ((begun ++ []) ++ []) := by
        rw [htext, List.append_nil, List.append_nil, List.append_nil]
      rw [rangesFrom_end hget, hends]
      exact .cons ⟨front, [], hlast, rfl⟩ .nil
  | @joint rest parts joint first _ ih =>
      have hbehind : text = front ++ begun ++ joint.text ++ [] ++ rest := by
        rw [htext, List.append_nil, List.append_assoc _ joint.text]
      have hsame : parts.modifyHead (([] : List Char) ++ ·) = parts :=
        congrFun List.modifyHead_id parts
      -- behind the joint nothing has been read of the next part
      have hparts := ih hbehind
      rw [List.append_nil, hsame] at hparts
      have hranges : rangesFrom (encode connective.keyword.toList) (encode text) (width front)
          (width (front ++ begun)) = (width front, width (front ++ begun)) ::
            rangesFrom (encode connective.keyword.toList) (encode text)
              (width (front ++ begun ++ joint.text)) (width (front ++ begun ++ joint.text)) := by
        rw [htext]
        exact rangesFrom_separator hword (dropSeparator?_joint joint first)
      rw [hranges, List.modifyHead_cons, List.append_nil]
      exact .cons ⟨front, joint.text ++ rest, by rw [htext, List.append_assoc], rfl⟩ hparts
  | @char c rest part more inside _ ih =>
      have hbehind : text = front ++ (begun ++ [c]) ++ rest := by
        rw [htext, List.append_assoc, List.append_assoc, List.append_assoc]
        rfl
      have hparts := ih hbehind
      have hranges : rangesFrom (encode connective.keyword.toList) (encode text) (width front)
          (width (front ++ begun)) = rangesFrom (encode connective.keyword.toList) (encode text)
            (width front) (width (front ++ (begun ++ [c]))) := by
        rw [htext, ← List.append_assoc]
        exact rangesFrom_inside hword inside
      rw [hranges, List.modifyHead_cons]
      rwa [List.modifyHead_cons, List.append_assoc] at hparts

theorem forall₂_partRanges (connective : Connective) (text : List Char) :
    List.Forall₂ (Lies text) (partRanges connective text) (splitAt connective text) := by
  have hparts := (splits_splitAt connective text).forall₂_rangesFrom
    (show text = [] ++ [] ++ text from rfl)
  have hsame : (splitAt connective text).modifyHead (([] : List Char) ++ ·) =
      splitAt connective text := congrFun List.modifyHead_id _
  rwa [hsame] at hparts

theorem mapM_piece?_eq {ranges : List (Nat × Nat)} {parts : List (List Char)}
    (h : List.Forall₂ (Lies text) ranges parts) :
    ranges.mapM (fun range => piece? range.1 range.2 text) = some parts := by
  induction h with
  | nil => rfl
  | cons hrange _ ih =>
      rw [List.mapM_cons, hrange.piece?_eq, Option.bind_eq_bind, Option.bind_some, ih]
      rfl

/-- **Splitting loses nothing and leaves nothing to split.** The parts with joints between them are
the text again, no joint is left within a part, and the blanks next to a joint belong to it. The
positions at which the parts are cut out of the bytes are in order, none of them is within a
character or behind the end, and what is cut out are the parts. -/
theorem splitAt_lossless (connective : Connective) (text : List Char) :
    Division (Keyword.ofConnective connective) text (splitAt connective text) ∧
      (∀ range ∈ partRanges connective text, range.1 ≤ range.2 ∧ IsBoundary text range.1 ∧
        IsBoundary text range.2) ∧
      (partRanges connective text).mapM (fun range => piece? range.1 range.2 text) =
        some (splitAt connective text) := by
  have hranges := forall₂_partRanges connective text
  have hboth := hranges.imp fun _ _ hlies => And.intro hlies.boundaries hlies
  exact ⟨division_splitAt connective text, (List.forall₂_and_left _ _).1 hboth |>.1,
    mapM_piece?_eq hranges⟩

/-- Of three words in a row the middle one is a part, and the parts are found behind a character of
two bytes. -/
theorem splitAt_lossless_repeated :
    splitAt .or "ä\tor OR or b".toList = ["ä".toList, "OR".toList, "b".toList] ∧
      partRanges .or "ä\tor OR or b".toList = [(0, 2), (6, 8), (12, 13)] ∧
      IsBoundary "ä\tor OR or b".toList 6 ∧ piece? 6 8 "ä\tor OR or b".toList = some "OR".toList ∧
      ∃ joined : Joined (Keyword.ofConnective .or) (List Char),
        joined.parts = ["ä".toList, "OR".toList, "b".toList] ∧
          joined.text id = "ä\tor OR or b".toList := by
  have hranges : partRanges .or "ä\tor OR or b".toList = [(0, 2), (6, 8), (12, 13)] := by
    decide +kernel
  have hrange : (6, 8) ∈ partRanges .or "ä\tor OR or b".toList := by
    rw [hranges]
    decide
  exact ⟨by decide, hranges, ((splitAt_lossless .or _).2.1 (6, 8) hrange).2.1, by decide,
    (splitAt_lossless .or "ä\tor OR or b".toList).1.joined⟩

end Rulebook
