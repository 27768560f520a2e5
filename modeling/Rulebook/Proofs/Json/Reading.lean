import Rulebook.Json.Printer
import Rulebook.Json.Reader
import Rulebook.Proofs.Json.Number
import Rulebook.Proofs.Json.Quoted

/-!
# Texts that stand for a value

`Json.Reads` says that a text is read as a value wherever it stands. Words, strings and numbers have
such texts, and the property is closed under the ways in which arrays and objects are set, whatever
blanks stand between their parts (`reads_array`, `reads_object`).
-/

set_option autoImplicit false

namespace Rulebook

namespace Json

open Text

/-- A text is read as a value with `depth` containers around it, whatever follows that does not carry
on a number. It takes no more steps than it has characters. -/
structure Reads (depth : Nat) (j : Json) (text : List Char) : Prop where
  /-- Nothing at the front is passed over or taken for the end of an array. -/
  starts : ∃ c more, text = c :: more ∧ isGap c = false ∧ c ≠ ']'
  scan : ∀ fuel rest, text.length ≤ fuel → EndsNumber rest →
    scanValue? fuel depth (text ++ rest) = some (j, rest)

/-- Nothing but blanks. -/
def Blanks (text : List Char) : Prop := ∀ c ∈ text, isGap c = true

theorem blanks_nil : Blanks [] := by
  intro c hc
  cases hc

theorem blanks_newLine (level : Nat) : Blanks (newLine level) := by
  intro c hc
  rcases List.mem_cons.1 hc with rfl | hc
  · rfl
  · rw [List.eq_of_mem_replicate hc]
    rfl

/-- Blanks in front of what is none are passed over. -/
theorem skipGap_append {blanks : List Char} (hblanks : Blanks blanks) {c : Char}
    (hc : isGap c = false) (text : List Char) : skipGap (blanks ++ c :: text) = c :: text := by
  rw [skipGap, List.dropWhile_append_of_pos hblanks, List.dropWhile_cons_of_neg (by simp [hc])]

theorem skipGap_cons {c : Char} (hc : isGap c = false) (text : List Char) :
    skipGap (c :: text) = c :: text :=
  skipGap_append blanks_nil hc text

theorem endsNumber_cons {c : Char} (hdigit : isAsciiDigit c = false)
    (hmark : c ≠ '.' ∧ c ≠ 'e' ∧ c ≠ 'E') (rest : List Char) : EndsNumber (c :: rest) := by
  intro d hd
  obtain rfl := Option.some.inj hd
  exact ⟨hdigit, hmark⟩

theorem endsNumber_append {blanks rest : List Char} (hblanks : Blanks blanks)
    (hrest : EndsNumber rest) : EndsNumber (blanks ++ rest) := by
  cases blanks with
  | nil => exact hrest
  | cons c blanks =>
      have hc : isGap c = true := hblanks c List.mem_cons_self
      simp only [isGap, Bool.or_eq_true, decide_eq_true_eq] at hc
      rcases hc with ((rfl | rfl) | rfl) | rfl
      · exact endsNumber_cons (by decide) (by decide) _
      · exact endsNumber_cons (by decide) (by decide) _
      · exact endsNumber_cons (by decide) (by decide) _
      · exact endsNumber_cons (by decide) (by decide) _

namespace Reads

variable {depth : Nat} {j : Json} {text : List Char}

/-- Blanks in front of a text that is read are passed over. -/
theorem skipGap_eq (h : Reads depth j text) {blanks : List Char} (hblanks : Blanks blanks)
    (rest : List Char) : skipGap (blanks ++ (text ++ rest)) = text ++ rest := by
  obtain ⟨c, more, rfl, hc, -⟩ := h.starts
  exact skipGap_append hblanks hc (more ++ rest)

end Reads

/-- One step can always be taken, since a text that is read is not empty. -/
theorem reads_of_succ {depth : Nat} {j : Json} {text : List Char}
    (hstarts : ∃ c more, text = c :: more ∧ isGap c = false ∧ c ≠ ']')
    (hscan : ∀ fuel rest, text.length ≤ fuel + 1 → EndsNumber rest →
      scanValue? (fuel + 1) depth (text ++ rest) = some (j, rest)) : Reads depth j text := by
  refine ⟨hstarts, fun fuel rest hfuel hrest => ?_⟩
  cases fuel with
  | zero =>
      obtain ⟨c, more, rfl, -⟩ := hstarts
      cases hfuel
  | succ fuel => exact hscan fuel rest hfuel hrest

/-! ## Plain values -/

section Plain

variable {depth : Nat}

theorem reads_null : Reads depth .null (compactChars .null) := by
  refine reads_of_succ ⟨'n', _, rfl, by decide, by decide⟩ ?_
  intro fuel rest hfuel hrest
  rfl

theorem reads_bool (b : Bool) : Reads depth (.bool b) (compactChars (.bool b)) := by
  cases b with
  | true =>
      refine reads_of_succ ⟨'t', _, rfl, by decide, by decide⟩ ?_
      intro fuel rest hfuel hrest
      rfl
  | false =>
      refine reads_of_succ ⟨'f', _, rfl, by decide, by decide⟩ ?_
      intro fuel rest hfuel hrest
      rfl

theorem reads_string (s : String) : Reads depth (.string s) (compactChars (.string s)) := by
  refine reads_of_succ ⟨'"', _, rfl, by decide, by decide⟩ ?_
  intro fuel rest hfuel hrest
  have htext : compactChars (.string s) ++ rest =
      '"' :: (s.toList.flatMap quotedChar ++ '"' :: rest) := by
    simp [compactChars, quoted]
  rw [htext, scanValue?, scanString?_quoted]
  rfl

/-- A text that the reader of numbers takes as a whole, whatever follows that does not carry it
on. -/
structure Literal (j : Json) (text : List Char) : Prop where
  starts : ∃ c more, text = c :: more ∧ (c = '-' ∨ isAsciiDigit c = true)
  scan : ∀ rest, EndsNumber rest → scanNumber? (text ++ rest) = some (j, rest)

theorem literal_plainWhole {n : Int} (h : FitsWord n) : Literal (.integer n) (plainWhole n) := by
  refine ⟨?_, fun rest hrest => scanNumber?_plainWhole h hrest⟩
  by_cases hn : n < 0
  · exact ⟨'-', Nat.toDigits 10 n.natAbs, by simp [plainWhole, signText, hn], .inl rfl⟩
  · obtain ⟨d, digits, hdigits, hd⟩ := exists_toDigits_eq_cons n.natAbs
    exact ⟨d, digits, by simp [plainWhole, signText, hn, hdigits], .inr hd⟩

theorem reads_literal {j : Json} {text : List Char} (h : Literal j text) : Reads depth j text := by
  obtain ⟨c, more, rfl, hc⟩ := h.starts
  -- nothing else begins with a digit or a minus
  have hother : ∀ d, isAsciiDigit d = false → d ≠ '-' → c ≠ d := by
    rintro d hdigit hminus rfl
    rcases hc with hc | hc
    · exact hminus hc
    · rw [hdigit] at hc
      cases hc
  have hgap : isGap c = false := by
    simp [isGap, hother ' ' (by decide) (by decide), hother '\t' (by decide) (by decide),
      hother '\n' (by decide) (by decide), hother '\r' (by decide) (by decide)]
  refine reads_of_succ ⟨c, more, rfl, hgap, hother ']' (by decide) (by decide)⟩ ?_
  intro fuel rest hfuel hrest
  have hscan := h.scan rest hrest
  have hword : scanWord? (c :: more ++ rest) = none := by
    simp [scanWord?, dropLiteral?, (hother 'n' (by decide) (by decide)).symm,
      (hother 't' (by decide) (by decide)).symm, (hother 'f' (by decide) (by decide)).symm]
  rw [scanValue?.eq_def]
  simp only
  split
  · rename_i heq
    exact absurd (List.cons.inj heq).1 (hother '[' (by decide) (by decide))
  · rename_i heq
    exact absurd (List.cons.inj heq).1 (hother '\x7b' (by decide) (by decide))
  · rename_i heq
    exact absurd (List.cons.inj heq).1 (hother '"' (by decide) (by decide))
  · rw [hword, hscan]
    rfl

end Plain

/-! ## Arrays and objects -/

section Containers

variable {depth fuel : Nat} {lead between colon trail rest : List Char}
variable {α : Type} {write : α → List Char} {value : α → Json}
variable {items : List α} {members : List (String × α)}

theorem separated_cons_cons {α : Type} (text : α → List Char) (separator : List Char)
    (p q : α) (parts : List α) :
    separated separator ((p :: q :: parts).map text) =
      text p ++ (separator ++ separated separator ((q :: parts).map text)) :=
  List.append_assoc _ _ _

/-- A first text that has a first character stands at the front. -/
theorem exists_separated_eq (separator : List Char) {c : Char} (more : List Char)
    (texts : List (List Char)) :
    ∃ behind, separated separator ((c :: more) :: texts) = c :: behind := by
  cases texts with
  | nil => exact ⟨more, rfl⟩
  | cons second texts => exact ⟨more ++ separator ++ separated separator (second :: texts), rfl⟩

/-- What follows a value within a container does not carry it on. -/
theorem endsNumber_close {blanks : List Char} (hblanks : Blanks blanks) {c : Char}
    (hc : c = ',' ∨ c = ']' ∨ c = '\x7d') : EndsNumber (blanks ++ c :: rest) := by
  refine endsNumber_append hblanks ?_
  rcases hc with rfl | rfl | rfl
  · exact endsNumber_cons (by decide) (by decide) rest
  · exact endsNumber_cons (by decide) (by decide) rest
  · exact endsNumber_cons (by decide) (by decide) rest

/-! Items. -/

/-- Items begin as the first of them does. -/
theorem starts_separated (separator : List Char) (hne : items ≠ [])
    (hitems : ∀ item ∈ items, Reads depth (value item) (write item)) :
    ∃ c more, separated separator (items.map write) = c :: more ∧ isGap c = false ∧ c ≠ ']' := by
  obtain ⟨first, others, rfl⟩ := List.exists_cons_of_ne_nil hne
  obtain ⟨c, more, htext, hc⟩ := (hitems first List.mem_cons_self).starts
  obtain ⟨behind, hbehind⟩ := exists_separated_eq separator (c := c) more (others.map write)
  exact ⟨c, behind, by rw [List.map_cons, htext, hbehind], hc⟩

theorem scanItems?_last {j : Json} {text : List Char} (h : Reads depth j text)
    (hfuel : text.length ≤ fuel) (htrail : Blanks trail) :
    scanItems? (fuel + 1) depth (text ++ (trail ++ ']' :: rest)) = some ([j], rest) := by
  have hvalue := h.scan fuel (trail ++ ']' :: rest) hfuel (endsNumber_close htrail (by simp))
  have hskip : skipGap (trail ++ ']' :: rest) = ']' :: rest := skipGap_append htrail rfl rest
  simp [scanItems?, hvalue, hskip]

theorem scanItems?_more {j : Json} {values : List Json} {text more : List Char} {c : Char}
    (h : Reads depth j text) (hfuel : text.length ≤ fuel) (hbetween : Blanks between)
    (hc : isGap c = false) (hitems : scanItems? fuel depth (c :: more) = some (values, rest)) :
    scanItems? (fuel + 1) depth (text ++ (',' :: (between ++ c :: more))) =
      some (j :: values, rest) := by
  have hvalue := h.scan fuel (',' :: (between ++ c :: more)) hfuel
    (endsNumber_close blanks_nil (.inl rfl))
  have hcomma : skipGap (',' :: (between ++ c :: more)) = ',' :: (between ++ c :: more) :=
    skipGap_cons rfl _
  have hmore : skipGap (between ++ c :: more) = c :: more := skipGap_append hbetween hc more
  simp [scanItems?, hvalue, hcomma, hmore, hitems]

/-- Items that are read one by one are read together, with commas and any blanks between them and
any blanks before the closing bracket. -/
theorem scanItems?_separated (hbetween : Blanks between) (htrail : Blanks trail)
    (hne : items ≠ []) (hitems : ∀ item ∈ items, Reads depth (value item) (write item))
    (fuel : Nat) (hfuel : (separated (',' :: between) (items.map write)).length < fuel)
    (rest : List Char) :
    scanItems? fuel depth (separated (',' :: between) (items.map write) ++ (trail ++ ']' :: rest)) =
      some (items.map value, rest) := by
  -- the induction is on the items still to come; each takes one step and leaves the rest
  induction items generalizing fuel with
  | nil => exact absurd rfl hne
  | cons item items ih =>
      obtain ⟨hitem, hitems⟩ := List.forall_mem_cons.1 hitems
      obtain ⟨fuel, rfl⟩ := Nat.exists_eq_succ_of_ne_zero (Nat.ne_zero_of_lt hfuel)
      cases items with
      | nil => exact scanItems?_last hitem (Nat.le_of_lt_succ hfuel) htrail
      | cons second others =>
          obtain ⟨c, more, hstart, hc, -⟩ := starts_separated (',' :: between) (by simp) hitems
          rw [separated_cons_cons, hstart] at hfuel ⊢
          simp only [List.length_append, List.length_cons] at hfuel
          have hothers := ih (by simp) hitems fuel (by
            rw [hstart, List.length_cons]
            omega)
          rw [hstart] at hothers
          have hread := scanItems?_more hitem (by omega) hbetween hc hothers
          simpa using hread

/-- An array is read if its items are, whatever blanks stand around them. -/
theorem reads_array (hdepth : depth < maxDepth) (hlead : Blanks lead) (hbetween : Blanks between)
    (htrail : Blanks trail) (hne : items ≠ [])
    (hitems : ∀ item ∈ items, Reads (depth + 1) (value item) (write item)) :
    Reads depth (.array (items.map value))
      ('[' :: lead ++ separated (',' :: between) (items.map write) ++ trail ++ [']']) := by
  refine reads_of_succ ⟨'[', _, rfl, rfl, by decide⟩ ?_
  intro fuel rest hfuel hrest
  obtain ⟨c, more, hstart, hc, hclose⟩ := starts_separated (',' :: between) hne hitems
  have hlength : (separated (',' :: between) (items.map write)).length < fuel := by
    simp only [List.length_append, List.length_cons, List.cons_append] at hfuel
    omega
  have hread := scanItems?_separated hbetween htrail hne hitems fuel hlength rest
  rw [hstart] at hread ⊢
  have hskip : skipGap (lead ++ c :: (more ++ (trail ++ ']' :: rest))) =
      c :: (more ++ (trail ++ ']' :: rest)) := skipGap_append hlead hc _
  simp only [List.cons_append, List.append_assoc, List.nil_append] at hread ⊢
  simp only [scanValue?, hskip]
  split
  · rename_i heq
    exact absurd (List.cons.inj heq).1 hclose
  · rw [hread]
    simp [atDepth, hdepth]

theorem reads_array_nil (hdepth : depth < maxDepth) : Reads depth (.array []) ['[', ']'] := by
  refine reads_of_succ ⟨'[', _, rfl, rfl, by decide⟩ ?_
  intro fuel rest hfuel hrest
  have hskip : skipGap (']' :: rest) = ']' :: rest := skipGap_cons rfl rest
  simp [scanValue?, hskip, atDepth, hdepth]

/-! Members. -/

/-- A member as it is written, with its name, a colon and its value. -/
def memberText (colon : List Char) (write : α → List Char) (m : String × α) : List Char :=
  quoted m.1 ++ ':' :: (colon ++ write m.2)

/-- A member begins with the quote of its name. -/
theorem memberText_append (colon : List Char) (write : α → List Char) (m : String × α)
    (behind : List Char) :
    memberText colon write m ++ behind =
      '"' :: (m.1.toList.flatMap quotedChar ++ '"' :: ':' :: (colon ++ (write m.2 ++ behind))) := by
  simp [memberText, quoted]

/-- Members begin with the quote of the first name. -/
theorem starts_members (separator colon : List Char) (write : α → List Char)
    (m : String × α) (members : List (String × α)) :
    ∃ more, separated separator ((m :: members).map (memberText colon write)) = '"' :: more := by
  have htext := memberText_append colon write m []
  rw [List.append_nil] at htext
  rw [List.map_cons, htext]
  exact exists_separated_eq separator _ _

theorem scanMembers?_last {m : String × α} (h : Reads depth (value m.2) (write m.2))
    (hfuel : (write m.2).length ≤ fuel) (hcolon : Blanks colon) (htrail : Blanks trail) :
    scanMembers? (fuel + 1) depth (memberText colon write m ++ (trail ++ '\x7d' :: rest)) =
      some ([(some m.1, value m.2)], rest) := by
  have hvalue := h.scan fuel (trail ++ '\x7d' :: rest) hfuel (endsNumber_close htrail (by simp))
  have hname : skipGap (':' :: (colon ++ (write m.2 ++ (trail ++ '\x7d' :: rest)))) = _ :=
    skipGap_cons rfl _
  have hcolon := h.skipGap_eq hcolon (trail ++ '\x7d' :: rest)
  have hskip : skipGap (trail ++ '\x7d' :: rest) = '\x7d' :: rest := skipGap_append htrail rfl rest
  rw [memberText_append]
  simp [scanMembers?, scanString?_quoted, hname, hcolon, hvalue, hskip]

theorem scanMembers?_more {m : String × α} {more : List Char} {c : Char}
    {named : List (Option String × Json)} (h : Reads depth (value m.2) (write m.2))
    (hfuel : (write m.2).length ≤ fuel) (hcolon : Blanks colon) (hbetween : Blanks between)
    (hc : isGap c = false) (hmembers : scanMembers? fuel depth (c :: more) = some (named, rest)) :
    scanMembers? (fuel + 1) depth (memberText colon write m ++ (',' :: (between ++ c :: more))) =
      some ((some m.1, value m.2) :: named, rest) := by
  have hvalue := h.scan fuel (',' :: (between ++ c :: more)) hfuel
    (endsNumber_close blanks_nil (.inl rfl))
  have hname : skipGap (':' :: (colon ++ (write m.2 ++ (',' :: (between ++ c :: more))))) = _ :=
    skipGap_cons rfl _
  have hcolon := h.skipGap_eq hcolon (',' :: (between ++ c :: more))
  have hcomma : skipGap (',' :: (between ++ c :: more)) = ',' :: (between ++ c :: more) :=
    skipGap_cons rfl _
  have hmore : skipGap (between ++ c :: more) = c :: more := skipGap_append hbetween hc more
  rw [memberText_append]
  simp [scanMembers?, scanString?_quoted, hname, hcolon, hvalue, hcomma, hmore, hmembers]

/-- Members whose values are read one by one are read together. -/
theorem scanMembers?_separated (hcolon : Blanks colon) (hbetween : Blanks between)
    (htrail : Blanks trail) (hne : members ≠ [])
    (hmembers : ∀ m ∈ members, Reads depth (value m.2) (write m.2)) (fuel : Nat)
    (hfuel : (separated (',' :: between) (members.map (memberText colon write))).length < fuel)
    (rest : List Char) :
    scanMembers? fuel depth
        (separated (',' :: between) (members.map (memberText colon write)) ++
          (trail ++ '\x7d' :: rest)) =
      some (members.map fun m => (some m.1, value m.2), rest) := by
  -- the induction is on the members still to come, as for items
  induction members generalizing fuel with
  | nil => exact absurd rfl hne
  | cons m members ih =>
      obtain ⟨hm, hmembers⟩ := List.forall_mem_cons.1 hmembers
      obtain ⟨fuel, rfl⟩ := Nat.exists_eq_succ_of_ne_zero (Nat.ne_zero_of_lt hfuel)
      have hvalue : (write m.2).length ≤ (memberText colon write m).length := by
        simp only [memberText, List.length_append, List.length_cons]
        omega
      cases members with
      | nil =>
          exact scanMembers?_last hm (Nat.le_trans hvalue (Nat.le_of_lt_succ hfuel)) hcolon htrail
      | cons second others =>
          obtain ⟨more, hstart⟩ := starts_members (',' :: between) colon write second others
          rw [separated_cons_cons, hstart] at hfuel ⊢
          simp only [List.length_append, List.length_cons] at hfuel
          have hothers := ih (by simp) hmembers fuel (by
            rw [hstart, List.length_cons]
            omega)
          rw [hstart] at hothers
          have hread := scanMembers?_more hm (by omega) hcolon hbetween rfl hothers
          simpa using hread

/-- Values that are taken out one by one are taken out together. -/
theorem mapM_map_eq_some {α β : Type} (read : β → Option α) (write : α → β) {xs : List α}
    (h : ∀ x ∈ xs, read (write x) = some x) : (xs.map write).mapM read = some xs := by
  induction xs with
  | nil => rfl
  | cons x xs ih =>
      obtain ⟨hx, hxs⟩ := List.forall_mem_cons.1 h
      simp [hx, ih hxs]

/-- Members whose names are texts make an object. -/
theorem ofMembers_named (value : α → Json) (members : List (String × α)) :
    ofMembers (members.map fun m => (some m.1, value m.2)) =
      .object (members.map fun m => (m.1, value m.2)) := by
  have hmap : (members.map fun m => (some m.1, value m.2)) =
      (members.map fun m => (m.1, value m.2)).map fun m => (some m.1, m.2) := by
    rw [List.map_map]
    rfl
  have hnamed : ((members.map fun m => (m.1, value m.2)).map fun m => (some m.1, m.2)).mapM
      (fun m : Option String × Json => m.1.map fun name => (name, m.2)) =
      some (members.map fun m => (m.1, value m.2)) :=
    mapM_map_eq_some _ _ fun _ _ => rfl
  rw [hmap, ofMembers, hnamed]

/-- An object is read if its values are, whatever blanks stand around members and values. -/
theorem reads_object (hdepth : depth < maxDepth) (hlead : Blanks lead) (hcolon : Blanks colon)
    (hbetween : Blanks between) (htrail : Blanks trail) (hne : members ≠ [])
    (hmembers : ∀ m ∈ members, Reads (depth + 1) (value m.2) (write m.2)) :
    Reads depth (.object (members.map fun m => (m.1, value m.2)))
      ('\x7b' :: lead ++ separated (',' :: between) (members.map (memberText colon write)) ++
        trail ++ ['\x7d']) := by
  refine reads_of_succ ⟨'\x7b', _, rfl, rfl, by decide⟩ ?_
  intro fuel rest hfuel hrest
  obtain ⟨first, others, rfl⟩ := List.exists_cons_of_ne_nil hne
  obtain ⟨more, hstart⟩ := starts_members (',' :: between) colon write first others
  have hlength : (separated (',' :: between)
      ((first :: others).map (memberText colon write))).length < fuel := by
    simp only [List.length_append, List.length_cons, List.cons_append] at hfuel
    omega
  have hread := scanMembers?_separated hcolon hbetween htrail hne hmembers fuel hlength rest
  rw [hstart] at hread ⊢
  have hskip : skipGap (lead ++ '"' :: (more ++ (trail ++ '\x7d' :: rest))) =
      '"' :: (more ++ (trail ++ '\x7d' :: rest)) := skipGap_append hlead rfl _
  simp only [List.cons_append, List.append_assoc, List.nil_append] at hread ⊢
  simp [scanValue?, hskip, hread, ofMembers_named, atDepth, hdepth, -List.map_cons]

theorem reads_object_nil (hdepth : depth < maxDepth) :
    Reads depth (.object []) ['\x7b', '\x7d'] := by
  refine reads_of_succ ⟨'\x7b', _, rfl, rfl, by decide⟩ ?_
  intro fuel rest hfuel hrest
  have hskip : skipGap ('\x7d' :: rest) = '\x7d' :: rest := skipGap_cons rfl rest
  simp [scanValue?, hskip, atDepth, hdepth]

end Containers

end Json

end Rulebook
