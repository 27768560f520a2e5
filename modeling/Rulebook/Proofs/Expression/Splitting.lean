import Rulebook.Proofs.Expression.Single

/-!
# The parts of a split text

A `Division` of a text at a keyword loses nothing: with joints between its parts it is the text
again. It leaves no joint within a part, and no blank next to a joint. Splitting at a connective is
a division (`division_splitAt`). `Splits` follows the splitter from left to right, by one character
or one joint at a time; each clause of `Division` is an induction on it.
-/

set_option autoImplicit false

namespace Rulebook

open Text

/-- The parts of a text with nothing lost between them, no joint left within one of them, and no
blank at an end of one that a joint is next to. -/
structure Division (k : Keyword) (text : List Char) (parts : List (List Char)) : Prop where
  joined : ∃ joined : Joined k (List Char), joined.parts = parts ∧ joined.text id = text
  unsplit : ∀ part ∈ parts, ∀ joint : Joint k, ¬ joint.text <:+: part
  starts : ∀ part ∈ parts.tail, ∀ c ∈ part.head?, isAsciiBlank c = false
  ends : ∀ part ∈ parts.dropLast, ∀ c ∈ part.getLast?, isAsciiBlank c = false

/-- How a text is split from left to right. A joint at the front ends a part and takes all blanks
behind it; a character that begins no joint goes to the first part. -/
inductive Splits (connective : Connective) : List Char → List (List Char) → Prop where
  | done : Splits connective [] [[]]
  | joint {rest : List Char} {parts : List (List Char)}
      (joint : Joint (Keyword.ofConnective connective))
      (first : ∀ c ∈ rest.head?, isAsciiBlank c = false) (behind : Splits connective rest parts) :
      Splits connective (joint.text ++ rest) ([] :: parts)
  | char {c : Char} {text part : List Char} {more : List (List Char)}
      (inside : dropSeparator? connective.keyword.toList (c :: text) = none)
      (behind : Splits connective text (part :: more)) :
      Splits connective (c :: text) ((c :: part) :: more)

variable {connective : Connective} {c : Char} {text rest part : List Char}
  {parts more : List (List Char)}

/-! ## Separators and joints -/

theorem Joint.text_ne_nil {k : Keyword} (joint : Joint k) : joint.text ≠ [] :=
  fun h => joint.before.ne_nil (List.append_eq_nil_iff.1 h).1

theorem head?_dropWhile_blank (text : List Char) :
    ∀ c ∈ (text.dropWhile isAsciiBlank).head?, isAsciiBlank c = false := by
  intro c hc
  have hnot := List.head?_dropWhile_not isAsciiBlank text
  rwa [Option.mem_def.1 hc] at hnot

/-- A separator is a joint with all the blanks behind it. -/
theorem exists_joint_of_dropSeparator?
    (h : dropSeparator? connective.keyword.toList text = some rest) :
    ∃ joint : Joint (Keyword.ofConnective connective), text = joint.text ++ rest ∧
      ∀ c ∈ rest.head?, isAsciiBlank c = false := by
  cases text with
  | nil => cases h
  | cons c text =>
      obtain ⟨hc, d, behind, hphrase, hd, rfl⟩ := dropSeparator?_eq_some_iff.1 h
      obtain ⟨spelled, hspells, hspelled⟩ := dropPhrase?_eq_some_iff.1 hphrase
      have htext : text.takeWhile isAsciiBlank ++ (spelled ++ d :: behind) = text := by
        rw [← hspelled]
        exact List.takeWhile_append_dropWhile
      have hbehind : behind.takeWhile isAsciiBlank ++ behind.dropWhile isAsciiBlank = behind :=
        List.takeWhile_append_dropWhile
      refine ⟨⟨⟨c :: text.takeWhile isAsciiBlank, List.cons_ne_nil _ _, ?_⟩, spelled,
        ⟨d :: behind.takeWhile isAsciiBlank, List.cons_ne_nil _ _, ?_⟩, hspells⟩, ?_,
        head?_dropWhile_blank behind⟩
      · exact List.forall_mem_cons.2 ⟨hc, fun e he => List.mem_takeWhile_imp he⟩
      · exact List.forall_mem_cons.2 ⟨hd, fun e he => List.mem_takeWhile_imp he⟩
      · simp only [Joint.text, List.append_assoc, List.cons_append, hbehind, htext]

/-- Where no separator begins, no joint does. -/
theorem not_joint_isPrefix (h : dropSeparator? connective.keyword.toList text = none)
    (joint : Joint (Keyword.ofConnective connective)) : ¬ joint.text <+: text := by
  rintro ⟨behind, rfl⟩
  have hjoint : dropSeparator? connective.keyword.toList (joint.text ++ []) = some [] :=
    dropSeparator?_joint joint fun c hc => by cases hc
  rw [List.append_nil] at hjoint
  have hsome := isSome_dropSeparator?_append (by rw [hjoint]; rfl) behind
  rw [h] at hsome
  cases hsome

/-- A separator may begin with any number of blanks. -/
theorem dropSeparator?_cons_blank {word : List Char} (hc : isAsciiBlank c = true)
    (h : dropSeparator? word text = some rest) : dropSeparator? word (c :: text) = some rest := by
  cases text with
  | nil => cases h
  | cons d text =>
      obtain ⟨hd, hfound⟩ := dropSeparator?_eq_some_iff.1 h
      rw [dropSeparator?_eq_some_iff, List.dropWhile_cons_of_pos hd]
      exact ⟨hc, hfound⟩

/-! ## The run of the splitter -/

theorem splitFrom_ne_nil (word : List Char) (skip : Nat) (text : List Char) :
    splitFrom word skip text ≠ [] := by
  fun_induction splitFrom word skip text with
  | case1 => exact List.cons_ne_nil _ _
  | case2 _ _ _ ih => exact ih
  | case3 => exact List.cons_ne_nil _ _
  | case4 _ _ _ ih => rwa [Ne, List.modifyHead_eq_nil_iff]

theorem splitAt_ne_nil (connective : Connective) (text : List Char) :
    splitAt connective text ≠ [] :=
  splitFrom_ne_nil _ _ _

theorem splits_splitAt (connective : Connective) (text : List Char) :
    Splits connective text (splitAt connective text) := by
  cases text with
  | nil => exact .done
  | cons c text =>
      cases hfound : dropSeparator? connective.keyword.toList (c :: text) with
      | some rest =>
          obtain ⟨joint, htext, hrest⟩ := exists_joint_of_dropSeparator? hfound
          have hshorter : rest.length < (c :: text).length := by
            rw [htext, List.length_append]
            have := List.length_pos_of_ne_nil joint.text_ne_nil
            omega
          rw [htext, splitAt, splitFrom_joint joint hrest]
          exact .joint joint hrest (splits_splitAt connective rest)
      | none =>
          have hbehind := splits_splitAt connective text
          obtain ⟨part, more, hparts⟩ :=
            List.exists_cons_of_ne_nil (splitAt_ne_nil connective text)
          rw [hparts] at hbehind
          have hsplit : splitAt connective (c :: text) = (c :: part) :: more := by
            rw [splitAt] at hparts ⊢
            rw [splitFrom, hfound, hparts, List.modifyHead_cons]
          rw [hsplit]
          exact .char hfound hbehind
termination_by text.length
decreasing_by
  · exact Nat.lt_succ_self _
  · exact hshorter

namespace Splits

theorem ne_nil (h : Splits connective text parts) : parts ≠ [] := by
  cases h <;> exact List.cons_ne_nil _ _

theorem isPrefix (h : Splits connective text parts) : ∀ part ∈ parts.head?, part <+: text := by
  induction h with
  | done =>
      intro part hpart
      obtain rfl := Option.some.inj hpart
      exact List.prefix_rfl
  | joint _ _ _ _ =>
      intro part hpart
      obtain rfl := Option.some.inj hpart
      exact List.nil_prefix
  | @char c _ _ _ _ _ ih =>
      intro part hpart
      obtain rfl := Option.some.inj hpart
      exact (List.prefix_cons_inj c).2 (ih _ rfl)

theorem exists_joined (h : Splits connective text parts) :
    ∃ joined : Joined (Keyword.ofConnective connective) (List Char),
      joined.parts = parts ∧ joined.text id = text := by
  induction h with
  | done => exact ⟨.one [], rfl, rfl⟩
  | joint joint _ _ ih =>
      obtain ⟨joined, rfl, rfl⟩ := ih
      exact ⟨.cons [] joint joined, rfl, rfl⟩
  | @char c _ _ _ _ _ ih =>
      -- the character goes in front of the first part
      obtain ⟨joined, hparts, rfl⟩ := ih
      cases joined with
      | one part =>
          obtain ⟨rfl, rfl⟩ := List.cons.inj hparts
          exact ⟨.one (c :: part), rfl, rfl⟩
      | cons part joint joined =>
          obtain ⟨rfl, rfl⟩ := List.cons.inj hparts
          exact ⟨.cons (c :: part) joint joined, rfl, rfl⟩

theorem not_joint_isInfix (h : Splits connective text parts) :
    ∀ part ∈ parts, ∀ joint : Joint (Keyword.ofConnective connective),
      ¬ joint.text <:+: part := by
  have hnil : ∀ joint : Joint (Keyword.ofConnective connective), ¬ joint.text <:+: [] :=
    fun joint hinfix => joint.text_ne_nil (List.infix_nil.1 hinfix)
  induction h with
  | done => exact List.forall_mem_singleton.2 hnil
  | joint _ _ _ ih => exact List.forall_mem_cons.2 ⟨hnil, ih⟩
  | @char c text part _ inside behind ih =>
      obtain ⟨hpart, hmore⟩ := List.forall_mem_cons.1 ih
      refine List.forall_mem_cons.2 ⟨fun joint hinfix => ?_, hmore⟩
      rcases List.infix_cons_iff.1 hinfix with hfront | hinner
      · -- the splitter looked for a joint right here, in the whole text
        have hwhole : c :: part <+: c :: text :=
          (List.prefix_cons_inj c).2 (behind.isPrefix part rfl)
        exact not_joint_isPrefix inside joint (hfront.trans hwhole)
      · exact hpart joint hinner

theorem starts (h : Splits connective text parts) :
    ∀ part ∈ parts.tail, ∀ c ∈ part.head?, isAsciiBlank c = false := by
  induction h with
  | done => exact fun part hpart => by cases hpart
  | joint _ first behind ih =>
      obtain ⟨part, more, rfl⟩ := List.exists_cons_of_ne_nil behind.ne_nil
      refine List.forall_mem_cons.2 ⟨fun c hc => first c ?_, ih⟩
      -- the first part begins where the rest does
      obtain ⟨rest, rfl⟩ := behind.isPrefix part rfl
      rw [List.head?_append, Option.mem_def.1 hc]
      rfl
  | char _ _ ih => exact ih

/-- Where an empty part has others behind it, the text begins with a separator. -/
theorem exists_dropSeparator? (h : Splits connective text ([] :: more)) (hmore : more ≠ []) :
    ∃ rest, dropSeparator? connective.keyword.toList text = some rest := by
  cases h with
  | done => exact absurd rfl hmore
  | joint joint first _ => exact ⟨_, dropSeparator?_joint joint first⟩

theorem ends (h : Splits connective text parts) :
    ∀ part ∈ parts.dropLast, ∀ c ∈ part.getLast?, isAsciiBlank c = false := by
  induction h with
  | done => exact fun part hpart => by cases hpart
  | joint _ _ behind ih =>
      rw [List.dropLast_cons_of_ne_nil behind.ne_nil]
      exact List.forall_mem_cons.2 ⟨by simp, ih⟩
  | @char c _ part more inside behind ih =>
      by_cases hmore : more = []
      · subst hmore
        exact fun part hpart => by cases hpart
      · rw [List.dropLast_cons_of_ne_nil hmore] at ih ⊢
        obtain ⟨hpart, hothers⟩ := List.forall_mem_cons.1 ih
        refine List.forall_mem_cons.2 ⟨fun d hd => ?_, hothers⟩
        cases part with
        | cons e part => exact hpart d (by rwa [List.getLast?_cons_cons] at hd)
        | nil =>
            -- a blank would belong to the separator that follows
            obtain rfl : c = d := Option.some.inj hd
            obtain ⟨rest, hrest⟩ := behind.exists_dropSeparator? hmore
            rw [← Bool.not_eq_true]
            intro hblank
            rw [dropSeparator?_cons_blank hblank hrest] at inside
            cases inside

end Splits

/-- Splitting at a connective divides a text. -/
theorem division_splitAt (connective : Connective) (text : List Char) :
    Division (Keyword.ofConnective connective) text (splitAt connective text) where
  joined := (splits_splitAt connective text).exists_joined
  unsplit := (splits_splitAt connective text).not_joint_isInfix
  starts := (splits_splitAt connective text).starts
  ends := (splits_splitAt connective text).ends

/-! ## Parts of the text -/

theorem Joined.isInfix_of_mem_parts {k : Keyword} {joined : Joined k (List Char)}
    (h : part ∈ joined.parts) : part <:+: joined.text id := by
  induction joined with
  | one x => exact List.mem_singleton.1 h ▸ List.infix_rfl
  | cons x joint rest ih =>
      rcases List.mem_cons.1 h with rfl | hrest
      · exact (List.prefix_append _ _).isInfix
      · exact (ih hrest).trans ((List.suffix_append_of_suffix
          (List.suffix_append joint.text _)).isInfix)

theorem isInfix_of_mem_splitAt (h : part ∈ splitAt connective text) : part <:+: text := by
  obtain ⟨joined, hparts, rfl⟩ := (division_splitAt connective text).joined
  rw [← hparts] at h
  exact Joined.isInfix_of_mem_parts h

end Rulebook
