import Rulebook.Expression.Reader
import Rulebook.Proofs.Expression.Layout

/-!
# Reading what is written

Reading a rule text finds the disjunction of conjunctions that was written, whatever the case of its
keywords, the blanks around them, its opening, its conclusion and the white space outside
(`Expression.read_written`). The three scanners are taken one by one: `ruleBody` finds the body
(`ruleBody_written`), `splitAt` takes the body apart at `or` (`splitAt_or`) and each group at `and`
(`splitAt_and`).
-/

set_option autoImplicit false

namespace Rulebook

open Text

/-! ## Splitting at a connective -/

section Splitting

variable {connective : Connective}

/-- Blanks before a text that has none at its front are passed over. -/
theorem dropWhile_blanks {gap rest : List Char} (hgap : ∀ c ∈ gap, isAsciiBlank c = true)
    (hrest : ∀ c ∈ rest.head?, isAsciiBlank c = false) :
    (gap ++ rest).dropWhile isAsciiBlank = rest := by
  rw [List.dropWhile_append_of_pos hgap]
  cases rest with
  | nil => rfl
  | cons c rest => exact List.dropWhile_cons_of_neg (Bool.eq_false_iff.1 (hrest c rfl))

/-- Passing over characters leaves what stands behind them. -/
theorem splitFrom_length (word before rest : List Char) :
    splitFrom word before.length (before ++ rest) = splitFrom word 0 rest := by
  induction before with
  | nil => rfl
  | cons c before ih => exact ih

/-- A separator is a blank, the word behind any further blanks, and a blank behind it. -/
theorem dropSeparator?_eq_some_iff {word text rest : List Char} {c : Char} :
    dropSeparator? word (c :: text) = some rest ↔ isAsciiBlank c = true ∧ ∃ d behind,
      dropPhrase? word (text.dropWhile isAsciiBlank) = some (d :: behind) ∧
        isAsciiBlank d = true ∧ behind.dropWhile isAsciiBlank = rest := by
  by_cases hc : isAsciiBlank c = true
  · cases hphrase : dropPhrase? word (text.dropWhile isAsciiBlank) with
    | none => simp [dropSeparator?, hc, hphrase]
    | some found =>
        cases found with
        | nil => simp [dropSeparator?, hc, hphrase]
        | cons d behind =>
            by_cases hd : isAsciiBlank d = true
            · simp [dropSeparator?, hc, hphrase, hd]
            · simp [dropSeparator?, hc, hphrase, hd]
  · simp [dropSeparator?, hc]

/-- No separator begins in a text in which the word of the connective does not stand. -/
theorem dropSeparator?_eq_none {atStart : Bool} {c : Char} {text more : List Char}
    (hfree : (Keyword.ofConnective connective).standsFrom atStart (c :: text) = false)
    (hlast : ∀ d ∈ (c :: text).getLast?, isBlank d = false) (hmore : BlankFirst more) :
    dropSeparator? connective.keyword.toList (c :: (text ++ more)) = none := by
  rw [Option.eq_none_iff_forall_ne_some]
  intro rest hfound
  obtain ⟨hc, d, behind, hphrase, hd, -⟩ := dropSeparator?_eq_some_iff.1 hfound
  -- the word does not stand behind the blanks in the text
  have hsplit : text.takeWhile isAsciiBlank ++ text.dropWhile isAsciiBlank = text :=
    List.takeWhile_append_dropWhile
  have hstands : (Keyword.ofConnective connective).standsFrom true
      (text.dropWhile isAsciiBlank) = false := by
    rw [Keyword.standsFrom, hc, Bool.or_eq_false_iff, ← hsplit,
      Keyword.standsFrom_blanks _ fun e he => List.mem_takeWhile_imp he] at hfree
    exact hfree.2
  cases hinner : text.dropWhile isAsciiBlank with
  | nil =>
      -- only blanks are left, but the last character of the text is none
      have hall : ∀ f ∈ c :: text, isAsciiBlank f = true :=
        List.forall_mem_cons.2 ⟨hc, List.dropWhile_eq_nil_iff.1 hinner⟩
      have hnot := hlast _ (List.getLast?_eq_some_getLast (List.cons_ne_nil c text))
      rw [isBlank_of_isAsciiBlank (hall _ (List.getLast_mem _))] at hnot
      cases hnot
  | cons e inner =>
      rw [hinner, Keyword.standsFrom, Bool.true_and, Bool.or_eq_false_iff,
        ← Keyword.opens_append _ hmore] at hstands
      rw [List.dropWhile_append, hinner, List.isEmpty_cons, if_neg Bool.false_ne_true] at hphrase
      have hopens : (Keyword.ofConnective connective).opens (e :: inner ++ more) = true := by
        obtain ⟨spelled, hspells, htext⟩ := dropPhrase?_eq_some_iff.1 hphrase
        exact Keyword.opens_iff.2 ⟨spelled, d :: behind, htext, hspells, fun f hf =>
          Option.some.inj hf ▸ hd⟩
      rw [hopens] at hstands
      cases hstands.1

theorem splitFrom_append {atStart : Bool} {text more : List Char}
    (hfree : (Keyword.ofConnective connective).standsFrom atStart text = false)
    (hlast : ∀ c ∈ text.getLast?, isBlank c = false) (hmore : BlankFirst more) :
    splitFrom connective.keyword.toList 0 (text ++ more) =
      (splitFrom connective.keyword.toList 0 more).modifyHead (text ++ ·) := by
  induction text generalizing atStart with
  | nil => exact (congrFun List.modifyHead_id _).symm
  | cons c text ih =>
      rw [List.cons_append, splitFrom, dropSeparator?_eq_none hfree hlast hmore]
      rw [Keyword.standsFrom, Bool.or_eq_false_iff] at hfree
      have htail : ∀ d ∈ text.getLast?, isBlank d = false := by
        intro d hd
        refine hlast d ?_
        rw [List.getLast?_cons, Option.mem_def.1 hd]
        rfl
      rw [ih hfree.2 htail, List.modifyHead_modifyHead]
      rfl

/-- At a joint the separator is found, and all of it. -/
theorem dropSeparator?_joint (joint : Joint (Keyword.ofConnective connective)) {rest : List Char}
    (hrest : ∀ c ∈ rest.head?, isAsciiBlank c = false) :
    dropSeparator? connective.keyword.toList (joint.text ++ rest) = some rest := by
  obtain ⟨c, before, hbefore, hc, hblank⟩ := joint.before.exists_text_eq
  obtain ⟨d, after, hafter, hd, hblank'⟩ := joint.after.exists_text_eq
  rw [show joint.text ++ rest = c :: (before ++ (joint.spelled ++ (d :: (after ++ rest)))) by
    simp [Joint.text, hbefore, hafter], dropSeparator?_eq_some_iff]
  refine ⟨hc, d, after ++ rest, ?_, hd, dropWhile_blanks hblank' hrest⟩
  have hword : ∀ e ∈ (joint.spelled ++ (d :: (after ++ rest))).head?, isAsciiBlank e = false :=
    fun e he => isAsciiBlank_eq_false
      (joint.spells.no_blank_first (Keyword.ne_nil _) (Keyword.no_blank _) _ e he)
  rw [dropWhile_blanks hblank hword]
  exact dropPhrase?_eq_some_iff.2 ⟨joint.spelled, joint.spells, rfl⟩

theorem splitFrom_joint (joint : Joint (Keyword.ofConnective connective)) {rest : List Char}
    (hrest : ∀ c ∈ rest.head?, isAsciiBlank c = false) :
    splitFrom connective.keyword.toList 0 (joint.text ++ rest) =
      [] :: splitFrom connective.keyword.toList 0 rest := by
  have hfound := dropSeparator?_joint joint hrest
  obtain ⟨c, before, hbefore, -⟩ := joint.before.exists_text_eq
  obtain ⟨text, htext⟩ : ∃ text, joint.text = c :: text := by simp [Joint.text, hbefore]
  rw [htext, List.cons_append] at hfound ⊢
  rw [splitFrom, hfound]
  change [] :: splitFrom _ ((text ++ rest).length - rest.length) (text ++ rest) = _
  rw [List.length_append, Nat.add_sub_cancel, splitFrom_length]

/-- A joined text is taken apart into its parts. -/
theorem splitAt_text {α : Type} {render : α → List Char} (hsolid : ∀ x, Solid (render x))
    (hfree : ∀ x, (Keyword.ofConnective connective).standsFrom true (render x) = false)
    (j : Joined (Keyword.ofConnective connective) α) :
    splitAt connective (j.text render) = j.parts.map render := by
  rw [splitAt]
  induction j with
  | one x =>
      rw [Joined.text, ← List.append_nil (render x),
        splitFrom_append (hfree x) (hsolid x).bare.2 blankFirst_nil]
      simp [splitFrom, Joined.parts]
  | cons x joint rest ih =>
      have hfirst : BlankFirst (joint.text ++ rest.text render) := by
        rw [Joint.text, List.append_assoc]
        exact joint.before.blankFirst_append _
      have hrest : ∀ c ∈ (rest.text render).head?, isAsciiBlank c = false :=
        fun c hc => isAsciiBlank_eq_false ((rest.solid_text hsolid).bare.1 c hc)
      rw [Joined.text, splitFrom_append (hfree x) (hsolid x).bare.2 hfirst,
        splitFrom_joint joint hrest, ih]
      simp [Joined.parts]

end Splitting

theorem splitAt_and (group : Conjunction) : splitAt .and group.text = group.parts.map Leaf.text :=
  splitAt_text Leaf.solid Leaf.standsFrom_and group

theorem splitAt_or (body : Disjunction) :
    splitAt .or body.text = body.parts.map Conjunction.text :=
  splitAt_text Conjunction.solid Conjunction.standsFrom_or body

/-! ## Cutting the conclusion off -/

/-- The word `then` begins a text where it opens it and is closed. -/
theorem startsThen_eq_opens (text : List Char) :
    startsThen text = Keyword.consequence.opens text := by
  have hword : Keyword.consequence.word = ['t', 'h', 'e', 'n'] := rfl
  rw [startsThen, Keyword.opens, hword]
  cases dropPhrase? ['t', 'h', 'e', 'n'] text with
  | none => rfl
  | some rest =>
      cases rest with
      | nil => rfl
      | cons c rest =>
          change (!(isWordChar c || decide (128 ≤ c.toNat))) =
            (decide (c.toNat < 128) && !isWordChar c)
          rw [Bool.not_or, Bool.and_comm, ← decide_not]
          simp only [Nat.not_le]

/-- Nothing is cut off inside a text in which `then` does not stand. -/
theorem cutThen_append {atStart : Bool} {text more : List Char}
    (hfree : Keyword.consequence.standsFrom atStart text = false) (hmore : BlankFirst more) :
    cutThen atStart (text ++ more) =
      text ++ cutThen (Keyword.mayFollow atStart text) more := by
  induction text generalizing atStart with
  | nil => rfl
  | cons c text ih =>
      rw [Keyword.standsFrom, Bool.or_eq_false_iff] at hfree
      rw [List.cons_append, cutThen, startsThen_eq_opens, ← List.cons_append,
        Keyword.opens_append _ hmore, hfree.1, if_neg Bool.false_ne_true, ih hfree.2,
        Keyword.mayFollow_cons, List.cons_append]

theorem cutThen_blanks {gap : List Char} (hgap : ∀ c ∈ gap, isAsciiBlank c = true)
    (rest : List Char) : cutThen true (gap ++ rest) = gap ++ cutThen true rest := by
  induction gap with
  | nil => rfl
  | cons c gap ih =>
      obtain ⟨hc, hgap⟩ := List.forall_mem_cons.1 hgap
      rw [List.cons_append, cutThen, startsThen_eq_opens, Keyword.opens_cons_blank _ hc, hc,
        Bool.and_false, if_neg Bool.false_ne_true, ih hgap, List.cons_append]

/-- Nothing is left where the word stands at the beginning. -/
theorem cutThen_eq_nil {text : List Char} (h : Keyword.consequence.opens text = true) :
    cutThen true text = [] := by
  cases text with
  | nil => rfl
  | cons c text =>
      rw [cutThen, startsThen_eq_opens, h]
      rfl

theorem Conclusion.opens (conclusion : Conclusion) :
    Keyword.consequence.opens (conclusion.spelled ++ conclusion.tail) = true :=
  Keyword.opens_iff.2 ⟨_, _, rfl, conclusion.spells, conclusion.tail_closes⟩

/-- Of a conclusion only the blanks in front are left. -/
theorem cutThen_conclusion (conclusion : Conclusion) (atStart : Bool) :
    cutThen atStart conclusion.text = conclusion.gap.text := by
  have hcut : cutThen true (conclusion.spelled ++ conclusion.tail) = [] :=
    cutThen_eq_nil conclusion.opens
  obtain ⟨c, blanks, hgap, hc, hblanks⟩ := conclusion.gap.exists_text_eq
  rw [Conclusion.text, hgap, List.cons_append, cutThen, startsThen_eq_opens,
    Keyword.opens_cons_blank _ hc, hc, Bool.and_false, if_neg Bool.false_ne_true,
    cutThen_blanks hblanks, hcut, List.append_nil]

/-- The conclusion without white space at its end. -/
def Conclusion.trimmed (c : Conclusion) : Conclusion where
  gap := c.gap
  spelled := c.spelled
  tail := trimEnd c.tail
  spells := c.spells
  tail_closes := fun ch hch => c.tail_closes ch (head?_trimEnd hch)

theorem Conclusion.spelled_last (c : Conclusion) : ∀ ch ∈ c.spelled.getLast?, isBlank ch = false :=
  fun ch hch => c.spells.no_blank (Keyword.no_blank _) ch (List.mem_of_getLast? hch)

/-- The word itself ends in no white space, so trimming stops behind it at the latest. -/
theorem Conclusion.trimEnd_append_text (front : List Char) (c : Conclusion) :
    trimEnd (front ++ c.text) = front ++ c.trimmed.text := by
  have hlast : ∀ ch ∈ (front ++ (c.gap.text ++ c.spelled)).getLast?, isBlank ch = false := by
    rw [← List.append_assoc, List.getLast?_append_of_ne_nil _ (c.spells.ne_nil (Keyword.ne_nil _))]
    exact c.spelled_last
  have htext : front ++ c.text = (front ++ (c.gap.text ++ c.spelled)) ++ c.tail := by
    simp only [Conclusion.text, List.append_assoc]
  have htrimmed : (front ++ (c.gap.text ++ c.spelled)) ++ trimEnd c.tail =
      front ++ c.trimmed.text := by
    simp only [Conclusion.text, Conclusion.trimmed, List.append_assoc]
  rw [htext, trimEnd_append hlast, htrimmed]

/-! ## Putting the opening aside -/

/-- An opening is put aside with the white space behind it. -/
theorem dropIf_opening (opening : Opening) {rest : List Char}
    (hrest : ∀ c ∈ rest.head?, isBlank c = false) : dropIf (opening.text ++ rest) = rest := by
  obtain ⟨spelled, gap, hspells, hne, hgap⟩ := opening
  obtain ⟨c, gap, rfl⟩ := List.exists_cons_of_ne_nil hne
  obtain ⟨hc, hgap⟩ := List.forall_mem_cons.1 hgap
  have hphrase : dropPhrase? introduction (spelled ++ (c :: (gap ++ rest))) =
      some (c :: (gap ++ rest)) :=
    dropPhrase?_eq_some_iff.2 ⟨spelled, hspells, rfl⟩
  rw [Opening.text, List.append_assoc, List.cons_append, dropIf, ← introduction, hphrase]
  simp only [hc, if_true]
  rw [trimStart_append hgap, (trimStart_eq_self_iff rest).2 hrest]

/-- Nothing is put aside where the first leaf does not look like an opening. -/
theorem dropIf_eq_self {leaf more : List Char} (hleaf : ¬ StartsIf leaf) (hmore : BlankFirst more) :
    dropIf (leaf ++ more) = leaf ++ more := by
  rw [dropIf, ← introduction, dropPhrase?_append introduction_no_blank hmore]
  cases hphrase : dropPhrase? introduction leaf with
  | none => rfl
  | some rest =>
      obtain ⟨spelled, hspells, rfl⟩ := dropPhrase?_eq_some_iff.1 hphrase
      cases rest with
      | nil => exact absurd ⟨spelled, [], rfl, hspells, fun c hc => by cases hc⟩ hleaf
      | cons c rest =>
          have hc : isBlank c = false := by
            rw [← Bool.not_eq_true]
            exact fun hc => hleaf ⟨spelled, c :: rest, rfl, hspells, fun d hd =>
              Option.some.inj hd ▸ hc⟩
          simp [hc]

/-! ## The body of a rule text -/

theorem Conclusion.blankFirst (conclusion : Option Conclusion) :
    BlankFirst (conclusion.elim [] Conclusion.text) := by
  cases conclusion with
  | none => exact blankFirst_nil
  | some conclusion => exact conclusion.gap.blankFirst_append _

theorem Disjunction.no_blank_first (body : Disjunction) (rest : List Char) :
    ∀ c ∈ (body.text ++ rest).head?, isBlank c = false := by
  rw [List.head?_append_of_ne_nil _ body.solid.ne_nil]
  exact body.solid.bare.1

/-- Trimming takes away the outer white space and at most part of what follows `then`. -/
theorem Written.exists_trim (w : Written) : ∃ conclusion : Option Conclusion,
    trim w.text = w.opening.elim [] Opening.text ++
      (w.body.text ++ conclusion.elim [] Conclusion.text) := by
  have htail : ∃ conclusion : Option Conclusion,
      trimEnd (w.conclusion.elim [] Conclusion.text ++ w.trail) =
        conclusion.elim [] Conclusion.text := by
    cases w.conclusion with
    | none => exact ⟨none, trimEnd_eq_nil w.trail_blank⟩
    | some conclusion =>
        refine ⟨some conclusion.trimmed, ?_⟩
        rw [trimEnd_append_blanks w.trail_blank]
        exact conclusion.trimEnd_append_text []
  have hhead : ∀ rest, ∀ c ∈ (w.opening.elim [] Opening.text ++ (w.body.text ++ rest)).head?,
      isBlank c = false := by
    intro rest
    cases w.opening with
    | none => exact w.body.no_blank_first rest
    | some opening =>
        rw [Option.elim_some, Opening.text, List.append_assoc]
        exact opening.spells.no_blank_first (by decide) introduction_no_blank _
  have hlast : ∀ c ∈ (w.opening.elim [] Opening.text ++ w.body.text).getLast?,
      isBlank c = false := by
    rw [List.getLast?_append_of_ne_nil _ w.body.solid.ne_nil]
    exact w.body.solid.bare.2
  obtain ⟨conclusion, hconclusion⟩ := htail
  refine ⟨conclusion, ?_⟩
  rw [Written.text, trim_append w.lead_blank, trim, (trimStart_eq_self_iff _).2 (hhead _),
    ← List.append_assoc, trimEnd_append hlast, hconclusion, List.append_assoc]

/-- Behind the opening, if there is one, the body begins. -/
theorem Written.dropIf_start (w : Written) {rest : List Char} (hrest : BlankFirst rest) :
    dropIf (w.opening.elim [] Opening.text ++ (w.body.text ++ rest)) = w.body.text ++ rest := by
  cases hopening : w.opening with
  | some opening => exact dropIf_opening opening (w.body.no_blank_first rest)
  | none =>
      -- what looks like an opening would do so within the first leaf
      obtain ⟨behind, hbody, hbehind⟩ := Joined.exists_text_eq Conjunction.text w.body
      obtain ⟨more, hgroup, hmore⟩ := Joined.exists_text_eq Leaf.text w.body.head
      have htext : w.body.text = w.body.head.head.text ++ (more ++ behind) := by
        rw [← List.append_assoc, ← hgroup]
        exact hbody
      rw [Option.elim_none, List.nil_append, htext, List.append_assoc]
      exact dropIf_eq_self (w.plain_start hopening) ((hmore.append hbehind).append hrest)

/-- Nothing of the conclusion is left behind the body. -/
theorem Disjunction.trimEnd_cutThen (body : Disjunction) (conclusion : Option Conclusion) :
    trimEnd (cutThen true (body.text ++ conclusion.elim [] Conclusion.text)) = body.text := by
  rw [cutThen_append body.standsFrom_then (Conclusion.blankFirst conclusion),
    trimEnd_append body.solid.bare.2]
  cases conclusion with
  | none => exact List.append_nil _
  | some conclusion =>
      rw [Option.elim_some, cutThen_conclusion, trimEnd_eq_nil fun c hc =>
        isBlank_of_isAsciiBlank (conclusion.gap.blank c hc), List.append_nil]

/-- The body of a written rule text is the disjunction as it is written. -/
theorem ruleBody_written (w : Written) : ruleBody w.text = w.body.text := by
  obtain ⟨conclusion, htrim⟩ := w.exists_trim
  rw [ruleBody, htrim, w.dropIf_start (Conclusion.blankFirst conclusion),
    w.body.trimEnd_cutThen conclusion]

/-- **What is written is read.** Reading a rule text gives the groups that were written, and in each
group the clauses of its leaves, in order. -/
theorem Expression.read_written (w : Written) :
    (Expression.read w.text).groups =
      w.body.parts.map fun group => group.parts.map fun leaf => Clause.read leaf.text := by
  rw [Expression.read, ruleBody_written, splitAt_or, List.map_map]
  refine List.map_congr_left fun group _ => ?_
  rw [Function.comp_apply, splitAt_and, List.map_map]
  rfl

/-- The gap that a text of blanks is. -/
def Gap.ofAll (text : List Char) (hne : text ≠ []) (hblank : text.all isAsciiBlank = true) : Gap :=
  ⟨text, hne, List.all_eq_true.1 hblank⟩

/-- A rule text with an opening, three leaves, of which one begins like a keyword, and a
conclusion. -/
def northOrOregon : Written where
  lead := [' ']
  opening := some ⟨"IF".toList, "\t ".toList, by decide, by decide,
    List.all_eq_true.1 (by decide)⟩
  body :=
    .cons
      (.cons
        ⟨"Region is North".toList, by decide, by decide, by decide, by decide, by decide⟩
        ⟨.ofAll [' '] (by decide) (by decide), "And".toList, .ofAll [' '] (by decide) (by decide),
          by decide⟩
        (.one ⟨"Sales > 5".toList, by decide, by decide, by decide, by decide, by decide⟩))
      ⟨.ofAll [' '] (by decide) (by decide), "OR".toList,
        .ofAll "\n ".toList (by decide) (by decide), by decide⟩
      (.one (.one ⟨"Oregon is then_".toList, by decide, by decide, by decide, by decide,
        by decide⟩))
  conclusion := some ⟨.ofAll [' '] (by decide) (by decide), "then".toList, ": big".toList,
    by decide, fun c hc => Option.some.inj hc ▸ (by decide : Keyword.endsWord ':' = true)⟩
  trail := ['\n']
  lead_blank := List.all_eq_true.1 (by decide)
  trail_blank := List.all_eq_true.1 (by decide)
  plain_start := fun h => by cases h

theorem read_written_northOrOregon :
    String.ofList northOrOregon.text =
        " IF\t Region is North And Sales > 5 OR\n Oregon is then_ then: big\n" ∧
      (Expression.read northOrOregon.text).groups =
        [[Clause.read "Region is North".toList, Clause.read "Sales > 5".toList],
          [Clause.read "Oregon is then_".toList]] :=
  ⟨by decide, Expression.read_written northOrOregon⟩

end Rulebook
