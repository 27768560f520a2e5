import Rulebook.LogFilter
import Mathlib.Data.List.Basic

/-!
# Directives in force

A log filter is made of the directives of one text: that of the environment, or the configured one
where there is none that can be read, or the standard one (`LogFilter.Chosen`). They are put in one
after the other, and one that is put in takes the place of another only if both name the same
(`Directive.mem_insert_of_ne`). So what is in force was written, and the last directive of all that
name the same is in force, whatever stands around it (`LogFilter.inForce_directives`).
-/

set_option autoImplicit false

namespace Rulebook

/-- Comparisons tell nothing apart exactly if none of them does. -/
theorem decided_eq_eq_iff {comparisons : List Ordering} :
    decided comparisons = .eq ↔ ∀ o ∈ comparisons, o = .eq := by
  induction comparisons with
  | nil => simp [decided]
  | cons o comparisons ih =>
      cases o with
      | lt => simp [decided]
      | eq => simp [decided, ih]
      | gt => simp [decided]

namespace Directive

variable {d e : Directive} {ds done front back : List Directive}

/-! ## One directive -/

theorem mem_insert_self (d : Directive) (ds : List Directive) : d ∈ insert d ds := by
  induction ds with
  | nil => exact List.mem_singleton_self d
  | cons first ds ih =>
      rw [insert]
      split
      · exact List.mem_cons_self
      · exact List.mem_cons_self
      · exact List.mem_cons_of_mem first ih

theorem mem_of_mem_insert (h : e ∈ insert d ds) : e = d ∨ e ∈ ds := by
  induction ds with
  | nil => exact .inl (List.mem_singleton.1 h)
  | cons first ds ih =>
      rw [insert] at h
      split at h
      · exact List.mem_cons.1 h
      · exact (List.mem_cons.1 h).imp_right (List.mem_cons_of_mem first)
      · rcases List.mem_cons.1 h with rfl | hrest
        · exact .inr List.mem_cons_self
        · exact (ih hrest).imp_right (List.mem_cons_of_mem first)

/-- A directive stays when one is put in that names something else. -/
theorem mem_insert_of_ne (he : e ∈ ds) (hne : specificity d e ≠ .eq) : e ∈ insert d ds := by
  induction ds with
  | nil => cases he
  | cons first ds ih =>
      rw [insert]
      split
      · exact List.mem_cons_of_mem d he
      · -- the first one gives way, and it is not the one in question
        rename_i heq
        rcases List.mem_cons.1 he with rfl | hrest
        · exact absurd heq hne
        · exact List.mem_cons_of_mem d hrest
      · rcases List.mem_cons.1 he with rfl | hrest
        · exact List.mem_cons_self
        · exact List.mem_cons_of_mem first (ih hrest)

/-- Of two directives that name the same both have to look at spans, or neither has. -/
theorem isDynamic_eq (h : specificity d e = .eq) : d.isDynamic = e.isDynamic := by
  have hall := decided_eq_eq_iff.1 h
  have hspan : d.span.isSome.toNat = e.span.isSome.toNat :=
    Nat.compare_eq_eq.1 (hall _ (by simp))
  have hfields : d.fields.length = e.fields.length := Nat.compare_eq_eq.1 (hall _ (by simp))
  have hempty : d.fields.isEmpty = e.fields.isEmpty := by
    rw [Bool.eq_iff_iff, List.isEmpty_iff_length_eq_zero, List.isEmpty_iff_length_eq_zero, hfields]
  have hspans : d.span.isSome = e.span.isSome := by
    cases hd : d.span.isSome <;> cases he : e.span.isSome <;> simp [hd, he] at hspan ⊢
  rw [isDynamic, isDynamic, hspans, hempty]

/-! ## Many directives -/

/-- What is in force was put in. -/
theorem mem_of_mem_foldl_insert (h : e ∈ ds.foldl (fun done d => insert d done) done) :
    e ∈ done ∨ e ∈ ds := by
  induction ds generalizing done with
  | nil => exact .inl h
  | cons d ds ih =>
      rcases ih h with hdone | hds
      · rcases mem_of_mem_insert hdone with rfl | hdone
        · exact .inr List.mem_cons_self
        · exact .inl hdone
      · exact .inr (List.mem_cons_of_mem d hds)

/-- What is in force stays so as long as nothing is put in that names the same. -/
theorem mem_foldl_insert_of_mem (he : e ∈ done) (hds : ∀ d ∈ ds, specificity d e ≠ .eq) :
    e ∈ ds.foldl (fun done d => insert d done) done := by
  induction ds generalizing done with
  | nil => exact he
  | cons d ds ih =>
      obtain ⟨hd, hds⟩ := List.forall_mem_cons.1 hds
      exact ih (mem_insert_of_ne he hd) hds

/-- The directive is the last of those that name the same. -/
def LastIn (ds : List Directive) (e : Directive) : Prop :=
  ∃ front back, ds = front ++ e :: back ∧ ∀ d ∈ back, specificity d e ≠ .eq

theorem LastIn.mem_foldl_insert (h : LastIn ds e) :
    e ∈ ds.foldl (fun done d => insert d done) done := by
  obtain ⟨front, back, rfl, hback⟩ := h
  rw [List.foldl_append, List.foldl_cons]
  exact mem_foldl_insert_of_mem (mem_insert_self e _) hback

/-- The last directive is so among fewer ones, too. -/
theorem LastIn.filter (h : LastIn ds e) (keep : Directive → Bool) (hkeep : keep e = true) :
    LastIn (ds.filter keep) e := by
  obtain ⟨front, back, rfl, hback⟩ := h
  refine ⟨front.filter keep, back.filter keep, ?_, ?_⟩
  · rw [List.filter_append, List.filter_cons_of_pos hkeep]
  · intro d hd
    exact hback d (List.mem_of_mem_filter hd)

/-- Directives that name something else do no harm behind the last one. -/
theorem LastIn.append (h : LastIn ds e) {more : List Directive}
    (hmore : ∀ d ∈ more, specificity d e ≠ .eq) : LastIn (ds ++ more) e := by
  obtain ⟨front, back, rfl, hback⟩ := h
  refine ⟨front, back ++ more, by rw [List.append_assoc, List.cons_append], ?_⟩
  intro d hd
  rcases List.mem_append.1 hd with hd | hd
  · exact hback d hd
  · exact hmore d hd

end Directive

namespace LogFilter

open Directive

variable {d : Directive} {ds : List Directive}

/-! ## The filter of directives -/

theorem mem_of_mem_ofDirectives
    (h : d ∈ (ofDirectives ds).statics ∨ d ∈ (ofDirectives ds).dynamics) : d ∈ ds := by
  rcases h with h | h
  · rcases mem_of_mem_foldl_insert h with hnone | hd
    · cases hnone
    · rcases List.mem_append.1 hd with hd | hd
      · exact List.mem_of_mem_filter hd
      · exact List.mem_of_mem_filter (List.mem_of_mem_filter hd)
  · rcases mem_of_mem_foldl_insert h with hnone | hd
    · cases hnone
    · exact List.mem_of_mem_filter hd

theorem mem_dynamics_of_lastIn (h : LastIn ds d) (hdynamic : d.isDynamic = true) :
    d ∈ (ofDirectives ds).dynamics :=
  (h.filter isDynamic hdynamic).mem_foldl_insert

theorem mem_statics_of_lastIn (h : LastIn ds d) (hstatic : d.isDynamic = false) :
    d ∈ (ofDirectives ds).statics := by
  have hlast : LastIn (ds.filter fun d => !d.isDynamic) d := h.filter _ (by simp [hstatic])
  refine (hlast.append ?_).mem_foldl_insert
  -- those that follow name spans or fields, and this one does not
  intro e he hsame
  have hdynamic : e.isDynamic = true := List.of_mem_filter (List.mem_of_mem_filter he)
  rw [isDynamic_eq hsame, hstatic] at hdynamic
  cases hdynamic

/-! ## The filter of a run -/

/-- The directives of a text, if all of them can be read. Empty ones are passed over. -/
def directives? (s : String) : Option (List Directive) :=
  ((Text.partsAt ',' s.toList).filter (· ≠ [])).mapM Directive.read?

/-- The directives of which the filter in force is made: those of the environment's text; where
there is none, or none that can be read, those of the configured one; and where this cannot be read
either, a single one that logs everything down to information. -/
inductive Chosen (own : Option String) (configured : String) : List Directive → Prop where
  | own {text : String} {ds : List Directive} : own = some text → directives? text = some ds →
      Chosen own configured ds
  | configured {ds : List Directive} : (∀ text ∈ own, directives? text = none) →
      directives? configured = some ds → Chosen own configured ds
  | standard : (∀ text ∈ own, directives? text = none) → directives? configured = none →
      Chosen own configured [⟨none, none, [], .info⟩]

variable {own : Option String} {configured : String}

theorem exists_chosen (own : Option String) (configured : String) :
    ∃ ds, Chosen own configured ds ∧ inForce own configured = ofDirectives ds := by
  have hread : ∀ s, read? s = (directives? s).map ofDirectives := fun _ => rfl
  cases hown : own.bind directives? with
  | some ds =>
      obtain ⟨text, rfl, htext⟩ := Option.bind_eq_some_iff.1 hown
      refine ⟨ds, .own rfl htext, ?_⟩
      rw [inForce, Option.bind_some, hread, htext]
      rfl
  | none =>
      have hnone : ∀ text ∈ own, directives? text = none := Option.bind_eq_none_iff.1 hown
      have hpassed : own.bind read? = none := by
        rw [Option.bind_eq_none_iff]
        intro text htext
        rw [hread, hnone text htext, Option.map_none]
      cases hconfigured : directives? configured with
      | some ds =>
          refine ⟨ds, .configured hnone hconfigured, ?_⟩
          rw [inForce, hpassed, Option.none_or, hread, hconfigured]
          rfl
      | none =>
          refine ⟨_, .standard hnone hconfigured, ?_⟩
          rw [inForce, hpassed, Option.none_or, hread, hconfigured]
          rfl

/-- There is always a filter in force, and it is made of the directives of one text. Every directive
in force was written there, and of all that name the same the last one is in force: among those that
look at spans if it names a span or a field, and else among those settled beforehand. -/
theorem inForce_directives (own : Option String) (configured : String) :
    ∃ ds, Chosen own configured ds ∧
      (∀ d, d ∈ (inForce own configured).statics ∨ d ∈ (inForce own configured).dynamics → d ∈ ds) ∧
      ∀ d, LastIn ds d →
        (d.isDynamic = true → d ∈ (inForce own configured).dynamics) ∧
        (d.isDynamic = false → d ∈ (inForce own configured).statics) := by
  obtain ⟨ds, hchosen, hforce⟩ := exists_chosen own configured
  rw [hforce]
  refine ⟨ds, hchosen, fun d hd => mem_of_mem_ofDirectives hd, ?_⟩
  intro d hlast
  exact ⟨mem_dynamics_of_lastIn hlast, mem_statics_of_lastIn hlast⟩

/-- Of two levels for everything, and of two for one target, the later one is in force. -/
example : (inForce none "warn,app=trace,INFO,app=debug").render = "app=debug,info" := by
  decide +kernel

end LogFilter

end Rulebook
