import Rulebook.Text.Blank
import Mathlib.Data.List.DropRight
import Mathlib.Data.List.TakeWhile

/-!
# Trimmed texts

A text is `Bare` if there is no white space at either end of it. Trimming leaves exactly the bare
texts alone (`trim_eq_self_iff`) and gives nothing but bare texts (`bare_trim`), so a second
trimming changes nothing (`trim_trim`). White space around a text does not matter to `trim`, and
what stands before a character that is no white space does not matter to `trimEnd`.
-/

set_option autoImplicit false

namespace Rulebook.Text

/-- There is no white space at either end. -/
def Bare (text : List Char) : Prop :=
  (∀ c ∈ text.head?, isBlank c = false) ∧ ∀ c ∈ text.getLast?, isBlank c = false

theorem trimStart_eq_self_iff (text : List Char) :
    trimStart text = text ↔ ∀ c ∈ text.head?, isBlank c = false := by
  cases text with
  | nil => simp [trimStart]
  | cons c text =>
      simp only [trimStart, List.dropWhile_eq_self_iff, List.head?_cons, Option.mem_def,
        Option.some.injEq, forall_eq']
      simp

theorem trimEnd_eq_self_iff (text : List Char) :
    trimEnd text = text ↔ ∀ c ∈ text.getLast?, isBlank c = false := by
  change text.rdropWhile isBlank = text ↔ _
  rw [List.rdropWhile_eq_self_iff]
  constructor
  · intro h c hc
    have hne : text ≠ [] := by
      rintro rfl
      simp at hc
    rw [List.getLast?_eq_some_getLast hne, Option.mem_some_iff] at hc
    subst hc
    simpa using h hne
  · intro h hne
    simp [h _ (List.getLast?_eq_some_getLast hne)]

theorem trimStart_trimStart (text : List Char) : trimStart (trimStart text) = trimStart text :=
  List.dropWhile_idempotent isBlank text

theorem trimEnd_trimEnd (text : List Char) : trimEnd (trimEnd text) = trimEnd text :=
  List.rdropWhile_idempotent isBlank text

theorem trimEnd_isPrefix (text : List Char) : trimEnd text <+: text :=
  List.rdropWhile_prefix isBlank text

/-- Trimming at the end keeps the first character, unless nothing is left. -/
theorem head?_trimEnd {text : List Char} {c : Char} (h : c ∈ (trimEnd text).head?) :
    c ∈ text.head? := by
  obtain ⟨rest, hrest⟩ := trimEnd_isPrefix text
  rw [← hrest]
  simp [List.head?_append, Option.mem_def.1 h]

/-- What is trimmed has no white space at either end. -/
theorem bare_trim (text : List Char) : Bare (trim text) := by
  refine ⟨fun c hc => ?_, (trimEnd_eq_self_iff _).1 (trimEnd_trimEnd (trimStart text))⟩
  exact (trimStart_eq_self_iff _).1 (trimStart_trimStart text) c (head?_trimEnd hc)

/-- Trimming leaves a text alone exactly if there is no white space at either end. -/
theorem trim_eq_self_iff (text : List Char) : trim text = text ↔ Bare text := by
  constructor
  · intro h
    rw [← h]
    exact bare_trim text
  · rintro ⟨hhead, hlast⟩
    rw [trim, (trimStart_eq_self_iff text).2 hhead, (trimEnd_eq_self_iff text).2 hlast]

theorem trim_trim (text : List Char) : trim (trim text) = trim text :=
  (trim_eq_self_iff _).2 (bare_trim text)

/-- A text without white space has none at its ends. -/
theorem bare_of_no_blank {text : List Char} (h : ∀ c ∈ text, isBlank c = false) : Bare text :=
  ⟨fun c hc => h c (List.mem_of_head? hc), fun c hc => h c (List.mem_of_getLast? hc)⟩

theorem trimString_trimString (s : String) : trimString (trimString s) = trimString s := by
  simp [trimString, trim_trim]

theorem trim_toList {s : String} (h : trimString s = s) : trim s.toList = s.toList := by
  rw [← String.toList_ofList (l := trim s.toList)]
  exact congrArg String.toList h

/-! ## White space around a text -/

theorem trimStart_append {lead : List Char} (hlead : ∀ c ∈ lead, isBlank c = true)
    (text : List Char) : trimStart (lead ++ text) = trimStart text :=
  List.dropWhile_append_of_pos hlead

theorem trim_append {lead : List Char} (hlead : ∀ c ∈ lead, isBlank c = true)
    (text : List Char) : trim (lead ++ text) = trim text := by
  rw [trim, trimStart_append hlead, ← trim]

theorem trim_cons {c : Char} (h : isBlank c = true) (text : List Char) :
    trim (c :: text) = trim text :=
  trim_append (List.forall_mem_singleton.2 h) text

theorem trimEnd_eq_nil {text : List Char} (h : ∀ c ∈ text, isBlank c = true) :
    trimEnd text = [] :=
  List.rdropWhile_eq_nil_iff.2 h

/-- White space behind a text does not matter to what is trimmed at its end. -/
theorem trimEnd_append_blanks {blanks : List Char} (hblanks : ∀ c ∈ blanks, isBlank c = true)
    (text : List Char) : trimEnd (text ++ blanks) = trimEnd text := by
  rw [trimEnd, List.reverse_append, List.dropWhile_append_of_pos fun c hc =>
    hblanks c (List.mem_reverse.1 hc), trimEnd]

/-- Nothing but white space is trimmed away altogether. -/
theorem trim_eq_nil_iff {text : List Char} : trim text = [] ↔ ∀ c ∈ text, isBlank c = true := by
  change (trimStart text).rdropWhile isBlank = [] ↔ _
  have hsplit : text.takeWhile isBlank ++ trimStart text = text := List.takeWhile_append_dropWhile
  rw [List.rdropWhile_eq_nil_iff]
  constructor
  · intro h c hc
    rw [← hsplit] at hc
    exact (List.mem_append.1 hc).elim List.mem_takeWhile_imp (h c)
  · exact fun h c hc => h c ((List.dropWhile_sublist isBlank).mem hc)

theorem mem_of_mem_trim {text : List Char} {c : Char} (h : c ∈ trim text) : c ∈ text :=
  (List.dropWhile_sublist isBlank).mem ((trimEnd_isPrefix _).mem h)

/-- A text is what is trimmed, with white space on both sides. -/
theorem exists_trim_append (text : List Char) : ∃ lead trail, text = lead ++ (trim text ++ trail) ∧
    (∀ c ∈ lead, isBlank c = true) ∧ ∀ c ∈ trail, isBlank c = true := by
  have hstart : text.takeWhile isBlank ++ trimStart text = text := List.takeWhile_append_dropWhile
  have hend : trim text ++ (trimStart text).rtakeWhile isBlank = trimStart text :=
    List.rdropWhile_append_rtakeWhile
  refine ⟨text.takeWhile isBlank, (trimStart text).rtakeWhile isBlank, ?_,
    fun c hc => List.mem_takeWhile_imp hc, fun c hc => List.mem_rtakeWhile_imp hc⟩
  rw [hend, hstart]

/-- Only the part behind a character that is no white space is trimmed at the end. -/
theorem trimEnd_append {text : List Char} (hlast : ∀ c ∈ text.getLast?, isBlank c = false)
    (more : List Char) : trimEnd (text ++ more) = text ++ trimEnd more := by
  -- the induction is on the end, from which the white space is taken
  induction more using List.reverseRecOn with
  | nil => rw [List.append_nil, (trimEnd_eq_self_iff text).2 hlast, trimEnd_eq_nil (by simp),
      List.append_nil]
  | append_singleton more c ih =>
      change (text ++ (more ++ [c])).rdropWhile isBlank = text ++ (more ++ [c]).rdropWhile isBlank
      rw [← List.append_assoc, List.rdropWhile_concat, List.rdropWhile_concat]
      cases isBlank c with
      | true => exact ih
      | false => simp

end Rulebook.Text
