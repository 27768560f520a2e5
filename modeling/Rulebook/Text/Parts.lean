/-!
# Parts of a text

`partsAt` divides a text at every occurrence of a mark. There is always at least one part. A reader
of a part gives the part and the rest; `prepend` puts one more character in front of the part.

Positions in a text count the bytes of its encoding. `piece?` cuts out what lies between two
positions and `behind?` what lies behind one; neither cuts through a character. `piece?_append` says
that a part of a text is what lies between the positions of its ends.
-/

set_option autoImplicit false

namespace Rulebook.Text

/-! ## Parts between marks -/

/-- Puts a character in front of the part that was read. -/
def prepend (c : Char) (found : List Char × List Char) : List Char × List Char :=
  (c :: found.1, found.2)

/-- The parts between the marks. -/
def partsAt (mark : Char) : List Char → List (List Char)
  | [] => [[]]
  | c :: text =>
      if c = mark then [] :: partsAt mark text else (partsAt mark text).modifyHead (c :: ·)

/-- The parts of a string between the marks. -/
def stringPartsAt (mark : Char) (s : String) : List String :=
  (partsAt mark s.toList).map String.ofList

/-! ## Pieces by position -/

/-- How many bytes a text takes. -/
def width : List Char → Nat
  | [] => 0
  | c :: text => c.utf8Size + width text

/-- The text behind a position. -/
def behind? : Nat → List Char → Option (List Char)
  | 0, text => some text
  | _ + 1, [] => none
  | n + 1, c :: text =>
      if c.utf8Size ≤ n + 1 then behind? (n + 1 - c.utf8Size) text else none

/-- The text before a position. -/
def before? : Nat → List Char → Option (List Char)
  | 0, _ => some []
  | _ + 1, [] => none
  | n + 1, c :: text =>
      if c.utf8Size ≤ n + 1 then (before? (n + 1 - c.utf8Size) text).map (c :: ·) else none

/-- The text from one position to another. -/
def piece? (start stop : Nat) (text : List Char) : Option (List Char) := do
  before? (stop - start) (← behind? start text)

theorem width_cons (c : Char) (text : List Char) :
    width (c :: text) = c.utf8Size + width text := rfl

/-- Behind the width of a front lies the rest. -/
theorem behind?_append (front rest : List Char) :
    behind? (width front) (front ++ rest) = some rest := by
  induction front with
  | nil => cases rest <;> rfl
  | cons c front ih =>
      have hc := c.utf8Size_pos
      obtain ⟨n, hn⟩ : ∃ n, width (c :: front) = n + 1 :=
        ⟨width (c :: front) - 1, by rw [width_cons]; omega⟩
      have hle : c.utf8Size ≤ n + 1 := by rw [← hn, width_cons]; omega
      have hsub : n + 1 - c.utf8Size = width front := by rw [← hn, width_cons]; omega
      rw [hn, List.cons_append, behind?, if_pos hle, hsub]
      exact ih

/-- Before the width of a front lies the front. -/
theorem before?_append (front rest : List Char) :
    before? (width front) (front ++ rest) = some front := by
  induction front with
  | nil => cases rest <;> rfl
  | cons c front ih =>
      have hc := c.utf8Size_pos
      obtain ⟨n, hn⟩ : ∃ n, width (c :: front) = n + 1 :=
        ⟨width (c :: front) - 1, by rw [width_cons]; omega⟩
      have hle : c.utf8Size ≤ n + 1 := by rw [← hn, width_cons]; omega
      have hsub : n + 1 - c.utf8Size = width front := by rw [← hn, width_cons]; omega
      rw [hn, List.cons_append, before?, if_pos hle, hsub, ih]
      rfl

/-- A part of a text lies between the positions of its ends. -/
theorem piece?_append (front part rest : List Char) :
    piece? (width front) (width front + width part) (front ++ (part ++ rest)) = some part := by
  have hsub : width front + width part - width front = width part := by omega
  simp only [piece?, behind?_append, hsub, Option.bind_eq_bind, Option.bind_some]
  exact before?_append part rest

end Rulebook.Text
