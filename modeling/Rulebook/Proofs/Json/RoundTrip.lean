import Rulebook.Proofs.Json.Real

/-!
# Written values are read again

A value is `Nested` if containers are not nested too deep, whole numbers fit a word and no part is
unreadable. Compact and indented text are two of the ways of setting containers that the reader
takes, so each is read, and as the value that was written but for the doubles in it, which are read
as what their texts stand for (`reread`). If these are the doubles themselves, the value is
`Writable` and is read as it was written (`read?_compact`, `read?_pretty`).
-/

set_option autoImplicit false

namespace Rulebook

namespace Json

open Text

mutual

/-- What a written value is read as: each double in it as what its text stands for. -/
def reread : Json → Json
  | .null => .null
  | .bool value => .bool value
  | .integer n => .integer n
  | .real x => realValue x
  | .string s => .string s
  | .array items => .array (rereadItems items)
  | .object members => .object (rereadMembers members)
  | .unreadable => .null

/-- What written items are read as. -/
def rereadItems : List Json → List Json
  | [] => []
  | item :: items => reread item :: rereadItems items

/-- What written members are read as. -/
def rereadMembers : List (String × Json) → List (String × Json)
  | [] => []
  | (name, value) :: members => (name, reread value) :: rereadMembers members

end

theorem rereadItems_eq_map (items : List Json) : rereadItems items = items.map reread := by
  induction items with
  | nil => rfl
  | cons item items ih => rw [rereadItems, ih, List.map_cons]

theorem rereadMembers_eq_map (members : List (String × Json)) :
    rereadMembers members = members.map fun m => (m.1, reread m.2) := by
  induction members with
  | nil => rfl
  | cons m members ih => rw [rereadMembers, ih, List.map_cons]

/-- With `depth` containers around it, the value has a text that is read. -/
inductive Nested : Nat → Json → Prop where
  | null (depth : Nat) : Nested depth .null
  | bool (depth : Nat) (b : Bool) : Nested depth (.bool b)
  | integer (depth : Nat) {n : Int} (hn : FitsWord n) : Nested depth (.integer n)
  | real (depth : Nat) (x : Float) : Nested depth (.real x)
  | string (depth : Nat) (s : String) : Nested depth (.string s)
  | array {depth : Nat} {items : List Json} (hdepth : depth < maxDepth)
      (hitems : ∀ item ∈ items, Nested (depth + 1) item) : Nested depth (.array items)
  | object {depth : Nat} {members : List (String × Json)} (hdepth : depth < maxDepth)
      (hmembers : ∀ m ∈ members, Nested (depth + 1) m.2) : Nested depth (.object members)

/-- With `depth` containers around it, the value has a text that stands for it. -/
inductive Writable : Nat → Json → Prop where
  | null (depth : Nat) : Writable depth .null
  | bool (depth : Nat) (b : Bool) : Writable depth (.bool b)
  | integer (depth : Nat) {n : Int} (hn : FitsWord n) : Writable depth (.integer n)
  | real (depth : Nat) {x : Float} (hx : Literal (.real x) (realText x)) : Writable depth (.real x)
  | string (depth : Nat) (s : String) : Writable depth (.string s)
  | array {depth : Nat} {items : List Json} (hdepth : depth < maxDepth)
      (hitems : ∀ item ∈ items, Writable (depth + 1) item) : Writable depth (.array items)
  | object {depth : Nat} {members : List (String × Json)} (hdepth : depth < maxDepth)
      (hmembers : ∀ m ∈ members, Writable (depth + 1) m.2) : Writable depth (.object members)

/-- A value with a text that stands for it is read as it was written. -/
theorem Writable.nested_and_reread_eq {depth : Nat} {j : Json} (h : Writable depth j) :
    Nested depth j ∧ reread j = j := by
  induction h with
  | null depth => exact ⟨.null depth, rfl⟩
  | bool depth b => exact ⟨.bool depth b, rfl⟩
  | integer depth hn => exact ⟨.integer depth hn, rfl⟩
  | real depth hx => exact ⟨.real depth _, literal_realValue hx⟩
  | string depth s => exact ⟨.string depth s, rfl⟩
  | @array depth items hdepth hitems ih =>
      refine ⟨.array hdepth fun item hitem => (ih item hitem).1, ?_⟩
      have hmap : items.map reread = items.map id :=
        List.map_congr_left fun item hitem => (ih item hitem).2
      rw [reread, rereadItems_eq_map, hmap, List.map_id]
  | @object depth members hdepth hmembers ih =>
      refine ⟨.object hdepth fun m hm => (ih m hm).1, ?_⟩
      have hmap : (members.map fun m => (m.1, reread m.2)) = members.map id :=
        List.map_congr_left fun m hm => Prod.ext rfl (ih m hm).2
      rw [reread, rereadMembers_eq_map, hmap, List.map_id]

/-! ## The parts of a text -/

theorem compactItems_eq_map (items : List Json) : compactItems items = items.map compactChars := by
  induction items with
  | nil => rfl
  | cons item items ih => rw [compactItems, ih, List.map_cons]

theorem prettyItems_eq_map (level : Nat) (items : List Json) :
    prettyItems level items = items.map (prettyChars level) := by
  induction items with
  | nil => rfl
  | cons item items ih => rw [prettyItems, ih, List.map_cons]

theorem compactMembers_eq_map (members : List (String × Json)) :
    compactMembers members = members.map (memberText [] compactChars) := by
  induction members with
  | nil => rfl
  | cons m members ih => rw [compactMembers, ih, List.map_cons, memberText, List.nil_append]

theorem prettyMembers_eq_map (level : Nat) (members : List (String × Json)) :
    prettyMembers level members = members.map (memberText [' '] (prettyChars level)) := by
  induction members with
  | nil => rfl
  | cons m members ih => rw [prettyMembers, ih, List.map_cons, memberText, List.singleton_append]

theorem block_of_ne_nil (opening closing : Char) (level : Nat) {parts : List (List Char)}
    (hne : parts ≠ []) :
    block opening closing level parts =
      opening :: newLine (level + 1) ++ separated (',' :: newLine (level + 1)) parts
        ++ newLine level ++ [closing] := by
  obtain ⟨first, others, rfl⟩ := List.exists_cons_of_ne_nil hne
  rfl

/-! ## Whole values -/

namespace Nested

variable {depth : Nat} {j : Json}

/-- Compact text is read, wherever it stands. -/
theorem reads_compact (h : Nested depth j) : Reads depth (reread j) (compactChars j) := by
  -- on how the value is nested, since the induction over values knows nothing of their depth
  induction h with
  | null depth => exact reads_null
  | bool depth b => exact reads_bool b
  | integer depth hn => exact reads_literal (literal_plainWhole hn)
  | real depth x => exact reads_real x
  | string depth s => exact reads_string s
  | @array depth items hdepth hitems ih =>
      by_cases hne : items = []
      · subst hne
        exact reads_array_nil hdepth
      · have hread := reads_array hdepth blanks_nil blanks_nil blanks_nil hne ih
        simpa [reread, rereadItems_eq_map, compactChars, compactItems_eq_map] using hread
  | @object depth members hdepth hmembers ih =>
      by_cases hne : members = []
      · subst hne
        exact reads_object_nil hdepth
      · have hread := reads_object hdepth blanks_nil blanks_nil blanks_nil blanks_nil hne ih
        simpa [reread, rereadMembers_eq_map, compactChars, compactMembers_eq_map] using hread

/-- Indented text is read, wherever it stands and at every level. -/
theorem reads_pretty (h : Nested depth j) (level : Nat) :
    Reads depth (reread j) (prettyChars level j) := by
  induction h generalizing level with
  | null depth => exact reads_null
  | bool depth b => exact reads_bool b
  | integer depth hn => exact reads_literal (literal_plainWhole hn)
  | real depth x => exact reads_real x
  | string depth s => exact reads_string s
  | @array depth items hdepth hitems ih =>
      rw [reread, rereadItems_eq_map, prettyChars, prettyItems_eq_map]
      by_cases hne : items = []
      · subst hne
        exact reads_array_nil hdepth
      · rw [block_of_ne_nil _ _ _ (by simpa using hne)]
        exact reads_array hdepth (blanks_newLine _) (blanks_newLine _) (blanks_newLine _) hne
          fun item hitem => ih item hitem (level + 1)
  | @object depth members hdepth hmembers ih =>
      rw [reread, rereadMembers_eq_map, prettyChars, prettyMembers_eq_map]
      by_cases hne : members = []
      · subst hne
        exact reads_object_nil hdepth
      · have hblank : Blanks [' '] := by simp [Blanks, isGap]
        rw [block_of_ne_nil _ _ _ (by simpa using hne)]
        exact reads_object hdepth (blanks_newLine _) hblank (blanks_newLine _)
          (blanks_newLine _) hne fun m hm => ih m hm (level + 1)

end Nested

/-- A text that is read wherever it stands is read as a whole, with blanks behind it. -/
theorem Reads.readChars?_append {j : Json} {text trail : List Char} (h : Reads 0 j text)
    (htrail : Blanks trail) : readChars? (text ++ trail) = some j := by
  have hskip : skipGap (text ++ trail) = text ++ trail := by
    simpa using h.skipGap_eq blanks_nil trail
  have hends : EndsNumber trail := by
    simpa using endsNumber_append htrail endsNumber_nil
  have hscan := h.scan (2 * (text ++ trail).length + 1) trail
    (by rw [List.length_append]; omega) hends
  have hnothing : skipGap trail = [] := by
    rw [skipGap, ← List.append_nil trail, List.dropWhile_append_of_pos htrail, List.dropWhile_nil]
  rw [readChars?, hskip, hscan]
  simp [hnothing]

theorem Reads.readChars?_eq {j : Json} {text : List Char} (h : Reads 0 j text) :
    readChars? text = some j := by
  simpa using h.readChars?_append blanks_nil

/-- The text of a double is read as the double. -/
def ReadsBack (x : Float) : Prop := read? (String.ofList (realText x)) = some (.real x)

theorem readsBack_iff {x : Float} : ReadsBack x ↔ reread (.real x) = .real x := by
  have hread : readChars? (realText x) = some (reread (.real x)) := (reads_real x).readChars?_eq
  rw [ReadsBack, read?, String.toList_ofList, hread, Option.some.injEq]

instance (j : Json) (x : Float) : Decidable (j = .real x) :=
  match j with
  | .real y => decidable_of_iff (y = x) (by simp)
  | .null | .bool _ | .integer _ | .string _ | .array _ | .object _ | .unreadable =>
      isFalse (by simp)

instance (x : Float) : Decidable (ReadsBack x) := decidable_of_iff _ readsBack_iff.symm

/-- Compact and indented text are read as the same value, which is the one that was written but for
the doubles in it. -/
theorem Nested.read?_eq {j : Json} (h : Nested 0 j) :
    read? j.compact = some (reread j) ∧ read? j.pretty = some (reread j) := by
  constructor
  · rw [read?, compact, String.toList_ofList]
    exact h.reads_compact.readChars?_eq
  · rw [read?, pretty, String.toList_ofList]
    exact (h.reads_pretty 0).readChars?_eq

/-- Compact text is read as the value that was written. -/
theorem read?_compact {j : Json} (h : Writable 0 j) : read? j.compact = some j := by
  obtain ⟨hnested, hsame⟩ := h.nested_and_reread_eq
  rw [hnested.read?_eq.1, hsame]

/-- Indented text is read as the value that was written. -/
theorem read?_pretty {j : Json} (h : Writable 0 j) : read? j.pretty = some j := by
  obtain ⟨hnested, hsame⟩ := h.nested_and_reread_eq
  rw [hnested.read?_eq.2, hsame]

/-- Indented text with blanks behind it is read as the value that was written. -/
theorem read?_pretty_append {j : Json} (h : Writable 0 j) {trail : String}
    (htrail : Blanks trail.toList) : read? (j.pretty ++ trail) = some j := by
  obtain ⟨hnested, hsame⟩ := h.nested_and_reread_eq
  have hread := (hnested.reads_pretty 0).readChars?_append htrail
  rw [read?, pretty, String.toList_append, String.toList_ofList, hread, hsame]

/-! ## Lists and values that may be missing -/

section Kinds

variable {α : Type} {item? : Json → Option α} {write : α → Json}

/-- Values that are taken out one by one are taken out as a list. -/
theorem list?_map {xs : List α} (h : ∀ x ∈ xs, item? (write x) = some x) :
    list? item? (.array (xs.map write)) = some xs :=
  mapM_map_eq_some item? write h

/-- Whatever is taken out as a part of a list is taken out of one of its items. -/
theorem exists_of_mem_list? {j : Json} {xs : List α} (h : list? item? j = some xs) {x : α}
    (hx : x ∈ xs) : ∃ item, item? item = some x := by
  cases j with
  | array items =>
      have hmapped : items.mapM item? = some xs := h
      clear h
      induction items generalizing xs with
      | nil =>
          obtain rfl := Option.some.inj hmapped
          cases hx
      | cons item items ih =>
          rw [List.mapM_cons] at hmapped
          obtain ⟨first, hfirst, hmapped⟩ := Option.bind_eq_some_iff.1 hmapped
          obtain ⟨rest, hrest, hmapped⟩ := Option.bind_eq_some_iff.1 hmapped
          obtain rfl := Option.some.inj hmapped
          rcases List.mem_cons.1 hx with rfl | hx
          · exact ⟨item, hfirst⟩
          · exact ih hx hrest
  | _ => cases h

theorem list?_ofStrings (strings : List String) : list? string? (ofStrings strings) = some strings :=
  list?_map fun _ _ => rfl

/-- A text or null is read as what it stands for. -/
theorem nullable?_string (found : Option String) :
    nullable? string? (found.elim .null .string) = some found := by
  cases found with
  | none => rfl
  | some s => rfl

end Kinds

end Json

end Rulebook
