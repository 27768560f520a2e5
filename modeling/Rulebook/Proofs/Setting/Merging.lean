import Rulebook.Proofs.Setting.Layers
import Mathlib.Data.List.Induction

/-!
# What assignments leave behind

Settings that come from assignments are tidy: the names in a table are different from each other
(`Setting.tidy_layered`). Laid over other settings, tidy ones therefore keep what they give
(`Setting.Tidy.outlineAt?_atop`). If every assignment leaves room at the end of a path, so do all of
them together (`leavesRoom_layered`).

For assignments from several sources, the last source that gives anything at the end of a path
decides (`outlineAt?_layered_flatten`), provided that it gives it as a whole and that the later ones
leave room for it (`Setting.isDecided`).
-/

set_option autoImplicit false

namespace Rulebook

namespace Setting

variable {name n : String} {path : List String} {es below : List (String × Setting)}
  {s place : Setting} {change : Setting → Setting}

/-! ## Different names -/

/-- Along a path, the names in each table are different from each other. -/
def Tidy : List String → Setting → Prop
  | [], _ => True
  | name :: path, s =>
      (s.entries.map Prod.fst).Nodup ∧ ∀ t, find? s.entries name = some t → Tidy path t

theorem tidy_of_entries_eq_nil (h : s.entries = []) (path : List String) : Tidy path s := by
  cases path with
  | nil => exact trivial
  | cons name path => exact ⟨by simp [h], fun t ht => by simp [h] at ht⟩

theorem tidy_update (h : Tidy (name :: path) s) (hchange : ∀ t, Tidy path t → Tidy path (change t)) :
    Tidy (name :: path) (update n change s) := by
  refine ⟨nodup_put h.1 n _, fun t ht => ?_⟩
  rw [update, entries_table] at ht
  by_cases hname : n = name
  · subst hname
    rw [find?_put_self] at ht
    obtain rfl := Option.some.inj ht
    apply hchange
    cases hfound : find? s.entries n with
    | none => exact tidy_of_entries_eq_nil rfl path
    | some t => exact h.2 t hfound
  · rw [find?_put_of_ne hname] at ht
    exact h.2 t ht

theorem tidy_atop (h : Tidy path place) (s : Setting) : Tidy path (atop place s) := by
  induction path generalizing place s with
  | nil => exact trivial
  | cons name path ih =>
      cases s with
      | table es =>
          rw [atop, table_atopEntries]
          refine List.foldlRecOn es _ (motive := Tidy (name :: path)) h fun s hs e _ => ?_
          exact tidy_update hs fun t ht => ih ht e.2
      | nil | text | whole | real | flag | list =>
          rw [atop]
          exact tidy_of_entries_eq_nil rfl _

theorem tidy_changeAt (h : Tidy path place) (s : Setting) (steps : List Step) :
    Tidy path (changeAt (fun below => atop below s) steps place) := by
  induction path generalizing place steps with
  | nil => exact trivial
  | cons name path ih =>
      cases steps with
      | nil => exact tidy_atop h s
      | cons step steps =>
          cases step with
          | name n => exact tidy_update h fun t ht => ih ht steps
          | index i => exact tidy_of_entries_eq_nil rfl _

theorem tidy_layered (path : List String) (source : List Assignment) :
    Tidy path (layered source) := by
  refine List.foldlRecOn source _ (motive := Tidy path) (tidy_of_entries_eq_nil rfl path) ?_
  exact fun s hs a _ => tidy_changeAt hs a.value a.path

/-- Of entries with different names, each is laid over what stands under its name. -/
theorem find?_atopEntries (h : (es.map Prod.fst).Nodup) (name : String) :
    find? (atopEntries below es) name =
      ((find? es name).map fun s => atop ((find? below name).getD .nil) s).or
        (find? below name) := by
  induction es generalizing below with
  | nil => simp [atopEntries]
  | cons e es ih =>
      obtain ⟨n, s⟩ := e
      rw [List.map_cons, List.nodup_cons] at h
      rw [atopEntries, ih h.2, find?_cons]
      by_cases hname : n = name
      · -- the name does not come again, so nothing else is laid over this entry
        subst hname
        rw [find?_eq_none_of_not_mem h.1, find?_put_self, if_pos rfl]
        rfl
      · rw [find?_put_of_ne hname, if_neg hname]

/-- Tidy settings laid over a place without a value are found again. -/
theorem Tidy.outlineAt?_atop_nil (h : Tidy path s) :
    outlineAt? path (atop .nil s) = outlineAt? path s := by
  induction path generalizing s with
  | nil => rw [outlineAt?_here, outlineAt?_here, outline_atop]
  | cons name path ih =>
      cases s with
      | table es =>
          have hnames : (es.map Prod.fst).Nodup := h.1
          rw [outlineAt?_cons, outlineAt?_cons, atop, entries_table, entries_table,
            find?_atopEntries hnames]
          cases hfound : find? es name with
          | none => rfl
          | some t => exact ih (h.2 t hfound)
      | nil | text | whole | real | flag | list => rfl

/-- Tidy settings laid over others give what they gave, or else what is below if there is room. -/
theorem Tidy.outlineAt?_atop (h : Tidy path s) (below : Setting) :
    outlineAt? path (atop below s) =
      (outlineAt? path s).or (if s.leavesRoom path then outlineAt? path below else none) := by
  rw [lays_atop path s below, h.outlineAt?_atop_nil]

/-! ## Room -/

theorem leavesRoom_table_iff : (Setting.table es).leavesRoom (name :: path) = true ↔
    ∀ e ∈ es, e.1 = name → e.2.leavesRoom path = true := by
  simp [leavesRoom, or_iff_not_imp_left]

/-- A place that is made for a table has room in it. -/
theorem leavesRoom_table_entries (h : s = .nil ∨ s.leavesRoom (name :: path) = true) :
    (Setting.table s.entries).leavesRoom (name :: path) = true := by
  obtain rfl | h := h
  · rfl
  · cases s with
    | table es => exact h
    | nil | text | whole | real | flag | list => cases h

theorem leavesRoom_update (hplace : place = .nil ∨ place.leavesRoom (name :: path) = true)
    (hchange : n = name →
      ∀ t, t = .nil ∨ t.leavesRoom path = true → (change t).leavesRoom path = true) :
    (update n change place).leavesRoom (name :: path) = true := by
  have hentries := leavesRoom_table_iff.1 (leavesRoom_table_entries hplace)
  refine leavesRoom_table_iff.2 fun e he hname => ?_
  obtain rfl | he := mem_put he
  · apply hchange hname
    cases hfound : find? place.entries n with
    | none => exact .inl rfl
    | some t => exact .inr (hentries _ (mem_of_find? hfound) hname)
  · exact hentries e he hname

theorem leavesRoom_atop (h : s.leavesRoom path = true)
    (hplace : place = .nil ∨ place.leavesRoom path = true) :
    (atop place s).leavesRoom path = true := by
  induction path generalizing place s with
  | nil => rfl
  | cons name path ih =>
      cases s with
      | table es =>
          rw [atop, table_atopEntries]
          refine List.foldlRecOn es _ (motive := fun t : Setting => t.leavesRoom (name :: path) = true)
            (leavesRoom_table_entries hplace) fun s hs e he => ?_
          exact leavesRoom_update (.inr hs) fun hname t ht =>
            ih (leavesRoom_table_iff.1 h e he hname) ht
      | nil | text | whole | real | flag | list => cases h

theorem leavesRoom_changeAt {steps : List Step} (h : s.leavesRoomAt path steps = true)
    (hplace : place = .nil ∨ place.leavesRoom path = true) :
    (changeAt (fun below => atop below s) steps place).leavesRoom path = true := by
  induction path generalizing place steps with
  | nil => rfl
  | cons name path ih =>
      cases steps with
      | nil => exact leavesRoom_atop h hplace
      | cons step steps =>
          cases step with
          | name n =>
              refine leavesRoom_update hplace fun hname t ht => ih ?_ ht
              simpa [leavesRoomAt, hname] using h
          | index i => cases h

theorem leavesRoom_foldl_assign {source : List Assignment}
    (h : source.all (Assignment.leavesRoom path) = true) (hs : s.leavesRoom path = true) :
    (source.foldl assign s).leavesRoom path = true := by
  refine List.foldlRecOn source _ (motive := fun t : Setting => t.leavesRoom path = true) hs ?_
  exact fun t ht a ha => leavesRoom_changeAt (List.all_eq_true.1 h a ha) (.inr ht)

/-! ## Several sources -/

/-- What the last source gives at the end of a path that gives anything there. -/
def lastGiven? (path : List String) (sources : List (List Assignment)) : Option Setting :=
  sources.reverse.findSome? fun source => follow? path (layered source)

/-- Of sources, the last one first: whether the first that gives anything at the end of a path
gives it as a whole, and those before it leave room for it. -/
def isDecided (path : List String) : List (List Assignment) → Bool
  | [] => true
  | source :: earlier =>
      source.all (Assignment.isWhole path) &&
        ((follow? path (layered source)).isSome ||
          source.all (Assignment.leavesRoom path) && isDecided path earlier)

variable {sources : List (List Assignment)} {source : List Assignment}

theorem lastGiven?_concat (path : List String) (sources : List (List Assignment))
    (source : List Assignment) : lastGiven? path (sources ++ [source]) =
      (follow? path (layered source)).or (lastGiven? path sources) := by
  rw [lastGiven?, List.reverse_concat, List.findSome?_cons, lastGiven?]
  cases follow? path (layered source) <;> rfl

/-- Only what each source gives at the end of the path matters. -/
theorem lastGiven?_congr {others : List (List Assignment)}
    (h : others.map (fun source => follow? path (layered source)) =
      sources.map fun source => follow? path (layered source)) :
    lastGiven? path others = lastGiven? path sources := by
  have hreverse := congrArg (fun given => given.reverse.findSome? id) h
  simpa only [← List.map_reverse, List.findSome?_map, Function.id_comp, lastGiven?] using hreverse

theorem layered_flatten_concat (sources : List (List Assignment)) (source : List Assignment) :
    layered (sources ++ [source]).flatten = source.foldl assign (layered sources.flatten) := by
  rw [layered, List.flatten_concat, List.foldl_append, layered]

/-- If no source gives anything at the end of a path, all of them leave room. -/
theorem leavesRoom_layered_flatten (h : isDecided (name :: path) sources.reverse = true)
    (hnone : lastGiven? (name :: path) sources = none) :
    (layered sources.flatten).leavesRoom (name :: path) = true := by
  -- the induction is on the last source, which is laid over what the others gave
  induction sources using List.reverseRecOn with
  | nil => rfl
  | append_singleton sources source ih =>
      rw [lastGiven?_concat, Option.or_eq_none_iff] at hnone
      rw [List.reverse_concat] at h
      simp only [isDecided, hnone.1, Option.isSome_none, Bool.false_or, Bool.and_eq_true] at h
      rw [layered_flatten_concat]
      exact leavesRoom_foldl_assign h.2.1 (ih h.2.2 hnone.2)

/-- The last source that gives anything at the end of a path decides. -/
theorem outlineAt?_layered_flatten (h : isDecided (name :: path) sources.reverse = true) :
    outlineAt? (name :: path) (layered sources.flatten) =
      (lastGiven? (name :: path) sources).map outline := by
  -- a source that gives something hides the others, one that gives nothing has room for them
  induction sources using List.reverseRecOn with
  | nil => rfl
  | append_singleton sources source ih =>
      rw [List.reverse_concat] at h
      simp only [isDecided, Bool.and_eq_true] at h
      obtain ⟨hwhole, hgiven⟩ := h
      have hlays := lays_assignments hwhole
      have hown : outlineAt? (name :: path) (source.foldl assign .nil) =
          outlineAt? (name :: path) (layered source) := by
        -- an empty table has as little at the end of a path as a place without a value
        have hempty := hlays (.table [])
        simpa [layered, outlineAt?_cons] using hempty.symm
      rw [layered_flatten_concat, hlays, hown, lastGiven?_concat, outlineAt?]
      cases hsource : follow? (name :: path) (layered source) with
      | some t => simp
      | none =>
          simp only [hsource, Option.isSome_none, Bool.false_or, Bool.and_eq_true] at hgiven
          simp [hgiven.1, ih hgiven.2]

/-! ## Above other settings -/

/-- A path leads through tables, either to its end or as far as it goes. -/
def Passable (path : List String) (s : Setting) : Prop :=
  (follow? path s).isSome = true ∨ s.leavesRoom path = true

theorem Passable.exists_table (h : Passable (name :: path) s) :
    ∃ es, s = .table es ∧ ∀ t, find? es name = some t → Passable path t := by
  cases s with
  | table es =>
      refine ⟨es, rfl, fun t ht => h.imp (fun hsome => ?_) fun hroom => ?_⟩
      · simpa [follow?, ht] using hsome
      · exact leavesRoom_table_iff.1 hroom _ (mem_of_find? ht) rfl
  | nil | text | whole | real | flag | list =>
      obtain h | h := h
      · simp [follow?, entries] at h
      · cases h

theorem Passable.isTable (h : Passable (name :: path) s) : ∃ es, s = .table es := by
  obtain ⟨es, rfl, -⟩ := h.exists_table
  exact ⟨es, rfl⟩

/-- Above other settings the last source that gives anything decides, and those settings do where
none does. -/
theorem outlineAt?_atop_layered (h : isDecided (name :: path) sources.reverse = true)
    (below : Setting) :
    outlineAt? (name :: path) (atop below (layered sources.flatten)) =
      ((lastGiven? (name :: path) sources).map outline).or
        (outlineAt? (name :: path) below) := by
  rw [(tidy_layered _ _).outlineAt?_atop, outlineAt?_layered_flatten h]
  cases hlast : lastGiven? (name :: path) sources with
  | some t => simp
  | none => rw [leavesRoom_layered_flatten h hlast, if_pos rfl]

theorem passable_atop_layered (h : isDecided (name :: path) sources.reverse = true)
    {below : Setting} (hbelow : below.leavesRoom (name :: path) = true) :
    Passable (name :: path) (atop below (layered sources.flatten)) := by
  cases hlast : lastGiven? (name :: path) sources with
  | some t =>
      left
      have houtline := outlineAt?_atop_layered h below
      rw [hlast, Option.map_some, Option.some_or] at houtline
      rw [← Option.isSome_map, ← outlineAt?, houtline, Option.isSome_some]
  | none => exact .inr (leavesRoom_atop (leavesRoom_layered_flatten h hlast) (.inr hbelow))

end Setting

end Rulebook
