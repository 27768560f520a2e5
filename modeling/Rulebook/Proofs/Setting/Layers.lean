import Rulebook.Setting
import Mathlib.Data.List.Nodup

/-!
# What assignments give at a path

A setting is looked up along a path of names (`Setting.follow?`). Whatever an assignment gives there
counts, no matter what was there before. Where it gives nothing, what was there before stands, as
long as the assignment leaves room for it: it must not put anything but a table where the path leads
through (`Assignment.leavesRoom`). `Setting.Lays` says this of any change; it holds for one
assignment (`Assignment.lays`) and hence for assignments one after the other (`lays_assignments`).

Assignments to single items of a list do not fit in, since what they give depends on the list that
is there; `Assignment.isWhole` leaves them out. Two tables are not told apart here
(`Setting.outline`), since those of several assignments are merged.
-/

set_option autoImplicit false

namespace Rulebook

namespace Setting

variable {name other : String} {path : List String} {es : List (String × Setting)}

/-! ## Looking up -/

/-- The setting to which names lead through tables. -/
def follow? : List String → Setting → Option Setting
  | [], s => some s
  | name :: path, s => (find? s.entries name).bind (follow? path)

/-- A setting without the entries of a table. -/
def outline : Setting → Setting
  | .table _ => .table []
  | s => s

/-- What names lead to, without the entries of a table. -/
def outlineAt? (path : List String) (s : Setting) : Option Setting := (follow? path s).map outline

@[simp] theorem entries_table (es : List (String × Setting)) : (Setting.table es).entries = es :=
  rfl

theorem follow?_single (name : String) (s : Setting) : follow? [name] s = find? s.entries name := by
  simp [follow?]

theorem outlineAt?_here (s : Setting) : outlineAt? [] s = some s.outline := rfl

theorem outlineAt?_cons (name : String) (path : List String) (s : Setting) :
    outlineAt? (name :: path) s = (find? s.entries name).bind (outlineAt? path) := by
  rw [outlineAt?, follow?, Option.map_bind]
  rfl

@[simp] theorem outlineAt?_cons_nil (name : String) (path : List String) :
    outlineAt? (name :: path) .nil = none := rfl

@[simp] theorem outline_atop (below s : Setting) : (atop below s).outline = s.outline := by
  cases s <;> simp [atop, outline]

/-! ## Putting under a name -/

@[simp] theorem find?_nil (name : String) : find? [] name = none := rfl

theorem find?_cons (e : String × Setting) (es : List (String × Setting)) (name : String) :
    find? (e :: es) name = if e.1 = name then some e.2 else find? es name := by
  by_cases h : e.1 = name
  · simp [find?, h]
  · simp [find?, h]

theorem mem_of_find? {s : Setting} (h : find? es name = some s) : (name, s) ∈ es := by
  obtain ⟨⟨found, _⟩, hfind, rfl⟩ := Option.map_eq_some_iff.1 h
  have hname : found = name := by simpa using List.find?_some hfind
  exact hname ▸ List.mem_of_find?_eq_some hfind

theorem find?_eq_none_of_not_mem (h : name ∉ es.map Prod.fst) : find? es name = none := by
  rw [Option.eq_none_iff_forall_not_mem]
  intro s hs
  exact h (List.mem_map.2 ⟨_, mem_of_find? hs, rfl⟩)

theorem find?_put_self (name : String) (s : Setting) (es : List (String × Setting)) :
    find? (put name s es) name = some s := by
  induction es with
  | nil => simp [put, find?_cons]
  | cons e es ih =>
      by_cases h : e.1 = name
      · simp [put, h, find?_cons]
      · simp [put, h, find?_cons, ih]

theorem find?_put_of_ne (hne : name ≠ other) (s : Setting) (es : List (String × Setting)) :
    find? (put name s es) other = find? es other := by
  induction es with
  | nil => simp [put, find?_cons, hne]
  | cons e es ih =>
      by_cases h : e.1 = name
      · simp [put, h, find?_cons, hne]
      · simp [put, h, find?_cons, ih]

theorem mem_put {e : String × Setting} {s : Setting} (h : e ∈ put name s es) :
    e = (name, s) ∨ e ∈ es := by
  induction es with
  | nil => simpa [put] using h
  | cons first es ih =>
      by_cases hname : first.1 = name
      · rw [put, if_pos hname, List.mem_cons] at h
        exact h.imp_right fun hmem => List.mem_cons_of_mem _ hmem
      · rw [put, if_neg hname, List.mem_cons] at h
        obtain rfl | h := h
        · exact .inr List.mem_cons_self
        · exact (ih h).imp_right fun hmem => List.mem_cons_of_mem _ hmem

/-- The names stay different from each other. -/
theorem nodup_put (h : (es.map Prod.fst).Nodup) (name : String) (s : Setting) :
    ((put name s es).map Prod.fst).Nodup := by
  induction es with
  | nil => simp [put]
  | cons e es ih =>
      rw [List.map_cons, List.nodup_cons] at h
      by_cases hname : e.1 = name
      · rw [put, if_pos hname, List.map_cons, List.nodup_cons]
        exact ⟨hname ▸ h.1, h.2⟩
      · rw [put, if_neg hname, List.map_cons, List.nodup_cons]
        refine ⟨fun hmem => ?_, ih h.2⟩
        obtain ⟨found, hfound, heq⟩ := List.mem_map.1 hmem
        obtain rfl | hfound := mem_put hfound
        · exact hname heq.symm
        · exact h.1 (List.mem_map.2 ⟨found, hfound, heq⟩)

/-! ## Changes under a name -/

/-- A table with what stands under a name changed. What is missing counts as a place without a
value. -/
def update (name : String) (change : Setting → Setting) (s : Setting) : Setting :=
  .table (put name (change ((find? s.entries name).getD .nil)) s.entries)

theorem changeAt_name (change : Setting → Setting) (name : String) (steps : List Step) :
    changeAt change (.name name :: steps) = update name (changeAt change steps) := rfl

/-- Entries are laid over a table one name after the other. -/
theorem table_atopEntries (below : List (String × Setting)) (es : List (String × Setting)) :
    Setting.table (atopEntries below es) =
      es.foldl (fun s e => update e.1 (fun place => atop place e.2) s) (.table below) := by
  induction es generalizing below with
  | nil => rfl
  | cons e es ih =>
      rw [List.foldl_cons, update, entries_table, ← ih]
      rfl

theorem outlineAt?_update_self (name : String) (path : List String) (change : Setting → Setting)
    (s : Setting) : outlineAt? (name :: path) (update name change s) =
      outlineAt? path (change ((find? s.entries name).getD .nil)) := by
  rw [outlineAt?_cons, update, entries_table, find?_put_self, Option.bind_some]

theorem outlineAt?_update_of_ne (hne : name ≠ other) (path : List String)
    (change : Setting → Setting) (s : Setting) :
    outlineAt? (other :: path) (update name change s) = outlineAt? (other :: path) s := by
  rw [outlineAt?_cons, update, entries_table, find?_put_of_ne hne, outlineAt?_cons]

/-! ## Leaving room -/

/-- Whether a setting leaves room for what is below it at the end of a path: tables lie along the
path, as far as it goes. -/
def leavesRoom : List String → Setting → Bool
  | [], _ => true
  | name :: path, .table es => es.all fun e => e.1 ≠ name || leavesRoom path e.2
  | _ :: _, _ => false

/-- Whether a value at the end of steps leaves room for what is below it at the end of a path. -/
def leavesRoomAt (value : Setting) : List String → List Step → Bool
  | path, [] => value.leavesRoom path
  | [], _ :: _ => true
  | name :: path, .name n :: steps => n ≠ name || leavesRoomAt value path steps
  | _ :: _, .index _ :: _ => false

/-- Whether steps do not lead to an item of a list at the end of a path. -/
def isWholeAt : List String → List Step → Bool
  | [], .index _ :: _ => false
  | name :: path, .name n :: steps => n ≠ name || isWholeAt path steps
  | _, _ => true

end Setting

namespace Assignment

/-- Whether an assignment leaves room for what was there before at the end of a path. -/
def leavesRoom (path : List String) (a : Assignment) : Bool := a.value.leavesRoomAt path a.path

/-- Whether an assignment does not change single items of a list at the end of a path. -/
def isWhole (path : List String) (a : Assignment) : Bool := Setting.isWholeAt path a.path

end Assignment

namespace Setting

variable {α : Type} {name other : String} {path : List String} {change : Setting → Setting}
  {room : Bool}

/-! ## Laying over -/

/-- A change puts at the end of a path what it puts there by itself. If it puts nothing there, what
was there before stands if there is room for it. -/
def Lays (path : List String) (room : Bool) (change : Setting → Setting) : Prop :=
  ∀ s, outlineAt? path (change s) =
    (outlineAt? path (change .nil)).or (if room then outlineAt? path s else none)

/-- At the end of an empty path a change always puts something, which must not depend on what was
there. -/
theorem lays_here (h : ∀ s, (change s).outline = (change .nil).outline) :
    Lays [] room change := by
  intro s
  rw [outlineAt?_here, outlineAt?_here, h, Option.some_or]

theorem Lays.update (h : Lays path room change) :
    Lays (name :: path) room (update name change) := by
  intro s
  rw [outlineAt?_update_self, h, outlineAt?_update_self, outlineAt?_cons]
  cases find? s.entries name with
  | some below => rfl
  | none =>
      -- a missing place counts as one without a value, where a path that goes on finds nothing
      have hnil := h .nil
      simp only [entries, find?_nil, Option.getD_none, Option.bind_none, ite_self, Option.or_none]
      exact hnil.symm

theorem lays_update_of_ne (hne : name ≠ other) (change : Setting → Setting) :
    Lays (other :: path) true (Setting.update name change) := by
  intro s
  rw [outlineAt?_update_of_ne hne, outlineAt?_update_of_ne hne, outlineAt?_cons_nil,
    Option.none_or, if_pos rfl]

/-- Of two changes the later one counts, and what is to stand must have room in both. -/
theorem Lays.comp {first second : Setting → Setting} {firstRoom secondRoom : Bool}
    (hsecond : Lays (name :: path) secondRoom second) (hfirst : Lays (name :: path) firstRoom first) :
    Lays (name :: path) (firstRoom && secondRoom) fun s => second (first s) := by
  intro s
  show outlineAt? _ (second (first s)) = (outlineAt? _ (second (first .nil))).or _
  rw [hsecond (first s), hfirst s, hsecond (first .nil)]
  cases secondRoom with
  | false => simp
  | true => simp [Option.or_assoc]

/-- Changes one after the other leave room if each of them does. -/
theorem lays_foldl {step : Setting → α → Setting} {leaves : α → Bool} {changes : List α}
    (h : ∀ a ∈ changes, Lays (name :: path) (leaves a) fun s => step s a) :
    Lays (name :: path) (changes.all leaves) fun s => changes.foldl step s := by
  induction changes with
  | nil =>
      intro s
      simp
  | cons a changes ih =>
      obtain ⟨hfirst, hmore⟩ := List.forall_mem_cons.1 h
      exact (ih hmore).comp hfirst

/-- A table is laid over another one name by name. -/
theorem lays_atop_table {es : List (String × Setting)}
    (h : ∀ e ∈ es, Lays path (e.2.leavesRoom path) fun below => atop below e.2) :
    Lays (name :: path) ((Setting.table es).leavesRoom (name :: path))
      fun below => atop below (.table es) := by
  have hentries : Lays (name :: path) ((Setting.table es).leavesRoom (name :: path))
      fun s => es.foldl (fun s e => Setting.update e.1 (fun place => atop place e.2) s) s := by
    apply lays_foldl
    intro e he
    -- an entry under another name does not touch the path
    by_cases hname : e.1 = name
    · simpa [hname] using (h e he).update
    · simpa [hname] using lays_update_of_ne hname fun place => atop place e.2
  intro below
  show outlineAt? _ (.table (atopEntries below.entries es)) =
    (outlineAt? _ (.table (atopEntries [] es))).or _
  rw [table_atopEntries, table_atopEntries, hentries (.table below.entries), hentries (.table [])]
  simp [outlineAt?_cons]

/-- A setting is laid over another one. -/
theorem lays_atop (path : List String) (s : Setting) :
    Lays path (s.leavesRoom path) fun below => atop below s := by
  induction path generalizing s with
  | nil => exact lays_here fun below => by rw [outline_atop, outline_atop]
  | cons name path ih =>
      cases s with
      | table es => exact lays_atop_table fun e _ => ih e.2
      | nil | text | whole | real | flag | list =>
          intro below
          simp [atop, leavesRoom, outlineAt?_cons, entries]

/-- What is changed at the end of steps. -/
theorem lays_changeAt (path : List String) (steps : List Step) (s : Setting)
    (hwhole : isWholeAt path steps = true) :
    Lays path (s.leavesRoomAt path steps) (changeAt (fun below => atop below s) steps) := by
  induction path generalizing steps with
  | nil =>
      cases steps with
      | nil => exact lays_here fun below => by rw [changeAt, outline_atop, changeAt, outline_atop]
      | cons step steps =>
          cases step with
          | name n => exact lays_here fun _ => rfl
          | index i => cases hwhole
  | cons name path ih =>
      cases steps with
      | nil => exact lays_atop (name :: path) s
      | cons step steps =>
          cases step with
          | name n =>
              rw [changeAt_name]
              by_cases hname : n = name
              · subst hname
                simpa [leavesRoomAt] using (ih steps (by simpa [isWholeAt] using hwhole)).update
              · simpa [leavesRoomAt, hname] using lays_update_of_ne hname _
          | index i =>
              -- a list takes the place of whatever was there
              intro below
              simp [changeAt, leavesRoomAt, outlineAt?_cons, entries]

end Setting

section Assignments

open Setting

variable {name : String} {path : List String}

theorem Assignment.lays {a : Assignment} (h : a.isWhole path = true) :
    Lays path (a.leavesRoom path) fun s => s.assign a :=
  lays_changeAt path a.path a.value h

/-- The last assignment that gives something at a path counts. -/
theorem lays_assignments {source : List Assignment}
    (h : source.all (Assignment.isWhole (name :: path)) = true) :
    Lays (name :: path) (source.all (Assignment.leavesRoom (name :: path)))
      fun s => source.foldl assign s :=
  lays_foldl fun a ha => Assignment.lays (List.all_eq_true.1 h a ha)

end Assignments

end Rulebook
