import Rulebook.Host.Folder
import Rulebook.Proofs.Host

/-!
# Folders keep what is written

What is written into a folder is found there under the same path (`Folder.read_of_write`), and
writing it once more changes nothing (`Folder.write_of_write`): the folders on the way are there
now, so the path leads to the same place. A folder is therefore a faithful host
(`Folder.faithful_host`).
-/

set_option autoImplicit false

namespace Rulebook

namespace Folder

/-- The names lead from a place to another one through folders that are there. -/
inductive Leads (f : Folder) : List String → List String → List String → Prop where
  | here {place : List String} : Leads f place [] place
  | idle {place names arrival : List String} {name : String} : isIdle name = true →
      Leads f place names arrival → Leads f place (name :: names) arrival
  | up {place names arrival : List String} : Leads f (around place) names arrival →
      Leads f place (".." :: names) arrival
  | down {place names arrival : List String} {name : String} : isIdle name = false →
      name ≠ ".." → isTooLong name = false → f.isFolder (place ++ [name]) = true →
      Leads f (place ++ [name]) names arrival → Leads f place (name :: names) arrival

variable {f g made : Folder} {place names arrival : List String} {path text : String}

theorem not_isIdle_up : isIdle ".." = false := by decide

/-! ## Walking -/

theorem Leads.walk (h : Leads f place names arrival) :
    f.walk place names = .arrived arrival := by
  induction h with
  | here => rfl
  | idle hidle _ ih => rw [Folder.walk, if_pos hidle, ih]
  | up _ ih => rw [Folder.walk, if_neg (by simp [not_isIdle_up]), if_pos rfl, ih]
  | down hidle hup hlong hfolder _ ih =>
      rw [Folder.walk, if_neg (by simp [hidle]), if_neg hup, if_neg (by simp [hlong]),
        if_pos hfolder, ih]

/-- A walk that arrives was led there by the names. -/
theorem leads_of_walk (h : f.walk place names = .arrived arrival) :
    Leads f place names arrival := by
  induction names generalizing place with
  | nil =>
      obtain rfl := Walk.arrived.inj h
      exact .here
  | cons name names ih =>
      rw [walk] at h
      split at h
      · rename_i hidle
        exact .idle hidle (ih h)
      · rename_i hidle
        split at h
        · rename_i hup
          subst hup
          exact .up (ih h)
        · rename_i hup
          split at h
          · cases h
          · rename_i hlong
            split at h
            · rename_i hfolder
              exact .down (by simpa using hidle) hup (by simpa using hlong) hfolder (ih h)
            · -- a file in the way and a missing folder both end the walk
              split at h
              · cases h
              · cases h

/-- Only folders matter on the way, not files. -/
theorem Leads.withFiles (h : Leads f place names arrival)
    (files : List (List String × Contents)) :
    Leads { f with files := files } place names arrival := by
  induction h with
  | here => exact .here
  | idle hidle _ ih => exact .idle hidle ih
  | up _ ih => exact .up ih
  | down hidle hup hlong hfolder _ ih => exact .down hidle hup hlong hfolder ih

/-- Where all folders are there, none is made. -/
theorem Leads.makeAlong (h : Leads f place names arrival) :
    f.makeAlong place names = some f := by
  induction h with
  | here => rfl
  | idle hidle _ ih => rw [Folder.makeAlong, if_pos hidle, ih]
  | up _ ih => rw [Folder.makeAlong, if_neg (by simp [not_isIdle_up]), if_pos rfl, ih]
  | down hidle hup hlong hfolder _ ih =>
      rw [Folder.makeAlong, if_neg (by simp [hidle]), if_neg hup, if_neg (by simp [hlong]),
        if_pos hfolder, ih]

/-! ## Putting files -/

theorem find?_put (place : List String) (contents : Contents)
    (files : List (List String × Contents)) :
    (put place contents files).find? (fun entry => entry.1 = place) = some (place, contents) := by
  induction files with
  | nil => simp [put]
  | cons entry files ih =>
      by_cases h : entry.1 = place
      · simp [put, h]
      · simp [put, h, ih]

theorem put_put (place : List String) (contents : Contents)
    (files : List (List String × Contents)) :
    put place contents (put place contents files) = put place contents files := by
  induction files with
  | nil => simp [put]
  | cons entry files ih =>
      by_cases h : entry.1 = place
      · simp [put, h]
      · simp [put, h, ih]

/-! ## Writing -/

/-- A path that can be that of a file. -/
structure IsFilePath (path : String) : Prop where
  followable : isFollowable path = true
  last_not_idle : isIdle (splitPath path).2 = false
  last_ne_up : (splitPath path).2 ≠ ".."
  last_not_too_long : isTooLong (splitPath path).2 = false

/-- There are folders all along a path, and in the last of them a file with the text. To put this
file there once more makes no difference. -/
structure Holds (f : Folder) (path text : String) : Prop where
  isFilePath : IsFilePath path
  arrives : ∃ arrival, Leads f (origin path) (splitPath path).1 arrival ∧
    f.isFolder (arrival ++ [(splitPath path).2]) = false ∧
    put (arrival ++ [(splitPath path).2]) (.text text) f.files = f.files

theorem holds_of_write (h : f.write path text = some g) : g.Holds path text := by
  rw [write] at h
  simp only at h
  split at h
  · cases h
  · rename_i hpath
    simp only [not_or, Bool.not_eq_true] at hpath
    obtain ⟨hfollowable, hidle, hup, hlong⟩ := hpath
    obtain ⟨made, -, hmade⟩ := Option.bind_eq_some_iff.1 h
    split at hmade
    · rename_i arrival hwalk
      split at hmade
      · cases hmade
      · rename_i hfolder
        obtain rfl := Option.some.inj hmade
        have hnew : made.isFolder (arrival ++ [(splitPath path).2]) = false := by
          simpa using hfolder
        exact ⟨⟨by simpa using hfollowable, hidle, hup, hlong⟩, arrival,
          (leads_of_walk hwalk).withFiles _, hnew, put_put _ _ _⟩
    · cases hmade

theorem Holds.read (h : f.Holds path text) : f.read path = .text text := by
  obtain ⟨hpath, arrival, hleads, hfolder, hput⟩ := h
  have hne : path ≠ "" := by
    rintro rfl
    have hidle := hpath.last_not_idle
    revert hidle
    decide
  have hfile : f.file? (arrival ++ [(splitPath path).2]) = some (.text text) := by
    rw [file?, ← hput, find?_put, Option.map_some]
  rw [Folder.read]
  simp only [hne, hpath.followable, hleads.walk, hpath.last_not_idle, hpath.last_ne_up,
    hpath.last_not_too_long, hfolder, hfile]
  rfl

theorem Holds.write (h : f.Holds path text) : f.write path text = some f := by
  obtain ⟨hpath, arrival, hleads, hfolder, hput⟩ := h
  rw [Folder.write]
  simp only [hpath.followable, hpath.last_not_idle, hpath.last_ne_up, hpath.last_not_too_long,
    hleads.makeAlong, Option.bind_eq_bind, Option.bind_some, hleads.walk, hfolder, hput]
  rfl

/-- What was written is found. -/
theorem read_of_write (h : f.write path text = some g) : g.read path = .text text :=
  (holds_of_write h).read

/-- To write the same once more changes nothing. -/
theorem write_of_write (h : f.write path text = some g) : g.write path text = some g :=
  (holds_of_write h).write

/-- A host that carries a folder along writes as the folder does. -/
theorem write_of_run (h : (host.write path text).run f = (true, g)) :
    f.write path text = some g := by
  cases hwrite : f.write path text with
  | none =>
      rw [host, StateT.run] at h
      simp only [hwrite] at h
      cases h
  | some next =>
      rw [host, StateT.run] at h
      simp only [hwrite] at h
      rw [(Prod.mk.inj h).2]

/-- A folder that is carried along is a faithful host. -/
theorem faithful_host : host.Faithful where
  read_keeps _ _ := rfl
  warn_keeps _ _ := rfl
  read_written _ _ _ _ h := read_of_write (write_of_run h)
  write_again _ _ _ _ h := by
    have hwrite := write_of_write (write_of_run h)
    rw [host, StateT.run]
    simp only [hwrite]

end Folder

end Rulebook
