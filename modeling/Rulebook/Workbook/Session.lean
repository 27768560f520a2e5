import Rulebook.Workbook.Meters
import Rulebook.Workbook.Snapshot

/-!
# Sessions

A `Session` is a workbook together with the file in which it is saved and the meters. `Session.step`
takes one action; an action that fails changes neither workbook nor file.
-/

set_option autoImplicit false

namespace Rulebook

/-- A workbook, its file and what was counted so far. -/
structure Session where
  workbook : Workbook
  file : Contents
  meters : Meters

/-- What can be done in a session. -/
inductive Action where
  | change (c : Change)
  | importText (text : String)
  | restoreText (text : String)
  | save
  | reopen
  | putFile (file : Contents)
deriving DecidableEq, Repr

/-- What an action gives back. -/
inductive Outcome where
  | effect (e : Effect)
  | saved (text : String)

/-- Rows that a JSON text lists. -/
def rowsOfText? (text : String) : Option (List Row) :=
  (Json.read? text).bind (Json.list? Row.ofJson?)

namespace Session

/-- A session with an empty workbook and no file. -/
def fresh : Session := ⟨.empty, .absent, .zero⟩

/-- Makes a change, or counts why it is refused. -/
def change (s : Session) (c : Change) : Except Fault Outcome × Session :=
  match s.workbook.amend c with
  | .ok (effect, amended) =>
      (.ok (.effect effect),
        { s with workbook := amended.refresh c, meters := s.meters.countChange c amended })
  | .error fault => (.error fault, { s with meters := s.meters.countRefusal c fault })

/-- Goes over to a workbook that has been assembled; where there is none, to an empty one, without
any pass. -/
def adopt (s : Session) : Except Fault (Option Workbook) → Except Fault Outcome × Session
  | .ok (some assembled) =>
      (.ok (.effect .done),
        { s with workbook := assembled.recompute, meters := s.meters.countRecompute assembled })
  | .ok none => (.ok (.effect .done), { s with workbook := .empty })
  | .error fault => (.error fault, s)

/-- Writes the snapshot into the file. -/
def save (s : Session) : Except Fault Outcome × Session :=
  match s.file with
  | .inaccessible => (.error .inaccessibleFile, s)
  | .absent | .text _ | .garbled =>
      let text := s.workbook.snapshot.render
      (.ok (.saved text), { s with file := .text text })

/-- Takes one action. -/
def step (s : Session) : Action → Except Fault Outcome × Session
  | .change c => s.change c
  | .importText text =>
      match rowsOfText? text with
      | some rows => s.change (.importRows rows)
      | none => (.error .unreadableJson, s)
  | .restoreText text => s.adopt ((Workbook.assembleText text).map some)
  | .save => s.save
  | .reopen => s.adopt (Workbook.assembleFile s.file)
  | .putFile file => (.ok (.effect .done), { s with file := file })

end Session

end Rulebook
