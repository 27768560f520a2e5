import Rulebook.Host

/-!
# Hosts that can be relied on

Here a host is a set of actions on some state that holds all files. `Agrees` says that an action
gives the same in two states and leaves both as they are, which whole programs inherit from their
parts; with one state in both places, it says that the action changes nothing there. A host is
`Faithful` if looking at a file and saying a word change no file, and a text that was written is
found again and can be written again.
-/

set_option autoImplicit false

namespace Rulebook

variable {σ α β : Type} {st other : σ}

/-- In both states the action gives the same, and it leaves them as they are. -/
def Agrees (st other : σ) (x : StateM σ α) : Prop :=
  ∃ a, x.run st = (a, st) ∧ x.run other = (a, other)

namespace Agrees

theorem pure (a : α) : Agrees st other (Pure.pure a) := ⟨a, rfl, rfl⟩

theorem bind {x : StateM σ α} {f : α → StateM σ β} (hx : Agrees st other x)
    (hf : ∀ a, Agrees st other (f a)) : Agrees st other (x >>= f) := by
  obtain ⟨a, hst, hother⟩ := hx
  obtain ⟨b, hnext, hnextother⟩ := hf a
  refine ⟨b, ?_, ?_⟩
  · rw [StateT.run_bind, hst]
    exact hnext
  · rw [StateT.run_bind, hother]
    exact hnextother

theorem mapM {f : α → StateM σ β} {entries : List α} (hf : ∀ a ∈ entries, Agrees st other (f a)) :
    Agrees st other (entries.mapM f) := by
  induction entries with
  | nil => exact pure []
  | cons a entries ih =>
      obtain ⟨ha, hentries⟩ := List.forall_mem_cons.1 hf
      rw [List.mapM_cons]
      apply bind ha
      intro b
      exact bind (ih hentries) fun rest => pure (b :: rest)

end Agrees

/-- What is found at a path. -/
def Host.found (host : Host (StateM σ)) (path : String) (st : σ) : Contents :=
  ((host.read path).run st).1

/-- Looking at a file and saying a word change nothing. A text that was written is found at its
path, and it can be written there again. -/
structure Host.Faithful (host : Host (StateM σ)) : Prop where
  read_keeps : ∀ path st, ((host.read path).run st).2 = st
  warn_keeps : ∀ word st, ((host.warn word).run st).2 = st
  read_written : ∀ path text st after, (host.write path text).run st = (true, after) →
    host.found path after = .text text
  write_again : ∀ path text st after, (host.write path text).run st = (true, after) →
    ((host.write path text).run after).1 = true

namespace Host.Faithful

variable {host : Host (StateM σ)}

theorem run_read (hhost : host.Faithful) (path : String) (st : σ) :
    (host.read path).run st = (host.found path st, st) :=
  Prod.ext rfl (hhost.read_keeps path st)

theorem agrees_read (hhost : host.Faithful) {path : String}
    (hsame : host.found path other = host.found path st) : Agrees st other (host.read path) :=
  ⟨_, hhost.run_read path st, hsame ▸ hhost.run_read path other⟩

theorem agrees_warn (hhost : host.Faithful) (word : String) :
    Agrees st other (host.warn word) :=
  ⟨(), Prod.ext rfl (hhost.warn_keeps word st), Prod.ext rfl (hhost.warn_keeps word other)⟩

end Host.Faithful

end Rulebook
