/-!
# The system around a program

`Contents` is what is found at a path. `Host` is what a program needs of the system it runs on, in
whatever monad that lives.
-/

set_option autoImplicit false

namespace Rulebook

/-- What is found at a path: no file, a text, a file that holds no text, or something that cannot be
read and written as a file. -/
inductive Contents where
  | absent
  | text (s : String)
  | garbled
  | inaccessible
deriving DecidableEq, Repr

/-- Reading and writing of files, and a word to the user. Writing says whether it succeeded. -/
structure Host (m : Type → Type) where
  read : String → m Contents
  write : String → String → m Bool
  warn : String → m Unit

end Rulebook
