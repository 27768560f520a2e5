import Rulebook.Decimal.Literal

/-!
# Log levels

A `Level` says how much is logged. `Level.read?` knows levels by name and by number.
-/

set_option autoImplicit false

namespace Rulebook

open Text

/-- How much is logged. -/
inductive Level where
  | off
  | error
  | warn
  | info
  | debug
  | trace
deriving DecidableEq, Repr

namespace Level

/-- The name of a level. -/
def name : Level → String
  | off => "off"
  | error => "error"
  | warn => "warn"
  | info => "info"
  | debug => "debug"
  | trace => "trace"

/-- All levels, from nothing to everything. -/
def all : List Level := [off, error, warn, info, debug, trace]

/-- The level of a number or of a name in any case. No name at all is the level of errors. -/
def read? (text : List Char) : Option Level :=
  match Decimal.unsigned? text with
  | some n => all[n]?
  | none =>
      if text = [] then some error
      else all.find? fun level => level.name.toList = text.map foldAscii

end Level

end Rulebook
