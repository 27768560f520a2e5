import Rulebook.Fault
import Rulebook.Rule
import Rulebook.Text.Blank

/-!
# Rule sets

A `RuleSet` keeps its rules in slots and their priority as a separate order of slot numbers.
`RuleSet.ordered` lists the rules by priority. Slots stay packed: `RuleSet.delete` moves the later
rules down by one slot and renumbers the order. Names are trimmed and differ from each other, and no
text is blank; `RuleSet.accept` refuses what would break this.
-/

set_option autoImplicit false

namespace Rulebook

open Text

/-- Where a rule goes in the order. -/
inductive Direction where
  | up
  | down
deriving DecidableEq, Repr

namespace Direction

/-- The name of a direction. -/
def name : Direction → String
  | up => "up"
  | down => "down"

/-- The direction of a name. -/
def ofName? (s : String) : Option Direction := [up, down].find? fun d => d.name = s

end Direction

/-- Rules in slots with an order of the slots. -/
structure RuleSet where
  rules : List Rule
  order : List Nat

/-- Swaps the entry at a place with the next one. -/
def swapNext {α : Type} : Nat → List α → List α
  | 0, a :: b :: rest => b :: a :: rest
  | n + 1, a :: rest => a :: swapNext n rest
  | _, rest => rest

namespace RuleSet

/-- The set without rules. -/
def empty : RuleSet := ⟨[], []⟩

/-- The number of rules. -/
def size (set : RuleSet) : Nat := set.rules.length

/-- The rule in a slot. -/
def get? (set : RuleSet) (slot : Nat) : Option Rule := set.rules[slot]?

/-- The rules by priority. -/
def ordered (set : RuleSet) : List Rule := set.order.filterMap set.get?

/-- The place of a slot in the order. -/
def position? (set : RuleSet) (slot : Nat) : Option Nat := set.order.idxOf? slot

/-- What is stored of the rules, by slot. -/
def drafts (set : RuleSet) : List Draft := set.rules.map Rule.draft

/-- The rule of highest priority that applies to a row. -/
def firstMatch? (set : RuleSet) (row : Row) : Option Rule :=
  set.ordered.find? fun rule => rule.applies row

/-! ## Admission -/

/-- The trimmed name of a rule that may stand beside the rules given. An empty name is refused
before a name that is taken, and that before a blank text. -/
def accept (others : List Rule) (name text : String) : Except Rejection String :=
  let trimmed := trimString name
  if trimmed = "" then .error .emptyName
  else if others.any (fun rule => rule.name = trimmed) then .error (.duplicateName trimmed)
  else if trimString text = "" then .error .emptyText
  else .ok trimmed

/-- Puts a new rule into the last slot and at the end of the order. Gives its slot. -/
def add (set : RuleSet) (name text : String) : Except Rejection (Nat × RuleSet) := do
  let accepted ← accept set.rules name text
  return (set.size, ⟨set.rules ++ [Rule.make accepted text], set.order ++ [set.size]⟩)

/-- The rule in a slot that has to be there. -/
def require (set : RuleSet) (slot : Nat) : Except Fault Rule :=
  match set.get? slot with
  | some rule => .ok rule
  | none => .error (.ruleNotFound slot set.size)

/-- Puts another rule into a slot. Its name may be the one that the slot had. -/
def edit (set : RuleSet) (slot : Nat) (name text : String) : Except Fault RuleSet := do
  let _ ← set.require slot
  let accepted ← (accept (set.rules.eraseIdx slot) name text).mapError .rejected
  return ⟨set.rules.set slot (Rule.make accepted text), set.order⟩

/-! ## Deletion and order -/

/-- The order without a slot, the slots behind it renumbered. -/
def closeGap (slot : Nat) (order : List Nat) : List Nat :=
  (order.filter (· ≠ slot)).map fun i => if slot < i then i - 1 else i

/-- Takes a rule out. -/
def delete (set : RuleSet) (slot : Nat) : Except Fault (Rule × RuleSet) := do
  let rule ← set.require slot
  return (rule, ⟨set.rules.eraseIdx slot, closeGap slot set.order⟩)

/-- The order with a slot moved by one place; nothing if it is not there or already at that end. -/
def moved? (slot : Nat) (direction : Direction) (order : List Nat) : Option (List Nat) := do
  let place ← order.idxOf? slot
  match direction, place with
  | .up, 0 => none
  | .up, before + 1 => some (swapNext before order)
  | .down, place => if place + 1 < order.length then some (swapNext place order) else none

/-- Swaps a rule with its neighbour in the order, and says whether there was one. -/
def move (set : RuleSet) (slot : Nat) (direction : Direction) : Bool × RuleSet :=
  match moved? slot direction set.order with
  | some order => (true, ⟨set.rules, order⟩)
  | none => (false, set)

/-! ## Restoring -/

/-- The rules of stored drafts, each accepted beside those before it. -/
def acceptAll (rules : List Rule) : List Draft → Except Rejection (List Rule)
  | [] => .ok rules
  | draft :: drafts => do
      let accepted ← accept rules draft.name draft.text
      acceptAll (rules ++ [Rule.make accepted draft.text]) drafts

/-- Whether the slots of an order, behind those seen before, name one that is not there or one that
was seen. -/
def strays (size : Nat) (seen : List Nat) : List Nat → Bool
  | [] => false
  | slot :: rest => size ≤ slot || seen.contains slot || strays size (slot :: seen) rest

/-- Whether an order names a slot that is not there, or one twice. -/
def isStray (size : Nat) (order : List Nat) : Bool := strays size [] order

/-- The rule set of stored drafts and their order, which has to name every slot once. -/
def restore (drafts : List Draft) (order : List Nat) : Except Fault RuleSet := do
  let rules ← (acceptAll [] drafts).mapError .rejected
  if isStray rules.length order then .error (.strayOrder order rules.length)
  else if order.length ≠ rules.length then .error (.incompleteOrder order rules.length)
  else .ok ⟨rules, order⟩

end RuleSet

end Rulebook
