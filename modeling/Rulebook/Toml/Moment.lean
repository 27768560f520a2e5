import Rulebook.Decimal
import Rulebook.Text.Word

/-!
# Dates and times in settings files

A `Moment` is a date, a time of day, or both with or without an offset. `Moment.read?` takes it from
a text, `Moment.render` shows it: with a capital `T` in between, and no more digits of a fraction
than are needed.
-/

set_option autoImplicit false

namespace Rulebook

namespace Toml

open Text Decimal

/-- A day of a month of a year. -/
structure Date where
  year : Nat
  month : Nat
  day : Nat
deriving DecidableEq, Repr

/-- A second of a minute, with a fraction if there is one. -/
structure Second where
  whole : Nat
  billionths : Option Nat
deriving DecidableEq, Repr

/-- A time of day, to the minute or to the second. -/
structure Time where
  hour : Nat
  minute : Nat
  second : Option Second
deriving DecidableEq, Repr

/-- How far a time of day is ahead of universal time: not at all, or by minutes. -/
inductive Offset where
  | universal
  | minutes (n : Int)
deriving DecidableEq, Repr

/-- A date, a time of day, or both. Only both together have an offset. -/
inductive Moment where
  | date (d : Date)
  | time (t : Time)
  | both (d : Date) (t : Time) (offset : Option Offset)
deriving DecidableEq, Repr

/-! ## Reading -/

/-- The number at the front of a text with as many digits as given, and the rest. -/
def takeNumber? (size : Nat) (text : List Char) : Option (Nat × List Char) :=
  let (digits, rest) := spanDigits text
  if digits.length = size then some (digitsValue digits, rest) else none

/-- A number of two digits that is not above a limit, and the rest. -/
def takePair? (limit : Nat) (text : List Char) : Option (Nat × List Char) := do
  let (n, rest) ← takeNumber? 2 text
  if n ≤ limit then some (n, rest) else none

/-- Every fourth year is a leap year, but of the full centuries only every fourth. -/
def isLeapYear (year : Nat) : Bool := year % 4 = 0 && (year % 100 ≠ 0 || year % 400 = 0)

/-- How many days a month has. -/
def daysIn (year month : Nat) : Nat :=
  if month = 2 then if isLeapYear year then 29 else 28
  else if [4, 6, 9, 11].contains month then 30
  else 31

/-- The date at the front of a text, and the rest. -/
def takeDate? (text : List Char) : Option (Date × List Char) := do
  match ← takeNumber? 4 text with
  | (year, '-' :: text) =>
      match ← takePair? 12 text with
      | (month, '-' :: text) =>
          let (day, rest) ← takePair? (daysIn year month) text
          if 1 ≤ month ∧ 1 ≤ day then some (⟨year, month, day⟩, rest) else none
      | _ => none
  | _ => none

/-- The fraction at the front of a text if there is one, in billionths, and the rest. Digits beyond
the ninth are passed over. -/
def takeFraction? : List Char → Option (Option Nat × List Char)
  | '.' :: text =>
      let (digits, rest) := spanDigits text
      if digits = [] then none
      else some (some (digitsValue ((digits ++ List.replicate 9 '0').take 9)), rest)
  | text => some (none, text)

/-- The seconds at the front of a text if there are any, and the rest. Only seconds have a
fraction. -/
def takeSecond? : List Char → Option (Option Second × List Char)
  | ':' :: text => do
      let (whole, text) ← takePair? 60 text
      let (billionths, rest) ← takeFraction? text
      return (some ⟨whole, billionths⟩, rest)
  | text => some (none, text)

/-- The time of day at the front of a text, and the rest. -/
def takeTime? (text : List Char) : Option (Time × List Char) := do
  match ← takePair? 23 text with
  | (hour, ':' :: text) =>
      let (minute, text) ← takePair? 59 text
      let (second, rest) ← takeSecond? text
      return (⟨hour, minute, second⟩, rest)
  | _ => none

/-- Hours and minutes of an offset. -/
def distance? (text : List Char) : Option Nat := do
  match ← takePair? 23 text with
  | (hours, ':' :: text) =>
      match ← takePair? 59 text with
      | (minutes, []) => some (60 * hours + minutes)
      | _ => none
  | _ => none

/-- The offset that a text is, if it is not empty. -/
def offset? : List Char → Option (Option Offset)
  | [] => some none
  | ['Z'] => some (some .universal)
  | ['z'] => some (some .universal)
  | '+' :: text => (distance? text).map fun n => some (.minutes n)
  | '-' :: text => (distance? text).map fun n => some (.minutes (-n))
  | _ => none

/-- Between a date and a time of day. -/
def isDivider (c : Char) : Bool := c = 'T' || c = 't' || c = ' '

namespace Moment

/-- The moment that a text is. -/
def read? (text : List Char) : Option Moment :=
  match takeDate? text with
  | some (d, []) => some (.date d)
  | some (d, c :: text) =>
      if isDivider c then do
        let (t, text) ← takeTime? text
        return .both d t (← offset? text)
      else none
  | none =>
      match takeTime? text with
      | some (t, []) => some (.time t)
      | _ => none

end Moment

/-! ## Showing -/

/-- A number with as many digits as given. -/
def padded (size n : Nat) : String :=
  let digits := numeral n
  String.ofList (List.replicate (size - digits.length) '0') ++ digits

/-- How a date is shown. -/
def Date.render (d : Date) : String :=
  padded 4 d.year ++ "-" ++ padded 2 d.month ++ "-" ++ padded 2 d.day

/-- How a fraction is shown: without zeros at its end, but with at least one digit. -/
def renderFraction (billionths : Nat) : String :=
  let digits := ((padded 9 billionths).toList.reverse.dropWhile (· = '0')).reverse
  "." ++ if digits = [] then "0" else String.ofList digits

/-- How a second is shown. -/
def Second.render (s : Second) : String :=
  ":" ++ padded 2 s.whole ++ s.billionths.elim "" renderFraction

/-- How a time of day is shown. -/
def Time.render (t : Time) : String :=
  padded 2 t.hour ++ ":" ++ padded 2 t.minute ++ t.second.elim "" Second.render

/-- How an offset is shown. -/
def Offset.render : Offset → String
  | .universal => "Z"
  | .minutes n =>
      (if n < 0 then "-" else "+") ++ padded 2 (n.natAbs / 60) ++ ":" ++ padded 2 (n.natAbs % 60)

/-- How a moment is shown. -/
def Moment.render : Moment → String
  | .date d => d.render
  | .time t => t.render
  | .both d t offset => d.render ++ "T" ++ t.render ++ offset.elim "" Offset.render

end Toml

end Rulebook
