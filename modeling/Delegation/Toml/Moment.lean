import Delegation.Toml.Value
import Delegation.Toml.Digits

/-!
# Dates and times

A moment is a date, a time of day, or a date with a time and perhaps an
offset from universal time.
-/

namespace Delegation.Toml

def fixedNumber (count low high : Nat) (input : List Char) : Option (Nat × List Char) := do
  let (written, rest) ← fixedDigits count Char.isDigit input
  let value := ofDigits 10 written
  if low ≤ value ∧ value ≤ high then some (value, rest) else none

def isLeapYear (year : Nat) : Bool :=
  year % 4 == 0 && (year % 100 != 0 || year % 400 == 0)

def daysInMonth (year month : Nat) : Nat :=
  if month = 2 then (if isLeapYear year then 29 else 28)
  else if month = 4 ∨ month = 6 ∨ month = 9 ∨ month = 11 then 30
  else 31

def skipDate (input : List Char) : Option (List Char) := do
  let (year, rest) ← fixedNumber 4 0 9999 input
  let (month, rest) ← fixedNumber 2 1 12 (← after? '-' rest)
  let (_, rest) ← fixedNumber 2 1 (daysInMonth year month) (← after? '-' rest)
  some rest

/-- A point has to be followed by a digit to belong to the time. -/
def skipSecondFraction : List Char → List Char
  | '.' :: digit :: rest =>
      if digit.isDigit then rest.dropWhile Char.isDigit else '.' :: digit :: rest
  | input => input

def skipTime (input : List Char) : Option (List Char) := do
  let (_, rest) ← fixedNumber 2 0 23 input
  let (_, rest) ← fixedNumber 2 0 59 (← after? ':' rest)
  let (_, rest) ← fixedNumber 2 0 60 (← after? ':' rest)
  some (skipSecondFraction rest)

def skipOffset : List Char → Option (List Char)
  | [] => some []
  | letter :: rest =>
      if letter = 'Z' ∨ letter = 'z' then some rest
      else if letter = '+' ∨ letter = '-' then do
        let (_, rest) ← fixedNumber 2 0 23 rest
        let (_, rest) ← fixedNumber 2 0 59 (← after? ':' rest)
        some rest
      else some (letter :: rest)

/-- A letter or a space that no time follows does not belong to the date. -/
def skipTimeOfDate (input : List Char) : List Char :=
  match input with
  | mark :: rest =>
      if mark = 'T' ∨ mark = 't' ∨ mark = ' ' then
        ((skipTime rest).bind skipOffset).getD input
      else input
  | [] => []

def beginsDate (input : List Char) : Bool :=
  ((fixedNumber 4 0 9999 input).bind fun (_, rest) => after? '-' rest).isSome

def beginsTime (input : List Char) : Bool :=
  ((fixedNumber 2 0 99 input).bind fun (_, rest) => after? ':' rest).isSome

def moment (input : List Char) : Option (Value × List Char) := do
  let rest ←
    if beginsDate input then (skipDate input).map skipTimeOfDate else skipTime input
  some (.moment (String.ofList (input.take (input.length - rest.length))), rest)

end Delegation.Toml
