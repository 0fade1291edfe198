import Delegation.Toml.Value
import Delegation.Toml.Digits

/-!
# Numbers

Integers are written in four bases and fit into 64 bits with a sign.  Floats
have a fraction, an exponent or both.  Single underscores may separate digits,
and a decimal number of several digits does not start with a zero.
-/

namespace Delegation.Toml

/-- The digits after a first one, each of which an underscore may precede. -/
def moreDigits (accepts : Char → Bool) : Reader (List Char)
  | '_' :: digit :: rest =>
      if accepts digit then
        (moreDigits accepts rest).map fun (digits, rest) => (digit :: digits, rest)
      else none
  | letter :: rest =>
      if accepts letter then
        (moreDigits accepts rest).map fun (digits, rest) => (letter :: digits, rest)
      else some ([], letter :: rest)
  | [] => some ([], [])

def digits (accepts : Char → Bool) : Reader (List Char)
  | first :: rest =>
      if accepts first then
        (moreDigits accepts rest).map fun (digits, rest) => (first :: digits, rest)
      else none
  | [] => none

def integerValue? (value : Int) : Option Value :=
  if -Int.pow 2 63 ≤ value ∧ value < Int.pow 2 63 then some (.integer value) else none

def inBase (base : Nat) (accepts : Char → Bool) (input : List Char) :
    Option (Value × List Char) := do
  let (written, rest) ← digits accepts input
  some (← integerValue? (ofDigits base written), rest)

def signed : List Char → Bool × List Char
  | '-' :: rest => (true, rest)
  | '+' :: rest => (false, rest)
  | input => (false, input)

def wholeDigits : Reader (List Char)
  | '0' :: rest => some (['0'], rest)
  | input => digits Char.isDigit input

def fraction? : Reader (Option (List Char))
  | '.' :: rest => (digits Char.isDigit rest).map fun (written, rest) => (some written, rest)
  | input => some (none, input)

def exponent? : Reader (Option Int)
  | letter :: rest =>
      if letter = 'e' ∨ letter = 'E' then do
        let (negative, rest) := signed rest
        let (written, rest) ← digits Char.isDigit rest
        let size : Int := ofDigits 10 written
        some (some (if negative then -size else size), rest)
      else some (none, letter :: rest)
  | [] => some (none, [])

/-- A number beyond all doubles is refused if it is positive. -/
def floatValue? (negative : Bool) (coefficient : Nat) (exponent : Int) : Option Value :=
  let value := Binary64.ofDecimal negative coefficient exponent
  if value = .infinite false then none else some (.float value)

def decimal (negative : Bool) (input : List Char) : Option (Value × List Char) := do
  let (whole, rest) ← wholeDigits input
  let (fraction, rest) ← fraction? rest
  let (exponent, rest) ← exponent? rest
  if fraction.isNone && exponent.isNone then
    let size : Int := ofDigits 10 whole
    some (← integerValue? (if negative then -size else size), rest)
  else
    let places := fraction.getD []
    let value ← floatValue? negative (ofDigits 10 (whole ++ places))
      (exponent.getD 0 - places.length)
    some (value, rest)

def number : Reader Value
  | '0' :: 'x' :: rest => inBase 16 isHexDigit rest
  | '0' :: 'o' :: rest => inBase 8 isOctalDigit rest
  | '0' :: 'b' :: rest => inBase 2 isBinaryDigit rest
  | input =>
      match signed input with
      | (negative, 'i' :: 'n' :: 'f' :: rest) => some (.float (.infinite negative), rest)
      | (_, 'n' :: 'a' :: 'n' :: rest) => some (.float .undefined, rest)
      | (negative, rest) => decimal negative rest

end Delegation.Toml
